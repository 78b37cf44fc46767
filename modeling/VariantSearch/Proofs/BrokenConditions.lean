import Mathlib.Data.List.Basic
import VariantSearch.Variant.Check

/-!
The report on a variant lists each broken condition once and nothing else.
-/

namespace VariantSearch

section Repetition

variable {α : Type} {seen l : List α} {a b : α}

def IsFirstRepeated (l : List α) (a : α) : Prop :=
  ∃ before after, l = before ++ a :: after ∧ before.Nodup ∧ a ∈ before

theorem IsFirstRepeated.not_nodup (h : IsFirstRepeated l a) : ¬ l.Nodup := by
  obtain ⟨before, after, rfl, -, hmem⟩ := h
  intro hnodup
  exact (List.nodup_append.1 hnodup).2.2 a hmem a List.mem_cons_self rfl

def IsFresh (seen l : List α) : Prop := l.Nodup ∧ ∀ b ∈ l, b ∉ seen

theorem isFresh_cons_iff : IsFresh seen (b :: l) ↔ b ∉ seen ∧ IsFresh (b :: seen) l := by
  rw [IsFresh, IsFresh, List.nodup_cons, List.forall_mem_cons]
  simp only [List.mem_cons, not_or]
  constructor
  · rintro ⟨⟨hb, hnodup⟩, hunseen, hl⟩
    exact ⟨hunseen, hnodup, fun c hc => ⟨fun hcb => hb (hcb ▸ hc), hl c hc⟩⟩
  · rintro ⟨hunseen, hnodup, hl⟩
    exact ⟨⟨fun hb => (hl b hb).1 rfl, hnodup⟩, hunseen, fun c hc => (hl c hc).2⟩

variable [DecidableEq α]

theorem firstRepeated?_eq_none_iff : firstRepeated? seen l = none ↔ IsFresh seen l := by
  induction l generalizing seen with
  | nil => simp [firstRepeated?, IsFresh]
  | cons b rest ih =>
    rw [firstRepeated?, isFresh_cons_iff]
    by_cases hb : b ∈ seen
    · simp [hb]
    · simp [hb, ih]

/-- The scan stops at the first member that was seen before it started or on its way. -/
theorem firstRepeated?_eq_some_iff :
    firstRepeated? seen l = some a ↔
      ∃ before after, l = before ++ a :: after ∧ IsFresh seen before ∧ (a ∈ seen ∨ a ∈ before) := by
  induction l generalizing seen with
  | nil => simp [firstRepeated?]
  | cons b rest ih =>
    rw [firstRepeated?]
    by_cases hb : b ∈ seen
    · rw [if_pos hb, Option.some.injEq]
      constructor
      · rintro rfl
        exact ⟨[], rest, rfl, ⟨List.nodup_nil, List.forall_mem_nil _⟩, Or.inl hb⟩
      · rintro ⟨before, after, hl, hfresh, -⟩
        -- Nothing can come before the place, because the first member was seen.
        cases before with
        | nil => exact (List.cons.inj hl).1
        | cons c before =>
          obtain ⟨rfl, -⟩ := List.cons.inj hl
          exact absurd hb (isFresh_cons_iff.1 hfresh).1
    · rw [if_neg hb, ih]
      constructor
      · rintro ⟨before, after, rfl, hfresh, ha⟩
        refine ⟨b :: before, after, rfl, isFresh_cons_iff.2 ⟨hb, hfresh⟩, ?_⟩
        rwa [List.mem_cons, ← or_assoc, or_comm (a := a ∈ seen), ← List.mem_cons]
      · rintro ⟨before, after, hl, hfresh, ha⟩
        cases before with
        | nil =>
          obtain ⟨rfl, -⟩ := List.cons.inj hl
          exact absurd (ha.resolve_right List.not_mem_nil) hb
        | cons c before =>
          obtain ⟨rfl, rfl⟩ := List.cons.inj hl
          refine ⟨before, after, rfl, (isFresh_cons_iff.1 hfresh).2, ?_⟩
          rwa [List.mem_cons, or_comm (a := a = b), or_assoc, ← List.mem_cons]

end Repetition

structure Settings.FieldsSound (s : Settings) : Prop where
  searchable : s.searchable ≠ []
  ranking : s.ranking ≠ []
  maxTotalHits : 1 ≤ s.maxTotalHits
  maxFacetValues : 1 ≤ s.maxFacetValues

namespace Variant

structure Sound (v : Variant) : Prop where
  name : v.name ≠ ""
  indexUid : v.indexUid ≠ ""
  primaryKey : v.primaryKey ≠ ""
  fields : v.settings.FieldsSound
  thresholds : v.settings.typos.oneTypo ≤ v.settings.typos.twoTypos
  distinct : v.settings.ranking.Nodup

/-- A variant breaks a condition. A relation between fields of the settings counts as broken only if
the fields are sound, and a repeated rule only if the thresholds are in order. -/
def Breaks (v : Variant) : Violation → Prop
  | .emptyName => v.name = ""
  | .emptyIndexUid => v.indexUid = ""
  | .emptyPrimaryKey => v.primaryKey = ""
  | .noSearchableAttribute => v.settings.searchable = []
  | .noRankingRule => v.settings.ranking = []
  | .noHits => v.settings.maxTotalHits = 0
  | .noFacetValues => v.settings.maxFacetValues = 0
  | .typoThresholds one two =>
    v.settings.FieldsSound ∧ one = v.settings.typos.oneTypo ∧ two = v.settings.typos.twoTypos ∧
      two < one
  | .repeatedRule rule =>
    v.settings.FieldsSound ∧ v.settings.typos.oneTypo ≤ v.settings.typos.twoTypos ∧
      IsFirstRepeated v.settings.ranking rule

structure Lists (v : Variant) (listed : List Violation) : Prop where
  broken : ∀ x, x ∈ listed ↔ v.Breaks x
  once : (listed.map Violation.path).Nodup
  /-- When it tells of a relation between several fields of the settings. -/
  relation : "settings.__all__" ∈ listed.map Violation.path ↔
    v.settings.FieldsSound ∧
      (v.settings.typos.twoTypos < v.settings.typos.oneTypo ∨ ¬ v.settings.ranking.Nodup)

end Variant

namespace Settings

variable {s : Settings} {x : Violation}

theorem one_le_iff_ne_zero (n : UInt64) : 1 ≤ n ↔ n ≠ 0 := by
  rw [UInt64.le_iff_toNat_le, Ne, ← UInt64.toNat_inj]
  exact Nat.one_le_iff_ne_zero

theorem fieldViolations_eq_nil_iff : s.fieldViolations = [] ↔ s.FieldsSound := by
  constructor
  · intro h
    simp only [fieldViolations, List.append_eq_nil_iff, ite_eq_right_iff, reduceCtorEq,
      imp_false] at h
    obtain ⟨⟨⟨hsearchable, hranking⟩, hhits⟩, hvalues⟩ := h
    exact ⟨hsearchable, hranking, (one_le_iff_ne_zero _).2 hhits, (one_le_iff_ne_zero _).2 hvalues⟩
  · rintro ⟨hsearchable, hranking, hhits, hvalues⟩
    rw [one_le_iff_ne_zero] at hhits hvalues
    simp [fieldViolations, hsearchable, hranking, hhits, hvalues]

theorem relationViolation?_eq_none_iff :
    s.relationViolation? = none ↔ s.typos.oneTypo ≤ s.typos.twoTypos ∧ s.ranking.Nodup := by
  have hrules : firstRepeated? [] s.ranking = none ↔ s.ranking.Nodup := by
    simp [firstRepeated?_eq_none_iff, IsFresh]
  rw [relationViolation?]
  by_cases htypos : s.typos.twoTypos < s.typos.oneTypo
  · simp [htypos, UInt8.not_le.2 htypos]
  · simp [htypos, UInt8.not_lt.1 htypos, hrules]

/-- The relation that is told of: the thresholds if they are inverted, else the first repeated rule. -/
theorem relationViolation?_eq_some_iff :
    s.relationViolation? = some x ↔
      (s.typos.twoTypos < s.typos.oneTypo ∧ x = .typoThresholds s.typos.oneTypo s.typos.twoTypos) ∨
        (s.typos.oneTypo ≤ s.typos.twoTypos ∧
          ∃ rule, IsFirstRepeated s.ranking rule ∧ x = .repeatedRule rule) := by
  have hrules (rule : RankingRule) :
      firstRepeated? [] s.ranking = some rule ↔ IsFirstRepeated s.ranking rule := by
    simp [firstRepeated?_eq_some_iff, IsFresh, IsFirstRepeated]
  rw [relationViolation?]
  by_cases htypos : s.typos.twoTypos < s.typos.oneTypo
  · simp [htypos, UInt8.not_le.2 htypos, eq_comm]
  · rw [if_neg htypos, Option.map_eq_some_iff]
    simp [htypos, UInt8.not_lt.1 htypos, hrules, eq_comm]

/-- Broken relations are told of at a place that they share. -/
theorem path_of_relationViolation? (h : s.relationViolation? = some x) :
    x.path = "settings.__all__" := by
  rcases relationViolation?_eq_some_iff.1 h with ⟨-, rfl⟩ | ⟨-, rule, -, rfl⟩
  · rfl
  · rfl

theorem mem_violations_iff :
    x ∈ s.violations ↔
      x ∈ s.fieldViolations ∨ (s.FieldsSound ∧ s.relationViolation? = some x) := by
  rw [violations]
  by_cases h : s.fieldViolations = []
  · have hsound := fieldViolations_eq_nil_iff.1 h
    simp [h, hsound]
  · have hsound : ¬ s.FieldsSound := fun hs => h (fieldViolations_eq_nil_iff.2 hs)
    simp [h, hsound]

theorem violations_eq_nil_iff :
    s.violations = [] ↔
      s.FieldsSound ∧ s.typos.oneTypo ≤ s.typos.twoTypos ∧ s.ranking.Nodup := by
  rw [violations]
  by_cases h : s.fieldViolations = []
  · have hsound := fieldViolations_eq_nil_iff.1 h
    simp [h, hsound, relationViolation?_eq_none_iff]
  · have hsound : ¬ s.FieldsSound := fun hs => h (fieldViolations_eq_nil_iff.2 hs)
    simp [h, hsound]

end Settings

namespace Variant

variable {v : Variant}

theorem violations_eq_nil_iff : v.violations = [] ↔ v.Sound := by
  simp only [violations, List.append_eq_nil_iff, ite_eq_right_iff, reduceCtorEq, imp_false,
    Settings.violations_eq_nil_iff]
  constructor
  · rintro ⟨⟨⟨hname, huid⟩, hkey⟩, hfields, hthresholds, hdistinct⟩
    exact ⟨hname, huid, hkey, hfields, hthresholds, hdistinct⟩
  · rintro ⟨hname, huid, hkey, hfields, hthresholds, hdistinct⟩
    exact ⟨⟨⟨hname, huid⟩, hkey⟩, hfields, hthresholds, hdistinct⟩

theorem mem_violations_iff {x : Violation} : x ∈ v.violations ↔ v.Breaks x := by
  have hsettings := Settings.mem_violations_iff (s := v.settings) (x := x)
  rw [Settings.relationViolation?_eq_some_iff] at hsettings
  simp only [violations, List.mem_append, hsettings]
  cases x with
  | typoThresholds one two => simp [Settings.fieldViolations, Breaks]; grind
  | repeatedRule rule => simp [Settings.fieldViolations, Breaks]
  | _ => simp [Settings.fieldViolations, Breaks]

theorem path_of_ite {p : Prop} [Decidable p] (x : Violation) :
    ((if p then [x] else []).map Violation.path).Sublist [x.path] := by
  split
  · exact List.Sublist.refl _
  · exact List.nil_sublist _

def settingsPlaces : List String :=
  ["settings.searchable_attributes"] ++ ["settings.ranking_rules"] ++
    ["settings.pagination.max_total_hits"] ++ ["settings.faceting.max_values_per_facet"]

theorem path_settings (s : Settings) :
    (s.violations.map Violation.path).Sublist (settingsPlaces ++ ["settings.__all__"]) := by
  rw [Settings.violations]
  split
  · apply List.Sublist.trans _ (List.sublist_append_right _ _)
    cases h : s.relationViolation? with
    | none => exact List.nil_sublist _
    | some x =>
      rw [Option.toList_some, List.map_singleton, Settings.path_of_relationViolation? h]
  · apply List.Sublist.trans _ (List.sublist_append_left _ _)
    rw [Settings.fieldViolations, List.map_append, List.map_append, List.map_append]
    apply List.Sublist.append
    · apply List.Sublist.append
      · exact (path_of_ite _).append (path_of_ite _)
      · exact path_of_ite _
    · exact path_of_ite _

/-- No two violations are found at one place. -/
theorem nodup_path_violations (v : Variant) : (v.violations.map Violation.path).Nodup := by
  have hplaces : (["name"] ++ ["index_uid"] ++ ["primary_key"] ++
      (settingsPlaces ++ ["settings.__all__"])).Nodup := by decide
  refine List.Nodup.sublist ?_ hplaces
  rw [violations, List.map_append, List.map_append, List.map_append]
  apply List.Sublist.append
  · apply List.Sublist.append
    · exact (path_of_ite _).append (path_of_ite _)
    · exact path_of_ite _
  · exact path_settings v.settings

/-- Something is told of at the shared place just if a relation is broken and the fields are sound. -/
theorem relation_mem_path_violations_iff :
    "settings.__all__" ∈ v.violations.map Violation.path ↔
      v.settings.FieldsSound ∧
        (v.settings.typos.twoTypos < v.settings.typos.oneTypo ∨ ¬ v.settings.ranking.Nodup) := by
  rw [List.mem_map]
  constructor
  · rintro ⟨x, hx, hpath⟩
    rw [mem_violations_iff] at hx
    -- Only two violations are told at this place.
    cases x with
    | typoThresholds one two =>
      obtain ⟨hsound, rfl, rfl, hlt⟩ := hx
      exact ⟨hsound, Or.inl hlt⟩
    | repeatedRule rule =>
      obtain ⟨hsound, -, hrepeated⟩ := hx
      exact ⟨hsound, Or.inr hrepeated.not_nodup⟩
    | _ => exact absurd hpath (by decide)
  · rintro ⟨hsound, hbroken⟩
    have hne : v.settings.relationViolation? ≠ none := by
      rwa [Ne, Settings.relationViolation?_eq_none_iff, not_and_or, UInt8.not_le]
    -- One relation at least is broken, and the first that is broken is told.
    obtain ⟨x, hx⟩ := Option.ne_none_iff_exists'.1 hne
    have hmem : x ∈ v.settings.violations := Settings.mem_violations_iff.2 (Or.inr ⟨hsound, hx⟩)
    exact ⟨x, List.mem_append_right _ hmem, Settings.path_of_relationViolation? hx⟩

def listed (v : Variant) : List Violation :=
  v.violations.mergeSort fun x y => decide (x.message ≤ y.message)

theorem perm_listed (v : Variant) : v.listed.Perm v.violations := List.mergeSort_perm _ _

theorem report_eq (v : Variant) :
    v.report v.violations = v.name ++ ": " ++ "\n".intercalate (v.listed.map Violation.message) := by
  have hsort : v.listed.map Violation.message =
      (v.violations.map Violation.message).mergeSort fun a b => decide (a ≤ b) :=
    List.map_mergeSort fun _ _ _ _ => rfl
  rw [report, hsort]

theorem lists_listed (v : Variant) : v.Lists v.listed := by
  have hperm := v.perm_listed
  have hpaths := hperm.map Violation.path
  refine ⟨fun x => ?_, ?_, ?_⟩
  · rw [hperm.mem_iff, mem_violations_iff]
  · exact hpaths.nodup_iff.2 v.nodup_path_violations
  · rw [hpaths.mem_iff, relation_mem_path_violations_iff]

theorem check_of_sound (h : v.Sound) : v.check = .ok () := by
  rw [check, violations_eq_nil_iff.2 h]

theorem check_of_not_sound (h : ¬ v.Sound) :
    v.check = .error (.invalidConfiguration
      (v.name ++ ": " ++ "\n".intercalate (v.listed.map Violation.message))) := by
  rw [check]
  split
  · next hnone => exact absurd (violations_eq_nil_iff.1 hnone) h
  · rw [report_eq]

/-- The check succeeds just if every condition is met. Otherwise it fails, and the report is the name
of the variant and a list of the broken conditions, each of them once and nothing else. -/
theorem check_lists_broken (v : Variant) :
    (v.check = .ok () ↔ v.Sound) ∧
      (¬ v.Sound → ∃ listed, v.Lists listed ∧
        v.check = .error (.invalidConfiguration
          (v.name ++ ": " ++ "\n".intercalate (listed.map Violation.message)))) := by
  constructor
  · constructor
    · intro hok
      by_contra hsound
      rw [check_of_not_sound hsound] at hok
      cases hok
    · exact check_of_sound
  · intro hsound
    exact ⟨v.listed, v.lists_listed, check_of_not_sound hsound⟩

def unnamed : Variant where
  name := ""
  indexUid := "idx"
  primaryKey := ""
  settings := { Settings.standard with
    typos := ⟨true, 4, 4, ∅⟩
    ranking := [.builtin .words, .byAttribute "weight" .descending, .byAttribute "weight" .ascending,
      .byAttribute "weight" .descending, .builtin .words] }

theorem check_lists_broken_for_unnamed :
    ¬ unnamed.Sound ∧
      (∃ listed, unnamed.Lists listed ∧ unnamed.check = .error (.invalidConfiguration
        (unnamed.name ++ ": " ++ "\n".intercalate (listed.map Violation.message)))) ∧
      unnamed.Breaks (.repeatedRule (.byAttribute "weight" .descending)) ∧
      ¬ unnamed.Breaks (.repeatedRule (.builtin .words)) := by
  have hsound : ¬ unnamed.Sound := fun h => h.name rfl
  have hlists := (check_lists_broken unnamed).2 hsound
  refine ⟨hsound, hlists, ?_, ?_⟩
  · rw [← mem_violations_iff]
    decide
  · rw [← mem_violations_iff]
    decide

end Variant

end VariantSearch

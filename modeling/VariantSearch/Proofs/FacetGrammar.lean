import VariantSearch.Facet
import VariantSearch.Proofs.Trimming

/-!
The grammar of facet filters: blanks, a field, a colon and a value.
-/

namespace VariantSearch.Facet

open Text

def InName (c : Char) : Prop :=
  ('A' ≤ c ∧ c ≤ 'Z') ∨ ('a' ≤ c ∧ c ≤ 'z') ∨ ('0' ≤ c ∧ c ≤ '9') ∨ c = '_' ∨ c = '.' ∨ c = '-'

instance (c : Char) : Decidable (InName c) :=
  inferInstanceAs (Decidable (('A' ≤ c ∧ c ≤ 'Z') ∨ ('a' ≤ c ∧ c ≤ 'z') ∨ ('0' ≤ c ∧ c ≤ '9') ∨
    c = '_' ∨ c = '.' ∨ c = '-'))

/-- A facet that a segment can say. -/
structure IsSound (f : Facet) : Prop where
  field_ne : f.field ≠ ""
  field_chars : ∀ c ∈ f.field.toList, InName c
  value_ne : f.value ≠ ""
  value_trimmed : IsTrimmed f.value.toList

structure IsWritten (segment : List Char) (f : Facet) : Prop extends IsSound f where
  form : ∃ w₁ w₂ w₃ w₄, Blank w₁ ∧ Blank w₂ ∧ Blank w₃ ∧ Blank w₄ ∧
    segment = w₁ ++ f.field.toList ++ w₂ ++ ':' :: (w₃ ++ f.value.toList ++ w₄)

/-- The facets of a list of segments: each segment that says one facet and no other gives it, and each
that says none is passed over. -/
inductive Listed : List (List Char) → List Facet → Prop where
  | nil : Listed [] []
  | facet {segment : List Char} {segments : List (List Char)} {f : Facet} {facets : List Facet}
      (h : IsWritten segment f) (honly : ∀ g, IsWritten segment g → g = f)
      (hmore : Listed segments facets) : Listed (segment :: segments) (f :: facets)
  | dropped {segment : List Char} {segments : List (List Char)} {facets : List Facet}
      (h : ∀ f, ¬ IsWritten segment f) (hmore : Listed segments facets) :
      Listed (segment :: segments) facets

theorem isNameChar_iff {c : Char} : isNameChar c = true ↔ InName c := by
  have hbetween (low high : Char) :
      (decide (c.val ≥ low.val) && decide (c.val ≤ high.val)) = true ↔ low ≤ c ∧ c ≤ high := by
    rw [Bool.and_eq_true, decide_eq_true_iff, decide_eq_true_iff]
    rfl
  have hupper : c.isUpper = true ↔ 'A' ≤ c ∧ c ≤ 'Z' := decide_eq_true_iff
  have hlower : c.isLower = true ↔ 'a' ≤ c ∧ c ≤ 'z' := hbetween 'a' 'z'
  have hdigit : c.isDigit = true ↔ '0' ≤ c ∧ c ≤ '9' := hbetween '0' '9'
  have hcases : c.isAlphanum = ((c.isUpper || c.isLower) || c.isDigit) := rfl
  simp only [isNameChar, InName, hcases, Bool.or_eq_true, hupper, hlower, hdigit, beq_iff_eq, or_assoc]

theorem isBlank_eq_false {c : Char} (hlow : 0x20 < c.toNat) (hhigh : c.toNat < 0x85) :
    isBlank c = false := by
  have h1 : ¬ c.toNat < 0x9 := by omega
  have h2 : ¬ c.toNat ≤ 0xD := by omega
  have h3 : ¬ c.toNat < 0x20 := by omega
  have h4 : ¬ c.toNat ≤ 0x20 := by omega
  simp only [isBlank, blankRanges, inRanges, h1, h2, h3, h4, hhigh, if_true, if_false]

theorem InName.bounds {c : Char} (h : InName c) : 0x20 < c.toNat ∧ c.toNat < 0x85 := by
  rcases h with ⟨hlow, hhigh⟩ | ⟨hlow, hhigh⟩ | ⟨hlow, hhigh⟩ | rfl | rfl | rfl
  · exact ⟨Nat.lt_of_lt_of_le (by decide) hlow, Nat.lt_of_le_of_lt hhigh (by decide)⟩
  · exact ⟨Nat.lt_of_lt_of_le (by decide) hlow, Nat.lt_of_le_of_lt hhigh (by decide)⟩
  · exact ⟨Nat.lt_of_lt_of_le (by decide) hlow, Nat.lt_of_le_of_lt hhigh (by decide)⟩
  · decide
  · decide
  · decide

theorem InName.not_isBlank {c : Char} (h : InName c) : isBlank c = false :=
  isBlank_eq_false h.bounds.1 h.bounds.2

namespace IsSound

variable {f : Facet} (h : IsSound f)
include h

theorem colon_not_mem : ':' ∉ f.field.toList := by
  intro hmem
  exact absurd (h.field_chars ':' hmem) (by decide)

theorem field_trimmed : IsTrimmed f.field.toList := by
  constructor
  · intro c hc
    exact (h.field_chars c (List.mem_of_mem_head? hc)).not_isBlank
  · intro c hc
    exact (h.field_chars c (List.mem_of_mem_getLast? hc)).not_isBlank

theorem isName_field : isName f.field.toList = true := by
  have hne : f.field.toList.isEmpty = false := by
    rw [List.isEmpty_eq_false_iff]
    exact fun hnil => h.field_ne (String.toList_eq_nil_iff.1 hnil)
  have hall : f.field.toList.all isNameChar = true := by
    rw [List.all_eq_true]
    exact fun c hc => isNameChar_iff.2 (h.field_chars c hc)
  rw [isName, hne, hall]
  rfl

theorem value_toList_ne : f.value.toList.isEmpty = false := by
  rw [List.isEmpty_eq_false_iff]
  exact fun hnil => h.value_ne (String.toList_eq_nil_iff.1 hnil)

end IsSound

def ofParts? (parts : List Char × List Char) : Option Facet :=
  if isName parts.1 && !parts.2.isEmpty then some ⟨String.ofList parts.1, String.ofList parts.2⟩
  else none

/-- Trimming the whole segment first makes no difference. -/
theorem ofSegment?_eq (segment : List Char) :
    ofSegment? segment = ((cutFirst? ':' segment).map (Prod.map trim trim)).bind ofParts? := by
  rw [← (cutsInside_cutFirst? isBlank_colon).map_trim, ofSegment?]
  cases cutFirst? ':' (trim segment) <;> rfl

theorem isSound_of_ofParts? {field value : List Char} {f : Facet} (hvalue : IsTrimmed value)
    (h : ofParts? (field, value) = some f) :
    IsSound f ∧ f.field.toList = field ∧ f.value.toList = value := by
  obtain ⟨hcondition, hf⟩ := Option.ite_none_right_eq_some.1 h
  obtain rfl := Option.some.inj hf
  simp only [isName, Bool.and_eq_true, Bool.not_eq_true', List.isEmpty_eq_false_iff,
    List.all_eq_true] at hcondition
  obtain ⟨⟨hfield, hchars⟩, hne⟩ := hcondition
  refine ⟨⟨?_, ?_, ?_, ?_⟩, String.toList_ofList, String.toList_ofList⟩
  · exact fun hempty => hfield (String.ofList_eq_empty_iff.1 hempty)
  · intro c hc
    rw [String.toList_ofList] at hc
    exact isNameChar_iff.1 (hchars c hc)
  · exact fun hempty => hne (String.ofList_eq_empty_iff.1 hempty)
  · rwa [String.toList_ofList]

theorem isWritten_of_ofSegment? {segment : List Char} {f : Facet}
    (h : ofSegment? segment = some f) : IsWritten segment f := by
  rw [ofSegment?_eq, Option.bind_eq_some_iff] at h
  obtain ⟨parts, hparts, hf⟩ := h
  obtain ⟨⟨before, after⟩, hcut, rfl⟩ := Option.map_eq_some_iff.1 hparts
  obtain ⟨hsound, hfield, hvalue⟩ := isSound_of_ofParts? (isTrimmed_trim after) hf
  obtain ⟨hsegment, -⟩ := cutFirst?_eq_some hcut
  -- The blanks are what trimming takes away from the two parts.
  obtain ⟨w₁, w₂, hw₁, hw₂, hbefore⟩ := exists_trim before
  obtain ⟨w₃, w₄, hw₃, hw₄, hafter⟩ := exists_trim after
  refine ⟨hsound, w₁, w₂, w₃, w₄, hw₁, hw₂, hw₃, hw₄, ?_⟩
  rw [hfield, hvalue, hsegment]
  congr 1
  rw [← hafter]

theorem ofSegment?_of_isWritten {segment : List Char} {f : Facet} (h : IsWritten segment f) :
    ofSegment? segment = some f := by
  obtain ⟨w₁, w₂, w₃, w₄, hw₁, hw₂, hw₃, hw₄, rfl⟩ := h.form
  -- No colon comes before the one behind the field, so the value may hold as many as it likes.
  have hcolon : ':' ∉ w₁ ++ f.field.toList ++ w₂ := by
    simp [hw₁.not_mem isBlank_colon, hw₂.not_mem isBlank_colon, h.colon_not_mem]
  rw [ofSegment?_eq, cutFirst?_append hcolon, Option.map_some, Option.bind_some, Prod.map_apply,
    trim_between hw₁ hw₂ h.field_trimmed, trim_between hw₃ hw₄ h.value_trimmed, ofParts?,
    h.isName_field, h.value_toList_ne, String.ofList_toList, String.ofList_toList]
  rfl

/-- A segment is read as a facet just if it says it. -/
theorem ofSegment?_eq_some_iff {segment : List Char} {f : Facet} :
    ofSegment? segment = some f ↔ IsWritten segment f :=
  ⟨isWritten_of_ofSegment?, ofSegment?_of_isWritten⟩

theorem IsWritten.unique {segment : List Char} {f g : Facet} (hf : IsWritten segment f)
    (hg : IsWritten segment g) : g = f := by
  have hread := ofSegment?_of_isWritten hg
  rw [ofSegment?_of_isWritten hf] at hread
  exact (Option.some.inj hread).symm

theorem ofSegment?_eq_none_iff {segment : List Char} :
    ofSegment? segment = none ↔ ∀ f, ¬ IsWritten segment f := by
  rw [Option.eq_none_iff_forall_ne_some]
  simp only [ne_eq, ofSegment?_eq_some_iff]

theorem listed_filterMap (segments : List (List Char)) :
    Listed segments (segments.filterMap ofSegment?) := by
  induction segments with
  | nil => exact .nil
  | cons segment segments ih =>
    cases hsegment : ofSegment? segment with
    | none =>
      rw [List.filterMap_cons_none hsegment]
      exact .dropped (ofSegment?_eq_none_iff.1 hsegment) ih
    | some f =>
      have hf : IsWritten segment f := ofSegment?_eq_some_iff.1 hsegment
      rw [List.filterMap_cons_some hsegment]
      exact .facet hf (fun g hg => hf.unique hg) ih

/-- There is one list of facets for a list of segments. -/
theorem Listed.eq_filterMap {segments : List (List Char)} {facets : List Facet}
    (h : Listed segments facets) : facets = segments.filterMap ofSegment? := by
  induction h with
  | nil => rfl
  | facet h honly hmore ih =>
    rw [List.filterMap_cons_some (ofSegment?_eq_some_iff.2 h), ← ih]
  | dropped h hmore ih =>
    rw [List.filterMap_cons_none (ofSegment?_eq_none_iff.2 h), ← ih]

theorem parse_eq {raw : String} {segments : List (List Char)}
    (h : IsSplit ',' raw.toList segments) : parse raw = segments.filterMap ofSegment? := by
  rw [parse, ← isSplit_iff.1 h]

/-- Every text is split at its commas in one way, and its facets are those of the segments, no list
but theirs. A segment that says no facet can be taken out of the list, wherever it stands, and the
facets stay the same. -/
theorem parse_follows_grammar (raw : String) :
    ∃! segments, IsSplit ',' raw.toList segments ∧
      (∀ facets, Listed segments facets ↔ facets = parse raw) ∧
      ∀ before segment after, segments = before ++ segment :: after →
        (∀ f, ¬ IsWritten segment f) →
          Listed (before ++ after) (parse raw) ∧
            ∀ other : String, IsSplit ',' other.toList (before ++ after) → parse other = parse raw := by
  have hsplit : IsSplit ',' raw.toList (pieces ',' raw.toList) := isSplit_iff.2 rfl
  refine ⟨pieces ',' raw.toList, ⟨hsplit, ?_, ?_⟩, ?_⟩
  · intro facets
    constructor
    · intro hlisted
      rw [parse_eq hsplit]
      exact hlisted.eq_filterMap
    · rintro rfl
      exact listed_filterMap _
  · intro before segment after hsegments hsegment
    have hnone := ofSegment?_eq_none_iff.2 hsegment
    -- A segment that says none leaves nothing behind.
    have hwithout : parse raw = (before ++ after).filterMap ofSegment? := by
      rw [parse_eq hsplit, hsegments, List.filterMap_append, List.filterMap_cons_none hnone,
        List.filterMap_append]
    refine ⟨?_, ?_⟩
    · rw [hwithout]
      exact listed_filterMap _
    · intro other hother
      rw [parse_eq hother, hwithout]
  · rintro segments ⟨hsegments, -⟩
    exact isSplit_iff.1 hsegments

def untidyList : String := " meta.author-name :\tJo Doe ,id EXISTS OR state:Texas,at:10:30 : x "

theorem parse_follows_grammar_for_untidyList :
    IsSplit ',' untidyList.toList
        [" meta.author-name :\tJo Doe ".toList, "id EXISTS OR state:Texas".toList,
          "at:10:30 : x ".toList] ∧
      (∀ f, ¬ IsWritten "id EXISTS OR state:Texas".toList f) ∧
      Listed [" meta.author-name :\tJo Doe ".toList, "at:10:30 : x ".toList] (parse untidyList) ∧
      parse untidyList = [⟨"meta.author-name", "Jo Doe"⟩, ⟨"at", "10:30 : x"⟩] := by
  have hcondition : ∀ f, ¬ IsWritten "id EXISTS OR state:Texas".toList f :=
    ofSegment?_eq_none_iff.1 (by decide +kernel)
  obtain ⟨segments, ⟨hsplit, -, hwithout⟩, -⟩ := parse_follows_grammar untidyList
  have hsegments : segments = [" meta.author-name :\tJo Doe ".toList,
      "id EXISTS OR state:Texas".toList, "at:10:30 : x ".toList] := by
    rw [isSplit_iff.1 hsplit]
    decide +kernel
  subst hsegments
  obtain ⟨hlisted, -⟩ := hwithout [" meta.author-name :\tJo Doe ".toList] _ ["at:10:30 : x ".toList]
    rfl hcondition
  exact ⟨hsplit, hcondition, hlisted, by decide +kernel⟩

end VariantSearch.Facet

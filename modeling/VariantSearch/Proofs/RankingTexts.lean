import Mathlib.Logic.Function.Basic
import VariantSearch.Ranking

namespace VariantSearch

/-- The last separator is the one behind which there is none. -/
theorem Text.cutLast?_append {sep : Char} {after : List Char} (h : sep ∉ after)
    (before : List Char) : cutLast? sep (before ++ sep :: after) = some (before, after) := by
  have hafter : cutLast? sep after = none := by
    induction after with
    | nil => rfl
    | cons c after ih =>
      obtain ⟨hc, hafter⟩ := List.ne_and_not_mem_of_not_mem_cons h
      rw [cutLast?, ih hafter]
      exact if_neg hc.symm
  induction before with
  | nil =>
    rw [List.nil_append, cutLast?, hafter]
    exact if_pos rfl
  | cons c before ih => rw [List.cons_append, cutLast?, ih]

theorem Text.eq_of_cutLast? {sep : Char} {cs before after : List Char}
    (h : cutLast? sep cs = some (before, after)) : cs = before ++ sep :: after := by
  induction cs generalizing before with
  | nil => cases h
  | cons c rest ih =>
    unfold cutLast? at h
    split at h
    · next front back hrest =>
      cases h
      rw [ih hrest]
      rfl
    · split at h
      · next hc =>
        cases h
        rw [hc]
        rfl
      · cases h

theorem Criterion.eq_toText_of_ofText? {s : String} {c : Criterion}
    (h : Criterion.ofText? s = some c) : s = c.toText := by
  unfold ofText? at h
  split at h <;> cases h <;> rfl

theorem Criterion.ofText?_toText (c : Criterion) : Criterion.ofText? c.toText = some c := by
  cases c <;> rfl

/-- No criterion is written with a colon. -/
theorem Criterion.colon_not_mem (c : Criterion) : ':' ∉ c.toText.toList := by
  cases c <;> decide

namespace SortOrder

def lowered (text : String) : String := String.ofList (text.toList.map Char.toLower)

def IsWritten (text : String) : Prop := lowered text ∈ ["asc", "desc"]

instance (text : String) : Decidable (IsWritten text) :=
  inferInstanceAs (Decidable (_ ∈ ["asc", "desc"]))

theorem eq_toText_of_ofText? {s : String} {order : SortOrder} (h : ofText? s = some order) :
    s = order.toText := by
  unfold ofText? at h
  split at h <;> cases h <;> rfl

theorem ofText?_toText (order : SortOrder) : ofText? order.toText = some order := by
  cases order <;> rfl

theorem ofAnyCase?_eq_some_iff {text : String} {order : SortOrder} :
    ofAnyCase? text.toList = some order ↔ lowered text = order.toText := by
  constructor
  · exact eq_toText_of_ofText?
  · intro h
    rw [ofAnyCase?, ← lowered, h, ofText?_toText]

theorem isWritten_iff {text : String} :
    IsWritten text ↔ ∃ order : SortOrder, lowered text = order.toText := by
  simp only [IsWritten, List.mem_cons, List.not_mem_nil, or_false]
  constructor
  · rintro (h | h)
    · exact ⟨ascending, h⟩
    · exact ⟨descending, h⟩
  · rintro ⟨order, h⟩
    cases order with
    | ascending => exact Or.inl h
    | descending => exact Or.inr h

/-- No text of a direction holds a colon, since the lower case of a colon is a colon. -/
theorem colon_not_mem {text : String} {order : SortOrder} (h : lowered text = order.toText) :
    ':' ∉ text.toList := by
  intro hmem
  have hlower : ':' ∈ (lowered text).toList := by
    rw [lowered, String.toList_ofList]
    exact List.mem_map.2 ⟨':', hmem, rfl⟩
  rw [h] at hlower
  cases order <;> revert hlower <;> decide

theorem lowered_toText (order : SortOrder) : lowered order.toText = order.toText := by
  cases order <;> decide

end SortOrder

namespace RankingRule

def Named : RankingRule → Prop
  | builtin _ => True
  | byAttribute field _ => field ≠ ""

instance (rule : RankingRule) : Decidable rule.Named := by
  cases rule
  · exact isTrue trivial
  · exact inferInstanceAs (Decidable (_ ≠ _))

def criterionNames : List String := ["words", "typo", "proximity", "attribute", "sort", "exactness"]

theorem mem_criterionNames_iff {s : String} : s ∈ criterionNames ↔ ∃ c : Criterion, s = c.toText := by
  simp only [criterionNames, List.mem_cons, List.not_mem_nil, or_false]
  constructor
  · rintro (h | h | h | h | h | h)
    · exact ⟨.words, h⟩
    · exact ⟨.typo, h⟩
    · exact ⟨.proximity, h⟩
    · exact ⟨.attributeRank, h⟩
    · exact ⟨.sort, h⟩
    · exact ⟨.exactness, h⟩
  · rintro ⟨c, rfl⟩
    cases c <;> decide

section Clause

variable {field direction : String} {order : SortOrder}

theorem toList_clause (field direction : String) :
    (field ++ ":" ++ direction).toList = field.toList ++ ':' :: direction.toList := by
  rw [String.toList_append, String.toList_append, List.append_assoc]
  rfl

/-- Such a text is not the name of a criterion, whatever the attribute is. -/
theorem ofText?_clause (field direction : String) :
    Criterion.ofText? (field ++ ":" ++ direction) = none := by
  cases h : Criterion.ofText? (field ++ ":" ++ direction) with
  | none => rfl
  | some c =>
    have hcolon : ':' ∈ c.toText.toList := by
      rw [← Criterion.eq_toText_of_ofText? h, toList_clause]
      exact List.mem_append_right _ List.mem_cons_self
    exact absurd hcolon c.colon_not_mem

theorem parse_clause (h : SortOrder.lowered direction = order.toText) (hfield : field ≠ "") :
    parse (field ++ ":" ++ direction) = .ok (byAttribute field order) := by
  have hcut := Text.cutLast?_append (SortOrder.colon_not_mem h) field.toList
  have hsome : field.toList.isEmpty = false := by
    rw [List.isEmpty_eq_false_iff]
    exact fun hnil => hfield (String.toList_eq_nil_iff.1 hnil)
  have horder : SortOrder.ofAnyCase? direction.toList = some order :=
    SortOrder.ofAnyCase?_eq_some_iff.2 h
  simp only [parse, ofText?_clause, toList_clause, hcut, hsome, horder, String.ofList_toList]
  rfl

/-- Without an attribute such a text is no rule. -/
theorem parse_nameless (order : SortOrder) :
    parse (byAttribute "" order).toText = .error (.unknownRule (byAttribute "" order).toText) := by
  cases order <;> rfl

end Clause

/-- A text that is read is the name of a criterion, or a text of a rule by an attribute. -/
theorem cases_of_parse {s : String} {rule : RankingRule} (h : parse s = .ok rule) :
    (∃ c : Criterion, s = c.toText ∧ rule = builtin c) ∨
      ∃ field direction order, s = field ++ ":" ++ direction ∧ field ≠ "" ∧
        SortOrder.lowered direction = order.toText ∧ rule = byAttribute field order := by
  unfold parse at h
  -- The names of the criteria are looked up first, so only what is none of them is cut.
  split at h
  · next c hc =>
    cases h
    exact Or.inl ⟨c, Criterion.eq_toText_of_ofText? hc, rfl⟩
  · split at h
    · next field direction hcut =>
      have htext : s = String.ofList field ++ ":" ++ String.ofList direction := by
        apply String.toList_inj.1
        rw [toList_clause, String.toList_ofList, String.toList_ofList]
        exact Text.eq_of_cutLast? hcut
      split at h
      · cases h
      · next hfield =>
        have hne : String.ofList field ≠ "" := by
          intro hempty
          rw [String.ofList_eq_empty_iff] at hempty
          exact hfield (by rw [hempty]; rfl)
        split at h
        · next order horder =>
          cases h
          have hlower : SortOrder.lowered (String.ofList direction) = order.toText := by
            apply SortOrder.ofAnyCase?_eq_some_iff.1
            rwa [String.toList_ofList]
          exact Or.inr ⟨_, _, order, htext, hne, hlower, rfl⟩
        · cases h
    · cases h

theorem named_of_parse {s : String} {rule : RankingRule} (h : parse s = .ok rule) : rule.Named := by
  rcases cases_of_parse h with ⟨c, -, rfl⟩ | ⟨field, direction, order, -, hfield, -, rfl⟩
  · trivial
  · exact hfield

/-- A rule that names its attribute is read back, whatever colons the name holds. -/
theorem parse_toText {rule : RankingRule} (h : rule.Named) : parse rule.toText = .ok rule := by
  cases rule with
  | builtin c => cases c <;> rfl
  | byAttribute field order => exact parse_clause order.lowered_toText h

theorem parse_toText_iff {rule : RankingRule} : parse rule.toText = .ok rule ↔ rule.Named :=
  ⟨named_of_parse, parse_toText⟩

/-- The last colon divides the text of a rule by an attribute, and no other rule has a colon. -/
theorem cutLast?_toText (rule : RankingRule) :
    Text.cutLast? ':' rule.toText.toList =
      match rule with
      | builtin _ => none
      | byAttribute field order => some (field.toList, order.toText.toList) := by
  cases rule with
  | builtin c => cases c <;> decide
  | byAttribute field order =>
    dsimp only
    rw [toText, toList_clause]
    exact Text.cutLast?_append (SortOrder.colon_not_mem order.lowered_toText) field.toList

theorem toText_injective : Function.Injective toText := by
  intro a b h
  -- The last colon is the one in front of the direction, which has none.
  have hcut : Text.cutLast? ':' a.toText.toList = Text.cutLast? ':' b.toText.toList := by rw [h]
  rw [cutLast?_toText, cutLast?_toText] at hcut
  cases a with
  | builtin c =>
    cases b with
    | builtin d =>
      have hname : Criterion.ofText? c.toText = Criterion.ofText? d.toText := congrArg _ h
      rw [Criterion.ofText?_toText, Criterion.ofText?_toText] at hname
      rw [Option.some.inj hname]
    | byAttribute field order => cases hcut
  | byAttribute field order =>
    cases b with
    | builtin d => cases hcut
    | byAttribute field' order' =>
      obtain ⟨hfield, hdirection⟩ := Prod.mk.inj (Option.some.inj hcut)
      have horder : SortOrder.ofText? order.toText = SortOrder.ofText? order'.toText :=
        congrArg _ (String.toList_inj.1 hdirection)
      rw [SortOrder.ofText?_toText, SortOrder.ofText?_toText] at horder
      rw [String.toList_inj.1 hfield, Option.some.inj horder]

structure IsClause (s field direction : String) : Prop where
  text : s = field ++ ":" ++ direction
  field_ne : field ≠ ""
  direction : SortOrder.IsWritten direction

theorem exists_parse_iff {s : String} :
    (∃ rule, parse s = .ok rule) ↔
      s ∈ criterionNames ∨ ∃ field direction, IsClause s field direction := by
  constructor
  · rintro ⟨rule, h⟩
    rcases cases_of_parse h with ⟨c, hs, -⟩ | ⟨field, direction, order, hs, hfield, hlower, -⟩
    · exact Or.inl (mem_criterionNames_iff.2 ⟨c, hs⟩)
    · exact Or.inr ⟨field, direction, hs, hfield, SortOrder.isWritten_iff.2 ⟨order, hlower⟩⟩
  · rintro (hname | ⟨field, direction, rfl, hfield, hdirection⟩)
    · obtain ⟨c, rfl⟩ := mem_criterionNames_iff.1 hname
      have hread : parse (builtin c).toText = .ok (builtin c) := parse_toText trivial
      exact ⟨builtin c, hread⟩
    · obtain ⟨order, hlower⟩ := SortOrder.isWritten_iff.1 hdirection
      exact ⟨byAttribute field order, parse_clause hlower hfield⟩

/-- Only the direction changes when what was read is written again. -/
theorem toText_of_parse {s : String} {rule : RankingRule} (h : parse s = .ok rule) :
    (s ∈ criterionNames ∧ rule.toText = s) ∨
      ∃ field direction, IsClause s field direction ∧
        rule.toText = field ++ ":" ++ SortOrder.lowered direction := by
  rcases cases_of_parse h with ⟨c, rfl, rfl⟩ | ⟨field, direction, order, hs, hfield, hlower, rfl⟩
  · exact Or.inl ⟨mem_criterionNames_iff.2 ⟨c, rfl⟩, rfl⟩
  · have hwritten : SortOrder.IsWritten direction := SortOrder.isWritten_iff.2 ⟨order, hlower⟩
    refine Or.inr ⟨field, direction, ⟨hs, hfield, hwritten⟩, ?_⟩
    rw [hlower]
    rfl

theorem named_iff {rule : RankingRule} : rule.Named ↔ ∀ order, rule ≠ byAttribute "" order := by
  constructor
  · rintro h order rfl
    exact h rfl
  · intro h
    cases rule with
    | builtin c => trivial
    | byAttribute field order =>
      rintro rfl
      exact h order rfl

/-- Texts and rules belong together: just the names of the criteria and the texts of rules by an
attribute are read; what is read is written with the direction in lower case and no other change,
and read again as the same rule; no two rules have the same text; and every rule is read back from
its text except those by an attribute without a name, which are refused. -/
theorem text_unambiguous :
    (∀ s, (∃ rule, parse s = .ok rule) ↔
        s ∈ criterionNames ∨ ∃ field direction, IsClause s field direction) ∧
      (∀ s rule, parse s = .ok rule →
        ((s ∈ criterionNames ∧ rule.toText = s) ∨
            ∃ field direction, IsClause s field direction ∧
              rule.toText = field ++ ":" ++ SortOrder.lowered direction) ∧
          parse rule.toText = .ok rule) ∧
      Function.Injective toText ∧
      (∀ rule, parse rule.toText = .ok rule ↔ ∀ order, rule ≠ byAttribute "" order) ∧
      ∀ order, parse (byAttribute "" order).toText =
        .error (.unknownRule (byAttribute "" order).toText) := by
  refine ⟨fun s => exists_parse_iff, ?_, toText_injective, ?_, parse_nameless⟩
  · intro s rule h
    exact ⟨toText_of_parse h, parse_toText (named_of_parse h)⟩
  · intro rule
    rw [parse_toText_iff, named_iff]

/-- A rule by an attribute that looks like a rule itself. -/
theorem text_unambiguous_for_nestedClause :
    parse "sort:asc:DESC" = .ok (byAttribute "sort:asc" .descending) ∧
      (byAttribute "sort:asc" .descending).toText = "sort:asc:desc" ∧
      parse "sort:asc:desc" = .ok (byAttribute "sort:asc" .descending) := by
  have hread : parse "sort:asc:DESC" = .ok (byAttribute "sort:asc" .descending) := by rfl
  obtain ⟨-, hagain, -⟩ := text_unambiguous
  exact ⟨hread, rfl, (hagain "sort:asc:DESC" _ hread).2⟩

end RankingRule

end VariantSearch

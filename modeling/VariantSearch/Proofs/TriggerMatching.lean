import Mathlib.Data.List.Infix
import VariantSearch.Expansion

namespace VariantSearch

namespace Text

variable {needle word before after text : List Char}

theorem occursIn_iff : occursIn needle text = true ↔ needle <:+: text := by
  induction text with
  | nil => rw [occursIn, List.isEmpty_iff, List.infix_nil]
  | cons c rest ih =>
    rw [occursIn, Bool.or_eq_true, ih, List.isPrefixOf_iff_prefix, List.infix_cons_iff]

/-- A blank ends the search for a cased character as the end of the text does. -/
theorem casedNext_append_blank (cs rest : List Char) :
    casedNext (cs ++ ' ' :: rest) = casedNext cs := by
  have hblank : isCaseIgnorable ' ' = false := by decide
  have huncased : isCased ' ' = false := by decide
  induction cs with
  | nil => simp [casedNext, hblank, huncased]
  | cons c cs ih =>
    unfold casedNext at ih ⊢
    rw [List.cons_append, List.dropWhile_cons, List.dropWhile_cons]
    cases isCaseIgnorable c with
    | true => exact ih
    | false => rfl

/-- What stands before a blank has the same lower-case form with and without the rest. -/
theorem lowerAfter_append_blank (before cs rest : List Char) :
    lowerAfter before (cs ++ ' ' :: rest) =
      lowerAfter before cs ++ lowerAfter (cs.reverse ++ before) (' ' :: rest) := by
  induction cs generalizing before with
  | nil => rfl
  | cons c cs ih =>
    -- Only a sigma looks ahead, and it sees the same.
    have hends : endsWord before (cs ++ ' ' :: rest) = endsWord before cs := by
      rw [endsWord, endsWord, casedNext_append_blank]
    rw [List.cons_append, lowerAfter, lowerAfter, hends, ih, List.append_assoc, List.reverse_cons,
      List.append_assoc]
    rfl

theorem occursIn_lower_append_blank (h : occursIn needle (lower text) = true) (rest : List Char) :
    occursIn needle (lower (text ++ ' ' :: rest)) = true := by
  -- The lower case of the query is the front part of the lower case of the longer text.
  rw [occursIn_iff] at h ⊢
  rw [lower, lowerAfter_append_blank]
  exact h.trans (List.prefix_append _ _).isInfix

/-- A word stands in a text just if it stands at some place of it. -/
theorem wordAfter_iff :
    wordAfter word before text = true ↔
      ∃ first last, text = first ++ last ∧ wordAt word (first.reverse ++ before) last = true := by
  -- What has been passed over becomes part of what stands before.
  induction text generalizing before with
  | nil =>
    rw [wordAfter]
    constructor
    · intro h
      exact ⟨[], [], rfl, h⟩
    · rintro ⟨first, last, htext, h⟩
      obtain ⟨rfl, rfl⟩ := List.append_eq_nil_iff.1 htext.symm
      exact h
  | cons c rest ih =>
    rw [wordAfter, Bool.or_eq_true, ih]
    constructor
    · rintro (h | ⟨first, last, rfl, h⟩)
      · exact ⟨[], c :: rest, rfl, h⟩
      · exact ⟨c :: first, last, rfl, by simpa using h⟩
    · rintro ⟨first, last, htext, h⟩
      cases first with
      | nil =>
        obtain rfl : c :: rest = last := htext
        exact Or.inl h
      | cons d first =>
        obtain ⟨rfl, rfl⟩ := List.cons.inj htext
        exact Or.inr ⟨first, last, rfl, by simpa using h⟩

theorem startsInWord_append_blank (cs rest : List Char) :
    startsInWord (cs ++ ' ' :: rest) = startsInWord cs := by
  cases cs with
  | nil =>
    have hblank : isWordChar ' ' = false := by decide
    exact hblank
  | cons c cs => rfl

theorem length_eq_of_sameUpToCase {a b : List Char} (h : sameUpToCase a b = true) :
    a.length = b.length := by
  have hfold := congrArg List.length (beq_iff_eq.1 h)
  rwa [List.length_map, List.length_map] at hfold

/-- A word at a place is there still with a blank and more behind the text. -/
theorem wordAt_append_blank (h : wordAt word before after = true) (rest : List Char) :
    wordAt word before (after ++ ' ' :: rest) = true := by
  simp only [wordAt, Bool.and_eq_true] at h ⊢
  obtain ⟨⟨hfirst, hsame⟩, hlast⟩ := h
  -- The word ends before the blank, so the same characters are compared with it and the character
  -- behind it is the same or the blank.
  have hlength : word.length ≤ after.length := by
    have hfound := length_eq_of_sameUpToCase hsame
    rw [List.length_take] at hfound
    omega
  have htake : (after ++ ' ' :: rest).take word.length = after.take word.length :=
    List.take_append_of_le_length hlength
  have hdrop : (after ++ ' ' :: rest).drop word.length = after.drop word.length ++ ' ' :: rest :=
    List.drop_append_of_le_length hlength
  rw [htake, hdrop]
  refine ⟨⟨?_, hsame⟩, ?_⟩
  · rwa [isBoundary, startsInWord_append_blank]
  · rwa [isBoundary, startsInWord_append_blank]

theorem wordIn_append_blank (h : wordIn word text = true) (rest : List Char) :
    wordIn word (text ++ ' ' :: rest) = true := by
  rw [wordIn, wordAfter_iff] at h ⊢
  obtain ⟨first, last, rfl, hword⟩ := h
  exact ⟨first, last ++ ' ' :: rest, List.append_assoc _ _ _, wordAt_append_blank hword rest⟩

end Text

namespace Expansion

/-- A rule that fires on a query fires on the query with a blank and more behind it. -/
theorem fires_append {rule : Expansion} {query : String} (h : rule.fires query = true)
    (more : String) : rule.fires (query ++ " " ++ more) = true := by
  have htext : (query ++ " " ++ more).toList = query.toList ++ ' ' :: more.toList := by
    rw [String.toList_append, String.toList_append, List.append_assoc]
    rfl
  unfold fires at h ⊢
  rw [htext]
  cases hmode : rule.mode with
  | substring =>
    rw [hmode] at h
    exact Text.occursIn_lower_append_blank h more.toList
  | wholeWord =>
    rw [hmode] at h
    exact Text.wordIn_append_blank h more.toList

end Expansion

end VariantSearch

import Mathlib.Data.List.TakeWhile
import VariantSearch.Proofs.RankingTexts
import VariantSearch.Text.Blank

namespace VariantSearch.Text

def Blank (cs : List Char) : Prop := ∀ c ∈ cs, isBlank c = true

instance (cs : List Char) : Decidable (Blank cs) :=
  decidable_of_iff (cs.all isBlank = true) List.all_eq_true

structure IsTrimmed (cs : List Char) : Prop where
  first : ∀ c ∈ cs.head?, isBlank c = false
  last : ∀ c ∈ cs.getLast?, isBlank c = false

variable {sep : Char} {cs blanks before after : List Char}

theorem isBlank_colon : isBlank ':' = false := by decide

theorem Blank.append (hbefore : Blank before) (hafter : Blank after) : Blank (before ++ after) := by
  intro c hc
  rcases List.mem_append.1 hc with hc | hc
  · exact hbefore c hc
  · exact hafter c hc

theorem Blank.not_mem (h : Blank blanks) (hsep : isBlank sep = false) : sep ∉ blanks := by
  intro hmem
  have hblank := h sep hmem
  rw [hsep] at hblank
  cases hblank

/-- Blanks in front of a text make no difference to its trimmed form. -/
theorem trim_append_left (h : Blank blanks) (cs : List Char) : trim (blanks ++ cs) = trim cs := by
  have hstart : trimStart (blanks ++ cs) = trimStart cs := List.dropWhile_append_of_pos h
  rw [trim, hstart, trim]

theorem trimEnd_append (h : Blank blanks) (cs : List Char) : trimEnd (cs ++ blanks) = trimEnd cs := by
  have hreverse : ∀ c ∈ blanks.reverse, isBlank c = true := by
    intro c hc
    exact h c (List.mem_reverse.1 hc)
  rw [trimEnd, List.reverse_append, List.dropWhile_append_of_pos hreverse, trimEnd]

/-- Blanks behind a text make no difference to its trimmed form. -/
theorem trim_append_right (h : Blank blanks) (cs : List Char) : trim (cs ++ blanks) = trim cs := by
  have hblanks : blanks.dropWhile isBlank = [] := List.dropWhile_eq_nil_iff.2 h
  by_cases hcs : cs.dropWhile isBlank = []
  · -- The whole text is blank, and nothing is left of either.
    have hstart : trimStart (cs ++ blanks) = trimStart cs := by
      rw [trimStart, trimStart, List.dropWhile_append, hcs, hblanks]
      rfl
    rw [trim, hstart, trim]
  · have hstart : trimStart (cs ++ blanks) = trimStart cs ++ blanks := by
      rw [trimStart, trimStart, List.dropWhile_append, if_neg (by simpa using hcs)]
    rw [trim, hstart, trimEnd_append h, trim]

theorem exists_trimEnd (cs : List Char) : ∃ blanks, Blank blanks ∧ cs = trimEnd cs ++ blanks := by
  refine ⟨(cs.reverse.takeWhile isBlank).reverse, ?_, ?_⟩
  · intro c hc
    have hall : (cs.reverse.takeWhile isBlank).all isBlank = true := List.all_takeWhile
    exact List.all_eq_true.1 hall c (List.mem_reverse.1 hc)
  · rw [trimEnd, ← List.reverse_append, List.takeWhile_append_dropWhile, List.reverse_reverse]

/-- A text is its trimmed form between blanks. -/
theorem exists_trim (cs : List Char) :
    ∃ before after, Blank before ∧ Blank after ∧ cs = before ++ trim cs ++ after := by
  have hall : (cs.takeWhile isBlank).all isBlank = true := List.all_takeWhile
  obtain ⟨after, hafter, hend⟩ := exists_trimEnd (trimStart cs)
  refine ⟨cs.takeWhile isBlank, after, List.all_eq_true.1 hall, hafter, ?_⟩
  calc cs = cs.takeWhile isBlank ++ trimStart cs := List.takeWhile_append_dropWhile.symm
    _ = cs.takeWhile isBlank ++ (trim cs ++ after) := by rw [trim, ← hend]
    _ = cs.takeWhile isBlank ++ trim cs ++ after := (List.append_assoc _ _ _).symm

theorem not_isBlank_of_mem_head?_dropWhile {c : Char} (h : c ∈ (cs.dropWhile isBlank).head?) :
    isBlank c = false := by
  have hfirst := List.head?_dropWhile_not isBlank cs
  rw [Option.mem_def.1 h] at hfirst
  simpa using hfirst

theorem isTrimmed_trim (cs : List Char) : IsTrimmed (trim cs) := by
  constructor
  · intro c hc
    -- What is cut off at the end does not reach the first character.
    obtain ⟨blanks, -, hend⟩ := exists_trimEnd (trimStart cs)
    have hstart : c ∈ (trimStart cs).head? := by
      have htrim : (trim cs).head? = some c := hc
      rw [hend, List.head?_append, ← trim, htrim]
      rfl
    exact not_isBlank_of_mem_head?_dropWhile hstart
  · intro c hc
    rw [trim, trimEnd, List.getLast?_reverse] at hc
    exact not_isBlank_of_mem_head?_dropWhile hc

theorem IsTrimmed.trim_eq (h : IsTrimmed cs) : trim cs = cs := by
  have hstart : trimStart cs = cs := by
    cases cs with
    | nil => rfl
    | cons c rest =>
      have hc : isBlank c = false := h.first c rfl
      rw [trimStart, List.dropWhile_cons_of_neg (by simp [hc])]
  have hend : trimEnd cs = cs := by
    cases hreverse : cs.reverse with
    | nil => rw [List.reverse_eq_nil_iff.1 hreverse]; rfl
    | cons c rest =>
      have hlast : c ∈ cs.getLast? := by
        rw [← List.head?_reverse, hreverse]
        rfl
      have hc : isBlank c = false := h.last c hlast
      rw [trimEnd, hreverse, List.dropWhile_cons_of_neg (by simp [hc]), ← hreverse,
        List.reverse_reverse]
  rw [trim, hstart, hend]

/-- The trimmed form is what stands between the blanks. -/
theorem trim_between (hbefore : Blank before) (hafter : Blank after) (h : IsTrimmed cs) :
    trim (before ++ cs ++ after) = cs := by
  rw [trim_append_right hafter, trim_append_left hbefore, h.trim_eq]

theorem trim_eq_nil_iff : trim cs = [] ↔ Blank cs := by
  constructor
  · intro h
    obtain ⟨before, after, hbefore, hafter, hcs⟩ := exists_trim cs
    rw [h, List.append_nil] at hcs
    rw [hcs]
    exact hbefore.append hafter
  · intro h
    rw [← List.append_nil cs, trim_append_left h]
    rfl

theorem cutLast?_eq_none_iff : cutLast? sep cs = none ↔ sep ∉ cs := by
  induction cs with
  | nil => simp [cutLast?]
  | cons c rest ih =>
    rw [cutLast?, List.mem_cons, not_or, ← ih]
    cases cutLast? sep rest with
    | some p => simp
    | none =>
      by_cases hc : c = sep
      · simp [hc]
      · simp [hc, Ne.symm hc]

/-- The last cut is at a separator, and no separator comes behind it. -/
theorem cutLast?_eq_some_iff :
    cutLast? sep cs = some (before, after) ↔ cs = before ++ sep :: after ∧ sep ∉ after := by
  constructor
  · intro h
    refine ⟨eq_of_cutLast? h, ?_⟩
    induction cs generalizing before with
    | nil => cases h
    | cons c rest ih =>
      unfold cutLast? at h
      split at h
      · next front back hrest =>
        cases h
        exact ih hrest
      -- No separator follows, so this one is the last.
      · next hrest =>
        split at h
        · cases h
          exact cutLast?_eq_none_iff.1 hrest
        · cases h
  · rintro ⟨rfl, h⟩
    exact cutLast?_append h before

theorem cutFirst?_eq_some_iff :
    cutFirst? sep cs = some (before, after) ↔ cs = before ++ sep :: after ∧ sep ∉ before := by
  constructor
  · exact cutFirst?_eq_some
  · rintro ⟨rfl, h⟩
    exact cutFirst?_append h after

/-- A way to cut a text in two that does not see the blanks at its ends. -/
def CutsInside (cut : List Char → Option (List Char × List Char)) : Prop :=
  ∀ front cs back, Blank front → Blank back →
    cut (front ++ cs ++ back) = (cut cs).map fun (before, after) => (front ++ before, after ++ back)

/-- Where blanks at the ends are not seen, trimming a text before it is cut makes no difference to the
trimmed parts. -/
theorem CutsInside.map_trim {cut : List Char → Option (List Char × List Char)}
    (h : CutsInside cut) (cs : List Char) :
    (cut (trim cs)).map (Prod.map trim trim) = (cut cs).map (Prod.map trim trim) := by
  obtain ⟨front, back, hfront, hback, hcs⟩ := exists_trim cs
  have hcut : cut cs =
      (cut (trim cs)).map fun (before, after) => (front ++ before, after ++ back) :=
    (congrArg cut hcs).trans (h front (trim cs) back hfront hback)
  rw [hcut, Option.map_map]
  congr 1
  funext parts
  obtain ⟨before, after⟩ := parts
  simp only [Function.comp_apply, Prod.map_apply, trim_append_left hfront, trim_append_right hback]

theorem cutsInside_cutFirst? (hsep : isBlank sep = false) : CutsInside (cutFirst? sep) := by
  intro front cs back hfront hback
  cases hcut : cutFirst? sep cs with
  | none =>
    have hcs := cutFirst?_eq_none_iff.1 hcut
    rw [Option.map_none, cutFirst?_eq_none_iff]
    simp [hfront.not_mem hsep, hback.not_mem hsep, hcs]
  | some parts =>
    obtain ⟨rfl, hbefore⟩ := cutFirst?_eq_some_iff.1 hcut
    rw [Option.map_some, cutFirst?_eq_some_iff]
    simp [hfront.not_mem hsep, hbefore]

theorem cutsInside_cutLast? (hsep : isBlank sep = false) : CutsInside (cutLast? sep) := by
  intro front cs back hfront hback
  cases hcut : cutLast? sep cs with
  | none =>
    have hcs := cutLast?_eq_none_iff.1 hcut
    rw [Option.map_none, cutLast?_eq_none_iff]
    simp [hfront.not_mem hsep, hback.not_mem hsep, hcs]
  | some parts =>
    obtain ⟨rfl, hafter⟩ := cutLast?_eq_some_iff.1 hcut
    rw [Option.map_some, cutLast?_eq_some_iff]
    simp [hback.not_mem hsep, hafter]

structure IsSplit (sep : Char) (cs : List Char) (parts : List (List Char)) : Prop where
  nonempty : parts ≠ []
  bare : ∀ part ∈ parts, sep ∉ part
  whole : joined sep parts = cs

/-- There is one way to split a text. -/
theorem isSplit_iff {parts : List (List Char)} : IsSplit sep cs parts ↔ parts = pieces sep cs := by
  constructor
  · rintro ⟨hne, hbare, rfl⟩
    exact (pieces_joined hne hbare).symm
  · rintro rfl
    exact ⟨pieces_ne_nil sep cs, fun part hpart => (of_mem_pieces hpart).1, joined_pieces sep cs⟩

theorem joined_eq_intercalate (sep : Char) (parts : List (List Char)) :
    joined sep parts = [sep].intercalate parts := by
  induction parts with
  | nil => rfl
  | cons part more ih =>
    cases more with
    | nil => simp [joined]
    | cons next more => simp [joined, ih]

/-- Strings with commas between them form the joined text. -/
theorem toList_intercalate_comma (texts : List String) :
    (",".intercalate texts).toList = joined ',' (texts.map String.toList) := by
  rw [String.toList_intercalate, joined_eq_intercalate]
  rfl

/-- Strings without commas are found between the commas that join them. -/
theorem isSplit_intercalate {texts : List String} (hne : texts ≠ [])
    (h : ∀ text ∈ texts, ',' ∉ text.toList) :
    IsSplit ',' (",".intercalate texts).toList (texts.map String.toList) := by
  refine ⟨?_, ?_, (toList_intercalate_comma texts).symm⟩
  · rw [ne_eq, List.map_eq_nil_iff]
    exact hne
  · intro part hpart
    obtain ⟨text, htext, rfl⟩ := List.mem_map.1 hpart
    exact h text htext

end VariantSearch.Text

import Mathlib.Data.List.Chain
import VariantSearch.Text.CaseFold
import VariantSearch.Text.LowerCase

/-!
Lower case and case folding. Their tables differ, but a character folds as its lower-case form does.
-/

namespace VariantSearch.Text

namespace ShiftRun

def Moves (run : ShiftRun) (c : Nat) : Prop :=
  run.first ≤ c ∧ c ≤ run.last ∧ (c - run.first) % run.step = 0

/-- The run with the same code points the other way round. -/
def inverse (run : ShiftRun) : ShiftRun :=
  ⟨run.target, run.target + (run.last - run.first), run.step, run.first⟩

def same (a b : ShiftRun) : Bool :=
  a.first.beq b.first && (a.last.beq b.last && (a.step.beq b.step && a.target.beq b.target))

theorem same_iff {a b : ShiftRun} : a.same b = true ↔ a = b := by
  cases a
  cases b
  simp [same, Nat.beq_eq]

/-- A test whether a run moves none of the code points `c, c + step, …, c + length`: they lie behind
it, before it, or in its gaps. -/
def passes (run : ShiftRun) (c length step : Nat) : Bool :=
  run.last.blt c || ((c + length).blt run.first ||
    ((step.beq 2 || length.beq 0) && (run.step.beq 2 && ((c + run.first) % 2).beq 1)))

theorem not_moves_of_passes {run : ShiftRun} {c length step i : Nat}
    (h : run.passes c length step = true) (hi : i ≤ length) (hstep : i % step = 0) :
    ¬ run.Moves (c + i) := by
  simp only [passes, Bool.or_eq_true, Bool.and_eq_true, Nat.blt_eq, Nat.beq_eq] at h
  rintro ⟨hfirst, hlast, hmoves⟩
  rcases h with h | h | ⟨hgap, hrun, hodd⟩
  · omega
  · omega
  · rw [hrun] at hmoves
    rcases hgap with rfl | rfl
    · omega
    · omega

def Before (a b : ShiftRun) : Prop := a.first ≤ a.last ∧ a.last < b.first ∧ b.first ≤ b.last

instance : DecidableRel Before := fun _ _ => inferInstanceAs (Decidable (_ ∧ _ ∧ _))

instance : Trans Before Before Before where
  trans h h' := ⟨h.1, by have := h.2.1; have := h.2.2; have := h'.2.1; omega, h'.2.2⟩

end ShiftRun

section Shift

variable {c : Nat} {run : ShiftRun} {runs : List ShiftRun}

theorem shift_eq_self (h : ∀ run ∈ runs, ¬ run.Moves c) : shift c runs = c := by
  induction runs with
  | nil => rfl
  | cons run rest ih =>
    obtain ⟨hrun, hrest⟩ := List.forall_mem_cons.1 h
    rw [shift]
    split
    · rfl
    · next hfirst =>
      split
      · exact ih hrest
      · next hlast =>
        refine if_neg fun hstep => hrun ⟨?_, ?_, hstep⟩
        · omega
        · omega

/-- A code point that does not stay is moved by a run. -/
theorem exists_moves_of_shift_ne (h : shift c runs ≠ c) :
    ∃ run ∈ runs, run.Moves c ∧ shift c runs = run.target + (c - run.first) := by
  induction runs with
  | nil => exact absurd rfl h
  | cons run rest ih =>
    rw [shift] at h ⊢
    -- The scan stops at the first run that ends behind the code point.
    split at h
    · exact absurd rfl h
    · next hfirst =>
      rw [if_neg hfirst]
      split at h
      · next hlast =>
        obtain ⟨found, hmem, hmoves, hshift⟩ := ih h
        rw [if_pos hlast]
        exact ⟨found, List.mem_cons_of_mem run hmem, hmoves, hshift⟩
      · next hlast =>
        split at h
        · next hstep =>
          rw [if_neg hlast, if_pos hstep]
          exact ⟨run, List.mem_cons_self, ⟨by omega, by omega, hstep⟩, rfl⟩
        · exact absurd rfl h

theorem shift_of_moves (hruns : runs.Pairwise ShiftRun.Before) (hmem : run ∈ runs)
    (h : run.Moves c) : shift c runs = run.target + (c - run.first) := by
  induction runs with
  | nil => exact absurd hmem List.not_mem_nil
  | cons first rest ih =>
    obtain ⟨hfirst, hrest⟩ := List.pairwise_cons.1 hruns
    obtain ⟨hstart, hend, hstep⟩ := h
    rw [shift]
    rcases List.mem_cons.1 hmem with rfl | hmem
    · rw [if_neg (by omega), if_neg (by omega), if_pos hstep]
    · -- The code point lies behind every run that comes before its own.
      obtain ⟨hle, hlt, -⟩ := hfirst run hmem
      rw [if_neg (by omega), if_pos (by omega)]
      exact ih hrest hmem

end Shift

theorem foldRuns_ascending : foldRuns.Pairwise ShiftRun.Before := by
  rw [← List.isChain_iff_pairwise]
  decide +kernel

/-- Folding undoes a run or moves its code points in the same way: the run or its inverse is one of the
table, and no run of the table moves what is the lower-case form. -/
def foldsAs (run : ShiftRun) : Bool :=
  (foldRuns.any run.same &&
    foldRuns.all (·.passes run.target (run.last - run.first) run.step)) ||
  (foldRuns.any run.inverse.same &&
    foldRuns.all (·.passes run.first (run.last - run.first) run.step))

theorem foldsAs_lowerRuns : lowerRuns.all foldsAs = true := by decide +kernel

/-- A code point folds as the one that it has in lower case. -/
theorem shift_foldRuns_shift_lowerRuns (c : Nat) :
    shift (shift c lowerRuns) foldRuns = shift c foldRuns := by
  by_cases hstay : shift c lowerRuns = c
  · rw [hstay]
  · obtain ⟨run, hmem, ⟨hfirst, hlast, hstep⟩, hshift⟩ := exists_moves_of_shift_ne hstay
    have hfolds := List.all_eq_true.1 foldsAs_lowerRuns run hmem
    simp only [foldsAs, Bool.or_eq_true, Bool.and_eq_true, List.any_eq_true, List.all_eq_true,
      ShiftRun.same_iff] at hfolds
    have hlength : c - run.first ≤ run.last - run.first := Nat.sub_le_sub_right hlast run.first
    rw [hshift]
    rcases hfolds with ⟨⟨found, hfound, rfl⟩, hpasses⟩ | ⟨⟨found, hfound, rfl⟩, hpasses⟩
    · -- Folding moves the code point to its lower-case form, and leaves that one where it is.
      have hc : shift c foldRuns = run.target + (c - run.first) :=
        shift_of_moves foldRuns_ascending hfound ⟨hfirst, hlast, hstep⟩
      rw [hc]
      exact shift_eq_self fun r hr => ShiftRun.not_moves_of_passes (hpasses r hr) hlength hstep
    · -- Folding leaves the code point where it is, and moves its lower-case form back to it.
      have hsum : run.first + (c - run.first) = c := Nat.add_sub_cancel' hfirst
      have hc : shift c foldRuns = c := by
        refine shift_eq_self fun r hr => ?_
        rw [← hsum]
        exact ShiftRun.not_moves_of_passes (hpasses r hr) hlength hstep
      have hback : run.inverse.Moves (run.target + (c - run.first)) := by
        refine ⟨Nat.le_add_right _ _, Nat.add_le_add_left hlength _, ?_⟩
        rw [ShiftRun.inverse, Nat.add_sub_cancel_left]
        exact hstep
      rw [shift_of_moves foldRuns_ascending hfound hback, ShiftRun.inverse, Nat.add_sub_cancel_left,
        hsum, hc]

def landsOnChars (run : ShiftRun) : Bool :=
  (run.target + (run.last - run.first)).blt 0xD800 ||
    (Nat.blt 0xDFFF run.target && (run.target + (run.last - run.first)).blt 0x110000)

theorem landsOnChars_lowerRuns : lowerRuns.all landsOnChars = true := by decide +kernel

theorem landsOnChars_foldRuns : foldRuns.all landsOnChars = true := by decide +kernel

theorem toNat_ofNat_of_isValidChar {n : Nat} (h : n.isValidChar) : (Char.ofNat n).toNat = n := by
  rw [Char.ofNat, dif_pos h]
  rfl

theorem toNat_ofNat_shift {runs : List ShiftRun} (hruns : runs.all landsOnChars = true) (c : Char) :
    (Char.ofNat (shift c.toNat runs)).toNat = shift c.toNat runs := by
  apply toNat_ofNat_of_isValidChar
  by_cases hstay : shift c.toNat runs = c.toNat
  · rw [hstay]
    exact c.valid
  · obtain ⟨run, hmem, ⟨hfirst, hlast, -⟩, hshift⟩ := exists_moves_of_shift_ne hstay
    have hlands := List.all_eq_true.1 hruns run hmem
    simp only [landsOnChars, Bool.or_eq_true, Bool.and_eq_true, Nat.blt_eq] at hlands
    rw [hshift, Nat.isValidChar]
    omega

/-- A character with a single lower-case form folds as this form does. -/
theorem foldChar_ofNat_shift (c : Char) :
    foldChar (Char.ofNat (shift c.toNat lowerRuns)) = foldChar c := by
  rw [foldChar, toNat_ofNat_shift landsOnChars_lowerRuns, shift_foldRuns_shift_lowerRuns, foldChar]

theorem map_foldChar_lowerChar {c : Char} (h : c ≠ '\u0130') :
    (lowerChar c).map foldChar = [foldChar c] := by
  rw [lowerChar, if_neg h, List.map_singleton, foldChar_ofNat_shift]

theorem foldChar_sigma : foldChar 'ς' = foldChar 'Σ' ∧ foldChar 'σ' = foldChar 'Σ' := by
  decide +kernel

theorem map_foldChar_lowerAfter {cs : List Char} (h : '\u0130' ∉ cs) (before : List Char) :
    (lowerAfter before cs).map foldChar = cs.map foldChar := by
  induction cs generalizing before with
  | nil => rfl
  | cons c rest ih =>
    rw [List.mem_cons, not_or] at h
    rw [lowerAfter, List.map_append, ih h.2, List.map_cons]
    by_cases hsigma : c = 'Σ'
    · -- Both forms of a small sigma fold as the capital.
      rw [if_pos hsigma, hsigma]
      split
      · rw [List.map_singleton, foldChar_sigma.1, List.singleton_append]
      · rw [List.map_singleton, foldChar_sigma.2, List.singleton_append]
    · rw [if_neg hsigma, map_foldChar_lowerChar (Ne.symm h.1), List.singleton_append]

/-- A text without a capital I with a dot is the same up to case in lower case. -/
theorem sameUpToCase_lower {cs : List Char} (h : '\u0130' ∉ cs) : sameUpToCase (lower cs) cs = true := by
  rw [sameUpToCase, lower, map_foldChar_lowerAfter h, beq_self_eq_true]

theorem length_lowerChar (c : Char) :
    (lowerChar c).length = if c = '\u0130' then 2 else 1 := by
  rw [lowerChar]
  split <;> rfl

theorem length_lowerAfter (before cs : List Char) :
    (lowerAfter before cs).length = cs.length + cs.count '\u0130' := by
  induction cs generalizing before with
  | nil => rfl
  | cons c rest ih =>
    have hsigma : 'Σ' ≠ '\u0130' := by decide
    have hhead : (if c = 'Σ' then [if endsWord before rest then 'ς' else 'σ'] else lowerChar c).length =
        if c = '\u0130' then 2 else 1 := by
      split
      · next hc => rw [hc, if_neg hsigma, List.length_singleton]
      · exact length_lowerChar c
    rw [lowerAfter, List.length_append, ih, hhead, List.length_cons, List.count_cons]
    simp only [beq_iff_eq]
    split <;> omega

/-- A lower-case form is longer by one for each capital I with a dot. -/
theorem length_lower (cs : List Char) : (lower cs).length = cs.length + cs.count '\u0130' :=
  length_lowerAfter [] cs

end VariantSearch.Text

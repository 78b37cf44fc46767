import VariantSearch.Proofs.EmbeddedTriggers

/-!
Folding takes more characters for one than lower case does.
-/

namespace VariantSearch

namespace Text

variable {c d : Char} {word found text : List Char}

/-- A character that folds as `c` and has not, or not everywhere, the lower-case form `c`. A capital
sigma has two such forms. -/
def Rival (c d : Char) : Prop := foldChar d = foldChar c ∧ (d = 'Σ' ∨ lowerChar d ≠ [c])

instance (c d : Char) : Decidable (Rival c d) := inferInstanceAs (Decidable (_ ∧ _))

/-- A code point, and for each run over it the code point that the run would move there. -/
def sources (n : Nat) (runs : List ShiftRun) : List Nat :=
  n :: (runs.filter fun run => run.target.ble n && n.ble (run.target + (run.last - run.first))).map
    fun run => run.first + (n - run.target)

theorem mem_sources (n : Nat) (runs : List ShiftRun) : n ∈ sources (shift n runs) runs := by
  by_cases hstay : shift n runs = n
  · rw [hstay]
    exact List.mem_cons_self
  · obtain ⟨run, hmem, ⟨hfirst, hlast, -⟩, hshift⟩ := exists_moves_of_shift_ne hstay
    rw [hshift]
    refine List.mem_cons_of_mem _ (List.mem_map.2 ⟨run, List.mem_filter.2 ⟨hmem, ?_⟩, ?_⟩)
    · rw [Bool.and_eq_true, Nat.ble_eq, Nat.ble_eq]
      omega
    · omega

def foldMates (c : Char) : List Char := (sources (shift c.toNat foldRuns) foldRuns).map Char.ofNat

theorem mem_foldMates (h : foldChar d = foldChar c) : d ∈ foldMates c := by
  have hshift : shift d.toNat foldRuns = shift c.toNat foldRuns := by
    have hnat := congrArg Char.toNat h
    rwa [foldChar, foldChar, toNat_ofNat_shift landsOnChars_foldRuns,
      toNat_ofNat_shift landsOnChars_foldRuns] at hnat
  have hmem := mem_sources d.toNat foldRuns
  rw [hshift] at hmem
  exact List.mem_map.2 ⟨d.toNat, hmem, Char.ofNat_toNat d⟩

theorem exists_rival_iff : (∃ d, Rival c d) ↔ ((foldMates c).any fun d => Rival c d) = true := by
  rw [List.any_eq_true]
  constructor
  · rintro ⟨d, h⟩
    exact ⟨d, mem_foldMates h.1, decide_eq_true h⟩
  · rintro ⟨d, -, h⟩
    exact ⟨d, of_decide_eq_true h⟩

instance (c : Char) : Decidable (∃ d, Rival c d) := decidable_of_iff' _ exists_rival_iff

/-- The long s folds as an s and stays what it is in lower case; the sign of the Kelvin does not stay. -/
example : Rival 's' '\u017F' ∧ ¬ ∃ d, Rival 'k' d := by decide +kernel

/-- What folds as a word and has no rival of its characters is this word in lower case, wherever it
stands. -/
theorem lowerBetween_of_not_rival (hfold : word.map foldChar = found.map foldChar)
    (h : ∀ c ∈ word, ∀ d ∈ found, ¬ Rival c d) (before after : List Char) :
    lowerBetween before after found = word := by
  induction found generalizing word before with
  | nil => exact (List.map_eq_nil_iff.1 hfold).symm
  | cons d found ih =>
    cases word with
    | nil => cases hfold
    | cons c word =>
      obtain ⟨hc, hrest⟩ := List.cons.inj hfold
      have hnot := h c List.mem_cons_self d List.mem_cons_self
      -- A sigma has two forms, so it is a rival of whatever it folds as.
      have hsigma : d ≠ 'Σ' := fun hd => hnot ⟨hc.symm, Or.inl hd⟩
      have hlower : lowerChar d = [c] := by
        by_contra hne
        exact hnot ⟨hc.symm, Or.inr hne⟩
      have hword : lowerBetween (d :: before) after found = word := by
        apply ih hrest
        intro c' hc' d' hd'
        exact h c' (List.mem_cons_of_mem c hc') d' (List.mem_cons_of_mem d hd')
      rw [lowerBetween, if_neg hsigma, hlower, hword, List.singleton_append]

theorem occursIn_of_wordIn (hword : wordIn word text = true)
    (h : ∀ c ∈ word, ∀ d ∈ text, ¬ Rival c d) : occursIn word (lower text) = true := by
  rw [wordIn, wordAfter_iff] at hword
  obtain ⟨first, last, rfl, hat⟩ := hword
  simp only [wordAt, Bool.and_eq_true] at hat
  obtain ⟨⟨-, hsame⟩, -⟩ := hat
  -- The text is cut around the characters that were compared with the word.
  have hcut : first ++ last = first ++ last.take word.length ++ last.drop word.length := by
    rw [List.append_assoc, List.take_append_drop]
  have hfound : ∀ c ∈ word, ∀ d ∈ last.take word.length, ¬ Rival c d := fun c hc d hd =>
    h c hc d (List.mem_append_right first (List.mem_of_mem_take hd))
  rw [occursIn_iff, hcut, lower_around, lowerBetween_of_not_rival (beq_iff_eq.1 hsame) hfound]
  exact ⟨_, _, rfl⟩

theorem dotted_not_mem_lowerChar (c : Char) : '\u0130' ∉ lowerChar c := by
  have hsources : sources 0x130 lowerRuns = [0x130] := by decide +kernel
  rw [lowerChar]
  split
  · decide
  · next hc =>
    rw [List.mem_singleton]
    intro h
    have hshift : shift c.toNat lowerRuns = 0x130 := by
      rw [← toNat_ofNat_shift landsOnChars_lowerRuns, ← h]
      rfl
    have hmem := mem_sources c.toNat lowerRuns
    rw [hshift, hsources, List.mem_singleton] at hmem
    exact hc (Char.toNat_inj.1 hmem)

/-- No capital I with a dot is in a lower-case form. -/
theorem dotted_not_mem_lowerAfter (before cs : List Char) : '\u0130' ∉ lowerAfter before cs := by
  induction cs generalizing before with
  | nil => exact List.not_mem_nil
  | cons c rest ih =>
    rw [lowerAfter, List.mem_append, not_or]
    refine ⟨?_, ih _⟩
    split
    · split <;> decide
    · exact dotted_not_mem_lowerChar c

theorem eq_dotted_of_foldChar_eq (h : foldChar d = foldChar '\u0130') : d = '\u0130' := by
  have hmates : foldMates '\u0130' = ['\u0130'] := by decide +kernel
  have hmem := mem_foldMates h
  rwa [hmates, List.mem_singleton] at hmem

/-- Where a capital sigma is a rival, one of the small ones is. -/
theorem Rival.exists_ne_sigma (h : Rival c d) :
    ∃ e, e ≠ 'Σ' ∧ foldChar e = foldChar c ∧ lowerChar e ≠ [c] := by
  by_cases hd : d = 'Σ'
  · have hsmall : lowerChar 'σ' = ['σ'] ∧ lowerChar 'ς' = ['ς'] := by decide +kernel
    have hfold : foldChar 'Σ' = foldChar c := by rw [← hd, h.1]
    by_cases hc : c = 'σ'
    · refine ⟨'ς', by decide, foldChar_sigma.1.trans hfold, ?_⟩
      rw [hsmall.2, hc]
      decide
    · refine ⟨'σ', by decide, foldChar_sigma.2.trans hfold, ?_⟩
      rw [hsmall.1]
      exact fun heq => hc (List.cons.inj heq).1.symm
  · exact ⟨d, hd, h.1, h.2.resolve_left hd⟩

/-- Every text can be given a border: nothing before a word character, and otherwise a letter that is
its own lower-case form and not a given character. -/
theorem exists_border (cs : List Char) (o : Option Char) :
    ∃ border, border.reverse = border ∧ startsInWord border ≠ startsInWord cs ∧
      (∀ before after, lowerBetween before after border = border) ∧ ∀ c ∈ border, o ≠ some c := by
  cases hstarts : startsInWord cs with
  | true => exact ⟨[], rfl, by decide, fun _ _ => rfl, by simp⟩
  | false =>
    obtain ⟨c, hne, -, hword, hself⟩ := exists_letter_ne o
    refine ⟨[c], rfl, ?_, hself, by simpa using hne⟩
    rw [startsInWord, hword]
    decide

theorem length_lowerBetween_of_not_mem {cs : List Char} (h : '\u0130' ∉ cs)
    (before after : List Char) : (lowerBetween before after cs).length = cs.length := by
  rw [length_lowerBetween, length_lower, List.count_eq_zero_of_not_mem h, Nat.add_zero]

/-- With another lower-case form at one place, a text is not the word in lower case. -/
theorem lowerBetween_ne {first last : List Char} (hsigma : d ≠ 'Σ') (hlower : lowerChar d ≠ [c])
    (hfirst : '\u0130' ∉ first) (hd : d ≠ '\u0130') (before after : List Char) :
    lowerBetween before after (first ++ d :: last) ≠ first ++ c :: last := by
  intro heq
  rw [lowerBetween_append, lowerBetween, if_neg hsigma] at heq
  have hrest := (List.append_inj heq (length_lowerBetween_of_not_mem hfirst _ _)).2
  rw [lowerChar, if_neg hd, List.singleton_append] at hrest
  apply hlower
  rw [lowerChar, if_neg hd, (List.cons.inj hrest).1]

/-- A word with a rival of one of its characters is somewhere a whole word and not in lower case. -/
theorem exists_wordIn_not_occursIn (hdotted : '\u0130' ∉ word) (hc : c ∈ word) (h : Rival c d) :
    ∃ text, wordIn word text = true ∧ occursIn word (lower text) = false := by
  obtain ⟨e, hsigma, hfold, hlower⟩ := h.exists_ne_sigma
  have he : e ≠ '\u0130' := by
    rintro rfl
    exact hdotted (eq_dotted_of_foldChar_eq hfold.symm ▸ hc)
  obtain ⟨first, last, rfl⟩ := List.append_of_mem hc
  rw [List.mem_append, List.mem_cons, not_or, not_or] at hdotted
  obtain ⟨hfirst, -, hlast⟩ := hdotted
  -- The rival takes the place of the character, between borders at which the word cannot begin or end.
  have hsame : sameUpToCase (first ++ c :: last) (first ++ e :: last) = true := by
    rw [sameUpToCase, beq_iff_eq, List.map_append, List.map_append, List.map_cons, List.map_cons, hfold]
  obtain ⟨front, hreverse, hstart, hfront, hhead⟩ :=
    exists_border (first ++ e :: last) (first ++ c :: last).head?
  obtain ⟨back, -, hend, hback, hfinal⟩ :=
    exists_border (first ++ e :: last).reverse (first ++ c :: last).getLast?
  refine ⟨front ++ (first ++ e :: last) ++ back, ?_, ?_⟩
  · apply wordIn_between hsame (by simp) _ hend
    rwa [hreverse]
  · rw [← Bool.not_eq_true, occursIn_iff, lower_around, hfront, hback]
    intro hinfix
    -- The word can stand only between the borders, where its place is filled by something else.
    have hcut := infix_of_infix_append_right hinfix hfinal
    have hmiddle := infix_of_infix_append_left hcut hhead
    have hfound : '\u0130' ∉ first ++ e :: last := by simp [hfirst, Ne.symm he, hlast]
    have hlength := length_lowerBetween_of_not_mem hfound front.reverse back
    refine lowerBetween_ne hsigma hlower hfirst he front.reverse back (hmiddle.eq_of_length ?_).symm
    rw [hlength, List.length_append, List.length_append, List.length_cons, List.length_cons]

end Text

namespace Expansion

variable {name trigger expansion : String} {rule : Expansion}

/-- Without word boundaries there is less to ask of a trigger. -/
theorem exists_make_substring (h : make name trigger expansion .wholeWord = .ok rule) :
    ∃ loose, make name trigger expansion .substring = .ok loose := by
  simp only [make] at h ⊢
  split at h
  · next hne =>
    have hedges : MatchMode.substring = .wholeWord → hasWordEdges (normalizeTrigger trigger) = true := by
      intro hmode
      cases hmode
    rw [dif_pos hne]
    exact ⟨_, dif_pos hedges⟩
  · cases h

/-- Where a rule for whole words fires, the rule that looks anywhere for the same trigger fires too,
unless the query has a rival of a character of the trigger. It does so on every query just if there are
no such rivals. -/
theorem fires_anywhere_iff (h : make name trigger expansion .wholeWord = .ok rule) :
    ∃ loose, make name trigger expansion .substring = .ok loose ∧
      (∀ query, rule.fires query = true → loose.fires query = true ∨
        ∃ c ∈ rule.trigger, ∃ d ∈ query.toList, Text.Rival c d) ∧
      ((∀ query, rule.fires query = true → loose.fires query = true) ↔
        ∀ c ∈ rule.trigger, ¬ ∃ d, Text.Rival c d) := by
  obtain ⟨loose, hloose⟩ := exists_make_substring h
  obtain ⟨htrigger, hmode⟩ := trigger_of_make h
  obtain ⟨htrigger', hmode'⟩ := trigger_of_make hloose
  have hfires (query : String) : rule.fires query = Text.wordIn rule.trigger query.toList := by
    rw [fires, hmode]
  have hfires' (query : String) :
      loose.fires query = Text.occursIn rule.trigger (Text.lower query.toList) := by
    rw [fires, hmode', htrigger', htrigger]
  have hquery : ∀ query, rule.fires query = true → loose.fires query = true ∨
      ∃ c ∈ rule.trigger, ∃ d ∈ query.toList, Text.Rival c d := by
    intro query hword
    by_cases hrival : ∃ c ∈ rule.trigger, ∃ d ∈ query.toList, Text.Rival c d
    · exact Or.inr hrival
    · rw [hfires] at hword
      rw [hfires']
      push Not at hrival
      exact Or.inl (Text.occursIn_of_wordIn hword hrival)
  refine ⟨loose, hloose, hquery, ?_, ?_⟩
  · rintro hall c hc ⟨d, hrival⟩
    -- The trigger is in lower case, where the one letter that grows does not occur.
    have hdotted : '\u0130' ∉ rule.trigger := by
      rw [htrigger]
      exact Text.dotted_not_mem_lowerAfter [] _
    obtain ⟨text, hword, hmissed⟩ := Text.exists_wordIn_not_occursIn hdotted hc hrival
    have hfound := hall (String.ofList text)
    rw [hfires, hfires', String.toList_ofList, hmissed] at hfound
    exact absurd (hfound hword) Bool.false_ne_true
  · intro hnone query hword
    rcases hquery query hword with hfound | ⟨c, hc, d, -, hrival⟩
    · exact hfound
    · exact absurd ⟨d, hrival⟩ (hnone c hc)

/-- The letters of the trigger have no rivals. -/
theorem fires_anywhere_of_smokeRule :
    make "smoke" " Fire" "smoke " .wholeWord = .ok smokeRule ∧
      ∃ loose, make "smoke" " Fire" "smoke " .substring = .ok loose ∧
        ∀ query, smokeRule.fires query = true → loose.fires query = true := by
  have hmake : make "smoke" " Fire" "smoke " .wholeWord = .ok smokeRule := rfl
  have hnone : ∀ c ∈ smokeRule.trigger, ¬ ∃ d, Text.Rival c d := by
    have hall : (smokeRule.trigger.all fun c => ¬ ∃ d, Text.Rival c d) = true := by decide +kernel
    intro c hc
    exact of_decide_eq_true (List.all_eq_true.1 hall c hc)
  obtain ⟨loose, hloose, -, hall⟩ := fires_anywhere_iff hmake
  exact ⟨hmake, loose, hloose, hall.2 hnone⟩

def micronRule : Expansion :=
  ⟨"micron", Text.lower "\u03BCm".toList, "micron", .wholeWord, by decide, by decide, by decide⟩

def micronsRule : Expansion := { micronRule with mode := .substring, edges := by decide }

def totalRule : Expansion := { sumRule with mode := .wholeWord, edges := by decide }

/-- The sign for a millionth folds as the Greek letter and is another character in lower case; and a
capital sigma behind a letter and a dot is a final one in lower case. -/
theorem whole_word_missed_anywhere :
    (make "micron" "\u03BCm" "micron" .wholeWord = .ok micronRule ∧
        make "micron" "\u03BCm" "micron" .substring = .ok micronsRule ∧
        micronRule.fires "5 \u00B5m" = true ∧ micronsRule.fires "5 \u00B5m" = false) ∧
      (make "sum" "Σ" "total" .wholeWord = .ok totalRule ∧
        make "sum" "Σ" "total" .substring = .ok sumRule ∧
        totalRule.fires "Α.Σ" = true ∧ sumRule.fires "Α.Σ" = false) := by
  refine ⟨⟨rfl, rfl, ?_, ?_⟩, ⟨rfl, rfl, ?_, ?_⟩⟩ <;> decide +kernel

end Expansion

end VariantSearch

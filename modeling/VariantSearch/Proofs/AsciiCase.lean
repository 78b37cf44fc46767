import VariantSearch.Proofs.ChainRuns
import VariantSearch.Proofs.Trimming

/-!
Nothing that reads a query tells an ASCII capital from its small letter.
-/

namespace VariantSearch

namespace Text

def capitals : List Char := (List.range 26).map fun i => Char.ofNat ('A'.toNat + i)

/-- Whether two texts differ at most in the case of ASCII letters. -/
def AlikeInAscii (a b : List Char) : Prop := a.map Char.toLower = b.map Char.toLower

instance (a b : List Char) : Decidable (AlikeInAscii a b) := inferInstanceAs (Decidable (_ = _))

variable {a b : List Char}

theorem toLower_eq_self {c : Char} (h : c ∉ capitals) : c.toLower = c := by
  refine dif_neg fun hcapital => h ?_
  obtain ⟨hfirst, hlast⟩ := hcapital
  -- A character between the two bounds is the capital at its distance from the first one.
  have hlow : 'A'.toNat ≤ c.toNat := hfirst
  have hhigh : c.toNat ≤ 'Z'.toNat := hlast
  refine List.mem_map.2 ⟨c.toNat - 'A'.toNat, List.mem_range.2 ?_, ?_⟩
  · have hZ : 'Z'.toNat = 'A'.toNat + 25 := rfl
    omega
  · rw [Nat.add_sub_cancel' hlow, Char.ofNat_toNat]

/-- What treats each ASCII capital as its small letter treats all characters so. -/
theorem apply_toLower {α : Type} {f : Char → α}
    (h : capitals.map (fun c => f c.toLower) = capitals.map f) (c : Char) : f c.toLower = f c := by
  by_cases hc : c ∈ capitals
  · exact List.map_inj_left.1 h c hc
  · rw [toLower_eq_self hc]

theorem isBlank_toLower (c : Char) : isBlank c.toLower = isBlank c :=
  apply_toLower (by decide +kernel) c

theorem isWordChar_toLower (c : Char) : isWordChar c.toLower = isWordChar c :=
  apply_toLower (by decide +kernel) c

theorem isCased_toLower (c : Char) : isCased c.toLower = isCased c :=
  apply_toLower (by decide +kernel) c

theorem isCaseIgnorable_toLower (c : Char) : isCaseIgnorable c.toLower = isCaseIgnorable c :=
  apply_toLower (by decide +kernel) c

theorem foldChar_toLower (c : Char) : foldChar c.toLower = foldChar c :=
  apply_toLower (by decide +kernel) c

theorem lowerChar_toLower (c : Char) : lowerChar c.toLower = lowerChar c :=
  apply_toLower (by decide +kernel) c

theorem toLower_eq_sigma_iff (c : Char) : c.toLower = 'Σ' ↔ c = 'Σ' := by
  have h : (c.toLower == 'Σ') = (c == 'Σ') :=
    apply_toLower (f := (· == 'Σ')) (by decide +kernel) c
  rw [← beq_iff_eq, h, beq_iff_eq]

theorem dropWhile_map_toLower {p : Char → Bool} (h : ∀ c : Char, p c.toLower = p c)
    (cs : List Char) : (cs.map Char.toLower).dropWhile p = (cs.dropWhile p).map Char.toLower := by
  rw [List.dropWhile_map]
  congr 2
  exact funext h

theorem casedNext_map_toLower (cs : List Char) : casedNext (cs.map Char.toLower) = casedNext cs := by
  rw [casedNext, casedNext, dropWhile_map_toLower isCaseIgnorable_toLower]
  cases cs.dropWhile isCaseIgnorable with
  | nil => rfl
  | cons c rest => exact isCased_toLower c

theorem endsWord_map_toLower (before after : List Char) :
    endsWord (before.map Char.toLower) (after.map Char.toLower) = endsWord before after := by
  rw [endsWord, endsWord, casedNext_map_toLower, casedNext_map_toLower]

theorem lowerAfter_map_toLower (before cs : List Char) :
    lowerAfter (before.map Char.toLower) (cs.map Char.toLower) = lowerAfter before cs := by
  -- A sigma looks at both sides, so the text before it varies along with the text.
  induction cs generalizing before with
  | nil => rfl
  | cons c rest ih =>
    have hrest := ih (c :: before)
    rw [List.map_cons] at hrest
    rw [List.map_cons, lowerAfter, lowerAfter, hrest, endsWord_map_toLower, lowerChar_toLower]
    simp only [toLower_eq_sigma_iff]

theorem lower_map_toLower (cs : List Char) : lower (cs.map Char.toLower) = lower cs :=
  lowerAfter_map_toLower [] cs

theorem AlikeInAscii.lower_eq (h : AlikeInAscii a b) : lower a = lower b := by
  rw [← lower_map_toLower a, h, lower_map_toLower]

theorem startsInWord_map_toLower (cs : List Char) :
    startsInWord (cs.map Char.toLower) = startsInWord cs := by
  cases cs with
  | nil => rfl
  | cons c rest => exact isWordChar_toLower c

theorem isBoundary_map_toLower (before after : List Char) :
    isBoundary (before.map Char.toLower) (after.map Char.toLower) = isBoundary before after := by
  rw [isBoundary, isBoundary, startsInWord_map_toLower, startsInWord_map_toLower]

theorem sameUpToCase_map_toLower (word found : List Char) :
    sameUpToCase word (found.map Char.toLower) = sameUpToCase word found := by
  have hfold : foldChar ∘ Char.toLower = foldChar := funext foldChar_toLower
  rw [sameUpToCase, sameUpToCase, List.map_map, hfold]

theorem wordAt_map_toLower (word before after : List Char) :
    wordAt word (before.map Char.toLower) (after.map Char.toLower) = wordAt word before after := by
  simp only [wordAt, ← List.map_take, ← List.map_drop, ← List.map_reverse, ← List.map_append,
    isBoundary_map_toLower, sameUpToCase_map_toLower]

theorem wordAfter_map_toLower (word before cs : List Char) :
    wordAfter word (before.map Char.toLower) (cs.map Char.toLower) = wordAfter word before cs := by
  induction cs generalizing before with
  | nil => exact wordAt_map_toLower word before []
  | cons c rest ih =>
    have hhere := wordAt_map_toLower word before (c :: rest)
    have hrest := ih (c :: before)
    rw [List.map_cons] at hhere hrest
    rw [List.map_cons, wordAfter, wordAfter, hhere, hrest]

theorem AlikeInAscii.wordIn_eq (h : AlikeInAscii a b) (word : List Char) :
    wordIn word a = wordIn word b := by
  have hmap (cs : List Char) : wordIn word (cs.map Char.toLower) = wordIn word cs :=
    wordAfter_map_toLower word [] cs
  rw [← hmap a, h, hmap]

theorem AlikeInAscii.append {a' b' : List Char} (h : AlikeInAscii a b) (h' : AlikeInAscii a' b') :
    AlikeInAscii (a ++ a') (b ++ b') := by
  rw [AlikeInAscii, List.map_append, List.map_append, h, h']

theorem trim_map_toLower (cs : List Char) :
    trim (cs.map Char.toLower) = (trim cs).map Char.toLower := by
  rw [trim, trimEnd, trimStart, dropWhile_map_toLower isBlank_toLower, ← List.map_reverse,
    dropWhile_map_toLower isBlank_toLower, ← List.map_reverse, trim, trimEnd, trimStart]

def Padded (core cs : List Char) : Prop :=
  ∃ before after, Blank before ∧ Blank after ∧ cs = before ++ core ++ after

theorem Padded.trim_eq {core cs : List Char} (h : Padded core cs) : trim cs = trim core := by
  obtain ⟨before, after, hbefore, hafter, rfl⟩ := h
  rw [trim_append_right hafter, trim_append_left hbefore]

/-- Texts are alike but for the blanks around them just if their trimmed forms are alike. -/
theorem exists_padded_iff :
    (∃ core core', Padded core a ∧ Padded core' b ∧ AlikeInAscii core core') ↔
      AlikeInAscii (trim a) (trim b) := by
  constructor
  · rintro ⟨core, core', ha, hb, halike⟩
    rw [ha.trim_eq, hb.trim_eq, AlikeInAscii, ← trim_map_toLower, ← trim_map_toLower, halike]
  · intro h
    exact ⟨trim a, trim b, exists_trim a, exists_trim b, h⟩

end Text

namespace Expansion

variable {query query' : String}

def SameTrigger (trigger trigger' : String) : Prop :=
  ∃ core core', Text.Padded core trigger.toList ∧ Text.Padded core' trigger'.toList ∧
    Text.AlikeInAscii core core'

instance (trigger trigger' : String) : Decidable (SameTrigger trigger trigger') :=
  decidable_of_iff' _ Text.exists_padded_iff

/-- The trigger is all that a rule keeps of the text it was made of, and it is kept in lower case. -/
theorem make_eq_of_sameTrigger {trigger trigger' : String} (h : SameTrigger trigger trigger')
    (name expansion : String) (mode : MatchMode) :
    make name trigger expansion mode = make name trigger' expansion mode := by
  have htrigger : normalizeTrigger trigger = normalizeTrigger trigger' :=
    (Text.exists_padded_iff.1 h).lower_eq
  simp only [make, htrigger]

theorem fires_eq_of_alike (h : Text.AlikeInAscii query.toList query'.toList) (rule : Expansion) :
    rule.fires query = rule.fires query' := by
  rw [fires, fires, h.lower_eq, h.wordIn_eq]

theorem apply_alike (h : Text.AlikeInAscii query.toList query'.toList) (rule : Expansion) :
    Text.AlikeInAscii (rule.apply query).toList (rule.apply query').toList := by
  simp only [apply, String.toList_append]
  exact (h.append rfl).append rfl

end Expansion

namespace Chain

/-- Each step appends the same to both texts or leaves both, so they stay alike down the chain. -/
theorem run_alike (chain : Chain) {query query' : String}
    (h : Text.AlikeInAscii query.toList query'.toList) :
    Text.AlikeInAscii (chain.run query).text.toList (chain.run query').text.toList ∧
      (chain.run query).fired = (chain.run query').fired := by
  induction chain generalizing query query' with
  | nil => exact ⟨h, rfl⟩
  | cons rule rest ih =>
    have hfires := rule.fires_eq_of_alike h
    rw [run, run, ← hfires]
    split
    · obtain ⟨htext, hfired⟩ := ih (rule.apply_alike h)
      exact ⟨htext, congrArg (rule.name :: ·) hfired⟩
    · exact ih h

/-- The case of ASCII letters is not seen. A rule does not tell queries apart that differ in nothing
else, and a chain fires the same names on them. Triggers that differ in this, or in the blanks around
them, give one rule or one refusal. -/
theorem ascii_case_unseen :
    (∀ (rule : Expansion) (query query' : String),
        Text.AlikeInAscii query.toList query'.toList → rule.fires query = rule.fires query') ∧
      (∀ (name trigger trigger' expansion : String) (mode : MatchMode),
        Expansion.SameTrigger trigger trigger' →
          Expansion.make name trigger expansion mode = Expansion.make name trigger' expansion mode) ∧
      ∀ (chain : Chain) (query query' : String), Text.AlikeInAscii query.toList query'.toList →
        (chain.run query).fired = (chain.run query').fired := by
  refine ⟨?_, ?_, ?_⟩
  · intro rule query query' h
    exact rule.fires_eq_of_alike h
  · intro name trigger trigger' expansion mode h
    exact Expansion.make_eq_of_sameTrigger h name expansion mode
  · intro chain query query' h
    exact (chain.run_alike h).2

/-- A chain does not tell two queries apart in which a capital sigma ends the word before the trigger. -/
theorem ascii_case_unseen_in_athens :
    Text.AlikeInAscii "ΑΘΗΝΑΣ Wildfire".toList "ΑΘΗΝΑΣ wILDFIRE".toList ∧
      Expansion.SameTrigger "Fire" " fIRE\n" ∧
      Expansion.make "smoke" " fIRE\n" "smoke" .wholeWord = .ok .smokeRule ∧
      Catalog.wildfire.fires "ΑΘΗΝΑΣ wILDFIRE" = true ∧
      (run [Catalog.wildfire, .smokeRule] "ΑΘΗΝΑΣ wILDFIRE").fired =
        ["wildfire-expansion", "smoke"] := by
  have halike : Text.AlikeInAscii "ΑΘΗΝΑΣ Wildfire".toList "ΑΘΗΝΑΣ wILDFIRE".toList := by decide
  have hsame : Expansion.SameTrigger "Fire" " fIRE\n" := by decide +kernel
  obtain ⟨hfires, hmake, hfired⟩ := ascii_case_unseen
  refine ⟨halike, hsame, ?_, ?_, ?_⟩
  · exact (hmake "smoke" "Fire" " fIRE\n" "smoke" .wholeWord hsame).symm
  · rw [← hfires Catalog.wildfire _ _ halike]
    decide +kernel
  · rw [← hfired [Catalog.wildfire, .smokeRule] _ _ halike]
    decide +kernel

end Chain

end VariantSearch

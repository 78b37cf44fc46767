import VariantSearch.Proofs.CaseForms
import VariantSearch.Proofs.ChainRuns
import VariantSearch.Proofs.TriggerMatching

namespace VariantSearch

namespace Text

variable {word found before after : List Char}

def endsInWord (cs : List Char) : Bool := startsInWord cs.reverse

/-- A text that stands as a word where its lower-case form is looked for: there is a word character at
both ends, and the lower-case form has as many characters. -/
structure IsAnchored (word : List Char) : Prop where
  starts : startsInWord word = true
  ends : endsInWord word = true
  undotted : '\u0130' ∉ word

theorem startsInWord_append {cs : List Char} (h : cs ≠ []) (more : List Char) :
    startsInWord (cs ++ more) = startsInWord cs := by
  cases cs with
  | nil => exact absurd rfl h
  | cons c rest => rfl

/-- A text that folds as a word is found for it where word characters begin and end with the text. -/
theorem wordIn_between (hsame : sameUpToCase word found = true) (hne : found ≠ [])
    (hstart : startsInWord before.reverse ≠ startsInWord found)
    (hend : startsInWord after ≠ startsInWord found.reverse) :
    wordIn word (before ++ found ++ after) = true := by
  have hlength := length_eq_of_sameUpToCase hsame
  have htake : (found ++ after).take word.length = found := by rw [hlength, List.take_left]
  have hdrop : (found ++ after).drop word.length = after := by rw [hlength, List.drop_left]
  have hreverse : found.reverse ≠ [] := by rwa [ne_eq, List.reverse_eq_nil_iff]
  have hfirst : isBoundary before.reverse (found ++ after) = true := by
    rw [isBoundary, startsInWord_append hne, bne_iff_ne]
    exact hstart
  have hlast : isBoundary (found.reverse ++ before.reverse) after = true := by
    rw [isBoundary, startsInWord_append hreverse, bne_iff_ne]
    exact hend.symm
  rw [wordIn, wordAfter_iff]
  refine ⟨before, found ++ after, List.append_assoc _ _ _, ?_⟩
  rw [List.append_nil]
  simp only [wordAt, htake, hdrop, hfirst, hlast, hsame, Bool.and_self]

/-- Between texts that do not run into it, an anchored text is found as a word. -/
theorem wordIn_lower_between (h : IsAnchored word) (hbefore : endsInWord before = false)
    (hafter : startsInWord after = false) :
    wordIn (lower word) (before ++ word ++ after) = true := by
  apply wordIn_between (sameUpToCase_lower h.undotted)
  · rintro rfl
    cases h.starts
  · rw [h.starts, ← endsInWord, hbefore]
    decide
  · rw [← endsInWord, h.ends, hafter]
    decide

/-- A text in which its lower-case form is found as a word is anchored. -/
theorem isAnchored_of_wordIn_lower (h : wordIn (lower word) word = true) : IsAnchored word := by
  rw [wordIn, wordAfter_iff] at h
  obtain ⟨first, last, hword, hat⟩ := h
  simp only [wordAt, Bool.and_eq_true] at hat
  obtain ⟨⟨hfirst, hsame⟩, hlast⟩ := hat
  -- There is room for the lower-case form only if it is no longer than the text, from its start on.
  have hlength := length_eq_of_sameUpToCase hsame
  have htotal := congrArg List.length hword
  rw [List.length_take, length_lower] at hlength
  rw [List.length_append] at htotal
  have hempty : first = [] := List.eq_nil_of_length_eq_zero (by omega)
  have hcount : word.count '\u0130' = 0 := by omega
  subst hempty
  obtain rfl : word = last := hword
  have htake : word.take (lower word).length = word := by
    rw [length_lower, hcount, Nat.add_zero, List.take_length]
  have hdrop : word.drop (lower word).length = [] := by
    rw [length_lower, hcount, Nat.add_zero, List.drop_length]
  rw [htake, hdrop] at hlast
  refine ⟨?_, ?_, List.count_eq_zero.1 hcount⟩
  · simpa [isBoundary, startsInWord] using hfirst
  · simpa [isBoundary, startsInWord, endsInWord] using hlast

end Text

namespace Expansion

variable {name trigger expansion : String} {rule : Expansion}

theorem trigger_of_make {mode : MatchMode} (h : make name trigger expansion mode = .ok rule) :
    rule.trigger = normalizeTrigger trigger ∧ rule.mode = mode := by
  simp only [make] at h
  split at h
  · split at h
    · obtain rfl := Except.ok.inj h
      exact ⟨rfl, rfl⟩
    · cases h
  · cases h

theorem fires_of_make (h : make name trigger expansion .wholeWord = .ok rule) (query : String) :
    rule.fires query = Text.wordIn (Text.lower (Text.trim trigger.toList)) query.toList := by
  obtain ⟨htrigger, hmode⟩ := trigger_of_make h
  rw [fires, hmode, htrigger, normalizeTrigger]

/-- A rule for whole words fires on the trimmed text of its trigger just if that text is anchored; and
then, and only then, it fires wherever this text stands between characters that are no word
characters. -/
theorem fires_on_own_trigger_iff (h : make name trigger expansion .wholeWord = .ok rule) :
    (rule.fires (Text.trimmed trigger) = true ↔ Text.IsAnchored (Text.trim trigger.toList)) ∧
      ((∀ before after : String, Text.endsInWord before.toList = false →
          Text.startsInWord after.toList = false →
            rule.fires (before ++ Text.trimmed trigger ++ after) = true) ↔
        Text.IsAnchored (Text.trim trigger.toList)) := by
  have htext : (Text.trimmed trigger).toList = Text.trim trigger.toList := String.toList_ofList
  have halone : rule.fires (Text.trimmed trigger) = true →
      Text.IsAnchored (Text.trim trigger.toList) := by
    intro hfires
    rw [fires_of_make h, htext] at hfires
    exact Text.isAnchored_of_wordIn_lower hfires
  have hbetween : Text.IsAnchored (Text.trim trigger.toList) → ∀ before after : String,
      Text.endsInWord before.toList = false → Text.startsInWord after.toList = false →
        rule.fires (before ++ Text.trimmed trigger ++ after) = true := by
    intro hanchored before after hbefore hafter
    rw [fires_of_make h, String.toList_append, String.toList_append, htext]
    exact Text.wordIn_lower_between hanchored hbefore hafter
  -- Alone, the trigger stands between two empty texts.
  have hempty (hall : ∀ before after : String, Text.endsInWord before.toList = false →
      Text.startsInWord after.toList = false →
        rule.fires (before ++ Text.trimmed trigger ++ after) = true) :
      rule.fires (Text.trimmed trigger) = true := by
    have hfires := hall "" "" rfl rfl
    rwa [String.empty_append, String.append_empty] at hfires
  constructor
  · exact ⟨halone, fun hanchored => hempty (hbetween hanchored)⟩
  · exact ⟨fun hall => halone (hempty hall), hbetween⟩

/-- The rule for a trigger with capitals and blanks around it. -/
theorem fires_on_own_trigger_of_smokeRule :
    make "smoke" " Fire" "smoke " .wholeWord = .ok smokeRule ∧
      Text.IsAnchored (Text.trim " Fire".toList) ∧
      smokeRule.fires (Text.trimmed " Fire") = true ∧
      smokeRule.fires ("the (" ++ Text.trimmed " Fire" ++ "), again") = true := by
  have hmake : make "smoke" " Fire" "smoke " .wholeWord = .ok smokeRule := rfl
  have hanchored : Text.IsAnchored (Text.trim " Fire".toList) := by
    refine ⟨?_, ?_, ?_⟩ <;> decide
  obtain ⟨halone, hbetween⟩ := fires_on_own_trigger_iff hmake
  refine ⟨hmake, hanchored, halone.2 hanchored, ?_⟩
  exact hbetween.2 hanchored "the (" "), again" (by decide) (by decide)

/-- The square of a metre is accepted as a trigger, since its last character counts as a number. -/
def areaRule : Expansion :=
  ⟨"area", "m²".toList, "square metre", .wholeWord, by decide, by decide, by decide⟩

/-- A name with a capital I with a dot, which is two characters in lower case. -/
def smyrnaRule : Expansion :=
  ⟨"smyrna", Text.lower "İzmir".toList, "smyrna", .wholeWord, by decide, by decide, by decide⟩

theorem own_trigger_missed :
    (make "area" "m²" "square metre" .wholeWord = .ok areaRule ∧
        areaRule.fires (Text.trimmed "m²") = false) ∧
      (make "smyrna" "İzmir" "smyrna" .wholeWord = .ok smyrnaRule ∧
        smyrnaRule.fires (Text.trimmed "İzmir") = false) := by
  refine ⟨⟨rfl, ?_⟩, ⟨rfl, ?_⟩⟩
  · decide +kernel
  · decide +kernel

end Expansion

end VariantSearch

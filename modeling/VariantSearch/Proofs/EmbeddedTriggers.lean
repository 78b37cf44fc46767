import VariantSearch.Proofs.OwnTriggers

/-!
Rules that look for their trigger anywhere. A capital sigma has a form that depends on its neighbours,
so what stands around a trigger may hide it.
-/

namespace VariantSearch

namespace Text

variable {word before after before' after' first last : List Char}

/-- Whether the first character that is not passed over has a case, if there is such a character. -/
def neighbour (cs : List Char) : Option Bool := (cs.find? (!isCaseIgnorable ·)).map isCased

theorem neighbour_cons (c : Char) (cs : List Char) :
    neighbour (c :: cs) = if isCaseIgnorable c then neighbour cs else some (isCased c) := by
  rw [neighbour, neighbour, List.find?_cons]
  cases isCaseIgnorable c <;> rfl

theorem neighbour_append (cs rest : List Char) :
    neighbour (cs ++ rest) = (neighbour cs).or (neighbour rest) := by
  rw [neighbour, List.find?_append, neighbour, neighbour]
  cases cs.find? (!isCaseIgnorable ·) <;> rfl

theorem casedNext_eq (cs : List Char) : casedNext cs = (neighbour cs).getD false := by
  induction cs with
  | nil => rfl
  | cons c cs ih =>
    unfold casedNext at ih ⊢
    rw [List.dropWhile_cons, neighbour_cons]
    cases isCaseIgnorable c with
    | true => exact ih
    | false => rfl

/-- Whether the neighbours that a sigma has in its own text decide about it: one before it without a
case, one behind it with a case, or one on each side. Otherwise the sigma looks past an end of the
text. -/
def decides : Option Bool → Option Bool → Bool
  | some false, _ => true
  | some true, next => next.isSome
  | none, next => next == some true

theorem endsWord_append (before after before' after' : List Char) :
    endsWord (before ++ before') (after ++ after') =
      (((neighbour before).or (neighbour before')).getD false &&
        !((neighbour after).or (neighbour after')).getD false) := by
  rw [endsWord, casedNext_eq, casedNext_eq, neighbour_append, neighbour_append]

/-- A sigma between deciding neighbours has the same form in every text around its own. -/
theorem endsWord_of_decides (h : decides (neighbour before) (neighbour after) = true)
    (before' after' : List Char) :
    endsWord (before ++ before') (after ++ after') = endsWord before after := by
  rw [endsWord_append, endsWord, casedNext_eq, casedNext_eq]
  cases hbefore : neighbour before with
  | none =>
    -- There is a cased character behind the sigma, so it is not final.
    rw [hbefore, decides, beq_iff_eq] at h
    rw [h]
    simp
  | some cased =>
    cases cased with
    | false => rfl
    | true =>
      rw [hbefore, decides, Option.isSome_iff_exists] at h
      obtain ⟨next, hafter⟩ := h
      rw [hafter]
      rfl

/-- A sigma that looks past an end of its text has another form before, or behind, a cased
character. -/
theorem endsWord_of_not_decides (h : decides (neighbour before) (neighbour after) = false)
    (hbefore : neighbour before' = some true) (hafter : neighbour after' = some true) :
    endsWord before (after ++ after') ≠ endsWord before after ∨
      endsWord (before ++ before') after ≠ endsWord before after := by
  have hend := endsWord_append before after [] after'
  have hstart := endsWord_append before after before' []
  have halone := endsWord_append before after [] []
  have hnil : neighbour [] = none := rfl
  simp only [List.append_nil] at hend hstart halone
  rw [hend, hstart, halone, hbefore, hafter, hnil]
  cases hprevious : neighbour before with
  | none =>
    -- Nothing is in sight before the sigma, and nothing with a case behind it.
    right
    rw [hprevious] at h
    rcases hnext : neighbour after with _ | _ | _
    · decide
    · decide
    · rw [hnext] at h
      exact absurd h (by decide)
  | some cased =>
    rw [hprevious] at h
    cases cased with
    | false => cases h
    | true =>
      -- The sigma stands behind a cased character, and nothing is in sight behind it.
      left
      rw [decides, Option.isSome_eq_false_iff, Option.isNone_iff_eq_none] at h
      rw [h]
      decide

/-- Where no cased character is in sight around a text, a sigma of it has the form that it has there
alone. -/
theorem endsWord_of_uncased (hbefore : casedNext before' = false) (hafter : casedNext after' = false)
    (before after : List Char) :
    endsWord (before ++ before') (after ++ after') = endsWord before after := by
  have hor (o o' : Option Bool) (h : o'.getD false = false) :
      (o.or o').getD false = o.getD false := by
    cases o with
    | none => exact h
    | some cased => rfl
  rw [casedNext_eq] at hbefore hafter
  rw [endsWord_append, hor _ _ hbefore, hor _ _ hafter, endsWord, casedNext_eq, casedNext_eq]

/-- The lower-case form that a text has where it stands between `before`, whose nearest character is
first, and `after`. -/
def lowerBetween (before after : List Char) : List Char → List Char
  | [] => []
  | c :: rest =>
    (if c = 'Σ' then [if endsWord before (rest ++ after) then 'ς' else 'σ'] else lowerChar c) ++
      lowerBetween (c :: before) after rest

theorem lowerAfter_append (before cs after : List Char) :
    lowerAfter before (cs ++ after) =
      lowerBetween before after cs ++ lowerAfter (cs.reverse ++ before) after := by
  induction cs generalizing before with
  | nil => rfl
  | cons c cs ih =>
    rw [List.cons_append, lowerAfter, lowerBetween, ih, List.append_assoc, List.reverse_cons,
      List.append_assoc]
    rfl

theorem lowerBetween_nil (before cs : List Char) :
    lowerBetween before [] cs = lowerAfter before cs := by
  have h := lowerAfter_append before cs []
  rw [List.append_nil, lowerAfter, List.append_nil] at h
  exact h.symm

theorem lowerBetween_append (before after first last : List Char) :
    lowerBetween before after (first ++ last) =
      lowerBetween before (last ++ after) first ++
        lowerBetween (first.reverse ++ before) after last := by
  induction first generalizing before with
  | nil => rfl
  | cons c first ih =>
    rw [List.cons_append, lowerBetween, lowerBetween, ih, List.append_assoc, List.append_assoc,
      List.reverse_cons, List.append_assoc]
    rfl

/-- The lower case of a text around another is put together of the lower case of its parts. -/
theorem lower_around (before word after : List Char) :
    lower (before ++ word ++ after) =
      lowerBetween [] (word ++ after) before ++ lowerBetween before.reverse after word ++
        lowerBetween (word.reverse ++ before.reverse) [] after := by
  rw [lower, List.append_assoc, lowerAfter_append, lowerAfter_append, List.append_nil, lowerBetween_nil,
    List.append_assoc]

/-- Wherever a text stands, its lower-case form has the same length. -/
theorem length_lowerBetween (before after cs : List Char) :
    (lowerBetween before after cs).length = (lower cs).length := by
  have hwhole := congrArg List.length (lowerAfter_append before cs after)
  rw [length_lowerAfter, List.length_append, List.length_append, List.count_append,
    length_lowerAfter] at hwhole
  rw [length_lower]
  omega

/-- A text has the same lower-case form at two places just if each sigma of it has. -/
theorem lowerBetween_eq_iff :
    lowerBetween before after word = lowerBetween before' after' word ↔
      ∀ first last, word = first ++ 'Σ' :: last →
        endsWord (first.reverse ++ before) (last ++ after) =
          endsWord (first.reverse ++ before') (last ++ after') := by
  constructor
  · rintro h first last rfl
    -- The forms of the part before the sigma are of the same length, so the sigmas meet.
    rw [lowerBetween_append, lowerBetween_append] at h
    have hlength : (lowerBetween before ('Σ' :: last ++ after) first).length =
        (lowerBetween before' ('Σ' :: last ++ after') first).length := by
      rw [length_lowerBetween, length_lowerBetween]
    have hrest := (List.append_inj h hlength).2
    rw [lowerBetween, lowerBetween, if_pos rfl, if_pos rfl] at hrest
    have hsigma := (List.cons.inj hrest).1
    revert hsigma
    cases endsWord (first.reverse ++ before) (last ++ after) <;>
      cases endsWord (first.reverse ++ before') (last ++ after') <;> decide
  · intro h
    induction word generalizing before before' with
    | nil => rfl
    | cons c rest ih =>
      have hrest : lowerBetween (c :: before) after rest =
          lowerBetween (c :: before') after' rest := by
        apply ih
        intro first last hword
        have hends := h (c :: first) last (congrArg (c :: ·) hword)
        rwa [List.reverse_cons, List.append_assoc, List.append_assoc] at hends
      rw [lowerBetween, lowerBetween, hrest]
      by_cases hc : c = 'Σ'
      · have hends := h [] rest (congrArg (· :: rest) hc)
        rw [List.reverse_nil, List.nil_append, List.nil_append] at hends
        rw [hends]
      · rw [if_neg hc, if_neg hc]

/-- A text has at some place the lower-case form that it has alone just if each sigma of it has. -/
theorem lowerBetween_eq_lower_iff :
    lowerBetween before after word = lower word ↔
      ∀ first last, word = first ++ 'Σ' :: last →
        endsWord (first.reverse ++ before) (last ++ after) = endsWord first.reverse last := by
  have h : lowerBetween before after word = lowerBetween [] [] word ↔ _ := lowerBetween_eq_iff
  rw [lowerBetween_nil, ← lower] at h
  simpa only [List.append_nil] using h

/-- Each capital sigma of the text finds in this text the neighbours that decide about it. -/
def SigmasDecided (word : List Char) : Prop :=
  ∀ first last, word = first ++ 'Σ' :: last →
    decides (neighbour first.reverse) (neighbour last) = true

/-- The sigmas of a text can be examined one after the other. -/
theorem sigmasDecided_iff_forall_lt :
    SigmasDecided word ↔ ∀ i < word.length, word[i]? = some 'Σ' →
      decides (neighbour (word.take i).reverse) (neighbour (word.drop (i + 1))) = true := by
  constructor
  · intro h i hi hsigma
    apply h
    rw [List.getElem?_eq_getElem hi, Option.some_inj] at hsigma
    rw [← hsigma, ← List.drop_eq_getElem_cons hi, List.take_append_drop]
  · rintro h first last rfl
    have hlt : first.length < (first ++ 'Σ' :: last).length := by
      rw [List.length_append, List.length_cons]
      omega
    have hsigma : (first ++ 'Σ' :: last)[first.length]? = some 'Σ' := by
      rw [List.getElem?_append_right (Nat.le_refl _), Nat.sub_self]
      rfl
    have hdecides := h first.length hlt hsigma
    rwa [List.take_left, List.drop_append, List.drop_eq_nil_of_le (Nat.le_succ _),
      Nat.add_sub_cancel_left] at hdecides

instance : Decidable (SigmasDecided word) := decidable_of_iff' _ sigmasDecided_iff_forall_lt

theorem lowerBetween_of_sigmasDecided (h : SigmasDecided word) (before after : List Char) :
    lowerBetween before after word = lower word :=
  lowerBetween_eq_lower_iff.2 fun first last hword =>
    endsWord_of_decides (h first last hword) before after

theorem lowerBetween_of_uncased (hbefore : casedNext before = false) (hafter : casedNext after = false)
    (word : List Char) : lowerBetween before after word = lower word :=
  lowerBetween_eq_lower_iff.2 fun first last _ =>
    endsWord_of_uncased hbefore hafter first.reverse last

section Infix

variable {needle front rest back : List Char}

/-- A text that starts with no character of the front stands behind it. -/
theorem infix_of_infix_append_left (h : needle <:+: front ++ rest)
    (hhead : ∀ c ∈ front, needle.head? ≠ some c) : needle <:+: rest := by
  induction front with
  | nil => exact h
  | cons c front ih =>
    obtain ⟨hc, hfront⟩ := List.forall_mem_cons.1 hhead
    rcases List.infix_cons_iff.1 h with hprefix | hinfix
    · cases needle with
      | nil => exact List.nil_infix
      | cons d needle =>
        obtain ⟨rfl, -⟩ := List.cons_prefix_cons.1 hprefix
        exact absurd rfl hc
    · exact ih hinfix hfront

theorem infix_of_infix_append_right (h : needle <:+: rest ++ back)
    (hlast : ∀ c ∈ back, needle.getLast? ≠ some c) : needle <:+: rest := by
  have hreverse : needle.reverse <:+: back.reverse ++ rest.reverse := by
    rw [← List.reverse_append]
    exact List.reverse_infix.2 h
  rw [← List.reverse_infix]
  apply infix_of_infix_append_left hreverse
  intro c hc
  rw [List.head?_reverse]
  exact hlast c (List.mem_reverse.1 hc)

/-- A text as long as the rest of another stands in that one only as the rest, unless it starts as
the whole. -/
theorem eq_of_infix_cons {c : Char} (h : needle <:+: c :: rest)
    (hlength : needle.length = rest.length) (hhead : needle.head? ≠ some c) : needle = rest := by
  have hinfix : needle <:+: [c] ++ rest := h
  apply (infix_of_infix_append_left hinfix ?_).eq_of_length hlength
  rwa [List.forall_mem_singleton]

theorem eq_of_infix_concat {c : Char} (h : needle <:+: rest ++ [c])
    (hlength : needle.length = rest.length) (hlast : needle.getLast? ≠ some c) : needle = rest := by
  apply (infix_of_infix_append_right h ?_).eq_of_length hlength
  rwa [List.forall_mem_singleton]

end Infix

/-- There is a cased letter that is its own lower-case form and is not a given character. -/
theorem exists_letter_ne (o : Option Char) :
    ∃ c, o ≠ some c ∧ neighbour [c] = some true ∧ isWordChar c = true ∧
      ∀ before after, lowerBetween before after [c] = [c] := by
  have ha : lowerChar 'a' = ['a'] ∧ neighbour ['a'] = some true ∧ isWordChar 'a' = true := by
    decide +kernel
  have hb : lowerChar 'b' = ['b'] ∧ neighbour ['b'] = some true ∧ isWordChar 'b' = true := by
    decide +kernel
  have hlower (c : Char) (hc : c ≠ 'Σ') (hself : lowerChar c = [c]) (before after : List Char) :
      lowerBetween before after [c] = [c] := by
    rw [lowerBetween, if_neg hc, hself]
    rfl
  by_cases h : o = some 'a'
  · exact ⟨'b', by rw [h]; decide, hb.2.1, hb.2.2, hlower 'b' (by decide) hb.1⟩
  · exact ⟨'a', h, ha.2.1, ha.2.2, hlower 'a' (by decide) ha.1⟩

/-- A text stands in lower case in every text around it just if its sigmas are decided. -/
theorem sigmasDecided_iff :
    SigmasDecided word ↔ ∀ before after, lower word <:+: lower (before ++ word ++ after) := by
  constructor
  · intro h before after
    rw [lower_around, lowerBetween_of_sigmasDecided h]
    exact ⟨_, _, rfl⟩
  · intro h first last hword
    by_contra hopen
    rw [Bool.not_eq_true] at hopen
    -- With one more character the text has only one place for its lower-case form, if that character
    -- is none at which the form starts or ends. There the sigma would have to look as it does alone.
    obtain ⟨c, hlast, hc, -, hself⟩ := exists_letter_ne (lower word).getLast?
    obtain ⟨d, hhead, hd, -, hself'⟩ := exists_letter_ne (lower word).head?
    have hbehind : lowerBetween [] [c] word = lower word := by
      have hinfix := h [] [c]
      rw [lower_around, hself] at hinfix
      exact (eq_of_infix_concat hinfix (length_lowerBetween _ _ _).symm hlast).symm
    have hfront : lowerBetween [d] [] word = lower word := by
      have hinfix := h [d] []
      rw [lower_around, hself', lowerBetween, List.append_nil] at hinfix
      exact (eq_of_infix_cons hinfix (length_lowerBetween _ _ _).symm hhead).symm
    rw [lowerBetween_eq_lower_iff] at hbehind hfront
    have hend := hbehind first last hword
    have hstart := hfront first last hword
    rw [List.append_nil] at hend hstart
    rcases endsWord_of_not_decides hopen hd hc with hmoves | hmoves
    · exact hmoves hend
    · exact hmoves hstart

end Text

namespace Expansion

variable {name trigger expansion : String} {rule : Expansion}

theorem fires_of_make_substring (h : make name trigger expansion .substring = .ok rule)
    (query : String) :
    rule.fires query = true ↔ Text.lower (Text.trim trigger.toList) <:+: Text.lower query.toList := by
  obtain ⟨htrigger, hmode⟩ := trigger_of_make h
  rw [fires, hmode, htrigger, normalizeTrigger]
  exact Text.occursIn_iff

/-- A rule that looks for its trigger anywhere fires on every query in which the trimmed text of the
trigger stands just if the sigmas of that text are decided in it. For every trigger it fires where no
cased character is in sight before that text and none behind it. -/
theorem fires_around_trigger_iff (h : make name trigger expansion .substring = .ok rule) :
    ((∀ before after : String, rule.fires (before ++ Text.trimmed trigger ++ after) = true) ↔
        Text.SigmasDecided (Text.trim trigger.toList)) ∧
      ∀ before after : String, Text.casedNext before.toList.reverse = false →
        Text.casedNext after.toList = false →
          rule.fires (before ++ Text.trimmed trigger ++ after) = true := by
  -- Both parts are about the trigger in its lower case, and the whole query in its own.
  have hfires (before after : String) :
      rule.fires (before ++ Text.trimmed trigger ++ after) = true ↔
        Text.lower (Text.trim trigger.toList) <:+:
          Text.lower (before.toList ++ Text.trim trigger.toList ++ after.toList) := by
    rw [fires_of_make_substring h, String.toList_append, String.toList_append, Text.trimmed,
      String.toList_ofList]
  constructor
  · rw [Text.sigmasDecided_iff]
    constructor
    · intro hall before after
      have hfound := (hfires (String.ofList before) (String.ofList after)).1 (hall _ _)
      rwa [String.toList_ofList, String.toList_ofList] at hfound
    · intro hall before after
      exact (hfires before after).2 (hall _ _)
  · intro before after hbefore hafter
    rw [hfires, Text.lower_around, Text.lowerBetween_of_uncased hbefore hafter]
    exact ⟨_, _, rfl⟩

def streetRule : Expansion :=
  ⟨"street", Text.lower "ΟΔΟΣ ΕΡΜΟΥ".toList, "hermes street", .substring, by decide, by decide,
    by decide⟩

theorem fires_around_trigger_of_streetRule :
    make "street" " ΟΔΟΣ ΕΡΜΟΥ" "hermes street" .substring = .ok streetRule ∧
      Text.SigmasDecided (Text.trim " ΟΔΟΣ ΕΡΜΟΥ".toList) ∧
      streetRule.fires ("ΠΕΡΙ" ++ Text.trimmed " ΟΔΟΣ ΕΡΜΟΥ" ++ "ΠΟΛΗ") = true ∧
      streetRule.fires ("(" ++ Text.trimmed " ΟΔΟΣ ΕΡΜΟΥ" ++ ")") = true := by
  have hmake : make "street" " ΟΔΟΣ ΕΡΜΟΥ" "hermes street" .substring = .ok streetRule := rfl
  have hdecided : Text.SigmasDecided (Text.trim " ΟΔΟΣ ΕΡΜΟΥ".toList) := by decide +kernel
  obtain ⟨hall, huncased⟩ := fires_around_trigger_iff hmake
  refine ⟨hmake, hdecided, hall.2 hdecided "ΠΕΡΙ" "ΠΟΛΗ", ?_⟩
  exact huncased "(" ")" (by decide +kernel) (by decide +kernel)

def lightRule : Expansion :=
  ⟨"light", Text.lower "ΦΩΣ".toList, "lamp", .substring, by decide, by decide, by decide⟩

def sumRule : Expansion :=
  ⟨"sum", Text.lower "Σ".toList, "total", .substring, by decide, by decide, by decide⟩

/-- The word for light is missed at the start of a longer word, and the sign of a sum behind a
letter. -/
theorem trigger_missed_inside :
    (make "light" "ΦΩΣ" "lamp" .substring = .ok lightRule ∧
        lightRule.fires ("" ++ Text.trimmed "ΦΩΣ" ++ "ΦΟΡΟΣ") = false) ∧
      (make "sum" "Σ" "total" .substring = .ok sumRule ∧
        sumRule.fires ("Ω" ++ Text.trimmed "Σ" ++ "") = false) := by
  refine ⟨⟨rfl, ?_⟩, ⟨rfl, ?_⟩⟩
  · decide +kernel
  · decide +kernel

end Expansion

end VariantSearch

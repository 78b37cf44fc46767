import Mathlib.Data.List.TakeWhile
import VariantSearch.Json.Parser
import VariantSearch.Json.Printer

namespace VariantSearch.Json

def Ends : Input → Prop
  | [] => True
  | c :: _ => c = some ',' ∨ c = some ']' ∨ c = some '}'

variable {rest : Input}

theorem digitsValue_natDigits (n : Nat) : digitsValue (natDigits n) = n := by
  have hstep : (fun n c => n * 10 + digitValue c) = fun n c => 10 * n + (c.toNat - '0'.toNat) := by
    funext n c
    rw [digitValue, Nat.mul_comm]
  rw [digitsValue, hstep, natDigits]
  exact Nat.ofDigitChars_ten_toDigits

theorem isDigit_of_mem_natDigits {n : Nat} {c : Char} (h : c ∈ natDigits n) : c.isDigit = true :=
  Nat.isDigit_of_mem_toDigits (by decide) (by decide) h

/-- Only zero is written with a zero in front. -/
theorem natDigits_of_pos {n : Nat} (h : 0 < n) : ∃ c more, natDigits n = c :: more ∧ c ≠ '0' := by
  induction n using Nat.strongRecOn with
  | ind n ih =>
    rw [natDigits, Nat.toDigits_eq_if (by decide)]
    split
    · exact ⟨n.digitChar, [], rfl, fun hc => Nat.ne_of_gt h (Nat.digitChar_eq_zero.1 hc)⟩
    · next hn =>
      obtain ⟨c, more, hdigits, hc⟩ := ih (n / 10) (by omega) (by omega)
      rw [natDigits] at hdigits
      exact ⟨c, more ++ [(n % 10).digitChar], by rw [hdigits, List.cons_append], hc⟩

/-- What may follow a value is no digit. -/
theorem takeWhile_isDigit_of_ends (hrest : Ends rest) :
    rest.takeWhile isDigit = [] ∧ rest.dropWhile isDigit = rest := by
  cases rest with
  | nil => exact ⟨rfl, rfl⟩
  | cons c rest => rcases hrest with rfl | rfl | rfl <;> exact ⟨rfl, rfl⟩

theorem digits_append_of_ends (hrest : Ends rest) (input : Input) :
    digits (input ++ rest) = ((digits input).1, (digits input).2 ++ rest) := by
  obtain ⟨hnone, hwhole⟩ := takeWhile_isDigit_of_ends hrest
  have htake : (input ++ rest).takeWhile isDigit = input.takeWhile isDigit := by
    rw [List.takeWhile_append, hnone, List.append_nil]
    split
    · next hall => exact ((List.takeWhile_prefix isDigit).eq_of_length hall).symm
    · rfl
  have hdrop : (input ++ rest).dropWhile isDigit = input.dropWhile isDigit ++ rest := by
    rw [List.dropWhile_append]
    split
    · next hnil => rw [hwhole, List.isEmpty_iff.1 hnil, List.nil_append]
    · rfl
  rw [digits, digits, htake, hdrop]

theorem digits_append {ds : List Char} (h : ∀ c ∈ ds, c.isDigit = true) (hrest : Ends rest) :
    digits (ds.map some ++ rest) = (ds, rest) := by
  have hds : ∀ c ∈ ds.map some, isDigit c = true := by
    intro c hc
    obtain ⟨d, hd, rfl⟩ := List.mem_map.1 hc
    exact h d hd
  have hwhole : digits (ds.map some) = (ds, []) := by
    rw [digits, List.takeWhile_eq_self_iff.2 hds, List.dropWhile_eq_nil_iff.2 hds,
      List.filterMap_map]
    exact congrArg (·, []) List.filterMap_some
  rw [digits_append_of_ends hrest, hwhole]
  rfl

theorem wholeDigits?_natDigits (n : Nat) (hrest : Ends rest) :
    wholeDigits? ((natDigits n).map some ++ rest) = some (natDigits n, rest) := by
  rw [wholeDigits?, digits_append (fun c => isDigit_of_mem_natDigits) hrest]
  rcases Nat.eq_zero_or_pos n with rfl | hn
  · rfl
  · obtain ⟨c, more, hdigits, hc⟩ := natDigits_of_pos hn
    rw [hdigits]
    split
    · next heq => cases heq
    · next heq => cases heq; exact absurd rfl hc
    · next heq => cases heq; exact absurd rfl hc
    · next heq => cases heq; rfl

theorem fraction?_of_ends (hrest : Ends rest) : fraction? rest = some ([], rest) := by
  cases rest with
  | nil => rfl
  | cons c rest => rcases hrest with rfl | rfl | rfl <;> rfl

theorem exponent?_of_ends (hrest : Ends rest) : exponent? rest = some (none, rest) := by
  cases rest with
  | nil => rfl
  | cons c rest => rcases hrest with rfl | rfl | rfl <;> rfl

theorem number?_natDigits (negative : Bool) (n : Nat) (hrest : Ends rest) :
    number? negative ((natDigits n).map some ++ rest) =
      some (⟨negative, natDigits n, [], none⟩, rest) := by
  simp only [number?, wholeDigits?_natDigits n hrest, fraction?_of_ends hrest,
    exponent?_of_ends hrest, Option.bind_eq_bind, Option.bind_some, Option.pure_def]

def Fits (n : Int) : Prop := -0x8000000000000000 ≤ n ∧ n < 0x10000000000000000

/-- An integer has the value of its digits. A negative one is not zero, so its sign is no part of a
binary64 number. -/
theorem toJson?_natDigits {n : Int} (h : Fits n) :
    NumberLiteral.toJson? ⟨decide (n < 0), natDigits n.natAbs, [], none⟩ = some (.integer n) := by
  obtain ⟨hlow, hhigh⟩ := h
  have hsize : UInt64.size = 0x10000000000000000 := rfl
  unfold NumberLiteral.toJson?
  dsimp only
  rw [digitsValue_natDigits]
  -- The two signs are read by different paths, and the negative one reaches one further.
  by_cases hn : n < 0
  · have hvalue : -(n.natAbs : Int) = n := by omega
    have hpos : 0 < n.natAbs := by omega
    have hbound : n.natAbs ≤ UInt64.size / 2 := by omega
    have hwhole : NumberLiteral.isWhole ⟨decide (n < 0), natDigits n.natAbs, [], none⟩ = true := rfl
    rw [hwhole, decide_eq_true hn, decide_eq_true hpos, decide_eq_true hbound, hvalue]
    rfl
  · have hvalue : (n.natAbs : Int) = n := by omega
    have hbound : n.natAbs < UInt64.size := by omega
    have hwhole : NumberLiteral.isWhole ⟨decide (n < 0), natDigits n.natAbs, [], none⟩ = true := rfl
    rw [hwhole, decide_eq_false hn, decide_eq_true hbound, hvalue]
    rfl

/-- What a reader takes from the front of its input does not depend on what follows the value, and it
leaves the end of the input. -/
def IsLocal {α : Type} (read? : Input → Option (α × Input)) : Prop :=
  ∀ {input left : Input} {a : α}, read? input = some (a, left) →
    left <:+ input ∧ ∀ {rest : Input}, Ends rest → read? (input ++ rest) = some (a, left ++ rest)

theorem digits_suffix (input : Input) : (digits input).2 <:+ input := List.dropWhile_suffix isDigit

theorem isLocal_wholeDigits? : IsLocal wholeDigits? := by
  intro input left ds h
  have hsuffix := digits_suffix input
  rw [wholeDigits?] at h
  constructor
  · generalize digits input = found at h hsuffix
    split at h <;> simp_all
  · intro rest hrest
    rw [wholeDigits?, digits_append_of_ends hrest]
    generalize digits input = found at h
    split at h <;> simp_all

theorem isLocal_exponentDigits? (negative : Bool) : IsLocal (exponentDigits? negative) := by
  intro input left e h
  have hsuffix := digits_suffix input
  rw [exponentDigits?] at h
  constructor
  · generalize digits input = found at h hsuffix
    split at h <;> simp_all
  · intro rest hrest
    rw [exponentDigits?, digits_append_of_ends hrest]
    generalize digits input = found at h
    split at h <;> simp_all

theorem isLocal_fraction? : IsLocal fraction? := by
  intro input left ds h
  unfold fraction? at h
  split at h
  · next input =>
    have hsuffix := digits_suffix input
    constructor
    · generalize digits input = found at h hsuffix
      split at h
      · cases h
      · cases h
        exact hsuffix.trans (List.suffix_cons _ _)
    · intro rest hrest
      rw [List.cons_append, fraction?, digits_append_of_ends hrest]
      generalize digits input = found at h
      split at h <;> simp_all
  · next hpoint =>
    cases h
    -- Without a point there is no fraction, and what follows a value does not start with one.
    refine ⟨List.suffix_rfl, fun {rest} hrest => ?_⟩
    cases input with
    | nil => exact fraction?_of_ends hrest
    | cons c input =>
      rw [fraction?]
      intro more heq
      exact hpoint input (by rw [(List.cons.inj heq).1])

def afterLetter? : Input → Option (Option (Bool × List Char) × Input)
  | some '+' :: rest => exponentDigits? false rest
  | some '-' :: rest => exponentDigits? true rest
  | rest => exponentDigits? false rest

theorem exponent?_letter {c : Char} (hc : c = 'e' ∨ c = 'E') (input : Input) :
    exponent? (some c :: input) = afterLetter? input := by
  unfold exponent? afterLetter?
  simp only [if_pos hc]
  rfl

theorem exponent?_of_ne {c : Char} (hc : ¬ (c = 'e' ∨ c = 'E')) (input : Input) :
    exponent? (some c :: input) = some (none, some c :: input) := by
  unfold exponent?
  simp only [if_neg hc]

theorem isLocal_afterLetter? : IsLocal afterLetter? := by
  intro input left e h
  unfold afterLetter? at h
  split at h
  · next input =>
    obtain ⟨hleft, hmore⟩ := isLocal_exponentDigits? false h
    exact ⟨hleft.trans (List.suffix_cons _ _), hmore⟩
  · next input =>
    obtain ⟨hleft, hmore⟩ := isLocal_exponentDigits? true h
    exact ⟨hleft.trans (List.suffix_cons _ _), hmore⟩
  · next hplus hminus =>
    obtain ⟨hleft, hmore⟩ := isLocal_exponentDigits? false h
    refine ⟨hleft, fun {rest} hrest => ?_⟩
    cases input with
    | nil => cases h
    | cons c input =>
      -- The digits start here, so this is no sign either way.
      rw [afterLetter?, hmore hrest]
      · rintro more heq
        exact hplus input (by rw [(List.cons.inj heq).1])
      · rintro more heq
        exact hminus input (by rw [(List.cons.inj heq).1])

theorem isLocal_exponent? : IsLocal exponent? := by
  intro input left e h
  match input with
  | [] =>
    cases h
    exact ⟨List.suffix_rfl, exponent?_of_ends⟩
  | none :: input =>
    cases h
    exact ⟨List.suffix_rfl, fun _ => rfl⟩
  | some c :: input =>
    by_cases hc : c = 'e' ∨ c = 'E'
    · rw [exponent?_letter hc] at h
      obtain ⟨hleft, hmore⟩ := isLocal_afterLetter? h
      refine ⟨hleft.trans (List.suffix_cons _ _), fun {rest} hrest => ?_⟩
      rw [List.cons_append, exponent?_letter hc, hmore hrest]
    · rw [exponent?_of_ne hc] at h
      cases h
      refine ⟨List.suffix_rfl, fun {rest} _ => ?_⟩
      rw [List.cons_append, exponent?_of_ne hc]

theorem isLocal_number? (negative : Bool) : IsLocal (number? negative) := by
  intro input left l h
  simp only [number?, Option.bind_eq_bind, Option.bind_eq_some_iff, Option.pure_def,
    Option.some.injEq] at h
  obtain ⟨⟨whole, afterWhole⟩, hwhole, ⟨fraction, afterFraction⟩, hfraction,
    ⟨exponent, afterExponent⟩, hexponent, heq⟩ := h
  cases heq
  obtain ⟨hleft, hwhole'⟩ := isLocal_wholeDigits? hwhole
  obtain ⟨hleft', hfraction'⟩ := isLocal_fraction? hfraction
  obtain ⟨hleft'', hexponent'⟩ := isLocal_exponent? hexponent
  refine ⟨hleft''.trans (hleft'.trans hleft), fun {rest} hrest => ?_⟩
  simp only [number?, hwhole' hrest, hfraction' hrest, hexponent' hrest, Option.bind_eq_bind,
    Option.bind_some, Option.pure_def]

theorem hexUnit?_hexDigit : ∀ n < 0x20,
    hexUnit? (some '0') (some '0') (some (hexDigit (n / 16))) (some (hexDigit (n % 16))) = some n := by
  decide

/-- The code of a control character is no half of a pair. -/
theorem partsText?_unit {n : Nat} (h : n < 0x20) (parts : List StringPart) :
    partsText? (.unit n :: parts) = (partsText? parts).map (Char.ofNat n :: ·) := by
  have hhigh : isHighSurrogate n = false := by
    simp only [isHighSurrogate, Bool.and_eq_false_iff, decide_eq_false_iff_not]
    omega
  have hlow : isLowSurrogate n = false := by
    simp only [isLowSurrogate, Bool.and_eq_false_iff, decide_eq_false_iff_not]
    omega
  cases parts with
  | nil => simp [partsText?, hhigh, hlow]
  | cons part parts => cases part <;> simp [partsText?, hhigh, hlow]

theorem partsText?_char (c : Char) (parts : List StringPart) :
    partsText? (.char (some c) :: parts) = (partsText? parts).map (c :: ·) := by
  rw [partsText?]
  cases partsText? parts <;> rfl

theorem stringParts_cons {c : Char} (hquote : c ≠ '"') (hback : c ≠ '\\') (hc : ¬ c < ' ')
    (input : Input) :
    stringParts (some c :: input) =
      (stringParts input).map fun (parts, after) => (.char (some c) :: parts, after) := by
  rw [stringParts]
  · simp [hc]
  · simpa using hquote
  all_goals simp_all

theorem stringParts_escape {e c : Char} (he : unescape? e = some c) (hu : e ≠ 'u') (input : Input) :
    stringParts (some '\\' :: some e :: input) =
      (stringParts input).map fun (parts, after) => (.char (some c) :: parts, after) := by
  rw [stringParts, he]
  intro a b c d rest _ heq
  exact hu heq

theorem stringParts_unit {n : Nat} (h : n < 0x20) (input : Input) :
    stringParts (['\\', 'u', '0', '0', hexDigit (n / 16), hexDigit (n % 16)].map some ++ input) =
      (stringParts input).map fun (parts, after) => (.unit n :: parts, after) := by
  simp only [List.map_cons, List.map_nil, List.cons_append, List.nil_append]
  rw [stringParts, hexUnit?_hexDigit n h]

/-- A character is written as a backslash and a letter, as its code, or as itself. -/
theorem escapeChar_cases (c : Char) :
    (∃ e, unescape? e = some c ∧ e ≠ 'u' ∧ escapeChar c = ['\\', e]) ∨
      (c.toNat < 0x20 ∧
        escapeChar c = ['\\', 'u', '0', '0', hexDigit (c.toNat / 16), hexDigit (c.toNat % 16)]) ∨
      (c ≠ '"' ∧ c ≠ '\\' ∧ ¬ c < ' ' ∧ escapeChar c = [c]) := by
  by_cases hletter : c ∈ ['"', '\\', '\x08', '\x0c', '\n', '\r', '\t']
  · -- These have a letter of their own, which is never the one in front of a code.
    have hescape : ∃ e, escapeChar c = ['\\', e] ∧ unescape? e = some c ∧ e ≠ 'u' := by
      simp only [List.mem_cons, List.not_mem_nil, or_false] at hletter
      rcases hletter with rfl | rfl | rfl | rfl | rfl | rfl | rfl
      all_goals exact ⟨_, rfl, rfl, by decide⟩
    obtain ⟨e, htext, he, hu⟩ := hescape
    exact Or.inl ⟨e, he, hu, htext⟩
  · simp only [List.mem_cons, List.not_mem_nil, or_false, not_or] at hletter
    by_cases hlt : c < ' '
    · exact Or.inr (Or.inl ⟨hlt, by simp only [escapeChar, hletter, hlt, if_true, if_false]⟩)
    · exact Or.inr (Or.inr ⟨hletter.1, hletter.2.1, hlt,
        by simp only [escapeChar, hletter, hlt, if_false]⟩)

/-- What is written for a character is read as one part, which stands for that character. -/
theorem exists_part (c : Char) :
    ∃ part, (∀ input, stringParts ((escapeChar c).map some ++ input) =
        (stringParts input).map fun (parts, after) => (part :: parts, after)) ∧
      ∀ parts, partsText? (part :: parts) = (partsText? parts).map (c :: ·) := by
  rcases escapeChar_cases c with ⟨e, he, hu, htext⟩ | ⟨hlt, htext⟩ | ⟨hquote, hback, hlt, htext⟩
  · rw [htext]
    exact ⟨.char (some c), stringParts_escape he hu, partsText?_char c⟩
  · rw [htext]
    refine ⟨.unit c.toNat, stringParts_unit hlt, fun parts => ?_⟩
    rw [partsText?_unit hlt, Char.ofNat_toNat]
  · rw [htext]
    exact ⟨.char (some c), stringParts_cons hquote hback hlt, partsText?_char c⟩

theorem exists_parts (cs : List Char) (rest : Input) :
    ∃ parts, stringParts ((cs.flatMap escapeChar).map some ++ some '"' :: rest) =
        some (parts, rest) ∧ partsText? parts = some cs := by
  induction cs with
  | nil => exact ⟨[], rfl, rfl⟩
  | cons c cs ih =>
    obtain ⟨parts, hparts, htext⟩ := ih
    obtain ⟨part, hpart, hchar⟩ := exists_part c
    refine ⟨part :: parts, ?_, ?_⟩
    · rw [List.flatMap_cons, List.map_append, List.append_assoc, hpart, hparts, Option.map_some]
    · rw [hchar, htext, Option.map_some]

/-- A string is read back from what stands behind its opening quote. -/
theorem string?_quoted (s : String) (rest : Input) :
    string? ((s.toList.flatMap escapeChar ++ ['"']).map some ++ rest) = some (some s.toList, rest) := by
  obtain ⟨parts, hparts, htext⟩ := exists_parts s.toList rest
  have hinput : (s.toList.flatMap escapeChar ++ ['"']).map some ++ rest =
      (s.toList.flatMap escapeChar).map some ++ some '"' :: rest := by
    rw [List.map_append, List.append_assoc]
    rfl
  rw [hinput, string?, hparts]
  exact congrArg (fun content => some (content, rest)) htext

end VariantSearch.Json

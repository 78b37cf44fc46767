import VariantSearch.CommandLine
import VariantSearch.Proofs.JsonText

namespace VariantSearch

namespace Web.Form

open Text

theorem isPlain_digit : ∀ n < 16, isPlain (Percent.digit n) = true := by decide

theorem mem_escapeByte {b : UInt8} {c : Char} (h : c ∈ Percent.escapeByte b) :
    c = '%' ∨ isPlain c = true := by
  have hb : b.toNat < 256 := b.toNat_lt
  simp only [Percent.escapeByte, List.mem_cons, List.not_mem_nil, or_false] at h
  rcases h with rfl | rfl | rfl
  · exact Or.inl rfl
  · exact Or.inr (isPlain_digit _ (by omega))
  · exact Or.inr (isPlain_digit _ (by omega))

def written (c : Char) : List Char := Percent.encode isPlain [c]

/-- It holds no marks but percent signs. -/
theorem mem_written {c d : Char} (h : d ∈ written c) : d = '%' ∨ isPlain d = true := by
  by_cases hc : isPlain c = true
  · rw [written, Percent.encode_cons_of_kept hc] at h
    exact Or.inr (List.mem_singleton.1 h ▸ hc)
  · rw [written, Percent.encode_cons_of_not_kept hc] at h
    obtain ⟨b, -, hd⟩ := List.mem_flatMap.1 ((List.append_nil _).symm ▸ h)
    exact mem_escapeByte hd

/-- No text is written with any of the marks between names, values and pairs. -/
theorem not_mem_encode {s : String} {d : Char} (hplus : d ≠ '+') (hpercent : d ≠ '%')
    (hplain : isPlain d = false) : d ∉ encode s := by
  intro h
  obtain ⟨c, -, hd⟩ := List.mem_flatMap.1 h
  split at hd
  · exact hplus (List.mem_singleton.1 hd)
  · rcases mem_written hd with hd | hd
    · exact hpercent hd
    · exact ne_of_test hd hplain rfl

def isPlainOrBlank (c : Char) : Bool := isPlain c || c == ' '

/-- Plus signs stand for blanks only, so with blanks for them a text is written with escapes. -/
theorem map_encode (s : String) :
    (encode s).map (fun c => if c = '+' then ' ' else c) = Percent.encode isPlainOrBlank s.toList := by
  rw [encode, List.map_flatMap, Percent.encode]
  refine List.flatMap_congr fun c _ => ?_
  by_cases hblank : c = ' '
  · subst hblank
    rfl
  -- Escapes hold no plus sign, so nothing in them is read as a blank.
  have hplus : (written c).map (fun d => if d = '+' then ' ' else d) = written c := by
    refine (List.map_congr_left fun d hd => if_neg ?_).trans (List.map_id _)
    rintro rfl
    rcases mem_written hd with h | h <;> revert h <;> decide
  have hplain : isPlainOrBlank c = isPlain c := by simp [isPlainOrBlank, hblank]
  rw [if_neg hblank, hplain]
  exact hplus.trans (List.append_nil _)

/-- A text is read back from its written form. -/
theorem decode_encode (s : String) : decode (encode s) = s := by
  have hbytes : Percent.decodeText (Percent.encode isPlainOrBlank s.toList) =
      Utf8.encode s.toList := Percent.decodeText_encode (by decide) s.toList
  have hlossy : Utf8.decodeLossy (Utf8.encode s.toList) = s.toList := by
    rw [Utf8.decodeLossy, Utf8.decode_encode, List.map_map]
    exact List.map_id s.toList
  calc decode (encode s)
      = String.ofList (Utf8.decodeLossy
          (Percent.decodeText (Percent.encode isPlainOrBlank s.toList))) := by
        rw [decode, map_encode]
    _ = String.ofList s.toList := by rw [hbytes, hlossy]
    _ = s := String.ofList_toList

theorem pairOf_encodePair (pair : String × String) : pairOf (encodePair pair) = pair := by
  have hname : '=' ∉ encode pair.1 := not_mem_encode (by decide) (by decide) (by decide)
  rw [pairOf, encodePair, cutFirst?_append hname]
  dsimp only
  rw [decode_encode, decode_encode]

theorem not_mem_encodePair (pair : String × String) : '&' ∉ encodePair pair := by
  intro h
  rcases List.mem_append.1 h with h | h
  · exact not_mem_encode (by decide) (by decide) (by decide) h
  · rcases List.mem_cons.1 h with h | h
    · cases h
    · exact not_mem_encode (by decide) (by decide) (by decide) h

/-- Pairs are read back from the form in which they are sent. -/
theorem decodePairs_encodePairs (pairs : List (String × String)) :
    decodePairs (encodePairs pairs) = pairs := by
  cases pairs with
  | nil => rfl
  | cons first more =>
    have hpieces : pieces '&' (encodePairs (first :: more)) = (first :: more).map encodePair := by
      refine pieces_joined (List.cons_ne_nil _ _) fun piece hpiece => ?_
      obtain ⟨pair, -, rfl⟩ := List.mem_map.1 hpiece
      exact not_mem_encodePair pair
    -- An encoded pair has its equals sign, so none is left out as empty.
    have hfilter : ((first :: more).map encodePair).filter (!·.isEmpty) =
        (first :: more).map encodePair := by
      refine List.filter_eq_self.2 fun piece hpiece => ?_
      obtain ⟨pair, -, rfl⟩ := List.mem_map.1 hpiece
      simp [encodePair]
    calc decodePairs (encodePairs (first :: more))
        = ((first :: more).map encodePair).map pairOf := by rw [decodePairs, hpieces, hfilter]
      _ = (first :: more).map (pairOf ∘ encodePair) := List.map_map
      _ = (first :: more).map id := List.map_congr_left fun pair _ => pairOf_encodePair pair
      _ = first :: more := List.map_id _

/-- Marks of a form inside of a value are written as escapes, a blank as a plus sign. -/
example : encodePairs [("q", "a b&c=d+e"), ("sort", "")] = "q=a+b%26c%3Dd%2Be&sort=".toList := by
  decide +kernel

end Web.Form

namespace Text.Integer

/-- Digits are read to the number that they form, if that is within the bound. -/
theorem readDigits_eq_ok {bound n : Nat} {beyond : Fault} {digits : List Char}
    (hdigits : ∀ c ∈ digits, c.isDigit = true) (h : Nat.ofDigitChars 10 digits n ≤ bound) :
    readDigits bound beyond n digits = .ok (Nat.ofDigitChars 10 digits n) := by
  induction digits generalizing n with
  | nil => rfl
  | cons c rest ih =>
    -- More digits make the number no smaller, so the bound holds on the way.
    have hgrows (m : Nat) : m ≤ Nat.ofDigitChars 10 rest m := by
      have hpos : 0 < 10 ^ rest.length := Nat.pow_pos (by decide)
      calc m ≤ 10 ^ rest.length * m := Nat.le_mul_of_pos_left m hpos
        _ ≤ 10 ^ rest.length * m + Nat.ofDigitChars 10 rest 0 := Nat.le_add_right _ _
        _ = Nat.ofDigitChars 10 rest m := Nat.ofDigitChars_eq_ofDigitChars_zero.symm
    rw [Nat.ofDigitChars_cons, Nat.mul_comm] at h ⊢
    rw [readDigits, if_pos (hdigits c List.mem_cons_self)]
    dsimp only
    rw [if_pos (Nat.le_trans (hgrows _) h), ih (fun d hd => hdigits d (List.mem_cons_of_mem c hd)) h]

theorem readDigits_toDigits {bound n : Nat} (beyond : Fault) (h : n ≤ bound) :
    readDigits bound beyond 0 (Nat.toDigits 10 n) = .ok n := by
  have hvalue : Nat.ofDigitChars 10 (Nat.toDigits 10 n) 0 = n := Nat.ofDigitChars_ten_toDigits
  have hdigits : ∀ c ∈ Nat.toDigits 10 n, c.isDigit = true := fun c =>
    Json.isDigit_of_mem_natDigits
  rw [readDigits_eq_ok hdigits (hvalue.symm ▸ h), hvalue]

/-- A text that starts with a digit has no sign. -/
theorem parse_of_isDigit {c : Char} (hc : c.isDigit = true) (rest : List Char) :
    parse (c :: rest) = readPositive (c :: rest) := by
  unfold parse
  split
  · next heq => cases heq
  · next heq => cases heq; cases hc
  · next heq => cases heq; cases hc
  · next heq => cases heq; cases hc
  · next heq => cases heq; cases hc
  · rfl

/-- An integer of 64 bits is read back from its text. -/
theorem parse_toString {n : Int} (h : Word.fits n = true) : parse (toString n).toList = .ok n := by
  obtain ⟨hleast, hgreatest⟩ := of_decide_eq_true h
  rw [Int.toString_eq_repr]
  cases n with
  | ofNat m =>
    obtain ⟨c, rest, hdigits, hc⟩ := Json.exists_natDigits_cons m
    rw [Json.natDigits] at hdigits
    have hbound : m ≤ Word.greatest.natAbs := by
      change (m : Int) ≤ 0x7FFFFFFFFFFFFFFF at hgreatest
      change m ≤ 0x7FFFFFFFFFFFFFFF
      omega
    have hread := readDigits_toDigits .tooLarge hbound
    change parse m.repr.toList = _
    rw [Nat.toList_repr]
    rw [hdigits] at hread ⊢
    rw [parse_of_isDigit hc, readPositive, hread]
    rfl
  -- Below zero the digits count down, and one number more is in range.
  | negSucc m =>
    obtain ⟨c, rest, hdigits, hc⟩ := Json.exists_natDigits_cons (m + 1)
    rw [Json.natDigits] at hdigits
    have hbound : m + 1 ≤ Word.least.natAbs := by
      change -0x8000000000000000 ≤ Int.negSucc m at hleast
      change m + 1 ≤ 0x8000000000000000
      omega
    have hread := readDigits_toDigits .tooSmall hbound
    change parse ("-" ++ (m + 1).repr).toList = _
    rw [String.toList_append, Nat.toList_repr]
    rw [hdigits] at hread ⊢
    change readNegative (c :: rest) = _
    rw [readNegative, hread]
    rfl

end Text.Integer

namespace CommandLine

/-- The service reads what the client was given: an option that is absent stays absent, and one that
is empty stays empty. -/
theorem ofQuery_searchPairs (query : String) (facets sort : Option String) {page limit : Int}
    (hpage : Word.fits page = true) (hlimit : Word.fits limit = true) :
    SearchParameters.ofQuery (Web.Form.encodePairs (searchPairs query facets sort page limit)) =
      .ok ⟨query, facets, sort, page, limit⟩ := by
  have hread {n : Int} (h : Word.fits n = true) :
      SearchParameters.integerOf (toString n) = .ok n := by
    rw [SearchParameters.integerOf, Text.Integer.parse_toString h]
    rfl
  -- The pairs that are always sent are read first, whatever the texts in them are.
  have hnumbers : [("q", query), ("page", toString page), ("limit", toString limit)].foldlM
      SearchParameters.readPair ⟨none, none, none, none, none⟩ =
        .ok ⟨some query, none, none, some page, some limit⟩ := by
    have hq : SearchParameters.readPair ⟨none, none, none, none, none⟩ ("q", query) =
        .ok ⟨some query, none, none, none, none⟩ := rfl
    have hp : SearchParameters.readPair ⟨some query, none, none, none, none⟩
        ("page", toString page) = .ok ⟨some query, none, none, some page, none⟩ := by
      change (SearchParameters.integerOf (toString page)).map _ = _
      rw [hread hpage]
      rfl
    have hl : SearchParameters.readPair ⟨some query, none, none, some page, none⟩
        ("limit", toString limit) = .ok ⟨some query, none, none, some page, some limit⟩ := by
      change (SearchParameters.integerOf (toString limit)).map _ = _
      rw [hread hlimit]
      rfl
    rw [List.foldlM_cons, hq]
    change List.foldlM _ _ _ = _
    rw [List.foldlM_cons, hp]
    change List.foldlM _ _ _ = _
    rw [List.foldlM_cons, hl]
    rfl
  rw [SearchParameters.ofQuery, Web.Form.decodePairs_encodePairs, SearchParameters.ofPairs,
    searchPairs, List.append_assoc, List.foldlM_append, hnumbers]
  cases facets <;> cases sort <;> rfl

end CommandLine

end VariantSearch

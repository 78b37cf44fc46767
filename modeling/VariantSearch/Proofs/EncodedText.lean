import VariantSearch.Proofs.ByteOrder
import VariantSearch.Proofs.Traversal
import VariantSearch.Router

namespace VariantSearch

/-- A test that one character passes and another one fails tells them apart. -/
theorem ne_of_test {test : Char → Bool} {c d : Char} (hc : test c = true) (hd : test d = false) :
    c ≠ d := by
  rintro rfl
  rw [hc] at hd
  cases hd

namespace Text.Utf8

theorem toNat_toUInt8 {n : Nat} (h : n < 256) : n.toUInt8.toNat = n := Nat.mod_eq_of_lt h

/-- A byte that goes on with a character adds six bits to it. -/
theorem decodeFrom_some {missing bits lo hi k : Nat} (hlo : lo ≤ 0x80 + k) (hhi : 0x80 + k ≤ hi)
    (hk : k < 0x40) (rest : List UInt8) :
    decodeFrom (some ⟨missing, bits, lo, hi⟩) ((0x80 + k).toUInt8 :: rest) =
      if missing ≤ 1 then some (Char.ofNat (bits * 0x40 + k)) :: decodeFrom none rest
      else decodeFrom (some ⟨missing - 1, bits * 0x40 + k, 0x80, 0xBF⟩) rest := by
  have hbyte : (0x80 + k).toUInt8.toNat = 0x80 + k := toNat_toUInt8 (by omega)
  rw [decodeFrom, hbyte, if_pos ⟨hlo, hhi⟩, Nat.add_sub_cancel_left]

theorem decodeFrom_one {n : Nat} (h : n < 0x80) (rest : List UInt8) :
    decodeFrom none (n.toUInt8 :: rest) = some (Char.ofNat n) :: decodeFrom none rest := by
  rw [decodeFrom, toNat_toUInt8 (by omega), lead, if_pos h]
  rfl

theorem decodeFrom_two {n : Nat} (h : 0x80 ≤ n) (h' : n < 0x800) (rest : List UInt8) :
    decodeFrom none ((0xC0 + n / 0x40).toUInt8 :: (0x80 + n % 0x40).toUInt8 :: rest) =
      some (Char.ofNat n) :: decodeFrom none rest := by
  have hlead : lead (0xC0 + n / 0x40) = ([], some ⟨1, n / 0x40, 0x80, 0xBF⟩) := by
    rw [lead, if_neg (by omega), if_neg (by omega), if_pos (by omega), Nat.add_sub_cancel_left]
  have hbits : n / 0x40 * 0x40 + n % 0x40 = n := by omega
  rw [decodeFrom, toNat_toUInt8 (by omega), hlead]
  dsimp only
  rw [List.nil_append, decodeFrom_some (by omega) (by omega) (by omega), if_pos (by omega), hbits]

/-- The second byte keeps out what fits into two bytes, and the surrogates. -/
theorem decodeFrom_three {n : Nat} (h : 0x800 ≤ n) (h' : n < 0x10000)
    (hvalid : n < 0xD800 ∨ 0xDFFF < n) (rest : List UInt8) :
    decodeFrom none ((0xE0 + n / 0x1000).toUInt8 :: (0x80 + n / 0x40 % 0x40).toUInt8 ::
        (0x80 + n % 0x40).toUInt8 :: rest) =
      some (Char.ofNat n) :: decodeFrom none rest := by
  have hlead : lead (0xE0 + n / 0x1000) = ([], some ⟨2, n / 0x1000,
      if 0xE0 + n / 0x1000 = 0xE0 then 0xA0 else 0x80,
      if 0xE0 + n / 0x1000 = 0xED then 0x9F else 0xBF⟩) := by
    rw [lead, if_neg (by omega), if_neg (by omega), if_neg (by omega), if_pos (by omega),
      Nat.add_sub_cancel_left]
  have hbits : (n / 0x1000 * 0x40 + n / 0x40 % 0x40) * 0x40 + n % 0x40 = n := by omega
  rw [decodeFrom, toNat_toUInt8 (by omega), hlead]
  dsimp only
  rw [List.nil_append,
    decodeFrom_some (by split <;> omega) (by split <;> omega) (by omega), if_neg (by omega),
    decodeFrom_some (by omega) (by omega) (by omega), if_pos (by omega), hbits]

/-- The second byte keeps out what fits into three bytes, and what is no character any more. -/
theorem decodeFrom_four {n : Nat} (h : 0x10000 ≤ n) (h' : n < 0x110000) (rest : List UInt8) :
    decodeFrom none ((0xF0 + n / 0x40000).toUInt8 :: (0x80 + n / 0x1000 % 0x40).toUInt8 ::
        (0x80 + n / 0x40 % 0x40).toUInt8 :: (0x80 + n % 0x40).toUInt8 :: rest) =
      some (Char.ofNat n) :: decodeFrom none rest := by
  have hlead : lead (0xF0 + n / 0x40000) = ([], some ⟨3, n / 0x40000,
      if 0xF0 + n / 0x40000 = 0xF0 then 0x90 else 0x80,
      if 0xF0 + n / 0x40000 = 0xF4 then 0x8F else 0xBF⟩) := by
    rw [lead, if_neg (by omega), if_neg (by omega), if_neg (by omega), if_neg (by omega),
      if_pos (by omega), Nat.add_sub_cancel_left]
  have hbits : ((n / 0x40000 * 0x40 + n / 0x1000 % 0x40) * 0x40 + n / 0x40 % 0x40) * 0x40 +
      n % 0x40 = n := by omega
  rw [decodeFrom, toNat_toUInt8 (by omega), hlead]
  dsimp only
  rw [List.nil_append,
    decodeFrom_some (by split <;> omega) (by split <;> omega) (by omega), if_neg (by omega),
    decodeFrom_some (by omega) (by omega) (by omega), if_neg (by omega),
    decodeFrom_some (by omega) (by omega) (by omega), if_pos (by omega), hbits]

theorem decode_encodeChar_append (c : Char) (rest : List UInt8) :
    decode (encodeChar c ++ rest) = some c :: decode rest := by
  have hvalid : c.toNat < 0xD800 ∨ (0xDFFF < c.toNat ∧ c.toNat < 0x110000) := c.valid
  conv_rhs => rw [← Char.ofNat_toNat c]
  unfold decode encodeChar
  dsimp only
  -- One case for each number of bytes.
  by_cases h1 : c.toNat < 0x80
  · rw [if_pos h1]
    exact decodeFrom_one h1 rest
  · rw [if_neg h1]
    by_cases h2 : c.toNat < 0x800
    · rw [if_pos h2]
      exact decodeFrom_two (by omega) h2 rest
    · rw [if_neg h2]
      by_cases h3 : c.toNat < 0x10000
      · rw [if_pos h3]
        exact decodeFrom_three (by omega) h3 (by omega) rest
      · rw [if_neg h3]
        exact decodeFrom_four (by omega) (by omega) rest

/-- The bytes of a text are read as its characters. -/
theorem decode_encode (cs : List Char) : decode (encode cs) = cs.map some := by
  induction cs with
  | nil => rfl
  | cons c rest ih =>
    rw [encode] at ih
    rw [encode, List.flatMap_cons, decode_encodeChar_append, ih, List.map_cons]

theorem decode?_encode (cs : List Char) : decode? (encode cs) = some cs := by
  rw [decode?, decode_encode]
  exact mapM_map_eq_some fun c _ => rfl

theorem encode_append (a b : List Char) : encode (a ++ b) = encode a ++ encode b :=
  List.flatMap_append

theorem encode_cons (c : Char) (cs : List Char) : encode (c :: cs) = encodeChar c ++ encode cs :=
  List.flatMap_cons

theorem length_encodeChar_pos (c : Char) : 0 < (encodeChar c).length := by
  unfold encodeChar
  dsimp only
  repeat' split
  all_goals simp

/-- Only a percent sign has the byte of one. -/
theorem eq_percent_of_mem_encodeChar {c : Char} (h : 37 ∈ encodeChar c) : c = '%' := by
  have hlt := toNat_lt c
  have hbyte {n : Nat} (hn : n < 256) (heq : 37 = n.toUInt8) : n = 37 := by
    rw [← toNat_toUInt8 hn, ← heq]
    rfl
  unfold encodeChar at h
  dsimp only at h
  split at h
  · next h1 =>
    have hn := hbyte (by omega) (List.mem_singleton.1 h)
    rw [← Char.ofNat_toNat c, hn]
  · -- The bytes of all other characters are greater.
    exfalso
    split at h
    · rcases List.mem_cons.1 h with h | h
      · have := hbyte (by omega) h
        omega
      · have := hbyte (by omega) (List.mem_singleton.1 h)
        omega
    · split at h
      · simp only [List.mem_cons, List.not_mem_nil, or_false] at h
        rcases h with h | h | h
        all_goals
          have := hbyte (by omega) h
          omega
      · simp only [List.mem_cons, List.not_mem_nil, or_false] at h
        rcases h with h | h | h | h
        all_goals
          have := hbyte (by omega) h
          omega

end Text.Utf8

namespace Web.Percent

open Text

/-- Bytes among which there is no percent sign stay as they are. -/
theorem decode_append_of_not_mem {bytes : List UInt8} (h : 37 ∉ bytes) (rest : List UInt8) :
    decode (bytes ++ rest) = bytes ++ decode rest := by
  induction bytes with
  | nil => rfl
  | cons b bytes ih =>
    obtain ⟨hb, hbytes⟩ := List.ne_and_not_mem_of_not_mem_cons h
    rw [List.cons_append, decode, ih hbytes, List.cons_append]
    exact fun _ _ _ heq _ => hb heq.symm

theorem digitValue?_digit : ∀ n < 16, digitValue? (digit n).toNat.toUInt8 = some n.toUInt8 := by
  decide

theorem encodeChar_digit : ∀ n < 16, Utf8.encodeChar (digit n) = [(digit n).toNat.toUInt8] := by
  decide

/-- An escape is read as its byte. -/
theorem decode_escapeByte_append (b : UInt8) (rest : List UInt8) :
    decode (Utf8.encode (escapeByte b) ++ rest) = b :: decode rest := by
  have hb : b.toNat < 256 := b.toNat_lt
  have hhigh : b.toNat / 16 < 16 := by omega
  have hlow : b.toNat % 16 < 16 := by omega
  have hbytes : Utf8.encode (escapeByte b) = [37, (digit (b.toNat / 16)).toNat.toUInt8,
      (digit (b.toNat % 16)).toNat.toUInt8] := by
    rw [escapeByte, Utf8.encode, List.flatMap_cons, List.flatMap_cons, List.flatMap_cons,
      encodeChar_digit _ hhigh, encodeChar_digit _ hlow]
    rfl
  -- The two digits make up the byte.
  have hvalue : (b.toNat / 16).toUInt8 * 16 + (b.toNat % 16).toUInt8 = b := by
    apply UInt8.toNat_inj.1
    rw [UInt8.toNat_add, UInt8.toNat_mul, Utf8.toNat_toUInt8 (by omega),
      Utf8.toNat_toUInt8 (by omega)]
    change (b.toNat / 16 * 16 % 256 + b.toNat % 16) % 256 = b.toNat
    omega
  have hbyte : byteOf? (digit (b.toNat / 16)).toNat.toUInt8 (digit (b.toNat % 16)).toNat.toUInt8 =
      some b := by
    rw [byteOf?, digitValue?_digit _ hhigh, digitValue?_digit _ hlow]
    exact congrArg some hvalue
  rw [hbytes]
  change decode (37 :: _ :: _ :: rest) = _
  rw [decode, hbyte]

theorem decode_escapes_append (bytes rest : List UInt8) :
    decode (Utf8.encode (bytes.flatMap escapeByte) ++ rest) = bytes ++ decode rest := by
  induction bytes with
  | nil => rfl
  | cons b bytes ih =>
    rw [List.flatMap_cons, Utf8.encode_append, List.append_assoc, decode_escapeByte_append, ih,
      List.cons_append]

/-- What is written with escapes is read back, if the percent sign is never kept. -/
theorem decodeText_encode {keep : Char → Bool} (hkeep : keep '%' = false) (cs : List Char) :
    decodeText (encode keep cs) = Utf8.encode cs := by
  unfold decodeText
  induction cs with
  | nil => rfl
  | cons c rest ih =>
    have hrest : encode keep (c :: rest) =
        (if keep c then [c] else (Utf8.encodeChar c).flatMap escapeByte) ++ encode keep rest := rfl
    have hchars : Utf8.encode (c :: rest) = Utf8.encodeChar c ++ Utf8.encode rest := rfl
    rw [hrest, hchars, Utf8.encode_append]
    split
    · next hc =>
      -- A kept character is no percent sign, so none of its bytes starts an escape.
      have hpercent : 37 ∉ Utf8.encode [c] := by
        intro hmem
        have heq : c = '%' := Utf8.eq_percent_of_mem_encodeChar (by simpa [Utf8.encode] using hmem)
        rw [heq, hkeep] at hc
        cases hc
      rw [decode_append_of_not_mem hpercent, ih]
      simp [Utf8.encode]
    · rw [decode_escapes_append, ih]

section Keep

variable {keep : Char → Bool}

theorem encode_cons_of_kept {c : Char} (h : keep c = true) (cs : List Char) :
    encode keep (c :: cs) = c :: encode keep cs := by
  rw [encode, List.flatMap_cons, if_pos h]
  rfl

theorem encode_cons_of_not_kept {c : Char} (h : ¬ keep c = true) (cs : List Char) :
    encode keep (c :: cs) = (Utf8.encodeChar c).flatMap escapeByte ++ encode keep cs := by
  rw [encode, List.flatMap_cons, if_neg h]
  rfl

theorem encode_of_kept {cs : List Char} (h : ∀ c ∈ cs, keep c = true) : encode keep cs = cs := by
  induction cs with
  | nil => rfl
  | cons c rest ih =>
    have hrest := ih fun d hd => h d (List.mem_cons_of_mem c hd)
    rw [encode_cons_of_kept (h c List.mem_cons_self), hrest]

/-- An escape is longer than a character. -/
theorem length_escapes (c : Char) : 1 < ((Utf8.encodeChar c).flatMap escapeByte).length := by
  obtain ⟨b, bytes, hbytes⟩ := List.exists_cons_of_length_pos (Utf8.length_encodeChar_pos c)
  have hfirst : (escapeByte b).length = 3 := rfl
  rw [hbytes, List.flatMap_cons, List.length_append, hfirst]
  omega

theorem length_le_encode (cs : List Char) : cs.length ≤ (encode keep cs).length := by
  induction cs with
  | nil => exact Nat.le_refl _
  | cons c rest ih =>
    by_cases hc : keep c = true
    · rw [encode_cons_of_kept hc, List.length_cons, List.length_cons]
      omega
    · have hlong := length_escapes c
      rw [encode_cons_of_not_kept hc, List.length_append, List.length_cons]
      omega

/-- Only a text of which everything is kept is written as it is. -/
theorem encode_eq_self_iff {cs : List Char} : encode keep cs = cs ↔ ∀ c ∈ cs, keep c = true := by
  refine ⟨fun h => ?_, encode_of_kept⟩
  induction cs with
  | nil => exact fun c hc => absurd hc List.not_mem_nil
  | cons c rest ih =>
    by_cases hc : keep c = true
    · rw [encode_cons_of_kept hc] at h
      exact List.forall_mem_cons.2 ⟨hc, ih (List.cons.inj h).2⟩
    · -- The escape makes the text longer than it was.
      have hlength := congrArg List.length h
      have hlong := length_escapes c
      have hrest : rest.length ≤ (encode keep rest).length := length_le_encode rest
      rw [encode_cons_of_not_kept hc, List.length_append, List.length_cons] at hlength
      omega

end Keep

theorem isPathChar_digit : ∀ n < 16, Target.isPathChar (digit n) = true ∧ digit n ≠ '/' := by
  decide

theorem isPathChar_of_mem_escapeByte {b : UInt8} {c : Char} (h : c ∈ escapeByte b) :
    Target.isPathChar c = true ∧ c ≠ '/' := by
  have hb : b.toNat < 256 := b.toNat_lt
  simp only [escapeByte, List.mem_cons, List.not_mem_nil, or_false] at h
  rcases h with rfl | rfl | rfl
  · decide
  · exact isPathChar_digit _ (by omega)
  · exact isPathChar_digit _ (by omega)

/-- What is written with escapes holds characters of the text that were kept, and characters that can
stand inside a segment of a path. -/
theorem mem_encode {keep : Char → Bool} {cs : List Char} {c : Char} (h : c ∈ encode keep cs) :
    (c ∈ cs ∧ keep c = true) ∨ (Target.isPathChar c = true ∧ c ≠ '/') := by
  obtain ⟨d, hmem, hd⟩ := List.mem_flatMap.1 h
  split at hd
  · next hkept =>
    obtain rfl := List.mem_singleton.1 hd
    exact Or.inl ⟨hmem, hkept⟩
  · obtain ⟨b, -, hc⟩ := List.mem_flatMap.1 hd
    exact Or.inr (isPathChar_of_mem_escapeByte hc)

end Web.Percent

namespace Web.Target

def isUnreserved (c : Char) : Bool :=
  c.isAlphanum || c == '-' || c == '.' || c == '_' || c == '~'

end Web.Target

namespace Router

/-- A text that is written into a path with escapes is the text of its parameter. -/
theorem parameterText?_encode {keep : Char → Bool} (hkeep : keep '%' = false) (name : String) :
    parameterText? (Web.Percent.encode keep name.toList) = some name := by
  rw [parameterText?, Web.Percent.decodeText_encode hkeep, Text.Utf8.decode?_encode,
    Option.map_some, String.ofList_toList]

/-- A text without reserved characters is the text of its parameter. -/
theorem parameterText?_of_unreserved {name : String}
    (h : ∀ c ∈ name.toList, Web.Target.isUnreserved c = true) :
    parameterText? name.toList = some name := by
  have hname := @parameterText?_encode Web.Target.isUnreserved (by decide) name
  rwa [Web.Percent.encode_of_kept h] at hname

end Router

end VariantSearch

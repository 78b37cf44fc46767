namespace VariantSearch.Text.Utf8

def encodeChar (c : Char) : List UInt8 :=
  let n := c.toNat
  if n < 0x80 then [n.toUInt8]
  else if n < 0x800 then [(0xC0 + n / 0x40).toUInt8, (0x80 + n % 0x40).toUInt8]
  else if n < 0x10000 then
    [(0xE0 + n / 0x1000).toUInt8, (0x80 + n / 0x40 % 0x40).toUInt8, (0x80 + n % 0x40).toUInt8]
  else
    [(0xF0 + n / 0x40000).toUInt8, (0x80 + n / 0x1000 % 0x40).toUInt8,
      (0x80 + n / 0x40 % 0x40).toUInt8, (0x80 + n % 0x40).toUInt8]

def encode (cs : List Char) : List UInt8 := cs.flatMap encodeChar

structure Pending where
  missing : Nat
  bits : Nat
  lo : Nat
  hi : Nat

def lead (b : Nat) : List (Option Char) × Option Pending :=
  if b < 0x80 then ([some (Char.ofNat b)], none)
  -- Longer forms of the first characters are no characters.
  else if b < 0xC2 then ([none], none)
  else if b < 0xE0 then ([], some ⟨1, b - 0xC0, 0x80, 0xBF⟩)
  else if b < 0xF0 then
    -- Neither are halves of a pair, nor what lies behind the last code point.
    ([], some ⟨2, b - 0xE0, if b = 0xE0 then 0xA0 else 0x80, if b = 0xED then 0x9F else 0xBF⟩)
  else if b < 0xF5 then
    ([], some ⟨3, b - 0xF0, if b = 0xF0 then 0x90 else 0x80, if b = 0xF4 then 0x8F else 0xBF⟩)
  else ([none], none)

def decodeFrom : Option Pending → List UInt8 → List (Option Char)
  | none, [] => []
  | some _, [] => [none]
  | none, b :: rest =>
    let (done, pending) := lead b.toNat
    done ++ decodeFrom pending rest
  | some p, b :: rest =>
    if p.lo ≤ b.toNat ∧ b.toNat ≤ p.hi then
      let bits := p.bits * 0x40 + (b.toNat - 0x80)
      if p.missing ≤ 1 then some (Char.ofNat bits) :: decodeFrom none rest
      else decodeFrom (some ⟨p.missing - 1, bits, 0x80, 0xBF⟩) rest
    else
      let (done, pending) := lead b.toNat
      -- The byte that breaks a character off may start the next one.
      none :: (done ++ decodeFrom pending rest)

/-- The characters of a sequence of bytes, `none` where bytes form no character. -/
def decode (bytes : List UInt8) : List (Option Char) := decodeFrom none bytes

def decodeLossy (bytes : List UInt8) : List Char := (decode bytes).map (·.getD '\uFFFD')

def decode? (bytes : List UInt8) : Option (List Char) := (decode bytes).mapM id

def ofString (s : String) : List UInt8 := encode s.toList

end VariantSearch.Text.Utf8

import VariantSearch.Text.Utf8

namespace VariantSearch.Web.Percent

def digit (n : Nat) : Char := if n < 10 then Char.ofNat (48 + n) else Char.ofNat (55 + n)

def escapeByte (b : UInt8) : List Char := ['%', digit (b.toNat / 16), digit (b.toNat % 16)]

def encode (keep : Char → Bool) (cs : List Char) : List Char :=
  cs.flatMap fun c => if keep c then [c] else (Text.Utf8.encodeChar c).flatMap escapeByte

def digitValue? (b : UInt8) : Option UInt8 :=
  if 48 ≤ b ∧ b ≤ 57 then some (b - 48)
  else if 65 ≤ b ∧ b ≤ 70 then some (b - 55)
  else if 97 ≤ b ∧ b ≤ 102 then some (b - 87)
  else none

def byteOf? (high low : UInt8) : Option UInt8 := do
  return (← digitValue? high) * 16 + (← digitValue? low)

def decode : List UInt8 → List UInt8
  | 37 :: high :: low :: rest =>
    match byteOf? high low with
    | some b => b :: decode rest
    -- A percent sign without two digits stands for itself.
    | none => 37 :: decode (high :: low :: rest)
  | b :: rest => b :: decode rest
  | [] => []

def decodeText (cs : List Char) : List UInt8 := decode (Text.Utf8.encode cs)

end VariantSearch.Web.Percent

import VariantSearch.Text.Utf8

/-!
Texts whose first bytes may say how they are encoded.
-/

namespace VariantSearch.Text.Marked

def units (littleEndian : Bool) : List UInt8 → List Nat × Bool
  | a :: b :: rest =>
    let (more, odd) := units littleEndian rest
    ((if littleEndian then a.toNat + 256 * b.toNat else 256 * a.toNat + b.toNat) :: more, odd)
  | [_] => ([], true)
  | [] => ([], false)

def isHigh (u : Nat) : Bool := 0xD800 ≤ u && u < 0xDC00

def isLow (u : Nat) : Bool := 0xDC00 ≤ u && u < 0xE000

def unitText : List Nat → List Char
  | [] => []
  | [u] => [if isHigh u || isLow u then '\uFFFD' else Char.ofNat u]
  | u :: v :: rest =>
    -- Two units make one character if they are the halves of one.
    if isHigh u && isLow v then
      Char.ofNat (0x10000 + (u - 0xD800) * 0x400 + (v - 0xDC00)) :: unitText rest
    else (if isHigh u || isLow u then '\uFFFD' else Char.ofNat u) :: unitText (v :: rest)

def utf16 (littleEndian : Bool) (bytes : List UInt8) : List Char :=
  let (us, odd) := units littleEndian bytes
  let endsHigh := us.getLast?.any isHigh
  unitText us ++ (if odd && !endsHigh then ['\uFFFD'] else [])

def decode : List UInt8 → List Char
  | 0xEF :: 0xBB :: 0xBF :: rest => Utf8.decodeLossy rest
  | 0xFF :: 0xFE :: rest => utf16 true rest
  | 0xFE :: 0xFF :: rest => utf16 false rest
  | bytes => Utf8.decodeLossy bytes

end VariantSearch.Text.Marked

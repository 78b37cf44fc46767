import VariantSearch.Json.Basic
import VariantSearch.Binary64.Shortest

/-!
Numbers as JSON writes them: integers of 64 bits, and binary64 numbers for everything else.
-/

namespace VariantSearch.Json

structure NumberLiteral where
  negative : Bool
  whole : List Char
  fraction : List Char
  exponent : Option (Bool × List Char)

def digitValue (c : Char) : Nat := c.toNat - '0'.toNat

/-- Digits appended to a number as long as it stays below `2 ^ 64`, with the number of digits that
are left over. -/
def appendDigits (n : Nat) : List Char → Nat × Nat
  | [] => (n, 0)
  | c :: rest =>
    let next := n * 10 + digitValue c
    if next < UInt64.size then appendDigits next rest else (n, rest.length + 1)

def digitsValue (cs : List Char) : Nat := cs.foldl (fun n c => n * 10 + digitValue c) 0

namespace NumberLiteral

def isWhole (l : NumberLiteral) : Bool := l.fraction.isEmpty && l.exponent.isNone

/-- The written exponent. One that needs more than 31 bits counts as `2 ^ 31`, which is out of
reach of any number. -/
def writtenExponent (l : NumberLiteral) : Int :=
  match l.exponent with
  | none => 0
  | some (negative, digits) =>
    let n := min (digitsValue digits) 0x80000000
    if negative then -(n : Int) else n

def toDouble? (l : NumberLiteral) : Option Binary64 :=
  let (whole, dropped) := appendDigits 0 l.whole
  let (digits, ignored) := appendDigits whole l.fraction
  let places := l.fraction.length - ignored
  if digits = 0 then some (.zero l.negative)
  else Binary64.ofDecimal? l.negative digits ((dropped : Int) - (places : Int) + l.writtenExponent)

/-- The value of the literal; none if it lies beyond the format. The integer zero has no sign, so a
negative zero is a binary64 number. -/
def toJson? (l : NumberLiteral) : Option Json :=
  let n := digitsValue l.whole
  if l.isWhole && !l.negative && n < UInt64.size then some (.integer n)
  else if l.isWhole && l.negative && 0 < n && n ≤ UInt64.size / 2 then some (.integer (-(n : Int)))
  else l.toDouble?.map .double

end NumberLiteral

def natDigits (n : Nat) : List Char := Nat.toDigits 10 n

def intDigits (n : Int) : List Char :=
  if n < 0 then '-' :: natDigits n.natAbs else natDigits n.natAbs

/-- Where the positional notation of binary64 numbers ends: up to sixteen places before the point,
and down to four zeros behind it. -/
structure PositionalRange where
  maxPlaces : Int
  minPlaces : Int

def positional : PositionalRange := ⟨16, -5⟩

def layout (d : Binary64.Decimal) : List Char :=
  let digits := natDigits d.digits
  let point : Int := (digits.length : Int) + d.exponent
  -- A point is always written, so that the number is never taken for an integer.
  if 0 ≤ d.exponent ∧ point ≤ positional.maxPlaces then
    digits ++ List.replicate d.exponent.toNat '0' ++ ['.', '0']
  else if 0 < point ∧ point ≤ positional.maxPlaces then
    digits.take point.toNat ++ '.' :: digits.drop point.toNat
  else if positional.minPlaces < point ∧ point ≤ 0 then
    ['0', '.'] ++ List.replicate (-point).toNat '0' ++ digits
  else
    digits.take 1 ++ (if digits.length = 1 then [] else '.' :: digits.drop 1) ++
      'e' :: intDigits (point - 1)

def doubleText (x : Binary64) : List Char :=
  (if x.negative then ['-'] else []) ++
    (if x.significand = 0 then ['0', '.', '0'] else layout x.shortest)

end VariantSearch.Json

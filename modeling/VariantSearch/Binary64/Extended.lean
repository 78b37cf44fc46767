import VariantSearch.Binary64.Shortest
import VariantSearch.Text.Split

namespace VariantSearch

inductive Extended64 where
  | finite (x : Binary64)
  | infinite (negative : Bool)
  | notANumber
deriving DecidableEq

namespace Extended64

def ofDecimal (negative : Bool) (digits size : Nat) (exponent : Int) : Extended64 :=
  if digits = 0 then finite (.zero negative)
  -- So far out the decimal rounds to infinity or to zero, and the powers of ten need not be
  -- computed.
  else if 400 < exponent + size then infinite negative
  else if exponent + size < -400 then finite (.zero negative)
  else
    let (num, den) := Binary64.scaleTen digits 1 exponent
    match Binary64.ofRatio? negative num den with
    | some x => finite x
    | none => infinite negative

def digitsValue (cs : List Char) : Nat := cs.foldl (fun n c => n * 10 + (c.toNat - 48)) 0

def exponent? (cs : List Char) : Option Int :=
  let digits := match cs with
    | '+' :: rest | '-' :: rest => rest
    | _ => cs
  if digits.isEmpty || !digits.all Char.isDigit then none
  else
    -- Exponents beyond this all come to the same.
    let n : Int := min (digitsValue digits) 1000000
    some (if cs.head? = some '-' then -n else n)

def unsigned? (negative : Bool) (cs : List Char) : Option Extended64 := do
  let isMark (c : Char) : Bool := c == 'e' || c == 'E'
  let mantissa := cs.takeWhile (!isMark ·)
  let exponent ← match cs.dropWhile (!isMark ·) with
    | [] => some 0
    | _ :: rest => exponent? rest
  -- The point may stand at either end of the digits, but not alone.
  let (whole, fraction) := (Text.cutFirst? '.' mantissa).getD (mantissa, [])
  let digits := whole ++ fraction
  if digits.isEmpty || !digits.all Char.isDigit then none
  else some (ofDecimal negative (digitsValue digits) digits.length (exponent - fraction.length))

/-- The value of a decimal text or of one of the words for the special values. -/
def parse? (cs : List Char) : Option Extended64 :=
  let negative := cs.head? == some '-'
  let rest := match cs with
    | '+' :: rest | '-' :: rest => rest
    | _ => cs
  match String.ofList (rest.map Char.toLower) with
  | "inf" | "infinity" => some (infinite negative)
  | "nan" => some notANumber
  | _ => unsigned? negative rest

def positional (d : Binary64.Decimal) : List Char :=
  let digits := Nat.toDigits 10 d.digits
  let point : Int := (digits.length : Int) + d.exponent
  if 0 ≤ d.exponent then digits ++ List.replicate d.exponent.toNat '0'
  else if 0 < point then digits.take point.toNat ++ '.' :: digits.drop point.toNat
  else ['0', '.'] ++ List.replicate (-point).toNat '0' ++ digits

def toText : Extended64 → String
  | notANumber => "NaN"
  | infinite negative => if negative then "-inf" else "inf"
  | finite x =>
    String.ofList
      ((if x.negative then ['-'] else []) ++
        (if x.significand = 0 then ['0'] else positional x.shortest))

/-- The nearest natural number below `2 ^ 64`; halves go up, and what lies below zero or is no number
gives zero. -/
def toNat : Extended64 → Nat
  | notANumber => 0
  | infinite negative => if negative then 0 else UInt64.size - 1
  | finite x =>
    if x.negative then 0
    else
      let (num, den) := x.ratio
      -- Halves go up.
      min ((2 * num + den) / (2 * den)) (UInt64.size - 1)

def isZero : Extended64 → Bool
  | finite x => x.significand == 0
  | _ => false

end Extended64

end VariantSearch

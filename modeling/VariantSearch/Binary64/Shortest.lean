import VariantSearch.Binary64

/-!
The fewest decimal digits that are read back as a given number.
-/

namespace VariantSearch.Binary64

structure Decimal where
  digits : Nat
  exponent : Int
deriving DecidableEq

def scaleTen (num den : Nat) (k : Int) : Nat × Nat :=
  if 0 ≤ k then (num * Nat.pow 10 k.toNat, den) else (num, den * Nat.pow 10 (-k).toNat)

/-- The halfway points to the two neighbours, as fractions over four times the denominator of the
number: below a power of two the neighbour is twice as near. -/
def halfways (x : Binary64) : Nat × Nat × Nat :=
  let (num, den) := x.ratio
  let unit := if 0 ≤ x.exponent then Nat.pow 2 x.exponent.toNat else 1
  let lowGap := if x.significand = Nat.pow 2 52 ∧ minExponent < x.exponent then unit else 2 * unit
  (4 * num - lowGap, 4 * num + 2 * unit, 4 * den)

/-- Whether the decimal `d * 10 ^ k` is read back as `x`. A halfway point is read as the even
neighbour. -/
def reads (x : Binary64) (d : Nat) (k : Int) : Bool :=
  let (lo, hi, den) := x.halfways
  let (dNum, dDen) := scaleTen d 1 k
  let value := dNum * den
  if x.significand % 2 = 0 then lo * dDen ≤ value && value ≤ hi * dDen
  else lo * dDen < value && value < hi * dDen

/-- The multiple of `10 ^ k` next to the number that is read back as it, the nearer one if both
are. -/
def onGrid? (x : Binary64) (k : Int) : Option Decimal :=
  let (num, den) := scaleTen x.ratio.1 x.ratio.2 (-k)
  let d := num / den
  let r := num % den
  -- Of two decimals that are read back the nearer one is taken, on a tie the even one.
  let up := den < 2 * r ∨ (2 * r = den ∧ d % 2 = 1)
  match x.reads d k, x.reads (d + 1) k with
  | true, true => some ⟨if up then d + 1 else d, k⟩
  | true, false => some ⟨d, k⟩
  | false, true => some ⟨d + 1, k⟩
  | false, false => none

def leadingPlace (num den : Nat) : Int :=
  let guess : Int := ((num.log2 : Int) - (den.log2 : Int) - 1) * 30103 / 100000 - 1
  let atMost (k : Int) : Bool := let (a, b) := scaleTen num den (-k); b ≤ a
  if atMost (guess + 2) then guess + 2 else if atMost (guess + 1) then guess + 1 else guess

def Decimal.normalize (d : Decimal) : Nat → Decimal
  | 0 => d
  | steps + 1 =>
    if d.digits % 10 = 0 ∧ d.digits ≠ 0 then Decimal.normalize ⟨d.digits / 10, d.exponent + 1⟩ steps
    else d

def firstGrid (x : Binary64) (place : Int) : Nat → Nat → Decimal
  | _, 0 => ⟨x.ratio.1 / x.ratio.2, 0⟩
  | places, more + 1 =>
    match x.onGrid? (place - places) with
    | some d => d.normalize 20
    | none => firstGrid x place (places + 1) more

def shortest (x : Binary64) : Decimal :=
  if x.significand = 0 then ⟨0, 0⟩
  else x.firstGrid (leadingPlace x.ratio.1 x.ratio.2) 0 18

end VariantSearch.Binary64

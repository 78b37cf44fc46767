/-!
Finite numbers of the binary64 format as exact integers. Each operation computes the exact rational
result and rounds it once.
-/

namespace VariantSearch

structure Binary64 where
  negative : Bool
  significand : Nat
  exponent : Int
deriving DecidableEq

namespace Binary64

def minExponent : Int := -1074

def maxExponent : Int := 971

def zero (negative : Bool) : Binary64 := ⟨negative, 0, minExponent⟩

def divideToEven (num den : Nat) : Nat :=
  let q := num / den
  let r := num % den
  if den < 2 * r ∨ (2 * r = den ∧ q % 2 = 1) then q + 1 else q

def exponentFor (num den : Nat) : Int :=
  let e : Int := (num.log2 : Int) - (den.log2 : Int) - 53
  let below :=
    if 0 ≤ e + 53 then decide (num < den * Nat.pow 2 (e + 53).toNat)
    else decide (num * Nat.pow 2 (-(e + 53)).toNat < den)
  max (if below then e else e + 1) minExponent

/-- The number nearest to `± num / den`; none if that lies beyond the format. -/
def ofRatio? (negative : Bool) (num den : Nat) : Option Binary64 :=
  if num = 0 then some (zero negative)
  else
    let e := exponentFor num den
    let m :=
      if 0 ≤ e then divideToEven num (den * Nat.pow 2 e.toNat)
      else divideToEven (num * Nat.pow 2 (-e).toNat) den
    -- Rounding up may need one bit more than there are.
    let (m, e) := if m = Nat.pow 2 53 then (Nat.pow 2 52, e + 1) else (m, e)
    if maxExponent < e then none else some ⟨negative, m, e⟩

def ofNat? (negative : Bool) (n : Nat) : Option Binary64 := ofRatio? negative n 1

def ratio (x : Binary64) : Nat × Nat :=
  if 0 ≤ x.exponent then (x.significand * Nat.pow 2 x.exponent.toNat, 1)
  else (x.significand, Nat.pow 2 (-x.exponent).toNat)

def mul? (x y : Binary64) : Option Binary64 :=
  ofRatio? (x.negative != y.negative) (x.ratio.1 * y.ratio.1) (x.ratio.2 * y.ratio.2)

def div? (x y : Binary64) : Option Binary64 :=
  ofRatio? (x.negative != y.negative) (x.ratio.1 * y.ratio.2) (x.ratio.2 * y.ratio.1)

def powerOfTen? (k : Nat) : Option Binary64 := ofNat? false (Nat.pow 10 k)

def maxPowerOfTen : Nat := 308

def divideTimes (divisor : Binary64) : Nat → Binary64 → Option Binary64
  | 0, x => some x
  | times + 1, x =>
    if x.significand = 0 then some x
    else
      match x.div? divisor with
      | none => none
      | some y => divideTimes divisor times y

/-- The number divided by `10 ^ k`. A power of ten beyond the format is divided off in several
steps, of which each rounds. -/
def scaleDown (x : Binary64) (k : Nat) : Option Binary64 := do
  let steps := (k - 1) / maxPowerOfTen
  let y ← divideTimes (← powerOfTen? maxPowerOfTen) steps x
  y.div? (← powerOfTen? (k - steps * maxPowerOfTen))

/-- The number that stands for the decimal `± digits * 10 ^ exponent`: the digits are rounded first
and the scaled result once more. None if it lies beyond the format. -/
def ofDecimal? (negative : Bool) (digits : Nat) (exponent : Int) : Option Binary64 := do
  let x ← ofNat? negative digits
  if exponent < 0 then x.scaleDown (-exponent).toNat
  else if x.significand = 0 then some x
  else if exponent.toNat ≤ maxPowerOfTen then x.mul? (← powerOfTen? exponent.toNat)
  else none

end Binary64

end VariantSearch

import VariantSearch.Word

namespace VariantSearch.Text.Integer

inductive Fault where
  | empty
  | invalidDigit
  | tooLarge
  | tooSmall
deriving DecidableEq

def Fault.message : Fault → String
  | empty => "cannot parse integer from empty string"
  | invalidDigit => "invalid digit found in string"
  | tooLarge => "number too large to fit in target type"
  | tooSmall => "number too small to fit in target type"

def readDigits (bound : Nat) (beyond : Fault) (n : Nat) : List Char → Except Fault Nat
  | [] => .ok n
  | c :: rest =>
    if c.isDigit then
      let next := n * 10 + (c.toNat - '0'.toNat)
      -- The text is read from the left, so a number that is out of range is told before a later
      -- letter.
      if next ≤ bound then readDigits bound beyond next rest else .error beyond
    else .error .invalidDigit

def readPositive (cs : List Char) : Except Fault Int :=
  match readDigits Word.greatest.natAbs .tooLarge 0 cs with
  | .ok n => .ok n
  | .error f => .error f

def readNegative (cs : List Char) : Except Fault Int :=
  match readDigits Word.least.natAbs .tooSmall 0 cs with
  | .ok n => .ok (-(n : Int))
  | .error f => .error f

def parse : List Char → Except Fault Int
  | [] => .error .empty
  | ['+'] | ['-'] => .error .invalidDigit
  | '+' :: rest => readPositive rest
  | '-' :: rest => readNegative rest
  | cs => readPositive cs

end VariantSearch.Text.Integer

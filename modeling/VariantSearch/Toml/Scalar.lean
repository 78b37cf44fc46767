import VariantSearch.Config.Tree
import VariantSearch.Toml.Lexeme
import VariantSearch.Word

namespace VariantSearch.Toml

open Config (Tree)

def digitsOf? (isDigit : Char → Bool) (cs : List Char) : Option (List Char) :=
  let groups := Text.pieces '_' cs
  if groups.all fun g => !g.isEmpty && g.all isDigit then some groups.flatten else none

def decimalDigits? (cs : List Char) : Option (List Char) := do
  let digits ← digitsOf? Char.isDigit cs
  if digits.head? = some '0' ∧ 1 < digits.length then none else some digits

def signOf : List Char → Bool × List Char
  | '-' :: rest => (true, rest)
  | '+' :: rest => (false, rest)
  | cs => (false, cs)

def inRange? (n : Int) : Option Tree :=
  if Word.fits n then some (.integer n) else none

def inBase? (base : Nat) (cs : List Char) : Option Tree := do
  let below (c : Char) : Bool := (Json.hexValue? (some c)).any (· < base)
  let digits ← digitsOf? below cs
  let n ← digits.foldlM (fun n c => (Json.hexValue? (some c)).map (n * base + ·)) 0
  inRange? n

def integer? (cs : List Char) : Option Tree :=
  match cs with
  | '0' :: 'x' :: rest => inBase? 16 rest
  | '0' :: 'o' :: rest => inBase? 8 rest
  | '0' :: 'b' :: rest => inBase? 2 rest
  | _ => do
    let (negative, rest) := signOf cs
    let n : Int := Extended64.digitsValue (← decimalDigits? rest)
    inRange? (if negative then -n else n)

def partOr? (isThere : Bool) (cs : List Char) : Option (List Char) :=
  if isThere then digitsOf? Char.isDigit cs else some []

/-- A number with a fraction or an exponent, or one of the words for the special values. A number may
be too far below zero for the format, but not too far above. -/
def float? (cs : List Char) : Option Tree := do
  let (negative, rest) := signOf cs
  if rest = "inf".toList then return .float (.infinite negative)
  if rest = "nan".toList then return .float .notANumber
  let isMark (c : Char) : Bool := c == 'e' || c == 'E'
  let mantissa := rest.takeWhile (!isMark ·)
  let (hasExponent, (smaller, exponent)) :=
    match rest.dropWhile (!isMark ·) with
    | [] => (false, (false, []))
    | _ :: e => (true, signOf e)
  let (hasFraction, (whole, fraction)) :=
    match Text.cutFirst? '.' mantissa with
    | some parts => (true, parts)
    | none => (false, (mantissa, []))
  let whole ← decimalDigits? whole
  let fraction ← partOr? hasFraction fraction
  let exponent ← partOr? hasExponent exponent
  if hasFraction || hasExponent then
    let e : Int := min (Extended64.digitsValue exponent) 1000000
    let digits := whole ++ fraction
    let x := Extended64.ofDecimal negative (Extended64.digitsValue digits) digits.length
      ((if smaller then -e else e) - fraction.length)
    -- A positive number beyond the greatest one is refused, a negative one below the least is not.
    if x = .infinite false then none else return .float x
  else none

def field? (width lo hi : Nat) (cs : List Char) : Option Nat :=
  if cs.length = width ∧ cs.all Char.isDigit then
    let n := Extended64.digitsValue cs
    if lo ≤ n ∧ n ≤ hi then some n else none
  else none

def daysIn (year month : Nat) : Nat :=
  if month = 2 then
    if year % 4 = 0 ∧ (year % 100 ≠ 0 ∨ year % 400 = 0) then 29 else 28
  else if month = 4 ∨ month = 6 ∨ month = 9 ∨ month = 11 then 30
  else 31

def isDate (cs : List Char) : Bool :=
  match Text.pieces '-' cs with
  | [y, m, d] =>
    match field? 4 0 9999 y, field? 2 1 12 m with
    | some year, some month => (field? 2 1 (daysIn year month) d).isSome
    | _, _ => false
  | _ => false

def time? (cs : List Char) : Option (List Char) := do
  let (clock, fraction) ← match Text.cutFirst? '.' cs with
    | some (clock, fraction) =>
      if fraction.isEmpty || !fraction.all Char.isDigit then none else some (clock, fraction)
    | none => some (cs, [])
  match Text.pieces ':' clock with
  | [h, m, s] =>
    let _ ← field? 2 0 23 h
    let _ ← field? 2 0 59 m
    -- A minute may have a second more.
    let _ ← field? 2 0 60 s
    let kept := ((fraction.take 9).reverse.dropWhile (· == '0')).reverse
    return clock ++ if kept.isEmpty then [] else '.' :: kept
  | _ => none

def startsOffset (c : Char) : Bool := c == 'Z' || c == 'z' || c == '+' || c == '-'

def offset? : List Char → Option (List Char)
  | [] => some []
  | ['Z'] | ['z'] => some ['Z']
  | sign :: rest =>
    match Text.pieces ':' rest with
    | [h, m] => do
      let hours ← field? 2 0 23 h
      let minutes ← field? 2 0 59 m
      return (if hours = 0 ∧ minutes = 0 then '+' else sign) :: rest
    | _ => none

def dateTime? (cs : List Char) : Option Tree :=
  let date := cs.take 10
  if isDate date then
    match cs.drop 10 with
    | [] => some (.text (String.ofList date))
    | separator :: rest =>
      if separator = 'T' ∨ separator = 't' ∨ separator = ' ' then do
        -- A time ends where an offset starts.
        let time ← time? (rest.takeWhile (!startsOffset ·))
        let offset ← offset? (rest.dropWhile (!startsOffset ·))
        return .text (String.ofList (date ++ 'T' :: time ++ offset))
      else none
  else (time? cs).map fun t => .text (String.ofList t)

def endsRun (c : Char) : Bool :=
  c == ' ' || c == '\t' || c == '\n' || c == '\r' || c == ',' || c == ']' || c == '\x7d' || c == '#'

def runOf (cs : List Char) : List Char :=
  let run := cs.takeWhile (!endsRun ·)
  -- A blank between a date and a time belongs to the value.
  if isDate run then
    match cs.drop run.length with
    | ' ' :: c :: rest =>
      if c.isDigit then run ++ ' ' :: (c :: rest).takeWhile (!endsRun ·) else run
    | _ => run
  else run

def ofRun? (run : List Char) : Option Tree :=
  if run = "true".toList then some (.bool true)
  else if run = "false".toList then some (.bool false)
  else
    match integer? run with
    | some t => some t
    | none =>
      match float? run with
      | some t => some t
      | none => dateTime? run

def scalar? (cs : List Char) : Option (Tree × List Char) :=
  match cs with
  | '"' :: _ | '\'' :: _ => (string? cs).map fun (s, rest) => (.text s, rest)
  | _ =>
    let run := runOf cs
    (ofRun? run).map (·, cs.drop run.length)

end VariantSearch.Toml

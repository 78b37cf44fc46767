import VariantSearch.Json.Syntax
import VariantSearch.Text.Utf8

namespace VariantSearch.Json

/-- The characters of a text; `none` stands for bytes that form no character. -/
abbrev Input := List (Option Char)

def isSpace : Option Char → Bool
  | some c => c == ' ' || c == '\n' || c == '\t' || c == '\r'
  | none => false

def skipSpace (input : Input) : Input := input.dropWhile isSpace

inductive StringPart where
  | char (c : Option Char)
  | unit (code : Nat)

def hexValue? : Option Char → Option Nat
  | none => none
  | some c =>
    if '0' ≤ c ∧ c ≤ '9' then some (c.toNat - 48)
    else if 'a' ≤ c ∧ c ≤ 'f' then some (c.toNat - 87)
    else if 'A' ≤ c ∧ c ≤ 'F' then some (c.toNat - 55)
    else none

def hexUnit? (a b c d : Option Char) : Option Nat := do
  return ((← hexValue? a) * 16 + (← hexValue? b)) * 256 + (← hexValue? c) * 16 + (← hexValue? d)

def unescape? : Char → Option Char
  | '"' => some '"'
  | '\\' => some '\\'
  | '/' => some '/'
  | 'b' => some '\x08'
  | 'f' => some '\x0c'
  | 'n' => some '\n'
  | 'r' => some '\r'
  | 't' => some '\t'
  | _ => none

def stringParts : Input → Option (List StringPart × Input)
  | [] => none
  | some '"' :: rest => some ([], rest)
  | some '\\' :: some 'u' :: a :: b :: c :: d :: rest =>
    match hexUnit? a b c d with
    | none => none
    | some code => (stringParts rest).map fun (parts, after) => (.unit code :: parts, after)
  | some '\\' :: some e :: rest =>
    match unescape? e with
    | none => none
    | some c => (stringParts rest).map fun (parts, after) => (.char (some c) :: parts, after)
  | some '\\' :: _ => none
  | c :: rest =>
    -- Controls have to be escaped.
    if c.any (· < ' ') then none
    else (stringParts rest).map fun (parts, after) => (.char c :: parts, after)

def isHighSurrogate (code : Nat) : Bool := 0xD800 ≤ code && code ≤ 0xDBFF

def isLowSurrogate (code : Nat) : Bool := 0xDC00 ≤ code && code ≤ 0xDFFF

/-- The text of the parts of a string, in which the halves of a pair have to stand together. -/
def partsText? : List StringPart → Option (List Char)
  | [] => some []
  | .char c :: rest => do return (← c) :: (← partsText? rest)
  | .unit high :: .unit low :: rest =>
    -- Two units make one character if they are the halves of one; half a character is none.
    if isHighSurrogate high then
      if isLowSurrogate low then
        (partsText? rest).map
          (Char.ofNat (0x10000 + (high - 0xD800) * 0x400 + (low - 0xDC00)) :: ·)
      else none
    else if isLowSurrogate high then none
    else (partsText? (.unit low :: rest)).map (Char.ofNat high :: ·)
  | .unit code :: rest =>
    if isHighSurrogate code || isLowSurrogate code then none
    else (partsText? rest).map (Char.ofNat code :: ·)

def string? (input : Input) : Option (Option (List Char) × Input) :=
  (stringParts input).map fun (parts, rest) => (partsText? parts, rest)

def isDigit : Option Char → Bool
  | some c => c.isDigit
  | none => false

def digits (input : Input) : List Char × Input :=
  ((input.takeWhile isDigit).filterMap id, input.dropWhile isDigit)

def wholeDigits? (input : Input) : Option (List Char × Input) :=
  match digits input with
  | ([], _) => none
  | (['0'], rest) => some (['0'], rest)
  | ('0' :: _, _) => none
  | (ds, rest) => some (ds, rest)

def fraction? : Input → Option (List Char × Input)
  | some '.' :: rest =>
    match digits rest with
    | ([], _) => none
    | (ds, rest) => some (ds, rest)
  | input => some ([], input)

def exponentDigits? (negative : Bool) (input : Input) :
    Option (Option (Bool × List Char) × Input) :=
  match digits input with
  | ([], _) => none
  | (ds, rest) => some (some (negative, ds), rest)

def exponent? : Input → Option (Option (Bool × List Char) × Input)
  | some c :: rest =>
    if c = 'e' ∨ c = 'E' then
      match rest with
      | some '+' :: rest => exponentDigits? false rest
      | some '-' :: rest => exponentDigits? true rest
      | rest => exponentDigits? false rest
    else some (none, some c :: rest)
  | input => some (none, input)

def number? (negative : Bool) (input : Input) : Option (NumberLiteral × Input) := do
  let (whole, rest) ← wholeDigits? input
  let (fraction, rest) ← fraction? rest
  let (exponent, rest) ← exponent? rest
  return (⟨negative, whole, fraction, exponent⟩, rest)

mutual

/-- A value at the front of the input, and the rest. Each step consumes input or goes from a list to
its first item, so a bound of twice the length of the input is never reached. -/
def value? : Nat → Input → Option (SyntaxTree × Input)
  | 0, _ => none
  | bound + 1, input =>
    match skipSpace input with
    | some 'n' :: some 'u' :: some 'l' :: some 'l' :: rest => some (.null, rest)
    | some 't' :: some 'r' :: some 'u' :: some 'e' :: rest => some (.bool true, rest)
    | some 'f' :: some 'a' :: some 'l' :: some 's' :: some 'e' :: rest => some (.bool false, rest)
    | some '"' :: rest => (string? rest).map fun (content, rest) => (.string content, rest)
    | some '[' :: rest =>
      -- An empty list is not read as one with a missing item.
      match skipSpace rest with
      | some ']' :: rest => some (.list [], rest)
      | rest => (items? bound rest).map fun (items, rest) => (.list items, rest)
    | some '{' :: rest =>
      match skipSpace rest with
      | some '}' :: rest => some (.object [], rest)
      | rest => (members? bound rest).map fun (members, rest) => (.object members, rest)
    | some '-' :: rest => (number? true rest).map fun (l, rest) => (.number l, rest)
    | rest => (number? false rest).map fun (l, rest) => (.number l, rest)

def items? : Nat → Input → Option (List SyntaxTree × Input)
  | 0, _ => none
  | bound + 1, input => do
    let (item, rest) ← value? bound input
    match skipSpace rest with
    | some ']' :: rest => some ([item], rest)
    | some ',' :: rest => (items? bound rest).map fun (more, rest) => (item :: more, rest)
    | _ => none

def members? : Nat → Input → Option (List (Option (List Char) × SyntaxTree) × Input)
  | 0, _ => none
  | bound + 1, input =>
    match skipSpace input with
    | some '"' :: rest => do
      let (name, rest) ← string? rest
      match skipSpace rest with
      | some ':' :: rest =>
        let (tree, rest) ← value? bound rest
        match skipSpace rest with
        | some '}' :: rest => some ([(name, tree)], rest)
        | some ',' :: rest => (members? bound rest).map fun (more, rest) => ((name, tree) :: more, rest)
        | _ => none
      | _ => none
    | _ => none

end

def SyntaxTree.parse? (input : Input) : Option SyntaxTree :=
  match value? (2 * input.length + 2) input with
  | some (tree, rest) => if (skipSpace rest).isEmpty then some tree else none
  | none => none

def SyntaxTree.ofBytes? (bytes : List UInt8) : Option SyntaxTree := parse? (Text.Utf8.decode bytes)

def SyntaxTree.ofString? (s : String) : Option SyntaxTree := parse? (s.toList.map some)

def ofBytes? (bytes : List UInt8) : Option Json := do (← SyntaxTree.ofBytes? bytes).toJson?

def ofString? (s : String) : Option Json := do (← SyntaxTree.ofString? s).toJson?

end VariantSearch.Json

import VariantSearch.Json.Number

namespace VariantSearch.Json

def hexDigit (n : Nat) : Char := if n < 10 then Char.ofNat (48 + n) else Char.ofNat (87 + n)

def escapeChar (c : Char) : List Char :=
  if c = '"' then ['\\', '"']
  else if c = '\\' then ['\\', '\\']
  else if c = '\x08' then ['\\', 'b']
  else if c = '\x0c' then ['\\', 'f']
  else if c = '\n' then ['\\', 'n']
  else if c = '\r' then ['\\', 'r']
  else if c = '\t' then ['\\', 't']
  else if c < ' ' then ['\\', 'u', '0', '0', hexDigit (c.toNat / 16), hexDigit (c.toNat % 16)]
  else [c]

def quoted (s : String) : List Char := '"' :: (s.toList.flatMap escapeChar ++ ['"'])

mutual

def compact : Json → List Char
  | null => "null".toList
  | bool true => "true".toList
  | bool false => "false".toList
  | integer n => intDigits n
  | double x => doubleText x
  | text s => quoted s
  | list items => '[' :: (compactItems items ++ [']'])
  | object members => '{' :: (compactMembers members ++ ['}'])

def compactItems : List Json → List Char
  | [] => []
  | [item] => compact item
  | item :: more => compact item ++ ',' :: compactItems more

def compactMembers : List (String × Json) → List Char
  | [] => []
  | [(name, value)] => quoted name ++ ':' :: compact value
  | (name, value) :: more => quoted name ++ ':' :: (compact value ++ ',' :: compactMembers more)

end

def toText (j : Json) : String := String.ofList (compact j)

def newLine (level : Nat) : List Char := '\n' :: List.replicate (2 * level) ' '

mutual

def pretty (level : Nat) : Json → List Char
  | null => "null".toList
  | bool true => "true".toList
  | bool false => "false".toList
  | integer n => intDigits n
  | double x => doubleText x
  | text s => quoted s
  | list [] => ['[', ']']
  | list (item :: more) =>
    '[' :: (newLine (level + 1) ++ pretty (level + 1) item ++ prettyItems (level + 1) more ++
      newLine level ++ [']'])
  | object [] => ['{', '}']
  | object ((name, value) :: more) =>
    '{' :: (newLine (level + 1) ++ quoted name ++ ':' :: ' ' :: pretty (level + 1) value ++
      prettyMembers (level + 1) more ++ newLine level ++ ['}'])

def prettyItems (level : Nat) : List Json → List Char
  | [] => []
  | item :: more => ',' :: (newLine level ++ pretty level item ++ prettyItems level more)

def prettyMembers (level : Nat) : List (String × Json) → List Char
  | [] => []
  | (name, value) :: more =>
    ',' :: (newLine level ++ quoted name ++ ':' :: ' ' :: pretty level value ++
      prettyMembers level more)

end

def toPrettyText (j : Json) : String := String.ofList (pretty 0 j)

end VariantSearch.Json

import VariantSearch.Binary64.Extended
import VariantSearch.Text.LowerCase
import VariantSearch.Text.Split
import VariantSearch.TextMap

/-!
Layered configuration: a later source is laid over an earlier one table by table.
-/

namespace VariantSearch.Config

inductive Tree where
  | text (value : String)
  | bool (value : Bool)
  | integer (value : Int)
  | float (value : Extended64)
  | list (items : List Tree)
  | table (entries : List (String × Tree))

namespace Tree

def entries : Tree → List (String × Tree)
  | table es => es
  | _ => []

def lowered (s : String) : String := String.ofList (Text.lower s.toList)

def put (key : String) (value : Tree) : List (String × Tree) → List (String × Tree)
  | [] => [(key, value)]
  | (k, v) :: rest => if k = key then (k, value) :: rest else (k, v) :: put key value rest

def entryOr (key : String) (es : List (String × Tree)) : Tree := (TextMap.lookup key es).getD (table [])

mutual

/-- Lays a value over the entry of a key; a table goes over a table entry by entry, and an empty one
leaves whatever is there. -/
def overlay (base : List (String × Tree)) (key : String) : Tree → List (String × Tree)
  | table [] => put (lowered key) (entryOr (lowered key) base) base
  | table es =>
    put (lowered key) (table (overlayAll (entryOr (lowered key) base).entries es)) base
  | value => put (lowered key) value base

def overlayAll (base : List (String × Tree)) : List (String × Tree) → List (String × Tree)
  | [] => base
  | (key, value) :: more => overlayAll (overlay base key value) more

end

def overlayAt (base : List (String × Tree)) (value : Tree) : List String → List (String × Tree)
  | [] => base
  | [key] => overlay base key value
  | key :: more =>
    put (lowered key) (table (overlayAt (entryOr (lowered key) base).entries value more)) base

def isPathChar (c : Char) : Bool := c.isAlphanum || c == '_' || c == '-'

/-- The path that a key stands for; a key that is no path stands for itself. -/
def pathOf (key : String) : List String :=
  let parts := Text.pieces '.' key.toList
  if parts.all fun p => !p.isEmpty && p.all isPathChar then parts.map String.ofList else [key]

def layer (base : List (String × Tree)) (source : List (String × Tree)) : List (String × Tree) :=
  source.foldl (fun base (key, value) => overlayAt base value (pathOf key)) base

def asText? : Tree → Option String
  | text s => some s
  | bool b => some (if b then "true" else "false")
  | integer n => some (toString n)
  | float x => some x.toText
  | list _ | table _ => none

def natOfText? (s : String) : Option Nat :=
  let digits := match s.toList with
    | '+' :: rest => rest
    | cs => cs
  if digits.isEmpty || !digits.all Char.isDigit then none
  else some (Extended64.digitsValue digits)

def asNatBelow? (bound : Nat) (t : Tree) : Option Nat := do
  let n ← match t with
    | text s =>
      -- Truth values count as numbers, also where they are written as words.
      match lowered s with
      | "true" | "on" | "yes" => some 1
      | "false" | "off" | "no" => some 0
      | _ => natOfText? s
    | bool b => some (if b then 1 else 0)
    | integer n => if 0 ≤ n then some n.toNat else none
    | float x => some x.toNat
    | list _ | table _ => none
  if n < bound then some n else none

def asBool? : Tree → Option Bool
  | bool b => some b
  | integer n => some (n != 0)
  | float x => some !x.isZero
  | text s =>
    match lowered s with
    | "1" | "true" | "on" | "yes" => some true
    | "0" | "false" | "off" | "no" => some false
    | _ => none
  | list _ | table _ => none

def asAlternative? : Tree → Option String
  | text s => some s
  | table [(key, _)] => some key
  | _ => none

/-- The values that belong to the declared names, in the order of the names, whether the tree is a
table with these keys or a list of the values. Whatever is left over is ignored. -/
def record? (names : List String) : Tree → Option (List (Option Tree))
  | table es => some (names.map (TextMap.lookup · es))
  | list items =>
    some ((items.take names.length).map some ++ List.replicate (names.length - items.length) none)
  | _ => none

end Tree

end VariantSearch.Config

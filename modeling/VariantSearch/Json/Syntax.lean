import VariantSearch.Json.Number

/-!
JSON texts as they are written, with members in their order and digits as they stand.
-/

namespace VariantSearch.Json

/-- A JSON text as it is written. A string that holds a lone surrogate or bytes that form no
character has no content. -/
inductive SyntaxTree where
  | null
  | bool (value : Bool)
  | number (literal : NumberLiteral)
  | string (content : Option (List Char))
  | list (items : List SyntaxTree)
  | object (members : List (Option (List Char) × SyntaxTree))

def nestingLimit : Nat := 127

namespace SyntaxTree

def toJsonWithin? : Nat → SyntaxTree → Option Json
  | _, null => some .null
  | _, bool b => some (.bool b)
  | _, number l => l.toJson?
  | _, string content => content.map fun cs => .text (String.ofList cs)
  | 0, list _ => none
  | 0, object _ => none
  | limit + 1, list items => (items.mapM (toJsonWithin? limit)).map .list
  | limit + 1, object members => do
    -- Of members with one name the last one counts.
    let members ← members.mapM fun (name, tree) => do
      return (String.ofList (← name), ← toJsonWithin? limit tree)
    return ofMembers members

def toJson? (t : SyntaxTree) : Option Json := t.toJsonWithin? nestingLimit

def asText? : SyntaxTree → Option String
  | string content => content.map String.ofList
  | _ => none

def asNatBelow? (bound : Nat) : SyntaxTree → Option Nat
  | number l =>
    match l.toJson? with
    | some j => j.asNatBelow? bound
    | none => none
  | _ => none

/-- The values that belong to the declared names, in the order of the names, whether the tree is an
object with these members or a list of the values. No declared member may repeat, every member name
has to be a text, and a list may not be longer than the names; the rest of an object is not looked
at. -/
def record? (names : List String) : SyntaxTree → Option (List (Option SyntaxTree))
  | object members =>
    if members.any (·.1.isNone) then none
    else
      names.mapM fun name =>
        match members.filter (·.1 = some name.toList) with
        | [] => some none
        | [(_, tree)] => some (some tree)
        -- A part that is named twice makes the record unreadable.
        | _ => none
  | list items =>
    if items.length ≤ names.length then
      some (items.map some ++ List.replicate (names.length - items.length) none)
    else none
  | _ => none

end SyntaxTree

end VariantSearch.Json

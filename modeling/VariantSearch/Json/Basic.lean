import VariantSearch.Binary64
import VariantSearch.TextMap

/-!
JSON values. Members of objects stand in ascending order, so equal objects are equal values.
-/

namespace VariantSearch

inductive Json where
  | null
  | bool (value : Bool)
  | integer (value : Int)
  | double (value : Binary64)
  | text (value : String)
  | list (items : List Json)
  | object (members : List (String × Json))

namespace Json

instance : Inhabited Json := ⟨null⟩

def ofMembers (members : List (String × Json)) : Json := object (TextMap.ofList members).entries

def ofMap (map : TextMap Json) : Json := object map.entries

def nat (n : Nat) : Json := integer n

def texts (l : List String) : Json := list (l.map text)

def orNull {α : Type} (f : α → Json) : Option α → Json
  | none => null
  | some a => f a

def member? (name : String) : Json → Option Json
  | object members => TextMap.lookup name members
  | _ => none

def present? (name : String) (j : Json) : Option Json :=
  match j.member? name with
  | some null => none
  | other => other

def setMember (j : Json) (name : String) (value : Json) : Json :=
  match j with
  | object members => object (TextMap.insertSorted name value members)
  | other => other

def eraseMember (name : String) : Json → Json
  | object members => object (members.filter (·.1 ≠ name))
  | other => other

def asText? : Json → Option String
  | text s => some s
  | _ => none

def asBool? : Json → Option Bool
  | bool b => some b
  | _ => none

def asIntBetween? (lo hi : Int) : Json → Option Int
  | integer n => if lo ≤ n ∧ n ≤ hi then some n else none
  | _ => none

def asNatBelow? (bound : Nat) : Json → Option Nat
  | integer n => if 0 ≤ n ∧ n < (bound : Int) then some n.toNat else none
  | _ => none

def asList? : Json → Option (List Json)
  | list items => some items
  | _ => none

def asTexts? (j : Json) : Option (List String) := do (← j.asList?).mapM asText?

def asMembers? : Json → Option (List (String × Json))
  | object members => some members
  | _ => none

/-- The values that belong to the declared names, in the order of the names, whether the value is an
object with these members or a list of the values. Other members are ignored; a list may not be
longer than the names. -/
def record? (names : List String) : Json → Option (List (Option Json))
  | object members => some (names.map (TextMap.lookup · members))
  | list items =>
    -- The parts of a record may be listed in their declared order, and the last ones left out.
    if items.length ≤ names.length then
      some (items.map some ++ List.replicate (names.length - items.length) none)
    else none
  | _ => none

def fields? (names : List String) (j : Json) : Option (List Json) := do
  (← j.record? names).mapM id

/-- The name of an alternative, written as a string or as an object with that one member, which is
null. -/
def asAlternative? : Json → Option String
  | text s => some s
  | object [(name, null)] => some name
  | _ => none

def isObject : Json → Bool
  | object _ => true
  | _ => false

end Json

end VariantSearch

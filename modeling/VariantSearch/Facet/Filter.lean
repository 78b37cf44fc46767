import VariantSearch.Facet

/-!
Filter expressions of the engine, `field = "value"`, and a reader of their grammar.
-/

namespace VariantSearch.Facet.Filter

def escape (c : Char) : List Char := if c = '\\' ∨ c = '"' then ['\\', c] else [c]

def encode (f : Facet) : List Char :=
  f.field.toList ++ " = \"".toList ++ f.value.toList.flatMap escape ++ ['"']

def expression (f : Facet) : String := String.ofList (encode f)

def readQuoted? : List Char → Option (List Char × List Char)
  | [] => none
  | '"' :: rest => some ([], rest)
  | '\\' :: c :: rest =>
    -- Nothing else is escaped.
    if c = '\\' ∨ c = '"' then (readQuoted? rest).map fun (text, after) => (c :: text, after)
    else none
  | '\\' :: [] => none
  | c :: rest => (readQuoted? rest).map fun (text, after) => (c :: text, after)

/-- The facet of an expression that is one comparison and nothing else. -/
def read? (cs : List Char) : Option Facet :=
  let name := cs.takeWhile isNameChar
  match cs.dropWhile isNameChar with
  | ' ' :: '=' :: ' ' :: '"' :: rest =>
    match readQuoted? rest with
    -- The comparison ends with the quoted text.
    | some (value, []) => if name.isEmpty then none else some ⟨String.ofList name, String.ofList value⟩
    | _ => none
  | _ => none

end VariantSearch.Facet.Filter

import VariantSearch.Failure
import VariantSearch.Json.Parser

namespace VariantSearch.Corpus

inductive Source where
  | missing
  | directory
  | bytes (content : List UInt8)

def malformed : ServiceFailure := .serialization "*"

def unreadable : ServiceFailure := .io "*"

def notAnObject (path : String) (position : Nat) : ServiceFailure :=
  .invalid (path ++ ": entry " ++ toString position ++ " is not a JSON object")

/-- The documents of a file. The path is named in the report on an item that is no object. -/
def load (path : String) : Source → Except ServiceFailure (List Json)
  -- A service may start without its documents.
  | .missing => .ok []
  | .directory => .error unreadable
  | .bytes content =>
    match Json.ofBytes? content with
    | some (.list items) =>
      match items.findIdx? (!·.isObject) with
      | some position => .error (notAnObject path position)
      | none => .ok items
    | _ => .error malformed

end VariantSearch.Corpus

import VariantSearch.Text.Blank
import VariantSearch.Text.Split

namespace VariantSearch

structure Facet where
  field : String
  value : String
deriving DecidableEq

namespace Facet

def isNameChar (c : Char) : Bool := c.isAlphanum || c == '_' || c == '.' || c == '-'

def isName (cs : List Char) : Bool := !cs.isEmpty && cs.all isNameChar

def ofSegment? (segment : List Char) : Option Facet :=
  match Text.cutFirst? ':' (Text.trim segment) with
  | none => none
  | some (before, after) =>
    let field := Text.trim before
    let value := Text.trim after
    -- The value may hold further colons, the field may not hold what a filter has to quote.
    if isName field && !value.isEmpty then some ⟨String.ofList field, String.ofList value⟩ else none

def parse (raw : String) : List Facet := (Text.pieces ',' raw.toList).filterMap ofSegment?

def ofParameter : Option String → List Facet
  | none => []
  | some raw => parse raw

def toText (f : Facet) : String := f.field ++ ":" ++ f.value

end Facet

end VariantSearch

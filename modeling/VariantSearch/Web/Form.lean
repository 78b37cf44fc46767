import VariantSearch.Text.Split
import VariantSearch.Web.Percent

/-!
Names with values as forms are sent.
-/

namespace VariantSearch.Web.Form

def isPlain (c : Char) : Bool := c.isAlphanum || c == '*' || c == '-' || c == '.' || c == '_'

def encode (s : String) : List Char :=
  s.toList.flatMap fun c => if c = ' ' then ['+'] else Percent.encode isPlain [c]

def encodePair (pair : String × String) : List Char := encode pair.1 ++ '=' :: encode pair.2

def encodePairs (pairs : List (String × String)) : List Char :=
  Text.joined '&' (pairs.map encodePair)

def decode (cs : List Char) : String :=
  String.ofList (Text.Utf8.decodeLossy
    (Percent.decodeText (cs.map fun c => if c = '+' then ' ' else c)))

def pairOf (piece : List Char) : String × String :=
  match Text.cutFirst? '=' piece with
  | some (name, value) => (decode name, decode value)
  | none => (decode piece, "")

def decodePairs (cs : List Char) : List (String × String) :=
  ((Text.pieces '&' cs).filter (!·.isEmpty)).map pairOf

end VariantSearch.Web.Form

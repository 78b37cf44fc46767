import VariantSearch.Text.CaseFold
import VariantSearch.Text.WordChar

namespace VariantSearch.Text

def occursIn (needle : List Char) : List Char → Bool
  | [] => needle.isEmpty
  | c :: rest => needle.isPrefixOf (c :: rest) || occursIn needle rest

/-- Whether `word` stands, up to case and between word boundaries, at the place between `before`
(nearest character first) and `after`. -/
def wordAt (word before after : List Char) : Bool :=
  let found := after.take word.length
  isBoundary before after && sameUpToCase word found &&
    isBoundary (found.reverse ++ before) (after.drop word.length)

def wordAfter (word before : List Char) : List Char → Bool
  | [] => wordAt word before []
  | c :: rest => wordAt word before (c :: rest) || wordAfter word (c :: before) rest

def wordIn (word text : List Char) : Bool := wordAfter word [] text

end VariantSearch.Text

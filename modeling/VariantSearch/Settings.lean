import VariantSearch.Ranking
import VariantSearch.TextMap
import VariantSearch.TextSet

namespace VariantSearch

/-- How words with typing errors are matched: how long a word has to be for one and for two errors,
and the attributes in which none are allowed for. -/
structure TypoTolerance where
  enabled : Bool
  oneTypo : UInt8
  twoTypos : UInt8
  exactAttributes : TextSet
deriving DecidableEq

inductive FacetOrder where
  | alphabetic
  | byCount
deriving DecidableEq

structure Settings where
  filterable : TextSet
  sortable : TextSet
  searchable : List String
  /-- Terms and what they stand for; an entry says nothing about the opposite direction. -/
  synonyms : TextMap TextSet
  stopWords : TextSet
  typos : TypoTolerance
  ranking : List RankingRule
  maxTotalHits : UInt64
  maxFacetValues : UInt64
  /-- The order of the values of a facet; the name `*` stands for every facet. -/
  facetOrders : TextMap FacetOrder
deriving DecidableEq

def TypoTolerance.standard : TypoTolerance := ⟨true, 5, 9, ∅⟩

def Settings.standard : Settings where
  filterable := ∅
  sortable := ∅
  searchable := ["*"]
  synonyms := ∅
  stopWords := ∅
  typos := .standard
  ranking :=
    [.builtin .words, .builtin .typo, .builtin .proximity, .builtin .attributeRank, .builtin .sort,
      .builtin .exactness]
  maxTotalHits := 1000
  maxFacetValues := 100
  facetOrders := .ofList [("*", .alphabetic)]

end VariantSearch

import VariantSearch.Settings.Document

namespace VariantSearch

structure Variant where
  name : String
  indexUid : String
  primaryKey : String
  settings : Settings
deriving DecidableEq

namespace Variant

def derive (v : Variant) (name indexUid : String) : Variant :=
  { v with name, indexUid }

def mergeSynonym (map : TextMap TextSet) (entry : String × List String) : TextMap TextSet :=
  map.alter entry.1 fun old => entry.2.foldl TextSet.insert (old.getD ∅)

def addSynonyms (v : Variant) (entries : List (String × List String)) : Variant :=
  { v with settings.synonyms := entries.foldl mergeSynonym v.settings.synonyms }

def withSearchable (v : Variant) (attributes : List String) : Variant :=
  { v with settings.searchable := attributes }

def withRanking (v : Variant) (rules : List RankingRule) : Variant :=
  { v with settings.ranking := rules }

def withTypos (v : Variant) (typos : TypoTolerance) : Variant :=
  { v with settings.typos := typos }

def isSortable (v : Variant) (field : String) : Bool := decide (field ∈ v.settings.sortable)

def toJson (v : Variant) : Json :=
  .ofMembers
    [("index_uid", .text v.indexUid), ("name", .text v.name), ("primary_key", .text v.primaryKey),
      ("settings", v.settings.toJson)]

def ofJson? (j : Json) : Option Variant :=
  match j.fields? ["name", "index_uid", "primary_key", "settings"] with
  | some [name, indexUid, primaryKey, settings] => do
    return ⟨← name.asText?, ← indexUid.asText?, ← primaryKey.asText?, ← Settings.ofJson? settings⟩
  | _ => none

end Variant

end VariantSearch

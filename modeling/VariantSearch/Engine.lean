import VariantSearch.Attempt
import VariantSearch.Settings.Document

/-!
The search engine as the service sees it.
-/

namespace VariantSearch

structure EngineQuery where
  text : String
  offset : Nat
  limit : Nat
  filter : List String
  sort : List String
deriving DecidableEq

namespace EngineQuery

def listMember (name : String) (l : List String) : List (String × Json) :=
  if l.isEmpty then [] else [(name, .texts l)]

def toJson (q : EngineQuery) : Json :=
  .ofMembers
    ([("q", .text q.text), ("offset", .nat q.offset), ("limit", .nat q.limit)] ++
      listMember "filter" q.filter ++ listMember "sort" q.sort)

def textsOrNone? : Option Json → Option (List String)
  | none => some []
  | some j => j.asTexts?

def ofJson? (j : Json) : Option EngineQuery :=
  match j.record? ["q", "offset", "limit", "filter", "sort"] with
  | some [some q, some offset, some limit, filter, sort] => do
    return ⟨← q.asText?, ← offset.asNatBelow? UInt64.size, ← limit.asNatBelow? UInt64.size,
      ← textsOrNone? filter, ← textsOrNone? sort⟩
  | _ => none

end EngineQuery

class SearchEngine (σ : Type) where
  backend : σ → String
  /-- Makes sure that an index exists, with a primary key if it has to be made. -/
  createIndex (indexUid primaryKey : String) : Attempt σ Unit
  updateSettings (indexUid : String) (settings : Settings) : Attempt σ Unit
  /-- Adds documents, of which each replaces the one with the same primary key. -/
  addDocuments (indexUid primaryKey : String) (documents : List Json) : Attempt σ Unit
  search (indexUid : String) (query : EngineQuery) : Attempt σ Json
  health : Attempt σ Unit

end VariantSearch

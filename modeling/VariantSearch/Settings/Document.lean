import VariantSearch.Json.Basic
import VariantSearch.Settings

namespace VariantSearch

def TextSet.toJson (set : TextSet) : Json := .texts set.toList

def TextSet.ofJson? (j : Json) : Option TextSet := j.asTexts?.map TextSet.ofList

namespace TypoTolerance

def toJson (t : TypoTolerance) : Json :=
  .ofMembers
    [("enabled", .bool t.enabled),
      ("minWordSizeForTypos",
        .ofMembers [("oneTypo", .nat t.oneTypo.toNat), ("twoTypos", .nat t.twoTypos.toNat)]),
      ("disableOnAttributes", t.exactAttributes.toJson)]

def ofJson? (j : Json) : Option TypoTolerance :=
  match j.fields? ["enabled", "minWordSizeForTypos", "disableOnAttributes"] with
  | some [enabled, sizes, exact] =>
    match sizes.fields? ["oneTypo", "twoTypos"] with
    | some [one, two] => do
      return ⟨← enabled.asBool?, (← one.asNatBelow? 256).toUInt8, (← two.asNatBelow? 256).toUInt8,
        ← TextSet.ofJson? exact⟩
    | _ => none
  | _ => none

end TypoTolerance

def FacetOrder.toText : FacetOrder → String
  | alphabetic => "alpha"
  | byCount => "count"

def FacetOrder.ofText? : String → Option FacetOrder
  | "alpha" => some alphabetic
  | "count" => some byCount
  | _ => none

def RankingRule.ofJson? (j : Json) : Option RankingRule := do (RankingRule.parse (← j.asText?)).toOption

def TextMap.toJson {α : Type} (f : α → Json) (map : TextMap α) : Json :=
  .object (map.entries.map fun e => (e.1, f e.2))

def TextMap.ofJson? {α : Type} (f : Json → Option α) (j : Json) : Option (TextMap α) := do
  let entries ← (← j.asMembers?).mapM fun (key, value) => (f value).map (key, ·)
  return TextMap.ofList entries

namespace Settings

def toJson (s : Settings) : Json :=
  .ofMembers
    [("filterableAttributes", s.filterable.toJson),
      ("sortableAttributes", s.sortable.toJson),
      ("searchableAttributes", .texts s.searchable),
      ("synonyms", s.synonyms.toJson TextSet.toJson),
      ("stopWords", s.stopWords.toJson),
      ("typoTolerance", s.typos.toJson),
      ("rankingRules", .texts (s.ranking.map RankingRule.toText)),
      ("pagination", .ofMembers [("maxTotalHits", .nat s.maxTotalHits.toNat)]),
      ("faceting",
        .ofMembers
          [("maxValuesPerFacet", .nat s.maxFacetValues.toNat),
            ("sortFacetValuesBy", s.facetOrders.toJson fun o => .text o.toText)])]

def partNames : List String :=
  ["filterableAttributes", "sortableAttributes", "searchableAttributes", "synonyms", "stopWords",
    "typoTolerance", "rankingRules", "pagination", "faceting"]

def ofJson? (j : Json) : Option Settings :=
  match j.fields? partNames with
  | some [filterable, sortable, searchable, synonyms, stopWords, typos, ranking, pages, facets] =>
    match pages.fields? ["maxTotalHits"], facets.fields? ["maxValuesPerFacet", "sortFacetValuesBy"] with
    | some [maxTotalHits], some [maxFacetValues, facetOrders] => do
      return {
        filterable := ← TextSet.ofJson? filterable
        sortable := ← TextSet.ofJson? sortable
        searchable := ← searchable.asTexts?
        synonyms := ← TextMap.ofJson? TextSet.ofJson? synonyms
        stopWords := ← TextSet.ofJson? stopWords
        typos := ← TypoTolerance.ofJson? typos
        ranking := ← (← ranking.asList?).mapM RankingRule.ofJson?
        maxTotalHits := (← maxTotalHits.asNatBelow? UInt64.size).toUInt64
        maxFacetValues := (← maxFacetValues.asNatBelow? UInt64.size).toUInt64
        facetOrders :=
          ← TextMap.ofJson? (fun o => o.asAlternative?.bind FacetOrder.ofText?) facetOrders }
    | _, _ => none
  | _ => none

end Settings

end VariantSearch

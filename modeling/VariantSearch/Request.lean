import VariantSearch.Engine
import VariantSearch.Expansion
import VariantSearch.Facet.Filter
import VariantSearch.Registry
import VariantSearch.Word

/-!
Requests. Checks are made in a fixed order, and the first that fails is reported.
-/

namespace VariantSearch

/-- The parameters of a search as a client gives them. Page and limit have a sign, so that values
below one reach the checks. -/
structure SearchParameters where
  query : String
  facets : Option String
  sort : Option String
  page : Int
  limit : Int
deriving DecidableEq

namespace SearchParameters

def standard : SearchParameters := ⟨"", none, none, 1, 20⟩

def toJson (p : SearchParameters) : Json :=
  .ofMembers
    [("q", .text p.query), ("facets", .orNull .text p.facets), ("sort", .orNull .text p.sort),
      ("page", .integer p.page), ("limit", .integer p.limit)]

def textOrNull? : Json → Option (Option String)
  | .null => some none
  | .text s => some (some s)
  | _ => none

def asInt64? (j : Json) : Option Int := j.asIntBetween? Word.least Word.greatest

def readOr? {α : Type} (standard : α) (read? : Json → Option α) : Option Json → Option α
  | none => some standard
  | some j => read? j

def ofJson? (j : Json) : Option SearchParameters :=
  match j.record? ["q", "facets", "sort", "page", "limit"] with
  | some [q, facets, sort, page, limit] => do
    return ⟨← readOr? standard.query Json.asText? q, ← readOr? standard.facets textOrNull? facets,
      ← readOr? standard.sort textOrNull? sort, ← readOr? standard.page asInt64? page,
      ← readOr? standard.limit asInt64? limit⟩
  | _ => none

end SearchParameters

structure SortClause where
  field : String
  order : SortOrder
deriving DecidableEq

def SortClause.toText (c : SortClause) : String := c.field ++ ":" ++ c.order.toText

structure SearchRequest where
  text : String
  offset : Nat
  limit : Nat
  filters : List Facet
  sort : Option (List SortClause)
deriving DecidableEq

inductive RequestFault where
  | page (given : Int)
  | limit (given : Int)
  | range (page limit : Int)
  | sortForm (segment : String)
  | sortOrder (segment : String)
  | notSortable (field variant : String)
deriving DecidableEq

def RequestFault.message : RequestFault → String
  | page n => "page must be at least 1, got " ++ toString n
  | limit n => "limit must be at least 1, got " ++ toString n
  | range p l => "page " ++ toString p ++ " with limit " ++ toString l ++ " is out of range"
  | sortForm s => "sort clause `" ++ s ++ "` must be `field:asc|desc`"
  | sortOrder s => "sort order in `" ++ s ++ "` must be `asc` or `desc`"
  | notSortable field variant =>
    "`" ++ field ++ "` is not sortable in configuration `" ++ variant ++ "`"

def RequestFault.toFailure (f : RequestFault) : SearchFailure := .invalidRequest f.message

def unknownVariant (name : String) : SearchFailure :=
  .indexNotFound ("no configuration named `" ++ name ++ "`")

namespace SortClause

def ofSegment (v : Variant) (segment : List Char) : Except RequestFault SortClause :=
  match Text.cutLast? ':' segment with
  | none => .error (.sortForm (String.ofList segment))
  | some (before, after) =>
    -- The direction is judged before the attribute.
    match SortOrder.ofAnyCase? (Text.trim after) with
    | none => .error (.sortOrder (String.ofList segment))
    | some order =>
      let field := String.ofList (Text.trim before)
      if v.isSortable field then .ok ⟨field, order⟩ else .error (.notSortable field v.name)

def segments (raw : String) : List (List Char) :=
  ((Text.pieces ',' raw.toList).map Text.trim).filter (!·.isEmpty)

def ofParameter (v : Variant) : Option String → Except RequestFault (Option (List SortClause))
  | none => .ok none
  | some raw =>
    match (segments raw).mapM (ofSegment v) with
    | .error e => .error e
    -- A parameter of blank segments asks for nothing.
    | .ok [] => .ok none
    | .ok clauses => .ok (some clauses)

def toJson (c : SortClause) : Json :=
  .ofMembers [("field", .text c.field), ("order", .text c.order.toText)]

def ofJson? (j : Json) : Option SortClause :=
  match j.fields? ["field", "order"] with
  | some [field, order] => do
    return ⟨← field.asText?, ← SortOrder.ofText? (← order.asAlternative?)⟩
  | _ => none

end SortClause

def offsetOf? (page limit : Int) : Option Nat :=
  let offset := (page.toNat - 1) * limit.toNat
  if offset < UInt64.size then some offset else none

namespace SearchRequest

def build (registry : Registry) (chains : Chains) (name : String) (p : SearchParameters) :
    Except SearchFailure (SearchRequest × List String) :=
  if p.page < 1 then .error (RequestFault.page p.page).toFailure
  else if p.limit < 1 then .error (RequestFault.limit p.limit).toFailure
  else
    match registry.variant? name with
    | none => .error (unknownVariant name)
    | some v =>
      -- The range is looked at only behind the name.
      match offsetOf? p.page p.limit with
      | none => .error (RequestFault.range p.page p.limit).toFailure
      | some offset =>
        match SortClause.ofParameter v p.sort with
        | .error f => .error f.toFailure
        | .ok sort =>
          let expanded := chains.expand name p.query
          .ok (⟨expanded.text, offset, p.limit.toNat, Facet.ofParameter p.facets, sort⟩,
            expanded.fired)

def toQuery (r : SearchRequest) : EngineQuery where
  text := r.text
  offset := r.offset
  limit := r.limit
  filter := r.filters.map Facet.Filter.expression
  sort := (r.sort.getD []).map SortClause.toText

def facetToJson (f : Facet) : Json := .ofMembers [("field", .text f.field), ("value", .text f.value)]

def facetOfJson? (j : Json) : Option Facet :=
  match j.fields? ["field", "value"] with
  | some [field, value] => do return ⟨← field.asText?, ← value.asText?⟩
  | _ => none

def toJson (r : SearchRequest) : Json :=
  .ofMembers
    [("query_text", .text r.text), ("offset", .nat r.offset), ("limit", .nat r.limit),
      ("filters", .list (r.filters.map facetToJson)),
      ("sort", .orNull (fun clauses => .list (clauses.map SortClause.toJson)) r.sort)]

def sortOfJson? : Option Json → Option (Option (List SortClause))
  | none | some .null => some none
  | some j => do return some (← (← j.asList?).mapM SortClause.ofJson?)

def ofJson? (j : Json) : Option SearchRequest :=
  match j.record? ["query_text", "offset", "limit", "filters", "sort"] with
  | some [some text, some offset, some limit, some filters, sort] => do
    return ⟨← text.asText?, ← offset.asNatBelow? UInt64.size, ← limit.asNatBelow? UInt64.size,
      ← (← filters.asList?).mapM facetOfJson?, ← sortOfJson? sort⟩
  | _ => none

end SearchRequest

end VariantSearch

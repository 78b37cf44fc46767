import VariantSearch.Text.Split

namespace VariantSearch

inductive SortOrder where
  | ascending
  | descending
deriving DecidableEq

namespace SortOrder

def toText : SortOrder → String
  | ascending => "asc"
  | descending => "desc"

def ofText? : String → Option SortOrder
  | "asc" => some ascending
  | "desc" => some descending
  | _ => none

def ofAnyCase? (cs : List Char) : Option SortOrder := ofText? (String.ofList (cs.map Char.toLower))

end SortOrder

inductive Criterion where
  | words
  | typo
  | proximity
  | attributeRank
  | sort
  | exactness
deriving DecidableEq

namespace Criterion

def toText : Criterion → String
  | words => "words"
  | typo => "typo"
  | proximity => "proximity"
  | attributeRank => "attribute"
  | sort => "sort"
  | exactness => "exactness"

def ofText? : String → Option Criterion
  | "words" => some words
  | "typo" => some typo
  | "proximity" => some proximity
  | "attribute" => some attributeRank
  | "sort" => some sort
  | "exactness" => some exactness
  | _ => none

end Criterion

inductive RankingRule where
  | builtin (criterion : Criterion)
  | byAttribute (field : String) (order : SortOrder)
deriving DecidableEq

inductive RankingFault where
  | unknownRule (text : String)
  | unknownOrder (text : String)
deriving DecidableEq

def RankingFault.message : RankingFault → String
  | unknownRule s => "unknown ranking rule `" ++ s ++ "`"
  | unknownOrder s => "unknown sort order in ranking rule `" ++ s ++ "`"

namespace RankingRule

def toText : RankingRule → String
  | builtin c => c.toText
  | byAttribute field order => field ++ ":" ++ order.toText

def parse (s : String) : Except RankingFault RankingRule :=
  match Criterion.ofText? s with
  | some c => .ok (builtin c)
  | none =>
    -- An attribute may hold colons, so the last one is the one before the direction.
    match Text.cutLast? ':' s.toList with
    | some (field, order) =>
      if field.isEmpty then .error (.unknownRule s)
      else
        match SortOrder.ofAnyCase? order with
        | some order => .ok (byAttribute (String.ofList field) order)
        | none => .error (.unknownOrder s)
    | none => .error (.unknownRule s)

end RankingRule

end VariantSearch

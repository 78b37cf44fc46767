import VariantSearch.Failure
import VariantSearch.Variant

/-!
The conditions that a variant has to meet before it is sent to the engine.
-/

namespace VariantSearch

inductive Violation where
  | emptyName
  | emptyIndexUid
  | emptyPrimaryKey
  | noSearchableAttribute
  | noRankingRule
  | noHits
  | noFacetValues
  | typoThresholds (one two : UInt8)
  | repeatedRule (rule : RankingRule)
deriving DecidableEq

namespace Violation

/-- The place of the fault; a relation between several fields of the settings is at `__all__`. -/
def path : Violation → String
  | emptyName => "name"
  | emptyIndexUid => "index_uid"
  | emptyPrimaryKey => "primary_key"
  | noSearchableAttribute => "settings.searchable_attributes"
  | noRankingRule => "settings.ranking_rules"
  | noHits => "settings.pagination.max_total_hits"
  | noFacetValues => "settings.faceting.max_values_per_facet"
  | typoThresholds _ _ | repeatedRule _ => "settings.__all__"

def reason : Violation → String
  | emptyName => "name must not be empty"
  | emptyIndexUid => "index uid must not be empty"
  | emptyPrimaryKey => "primary key must not be empty"
  | noSearchableAttribute => "searchableAttributes must not be empty"
  | noRankingRule => "rankingRules must not be empty"
  | noHits => "maxTotalHits must be at least 1"
  | noFacetValues => "maxValuesPerFacet must be at least 1"
  | typoThresholds one two =>
    "minWordSizeForTypos.oneTypo (" ++ toString one.toNat ++ ") must not exceed twoTypos (" ++
      toString two.toNat ++ ")"
  | repeatedRule rule => "ranking rule `" ++ rule.toText ++ "` is declared twice"

def message (v : Violation) : String := v.path ++ ": " ++ v.reason

end Violation

def firstRepeated? {α : Type} [DecidableEq α] (seen : List α) : List α → Option α
  | [] => none
  | a :: rest => if a ∈ seen then some a else firstRepeated? (a :: seen) rest

namespace Settings

def fieldViolations (s : Settings) : List Violation :=
  (if s.searchable = [] then [.noSearchableAttribute] else []) ++
    (if s.ranking = [] then [.noRankingRule] else []) ++
    (if s.maxTotalHits = 0 then [.noHits] else []) ++
    (if s.maxFacetValues = 0 then [.noFacetValues] else [])

def relationViolation? (s : Settings) : Option Violation :=
  if s.typos.twoTypos < s.typos.oneTypo then some (.typoThresholds s.typos.oneTypo s.typos.twoTypos)
  else (firstRepeated? [] s.ranking).map .repeatedRule

def violations (s : Settings) : List Violation :=
  if s.fieldViolations = [] then s.relationViolation?.toList else s.fieldViolations

end Settings

namespace Variant

def violations (v : Variant) : List Violation :=
  (if v.name = "" then [.emptyName] else []) ++
    (if v.indexUid = "" then [.emptyIndexUid] else []) ++
    (if v.primaryKey = "" then [.emptyPrimaryKey] else []) ++
    v.settings.violations

/-- The report on a variant with violations: its name, and then one violation a line in ascending
order of the texts. -/
def report (v : Variant) (violations : List Violation) : String :=
  v.name ++ ": " ++
    "\n".intercalate ((violations.map Violation.message).mergeSort fun a b => decide (a ≤ b))

def check (v : Variant) : Except SearchFailure Unit :=
  match v.violations with
  | [] => .ok ()
  | violations => .error (.invalidConfiguration (v.report violations))

end Variant

end VariantSearch

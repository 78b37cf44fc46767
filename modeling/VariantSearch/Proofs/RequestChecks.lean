import Mathlib.Data.List.Basic
import VariantSearch.Request

namespace VariantSearch

namespace SortClause

def fault? (v : Variant) (segment : List Char) : Option RequestFault :=
  match ofSegment v segment with
  | .ok _ => none
  | .error f => some f

theorem mapM_ofSegment_eq_error_iff {v : Variant} {l : List (List Char)} {f : RequestFault} :
    l.mapM (ofSegment v) = .error f ↔ l.findSome? (fault? v) = some f := by
  induction l with
  | nil => simp [pure, Except.pure]
  | cons segment rest ih =>
    rw [List.mapM_cons, List.findSome?_cons]
    cases hsegment : ofSegment v segment with
    | error g => simp [fault?, hsegment, bind, Except.bind]
    | ok clause =>
      cases hrest : rest.mapM (ofSegment v) with
      | error g =>
        rw [hrest] at ih
        simpa [fault?, hsegment, bind, Except.bind] using ih
      | ok clauses =>
        rw [hrest] at ih
        simpa [fault?, hsegment, bind, Except.bind, pure, Except.pure] using ih

/-- A sort parameter is refused for its first segment that is no clause. -/
theorem ofParameter_eq_error_iff {v : Variant} {sort : Option String} {f : RequestFault} :
    ofParameter v sort = .error f ↔
      (sort.bind fun raw => (segments raw).findSome? (fault? v)) = some f := by
  cases sort with
  | none => simp [ofParameter]
  | some raw =>
    rw [Option.bind_some, ← mapM_ofSegment_eq_error_iff, ofParameter]
    cases hclauses : (segments raw).mapM (ofSegment v) with
    | error g => simp
    | ok clauses => cases clauses <;> simp

theorem fault_of_ofParameter_eq_ok {v : Variant} {sort : Option String}
    {clauses : Option (List SortClause)} (h : ofParameter v sort = .ok clauses) :
    (sort.bind fun raw => (segments raw).findSome? (fault? v)) = none := by
  refine Option.eq_none_iff_forall_not_mem.2 fun f hf => ?_
  rw [Option.mem_def, ← ofParameter_eq_error_iff, h] at hf
  cases hf

end SortClause

/-- The number of hits before a page is the product over all integers, if that fits. -/
theorem offsetOf?_eq {page limit : Int} (hpage : 1 ≤ page) (hlimit : 1 ≤ limit) :
    offsetOf? page limit =
      if (page - 1) * limit < UInt64.size then some ((page - 1) * limit).toNat else none := by
  obtain ⟨m, rfl⟩ : ∃ m : Nat, page = m + 1 := ⟨(page - 1).toNat, by omega⟩
  obtain ⟨n, rfl⟩ := Int.eq_ofNat_of_zero_le (show 0 ≤ limit by omega)
  have hproduct : ((m : Int) + 1 - 1) * (n : Int) = ((m * n : Nat) : Int) := by
    rw [Int.add_sub_cancel, Int.natCast_mul]
  have hpage' : ((m : Int) + 1).toNat - 1 = m := by omega
  rw [hproduct, offsetOf?, hpage', Int.toNat_natCast, Int.toNat_natCast]
  simp only [Int.ofNat_lt]

/-- A check of a search: the status that a client is told if the search does not pass it, and the
failure in that case. -/
structure SearchCheck where
  status : Nat
  failure? : Option SearchFailure

namespace SearchCheck

section

variable (condition : Prop) [Decidable condition] (status : Nat) (failure : SearchFailure)

def failingIf : SearchCheck := ⟨status, if condition then some failure else none⟩

theorem findSome?_failingIf (rest : List SearchCheck) :
    (failingIf condition status failure :: rest).findSome? failure? =
      if condition then some failure else rest.findSome? failure? := by
  rw [List.findSome?_cons, failingIf]
  split_ifs <;> rfl

end

def firstFailing (checks : List SearchCheck) : Option (Nat × SearchFailure) :=
  checks.findSome? fun check => check.failure?.map fun failure => (check.status, failure)

def Fits (check : SearchCheck) : Prop :=
  ∀ e, check.failure? = some e → e.toService.status = check.status

theorem fits_failingIf (condition : Prop) [Decidable condition] {status : Nat}
    {failure : SearchFailure} (h : failure.toService.status = status) :
    (failingIf condition status failure).Fits := by
  intro e he
  unfold failingIf at he
  split_ifs at he
  cases he
  exact h

/-- The status that is told for the first failing check is the one of its failure. -/
theorem firstFailing_eq {checks : List SearchCheck} (h : ∀ check ∈ checks, check.Fits) :
    firstFailing checks = (checks.findSome? failure?).map fun e => (e.toService.status, e) := by
  induction checks with
  | nil => rfl
  | cons check rest ih =>
    have hrest := ih fun c hc => h c (List.mem_cons_of_mem check hc)
    rw [firstFailing] at hrest
    rw [firstFailing, List.findSome?_cons, List.findSome?_cons, hrest]
    cases he : check.failure? with
    | none => rfl
    | some e => rw [Option.map_some, Option.map_some, h check List.mem_cons_self e he]

end SearchCheck

namespace SearchRequest

open SearchCheck

def sortFault? (registry : Registry) (name : String) (p : SearchParameters) : Option RequestFault :=
  (registry.variant? name).bind fun v =>
    p.sort.bind fun raw => (SortClause.segments raw).findSome? (SortClause.fault? v)

def checks (registry : Registry) (name : String) (p : SearchParameters) : List SearchCheck :=
  [failingIf (p.page < 1) 400 (RequestFault.page p.page).toFailure,
    failingIf (p.limit < 1) 400 (RequestFault.limit p.limit).toFailure,
    failingIf (registry.variant? name = none) 404 (unknownVariant name),
    failingIf (UInt64.size ≤ (p.page - 1) * p.limit) 400
      (RequestFault.range p.page p.limit).toFailure,
    ⟨400, (sortFault? registry name p).map RequestFault.toFailure⟩]

theorem fits_of_mem_checks {registry : Registry} {name : String} {p : SearchParameters} :
    ∀ check ∈ checks registry name p, check.Fits := by
  have hsort : SearchCheck.Fits ⟨400, (sortFault? registry name p).map RequestFault.toFailure⟩ := by
    intro e he
    obtain ⟨f, -, rfl⟩ := Option.map_eq_some_iff.1 he
    rfl
  simp only [checks, List.forall_mem_cons]
  refine ⟨?_, ?_, ?_, ?_, hsort, List.forall_mem_nil _⟩
  all_goals
    apply fits_failingIf
    rfl

theorem findSome?_checks (registry : Registry) (name : String) (p : SearchParameters) :
    (checks registry name p).findSome? failure? =
      if p.page < 1 then some (RequestFault.page p.page).toFailure
      else if p.limit < 1 then some (RequestFault.limit p.limit).toFailure
      else if registry.variant? name = none then some (unknownVariant name)
      else if UInt64.size ≤ (p.page - 1) * p.limit then
        some (RequestFault.range p.page p.limit).toFailure
      else (sortFault? registry name p).map RequestFault.toFailure := by
  simp only [checks, findSome?_failingIf, List.findSome?_singleton]

/-- A request is refused just if a check fails, with the failure of the first of them. -/
theorem build_eq_error_iff {registry : Registry} {chains : Chains} {name : String}
    {p : SearchParameters} {e : SearchFailure} :
    build registry chains name p = .error e ↔
      (checks registry name p).findSome? failure? = some e := by
  rw [findSome?_checks, build]
  -- Both sides go through the checks in the same order; each case knows that the earlier ones passed.
  by_cases hpage : p.page < 1
  · rw [if_pos hpage, if_pos hpage, Except.error.injEq, Option.some.injEq]
  by_cases hlimit : p.limit < 1
  · rw [if_neg hpage, if_neg hpage, if_pos hlimit, if_pos hlimit, Except.error.injEq,
      Option.some.injEq]
  rw [if_neg hpage, if_neg hpage, if_neg hlimit, if_neg hlimit]
  cases hv : registry.variant? name with
  | none => simp
  | some v =>
    rw [offsetOf?_eq (by omega) (by omega)]
    by_cases hrange : (p.page - 1) * p.limit < UInt64.size
    · rw [if_pos hrange, if_neg (by simp), if_neg (by omega), sortFault?, hv, Option.bind_some]
      cases hclauses : SortClause.ofParameter v p.sort with
      | error f =>
        rw [SortClause.ofParameter_eq_error_iff.1 hclauses]
        simp [hclauses]
      | ok sort =>
        rw [SortClause.fault_of_ofParameter_eq_ok hclauses]
        simp [hclauses]
    · rw [if_neg hrange, if_neg (by simp), if_pos (by omega)]
      simp

theorem findSome?_checks_of_ok {registry : Registry} {chains : Chains} {name : String}
    {p : SearchParameters} {built : SearchRequest × List String}
    (h : build registry chains name p = .ok built) :
    (checks registry name p).findSome? failure? = none := by
  cases he : (checks registry name p).findSome? failure? with
  | none => rfl
  | some e =>
    have hbuild : build registry chains name p = .error e := build_eq_error_iff.2 he
    rw [h] at hbuild
    cases hbuild

end SearchRequest

end VariantSearch

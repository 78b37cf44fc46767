import VariantSearch.Engine.Memory
import VariantSearch.Proofs.EncodedText
import VariantSearch.Proofs.RegistryViews
import VariantSearch.Proofs.RequestChecks
import VariantSearch.Proofs.SearchRoute
import VariantSearch.Proofs.WatchedEngine

namespace VariantSearch

theorem Json.member?_ofMembers_append (members : List (String × Json)) (name : String)
    (value : Json) : (Json.ofMembers (members ++ [(name, value)])).member? name = some value := by
  change (TextMap.ofList (members ++ [(name, value)])).get? name = some value
  rw [TextMap.ofList, List.foldl_append, List.foldl_cons, List.foldl_nil, TextMap.get?_insert,
    if_pos rfl]

def Answer.bodyStatus? (a : Answer) : Option Json :=
  match a.body with
  | .json value => (value.member? "error").bind (Json.member? "status")
  | .text _ => none

theorem Answer.bodyStatus?_ofFailure (f : ServiceFailure) :
    (Answer.ofFailure f).bodyStatus? = some (.nat f.status) :=
  Json.member?_ofMembers_append [("code", .text f.code), ("message", .text f.toText)] "status"
    (.nat f.status)

def SearchFailure.engineStatus : SearchFailure → Nat
  | indexNotFound _ => 404
  | engineRejected _ _ => 400
  | engineUnavailable _ => 502
  | invalidRequest _ => 400
  | invalidConfiguration _ => 500

theorem SearchFailure.status_toService (e : SearchFailure) :
    e.toService.status = e.engineStatus := by
  cases e <;> rfl

namespace Service

open SearchCheck

def searchChecks (registry : Registry) (name : String) (p : SearchParameters) : List SearchCheck :=
  SearchRequest.checks registry name p ++
    [failingIf (registry.state? name ≠ some .configured) 404 (notApplied name)]

theorem fits_of_mem_searchChecks {registry : Registry} {name : String} {p : SearchParameters} :
    ∀ check ∈ searchChecks registry name p, check.Fits := by
  intro check hcheck
  rcases List.mem_append.1 hcheck with hrequest | hlast
  · exact SearchRequest.fits_of_mem_checks check hrequest
  · rw [List.mem_singleton.1 hlast]
    apply fits_failingIf
    rfl

variable {registry : Registry} {chains : Chains} {name : String} {p : SearchParameters}

/-- A request that fails a check of its own is refused for that, configured or not. -/
theorem firstFailing_of_error {e : SearchFailure}
    (h : SearchRequest.build registry chains name p = .error e) :
    firstFailing (searchChecks registry name p) = some (e.toService.status, e) := by
  have hchecks := SearchRequest.build_eq_error_iff.1 h
  rw [firstFailing_eq fits_of_mem_searchChecks, searchChecks, List.findSome?_append, hchecks]
  rfl

theorem firstFailing_of_none {built : SearchRequest × List String}
    (h : SearchRequest.build registry chains name p = .ok built)
    (hname : registry.appliedIndex? name = none) :
    firstFailing (searchChecks registry name p) = some (404, notApplied name) := by
  have hchecks := SearchRequest.findSome?_checks_of_ok h
  have hstate := (registry.appliedIndex?_eq_none_iff name).1 hname
  rw [firstFailing_eq fits_of_mem_searchChecks, searchChecks, List.findSome?_append, hchecks,
    findSome?_failingIf, if_pos hstate]
  rfl

theorem firstFailing_of_some {built : SearchRequest × List String} {indexUid : String}
    (h : SearchRequest.build registry chains name p = .ok built)
    (hname : registry.appliedIndex? name = some indexUid) :
    firstFailing (searchChecks registry name p) = none := by
  have hchecks := SearchRequest.findSome?_checks_of_ok h
  have hstate : ¬ registry.state? name ≠ some .configured := by
    rw [← registry.appliedIndex?_eq_none_iff, hname]
    exact Option.some_ne_none indexUid
  rw [firstFailing_eq fits_of_mem_searchChecks, searchChecks, List.findSome?_append, hchecks,
    findSome?_failingIf, if_neg hstate]
  rfl

end Service

namespace Router

variable {σ : Type} {r : Router}

/-- Parameters that are read are searched for with the chains of the router. -/
theorem search_of_readable [SearchEngine σ] {name : String} {query : Option (List Char)}
    {p : SearchParameters} {s : Service σ} (h : SearchParameters.ofQuery (query.getD []) = .ok p) :
    r.search name query s =
      (answerOf (Service.search name p { s with chains := r.chains }).1,
        { (Service.search name p { s with chains := r.chains }).2 with chains := s.chains }) := by
  simp only [search, h]

variable {s : Service (Watched σ)} {out : Answer × Service (Watched σ)}

/-- A search was refused: the answer reports the failure, its status stands in the body as well, and
the engine got no call. -/
structure Refused (status : Nat) (failure : ServiceFailure) (s : Service (Watched σ))
    (out : Answer × Service (Watched σ)) : Prop where
  answer_eq : out.1 = .ofFailure failure
  status_eq : out.1.status = status
  bodyStatus_eq : out.1.bodyStatus? = some (.nat status)
  engine_eq : out.2.engine = s.engine

theorem refused_of_eq {status : Nat} {failure : ServiceFailure} (hstatus : failure.status = status)
    (hanswer : out.1 = .ofFailure failure) (hengine : out.2.engine = s.engine) :
    Refused status failure s out where
  answer_eq := hanswer
  status_eq := by
    rw [hanswer, ← hstatus]
    rfl
  bodyStatus_eq := by rw [hanswer, ← hstatus, Answer.bodyStatus?_ofFailure]
  engine_eq := hengine

variable [SearchEngine σ]

/-- A search was sent: the engine got one call, and the answer is what it answered. -/
structure Sent (indexUid : String) (query : EngineQuery) (s : Service (Watched σ))
    (out : Answer × Service (Watched σ)) : Prop where
  calls_eq : out.2.engine.calls = s.engine.calls ++ [.search indexUid query]
  engine_eq : out.2.engine.engine = (SearchEngine.search indexUid query s.engine.engine).2
  found : ∀ value, (SearchEngine.search indexUid query s.engine.engine).1 = .ok value →
    out.1 = .ofJson 200 value
  failed : ∀ e, (SearchEngine.search indexUid query s.engine.engine).1 = .error e →
    out.1 = .ofFailure e.toService ∧ out.1.status = e.engineStatus ∧
      out.1.bodyStatus? = some (.nat e.engineStatus)

theorem refused_of_unreadable {name : String} {query : Option (List Char)}
    {f : SearchParameters.QueryFault} (h : SearchParameters.ofQuery (query.getD []) = .error f)
    (s : Service (Watched σ)) : Refused 400 f.toService s (r.search name query s) := by
  have hsearch : r.search name query s = (.ofFailure f.toService, s) := by
    simp only [search, h]
  rw [hsearch]
  exact refused_of_eq rfl rfl rfl

section Readable

variable {name : String} {query : Option (List Char)} {p : SearchParameters}

theorem refused_of_error (h : SearchParameters.ofQuery (query.getD []) = .ok p)
    {e : SearchFailure} (hbuild : SearchRequest.build s.registry r.chains name p = .error e) :
    Refused e.toService.status e.toService s (r.search name query s) := by
  have hsearch : Service.search name p { s with chains := r.chains } =
      (.error e, { s with chains := r.chains }) := Service.search_of_error hbuild
  rw [search_of_readable h, hsearch]
  exact refused_of_eq rfl rfl rfl

variable {request : SearchRequest} {fired : List String}

theorem refused_of_none (h : SearchParameters.ofQuery (query.getD []) = .ok p)
    (hbuild : SearchRequest.build s.registry r.chains name p = .ok (request, fired))
    (hindex : s.registry.appliedIndex? name = none) :
    Refused 404 (Service.notApplied name).toService s (r.search name query s) := by
  let t : Service (Watched σ) := { s with chains := r.chains }
  have ht : SearchRequest.build t.registry t.chains name p = .ok (request, fired) := hbuild
  have hsearch := Service.search_of_none ht hindex
  rw [search_of_readable h, hsearch]
  exact refused_of_eq rfl rfl rfl

theorem sent_of_some (h : SearchParameters.ofQuery (query.getD []) = .ok p)
    (hbuild : SearchRequest.build s.registry r.chains name p = .ok (request, fired))
    {indexUid : String} (hindex : s.registry.appliedIndex? name = some indexUid) :
    Sent indexUid request.toQuery s (r.search name query s) := by
  let t : Service (Watched σ) := { s with chains := r.chains }
  have ht : SearchRequest.build t.registry t.chains name p = .ok (request, fired) := hbuild
  have hsearch := Service.search_of_some ht hindex
  rw [search_of_readable h, hsearch, Watched.search_eq]
  refine ⟨rfl, rfl, fun value hvalue => ?_, fun e he => ?_⟩
  · dsimp only
    rw [hvalue]
    rfl
  · dsimp only
    rw [he, ← e.status_toService]
    exact ⟨rfl, rfl, Answer.bodyStatus?_ofFailure e.toService⟩

end Readable

/-- A request for the path of a name is a search for the name. -/
theorem handle_search {registry : Registry} {chains : Chains} {metrics : Bool}
    (hr : make registry chains metrics = .ok r) {name : String} (hne : name ≠ "")
    (hname : ∀ c ∈ name.toList, Web.Target.isUnreserved c = true) (query : Option (List Char))
    (s : Service (Watched σ)) :
    r.handle "GET" ⟨searchPrefix ++ name.toList, query⟩ s = r.search name query s := by
  have hslash : '/' ∉ name.toList := fun hmem =>
    ne_of_test (hname _ hmem) (by decide) rfl
  have hnil : name.toList ≠ [] := fun hnil => hne (String.toList_eq_nil_iff.1 hnil)
  simp only [handle, find?_search hr hnil hslash, visit, parameterText?_of_unreserved hname,
    if_true]

/-- The page of a search is decided by the first check that fails: the parameters, the page, the
limit, the name, the range, the sort clauses, and whether the name is configured. If none fails the
engine is asked once, in the index of the name. -/
theorem search_page_decided {registry : Registry} {chains : Chains} {metrics : Bool}
    (hr : make registry chains metrics = .ok r) (name : String) (hne : name ≠ "")
    (hname : ∀ c ∈ name.toList, Web.Target.isUnreserved c = true) (query : Option (List Char))
    (s : Service (Watched σ)) :
    match SearchParameters.ofQuery (query.getD []) with
    | .error f =>
      Refused 400 f.toService s (r.handle "GET" ⟨searchPrefix ++ name.toList, query⟩ s)
    | .ok p =>
      match SearchCheck.firstFailing (Service.searchChecks s.registry name p) with
      | some (status, failure) =>
        Refused status failure.toService s
          (r.handle "GET" ⟨searchPrefix ++ name.toList, query⟩ s)
      | none =>
        ∃ request fired indexUid,
          SearchRequest.build s.registry chains name p = .ok (request, fired) ∧
            s.registry.appliedIndex? name = some indexUid ∧
            Sent indexUid request.toQuery s
              (r.handle "GET" ⟨searchPrefix ++ name.toList, query⟩ s) := by
  rw [handle_search hr hne hname]
  obtain rfl := chains_of_make hr
  cases hquery : SearchParameters.ofQuery (query.getD []) with
  | error f => exact refused_of_unreadable hquery s
  | ok p =>
    dsimp only
    -- The checks of the request come before the name is looked up, so they are settled first.
    cases hbuild : SearchRequest.build s.registry r.chains name p with
    | error e =>
      rw [Service.firstFailing_of_error hbuild]
      exact refused_of_error hquery hbuild
    | ok built =>
      obtain ⟨request, fired⟩ := built
      cases hindex : s.registry.appliedIndex? name with
      | none =>
        rw [Service.firstFailing_of_none hbuild hindex]
        exact refused_of_none hquery hbuild hindex
      | some indexUid =>
        rw [Service.firstFailing_of_some hbuild hindex]
        exact ⟨request, fired, indexUid, rfl, rfl, sent_of_some hquery hbuild hindex⟩

def servingFirst : Service (Watched Memory) :=
  (Service.start ⟨Memory.fresh 1, []⟩).run
    [.register (.plain "v1"), .register (.plain "v2"), .apply "v1"]

def earlyRouter : Router := ⟨(routeTexts [] true).filterMap routeOf?, .empty⟩

theorem search_page_decided_for_servingFirst :
    make .empty .empty true = .ok earlyRouter ∧
      Refused 400 (RequestFault.limit 0).toFailure.toService servingFirst
        (earlyRouter.handle "GET" ⟨searchPrefix ++ "v2".toList, some "limit=0&sort=x".toList⟩
          servingFirst) ∧
      ∃ request fired indexUid,
        SearchRequest.build servingFirst.registry .empty "v1" ⟨"red", none, none, 2, 10⟩ =
            .ok (request, fired) ∧
          servingFirst.registry.appliedIndex? "v1" = some indexUid ∧
          Sent indexUid request.toQuery servingFirst
            (earlyRouter.handle "GET"
              ⟨searchPrefix ++ "v1".toList, some "q=red&page=2&limit=10".toList⟩
              servingFirst) := by
  have hr : make .empty .empty true = .ok earlyRouter := rfl
  have hlimit := search_page_decided hr "v2" (by decide) (List.all_eq_true.1 (by decide))
    (some "limit=0&sort=x".toList) servingFirst
  have hsent := search_page_decided hr "v1" (by decide) (List.all_eq_true.1 (by decide))
    (some "q=red&page=2&limit=10".toList) servingFirst
  have hread : SearchParameters.ofQuery "limit=0&sort=x".toList =
      .ok ⟨"", none, some "x", 1, 0⟩ := by decide +kernel
  have hread' : SearchParameters.ofQuery "q=red&page=2&limit=10".toList =
      .ok ⟨"red", none, none, 2, 10⟩ := by decide +kernel
  have hfailing : SearchCheck.firstFailing (Service.searchChecks servingFirst.registry "v2"
      ⟨"", none, some "x", 1, 0⟩) = some (400, (RequestFault.limit 0).toFailure) := by
    decide +kernel
  have hpassed : SearchCheck.firstFailing (Service.searchChecks servingFirst.registry "v1"
      ⟨"red", none, none, 2, 10⟩) = none := by decide +kernel
  rw [Option.getD_some, hread] at hlimit
  rw [Option.getD_some, hread'] at hsent
  dsimp only at hlimit hsent
  rw [hfailing] at hlimit
  rw [hpassed] at hsent
  exact ⟨hr, hlimit, hsent⟩

end Router

end VariantSearch

import VariantSearch.Proofs.Accounting
import VariantSearch.Proofs.RouteChoice

namespace VariantSearch

/-- The request of a search for a registered name is refused only for its parameters. -/
theorem SearchRequest.status_of_build_eq_error {registry : Registry} {chains : Chains}
    {name : String} {p : SearchParameters} {v : Variant} {e : SearchFailure}
    (hv : registry.variant? name = some v) (h : build registry chains name p = .error e) :
    e.toService.status = 400 := by
  rw [build_eq_error_iff, findSome?_checks] at h
  split at h
  · cases h; rfl
  split at h
  · cases h; rfl
  split at h
  · next hnone =>
    rw [hv] at hnone
    cases hnone
  split at h
  · cases h; rfl
  · obtain ⟨f, -, rfl⟩ := Option.map_eq_some_iff.1 h
    rfl

namespace Router

def SearchesFor (r : Router) (name method : String) (target : Web.Target) : Prop :=
  (method = "GET" ∨ method = "HEAD") ∧
    ∃ page captured, r.find? target.path = some (page, captured) ∧
      searchedName? page captured = some name

def Accepts (r : Router) (registry : Registry) (name : String) (target : Web.Target) : Prop :=
  ∃ p built, SearchParameters.ofQuery (target.query.getD []) = .ok p ∧
    SearchRequest.build registry r.chains name p = .ok built

section Paths

variable {registry : Registry} {chains : Chains} {metrics : Bool} {r : Router}
  (hr : make registry chains metrics = .ok r) {name : String}
include hr

/-- The path of searches with a name as its last segment asks for a search for the name. -/
theorem searchesFor_search (hne : name ≠ "")
    (hname : ∀ c ∈ name.toList, Web.Target.isUnreserved c = true) (query : Option (List Char)) :
    r.SearchesFor name "GET" ⟨searchPrefix ++ name.toList, query⟩ := by
  have hslash : '/' ∉ name.toList := fun hmem => ne_of_test (hname _ hmem) (by decide) rfl
  have hnil : name.toList ≠ [] := fun hnil => hne (String.toList_eq_nil_iff.1 hnil)
  exact ⟨Or.inl rfl, .search, name.toList, find?_search hr hnil hslash,
    parameterText?_of_unreserved hname⟩

/-- So does the path that the name has for itself. -/
theorem searchesFor_named (hregistered : name ∈ registry.names) (hplain : IsPlain name)
    (query : Option (List Char)) :
    r.SearchesFor name "GET" ⟨namedPrefix ++ name.toList, query⟩ :=
  ⟨Or.inl rfl, .searchNamed name, [], find?_named hr hregistered hplain, rfl⟩

end Paths

variable {σ : Type} {r : Router} {name method : String} {target : Web.Target}

theorem visit_of_searchedName? [SearchEngine σ] {page : Page} {captured : List Char}
    (h : searchedName? page captured = some name) (query : Option (List Char)) (s : Service σ) :
    r.visit page captured query s = r.search name query s := by
  cases page with
  | search =>
    have hname : parameterText? captured = some name := h
    simp only [visit, hname]
  | searchNamed other => cases h; rfl
  | health | configurations | configuration | metrics => cases h

/-- A request that asks for a search is answered with it, perhaps without the body. -/
theorem handle_of_searchesFor [SearchEngine σ] (h : r.SearchesFor name method target)
    (s : Service σ) :
    (r.handle method target s).1.status = (r.search name target.query s).1.status ∧
      (r.handle method target s).2 = (r.search name target.query s).2 := by
  obtain ⟨hmethod, page, captured, hfound, hname⟩ := h
  rcases hmethod with rfl | rfl
  · have hhandle : r.handle "GET" target s = r.visit page captured target.query s := by
      simp only [handle, hfound, if_true]
    rw [hhandle, visit_of_searchedName? hname]
    exact ⟨rfl, rfl⟩
  · have hhandle : r.handle "HEAD" target s =
        ((r.visit page captured target.query s).1.withoutBody,
          (r.visit page captured target.query s).2) := by
      simp only [handle, hfound]
      rfl
    rw [hhandle, visit_of_searchedName? hname]
    exact ⟨rfl, rfl⟩

/-- What becomes of searches for a name that the engine is not to be asked for. -/
structure TurnsAway [SearchEngine σ] (r : Router) (name : String) (s : Service (Watched σ)) :
    Prop where
  /-- Every request that is executed for the name fails with status 404, and no call is made. -/
  executed : ∀ request, ∃ e, (Service.execute name request s).1 = .error e ∧
    e.toService.status = 404 ∧ (Service.execute name request s).2.engine = s.engine
  /-- No search for the name that is asked for over HTTP makes a call. -/
  unasked : ∀ method target, r.SearchesFor name method target →
    (r.handle method target s).2.engine = s.engine
  /-- A search whose parameters are accepted is answered with status 404. -/
  notFound : ∀ method target, r.SearchesFor name method target →
    r.Accepts s.registry name target → (r.handle method target s).1.status = 404
  invalid : ∀ method target, r.SearchesFor name method target →
    ¬ r.Accepts s.registry name target → (r.handle method target s).1.status = 400

variable [SearchEngine σ] {s : Service (Watched σ)}

/-- A search for a name that is not configured is refused, for its parameters or for the name. -/
theorem refused_of_unconfigured {v : Variant} (hv : s.registry.variant? name = some v)
    (hindex : s.registry.appliedIndex? name = none) (target : Web.Target) :
    (r.Accepts s.registry name target ∧
        Refused 404 (Service.notApplied name).toService s (r.search name target.query s)) ∨
      (¬ r.Accepts s.registry name target ∧
        ∃ failure, Refused 400 failure s (r.search name target.query s)) := by
  -- The parameters are read, then the request is built, and only then the index is looked up.
  cases hquery : SearchParameters.ofQuery (target.query.getD []) with
  | error f =>
    refine Or.inr ⟨?_, f.toService, refused_of_unreadable hquery s⟩
    rintro ⟨p, built, hp, -⟩
    rw [hquery] at hp
    cases hp
  | ok p =>
    cases hbuild : SearchRequest.build s.registry r.chains name p with
    | error e =>
      have hrefused := refused_of_error hquery hbuild
      rw [SearchRequest.status_of_build_eq_error hv hbuild] at hrefused
      refine Or.inr ⟨?_, e.toService, hrefused⟩
      rintro ⟨p', built, hp', hbuilt⟩
      rw [hquery] at hp'
      obtain rfl := Except.ok.inj hp'
      rw [hbuild] at hbuilt
      cases hbuilt
    | ok built =>
      exact Or.inl ⟨⟨p, built, hquery, hbuild⟩, refused_of_none hquery hbuild hindex⟩

theorem handle_of_unconfigured {v : Variant} (hv : s.registry.variant? name = some v)
    (hindex : s.registry.appliedIndex? name = none) (hasks : r.SearchesFor name method target) :
    (r.handle method target s).2.engine = s.engine ∧
      (r.Accepts s.registry name target ∧ (r.handle method target s).1.status = 404 ∨
        ¬ r.Accepts s.registry name target ∧ (r.handle method target s).1.status = 400) := by
  obtain ⟨hstatus, hafter⟩ := handle_of_searchesFor hasks s
  rw [hstatus, hafter]
  rcases refused_of_unconfigured (r := r) hv hindex target with
    ⟨haccepts, hrefused⟩ | ⟨hrejects, failure, hrefused⟩
  · exact ⟨hrefused.engine_eq, Or.inl ⟨haccepts, hrefused.status_eq⟩⟩
  · exact ⟨hrefused.engine_eq, Or.inr ⟨hrejects, hrefused.status_eq⟩⟩

theorem turnsAway_of_unconfigured (h : s.registry.state? name = some .unconfigured) :
    r.TurnsAway name s := by
  obtain ⟨reg, hreg, hstate⟩ := Option.map_eq_some_iff.1 h
  have hv : s.registry.variant? name = some reg.variant := Option.map_eq_some_iff.2 ⟨reg, hreg, rfl⟩
  have hindex : s.registry.appliedIndex? name = none := by
    rw [Registry.appliedIndex?_eq_none_iff, h]
    exact fun heq => VariantState.noConfusion (Option.some.inj heq)
  have hhandle {method : String} {target : Web.Target} (hasks : r.SearchesFor name method target) :=
    handle_of_unconfigured hv hindex hasks
  refine ⟨fun request => ?_, fun method target hasks => (hhandle hasks).1,
    fun method target hasks haccepts => ?_, fun method target hasks hrejects => ?_⟩
  · rw [Service.execute_of_none hindex]
    exact ⟨_, rfl, rfl, rfl⟩
  · exact (hhandle hasks).2.elim (·.2) fun hrejects => absurd haccepts hrejects.1
  · exact (hhandle hasks).2.elim (fun haccepts => absurd haccepts.1 hrejects) (·.2)

end Router

end VariantSearch

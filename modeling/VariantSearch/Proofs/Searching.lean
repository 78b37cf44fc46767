import VariantSearch.Service

namespace VariantSearch.Service

variable {σ : Type} {s : Service σ} {name : String} {p : SearchParameters} {request : SearchRequest}

theorem build_of_error {e : SearchFailure}
    (h : SearchRequest.build s.registry s.chains name p = .error e) :
    build name p s = (.error e, s) := by
  simp only [build, h]

theorem build_of_ok {fired : List String}
    (h : SearchRequest.build s.registry s.chains name p = .ok (request, fired)) :
    build name p s = (.ok request, { s with metrics := s.metrics.countFirings name fired }) := by
  simp only [build, h]

theorem engine_build (name : String) (p : SearchParameters) (s : Service σ) :
    (build name p s).2.engine = s.engine := by
  unfold build
  split <;> rfl

theorem registry_build (name : String) (p : SearchParameters) (s : Service σ) :
    (build name p s).2.registry = s.registry := by
  unfold build
  split <;> rfl

theorem chains_build (name : String) (p : SearchParameters) (s : Service σ) :
    (build name p s).2.chains = s.chains := by
  unfold build
  split <;> rfl

variable [SearchEngine σ]

/-- A name that is not configured is refused, and the engine is not asked. -/
theorem execute_of_none (h : s.registry.appliedIndex? name = none) :
    execute name request s =
      (.error (notApplied name),
        { s with metrics := s.metrics.countSearch name (notApplied name).label }) := by
  simp only [execute, Attempt.noting, dispatch, h]
  rfl

/-- For a configured name the engine is asked once, and its answer is the answer. -/
theorem execute_of_some {indexUid : String} (h : s.registry.appliedIndex? name = some indexUid) :
    execute name request s =
      ((SearchEngine.search indexUid request.toQuery s.engine).1,
        { s with
          engine := (SearchEngine.search indexUid request.toQuery s.engine).2
          metrics := (s.metrics.countTiming name).countSearch name
            (outcomeLabel (SearchEngine.search indexUid request.toQuery s.engine).1) }) := by
  simp only [execute, Attempt.noting, dispatch, h]
  rfl

theorem registry_execute (name : String) (request : SearchRequest) (s : Service σ) :
    (execute name request s).2.registry = s.registry := by
  cases h : s.registry.appliedIndex? name with
  | none => rw [execute_of_none h]
  | some indexUid => rw [execute_of_some h]

theorem chains_execute (name : String) (request : SearchRequest) (s : Service σ) :
    (execute name request s).2.chains = s.chains := by
  cases h : s.registry.appliedIndex? name with
  | none => rw [execute_of_none h]
  | some indexUid => rw [execute_of_some h]

/-- A search whose request fails a check fails with that failure and changes nothing. -/
theorem search_of_error {e : SearchFailure}
    (h : SearchRequest.build s.registry s.chains name p = .error e) :
    search name p s = (.error e, s) :=
  Attempt.run_bind_of_error (build_of_error h)

/-- A search whose request passes the checks sends it. -/
theorem search_of_ok {fired : List String}
    (h : SearchRequest.build s.registry s.chains name p = .ok (request, fired)) :
    search name p s =
      execute name request { s with metrics := s.metrics.countFirings name fired } :=
  Attempt.run_bind_of_ok (build_of_ok h)

theorem search_of_none {fired : List String}
    (hbuild : SearchRequest.build s.registry s.chains name p = .ok (request, fired))
    (hindex : s.registry.appliedIndex? name = none) :
    search name p s =
      (.error (notApplied name),
        { s with
          metrics := (s.metrics.countFirings name fired).countSearch name
            (notApplied name).label }) := by
  rw [search_of_ok hbuild]
  exact execute_of_none hindex

theorem search_of_some {fired : List String} {indexUid : String}
    (hbuild : SearchRequest.build s.registry s.chains name p = .ok (request, fired))
    (hindex : s.registry.appliedIndex? name = some indexUid) :
    search name p s =
      ((SearchEngine.search indexUid request.toQuery s.engine).1,
        { s with
          engine := (SearchEngine.search indexUid request.toQuery s.engine).2
          metrics := ((s.metrics.countFirings name fired).countTiming name).countSearch name
            (outcomeLabel (SearchEngine.search indexUid request.toQuery s.engine).1) }) := by
  rw [search_of_ok hbuild]
  exact execute_of_some hindex

end VariantSearch.Service

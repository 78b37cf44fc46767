import Mathlib.Data.List.Count
import VariantSearch.Engine.Memory
import VariantSearch.Proofs.History
import VariantSearch.Proofs.SearchPage
import VariantSearch.Proofs.Tallies

/-!
What the counters tell of a run, as far as the hashes of labels are told apart.
-/

namespace VariantSearch

inductive CountedEvent where
  | built (name : String) (fired : List String)
  /-- A request was executed, when the name was configured or not. -/
  | executed (name : String) (result : Except SearchFailure Json) (configured : Bool)

namespace CountedEvent

def name : CountedEvent → String
  | built name _ => name
  | executed name _ _ => name

def firings : CountedEvent → List (String × String)
  | built name fired => fired.map (name, ·)
  | executed _ _ _ => []

def asks (name : String) : CountedEvent → Bool
  | built _ _ => false
  | executed other _ configured => other = name && configured

def endsWith (name outcome : String) : CountedEvent → Bool
  | built _ _ => false
  | executed other result _ => other = name && outcomeLabel result = outcome

def firingLabels (e : CountedEvent) : List (List String) := e.firings.map fun p => [p.1, p.2]

def timingLabels : CountedEvent → List (List String)
  | built _ _ => []
  | executed name _ configured => if configured then [[name]] else []

def searchLabels : CountedEvent → List (List String)
  | built _ _ => []
  | executed name result _ => [[name, outcomeLabel result]]

end CountedEvent

/-- The later counters are the earlier ones after the events of a log, but for the pushes. -/
structure Metrics.Tallied (m : Metrics) (log : List CountedEvent) (m' : Metrics) : Prop where
  firings : m'.firings = m.firings.tally (log.flatMap CountedEvent.firingLabels)
  timings : m'.timings = m.timings.tally (log.flatMap CountedEvent.timingLabels)
  searches : m'.searches = m.searches.tally (log.flatMap CountedEvent.searchLabels)

namespace Metrics

theorem tallied_of_eq {m m' : Metrics} (hfirings : m'.firings = m.firings)
    (htimings : m'.timings = m.timings) (hsearches : m'.searches = m.searches) :
    m.Tallied [] m' :=
  ⟨hfirings, htimings, hsearches⟩

theorem Tallied.append {m m' m'' : Metrics} {first second : List CountedEvent}
    (h : m.Tallied first m') (h' : m'.Tallied second m'') : m.Tallied (first ++ second) m'' where
  firings := by rw [h'.firings, h.firings, List.flatMap_append, SampleFamily.tally_append]
  timings := by rw [h'.timings, h.timings, List.flatMap_append, SampleFamily.tally_append]
  searches := by rw [h'.searches, h.searches, List.flatMap_append, SampleFamily.tally_append]

theorem tallied_countFirings (m : Metrics) (name : String) (fired : List String) :
    m.Tallied [.built name fired] (m.countFirings name fired) := by
  refine ⟨?_, rfl, rfl⟩
  have hlabels : [CountedEvent.built name fired].flatMap CountedEvent.firingLabels =
      fired.map fun rule => [name, rule] := by
    rw [List.flatMap_singleton, CountedEvent.firingLabels, CountedEvent.firings, List.map_map]
    rfl
  rw [hlabels, SampleFamily.tally, List.foldl_map]
  rfl

theorem tallied_countSearch (m : Metrics) (name : String) (result : Except SearchFailure Json) :
    m.Tallied [.executed name result false] (m.countSearch name (outcomeLabel result)) :=
  ⟨rfl, rfl, rfl⟩

theorem tallied_countTiming (m : Metrics) (name : String) (result : Except SearchFailure Json) :
    m.Tallied [.executed name result true]
      ((m.countTiming name).countSearch name (outcomeLabel result)) :=
  ⟨rfl, rfl, rfl⟩

end Metrics

namespace Router

def searchedName? : Page → List Char → Option String
  | .search, captured => parameterText? captured
  | .searchNamed name, _ => some name
  | _, _ => none

def asked? (r : Router) (method : String) (target : Web.Target) :
    Option (String × SearchParameters) :=
  if method = "GET" ∨ method = "HEAD" then do
    let (page, captured) ← r.find? target.path
    let name ← searchedName? page captured
    let p ← (SearchParameters.ofQuery (target.query.getD [])).toOption
    return (name, p)
  else none

variable {σ : Type} [SearchEngine σ] {r : Router}

/-- A page either searches, or does nothing to a service beyond its engine. -/
theorem visit_cases (r : Router) (page : Page) (captured : List Char) (query : Option (List Char))
    (s : Service σ) :
    (∃ name, searchedName? page captured = some name ∧
        (r.visit page captured query s).2 = (r.search name query s).2) ∨
      (searchedName? page captured = none ∧
        ∃ engine, (r.visit page captured query s).2 = { s with engine }) := by
  cases page with
  | health => exact Or.inr ⟨rfl, _, rfl⟩
  | search =>
    have hname : searchedName? .search captured = parameterText? captured := rfl
    rw [hname, visit]
    cases parameterText? captured with
    | none => exact Or.inr ⟨rfl, s.engine, rfl⟩
    | some name => exact Or.inl ⟨name, rfl, rfl⟩
  | searchNamed name => exact Or.inl ⟨name, rfl, rfl⟩
  | configurations => exact Or.inr ⟨rfl, s.engine, rfl⟩
  | configuration =>
    refine Or.inr ⟨rfl, s.engine, ?_⟩
    unfold visit
    cases parameterText? captured <;> rfl
  | metrics => exact Or.inr ⟨rfl, s.engine, rfl⟩

/-- A search leaves behind what it does with the chains of the router, or nothing if its parameters
cannot be read. -/
theorem search_cases (r : Router) (name : String) (query : Option (List Char)) (s : Service σ) :
    (∃ p, (SearchParameters.ofQuery (query.getD [])).toOption = some p ∧
        (r.search name query s).2 =
          { (Service.search name p { s with chains := r.chains }).2 with chains := s.chains }) ∨
      ((SearchParameters.ofQuery (query.getD [])).toOption = none ∧
        (r.search name query s).2 = s) := by
  cases hread : SearchParameters.ofQuery (query.getD []) with
  | error f =>
    refine Or.inr ⟨rfl, ?_⟩
    simp only [search, hread]
  | ok p =>
    refine Or.inl ⟨p, rfl, ?_⟩
    rw [search_of_readable hread]

theorem handle_of_found {method : String} (hmethod : method = "GET" ∨ method = "HEAD")
    {target : Web.Target} {page : Page} {captured : List Char}
    (h : r.find? target.path = some (page, captured)) (s : Service σ) :
    (r.handle method target s).2 = (r.visit page captured target.query s).2 := by
  simp only [handle, h]
  rcases hmethod with rfl | rfl <;> rfl

/-- What a request leaves behind: the search that it asks for, or a change of the engine alone. -/
theorem handle_cases (r : Router) (method : String) (target : Web.Target) (s : Service σ) :
    (∃ name p, r.asked? method target = some (name, p) ∧
        (r.handle method target s).2 =
          { (Service.search name p { s with chains := r.chains }).2 with chains := s.chains }) ∨
      (r.asked? method target = none ∧
        ∃ engine, (r.handle method target s).2 = { s with engine }) := by
  unfold asked?
  cases hfound : r.find? target.path with
  | none =>
    refine Or.inr ⟨by simp, s.engine, ?_⟩
    simp only [handle, hfound]
  | some found =>
    obtain ⟨page, captured⟩ := found
    by_cases hmethod : method = "GET" ∨ method = "HEAD"
    swap
    · -- No other method leads to a page.
      obtain ⟨hget, hhead⟩ := not_or.1 hmethod
      refine Or.inr ⟨by simp [hmethod], s.engine, ?_⟩
      simp only [handle, hfound, if_neg hget, if_neg hhead]
      split <;> rfl
    rw [handle_of_found hmethod hfound, if_pos hmethod]
    rcases visit_cases r page captured target.query s with ⟨name, hname, hleft⟩ | ⟨hnone, hleft⟩
    · rcases search_cases r name target.query s with ⟨p, hp, hsearch⟩ | ⟨hp, hsearch⟩
      · exact Or.inl ⟨name, p, by simp [hname, hp], hleft.trans hsearch⟩
      · exact Or.inr ⟨by simp [hp], s.engine, hleft.trans hsearch⟩
    · exact Or.inr ⟨by simp [hnone], hleft⟩

end Router

theorem Registry.mem_names_follow {r : Registry} {name : String} (h : name ∈ r.names)
    (e : RegistryEvent) : name ∈ (r.follow e).names := by
  obtain ⟨reg, hreg⟩ := (TextMap.mem_keys_iff _ _).1 h
  have hfound : r.find? name = some reg := hreg
  refine (TextMap.mem_keys_iff _ _).2 ?_
  change ∃ found, (r.follow e).find? name = some found
  -- Neither of the two events takes a name away.
  cases e with
  | registered v =>
    rw [Registry.follow, Registry.find?_register, hfound]
    split
    · exact ⟨_, rfl⟩
    · exact ⟨reg, rfl⟩
  | applied other result =>
    cases result with
    | error e => exact ⟨reg, hfound⟩
    | ok u =>
      rw [Registry.follow, Registry.find?_markConfigured, hfound]
      split
      · exact ⟨_, rfl⟩
      · exact ⟨reg, rfl⟩

theorem Registry.mem_names_foldl_follow {r : Registry} {name : String} (h : name ∈ r.names)
    (events : List RegistryEvent) : name ∈ (events.foldl Registry.follow r).names := by
  induction events generalizing r with
  | nil => exact h
  | cons e events ih => exact ih (mem_names_follow h e)

theorem SearchRequest.registered_of_build {registry : Registry} {chains : Chains} {name : String}
    {p : SearchParameters} {built : SearchRequest × List String}
    (h : build registry chains name p = .ok built) : ∃ v, registry.variant? name = some v := by
  cases hv : registry.variant? name with
  | some v => exact ⟨v, rfl⟩
  | none =>
    simp only [build, hv] at h
    split at h
    · cases h
    · split at h <;> cases h

inductive Activity (σ : Type) where
  | operation (op : Operation σ)
  | request (r : Router) (method : String) (target : Web.Target)

def Activity.IsDirectSearch {σ : Type} : Activity σ → Prop
  | operation (.build _ _) | operation (.execute _ _) => True
  | operation _ | request _ _ _ => False

namespace Service

variable {σ : Type}

def buildLog (name : String) (p : SearchParameters) (s : Service σ) : List CountedEvent :=
  match SearchRequest.build s.registry s.chains name p with
  | .error _ => []
  | .ok (_, fired) => [.built name fired]

theorem tallied_build (name : String) (p : SearchParameters) (s : Service σ) :
    s.metrics.Tallied (buildLog name p s) (build name p s).2.metrics := by
  unfold buildLog
  cases h : SearchRequest.build s.registry s.chains name p with
  | error e =>
    rw [build_of_error h]
    exact Metrics.tallied_of_eq rfl rfl rfl
  | ok built =>
    obtain ⟨request, fired⟩ := built
    rw [build_of_ok h]
    exact Metrics.tallied_countFirings s.metrics name fired

variable [SearchEngine σ]

def executeLog (name : String) (request : SearchRequest) (s : Service σ) : List CountedEvent :=
  [.executed name (execute name request s).1 (s.registry.isConfigured name)]

/-- A search is a build, and an execution if the build succeeds. -/
def searchLog (name : String) (p : SearchParameters) (s : Service σ) : List CountedEvent :=
  buildLog name p s ++
    match build name p s with
    | (.error _, _) => []
    | (.ok request, s') => executeLog name request s'

def requestLog (r : Router) (method : String) (target : Web.Target) (s : Service σ) :
    List CountedEvent :=
  match r.asked? method target with
  | none => []
  | some (name, p) => searchLog name p { s with chains := r.chains }

def act (s : Service σ) : Activity σ → Service σ
  | .operation op => s.perform op
  | .request r method target => (r.handle method target s).2

def activityLog (s : Service σ) : Activity σ → List CountedEvent
  | .operation (.build name p) => buildLog name p s
  | .operation (.execute name request) => executeLog name request s
  | .operation _ => []
  | .request r method target => requestLog r method target s

def acts (s : Service σ) (activities : List (Activity σ)) : Service σ := activities.foldl act s

def log : Service σ → List (Activity σ) → List CountedEvent
  | _, [] => []
  | s, activity :: activities => s.activityLog activity ++ log (s.act activity) activities

theorem tallied_execute (name : String) (request : SearchRequest) (s : Service σ) :
    s.metrics.Tallied (executeLog name request s) (execute name request s).2.metrics := by
  unfold executeLog
  cases h : s.registry.appliedIndex? name with
  | none =>
    have hstate : s.registry.isConfigured name = false := by
      rw [Registry.appliedIndex?_eq_none_iff] at h
      simpa [Registry.isConfigured] using h
    rw [execute_of_none h, hstate]
    exact Metrics.tallied_countSearch s.metrics name (.error (notApplied name))
  | some indexUid =>
    have hstate := ((s.registry.appliedIndex?_eq_some_iff name indexUid).1 h).1
    rw [execute_of_some h, hstate]
    exact Metrics.tallied_countTiming s.metrics name _

theorem tallied_search (name : String) (p : SearchParameters) (s : Service σ) :
    s.metrics.Tallied (searchLog name p s) (search name p s).2.metrics := by
  have hbuild := tallied_build name p s
  unfold searchLog
  cases h : SearchRequest.build s.registry s.chains name p with
  | error e =>
    rw [build_of_error h] at hbuild ⊢
    rw [search_of_error h, List.append_nil]
    exact hbuild
  | ok built =>
    obtain ⟨request, fired⟩ := built
    rw [build_of_ok h] at hbuild ⊢
    rw [search_of_ok h]
    exact hbuild.append (tallied_execute name request _)

theorem tallied_request (r : Router) (method : String) (target : Web.Target) (s : Service σ) :
    s.metrics.Tallied (requestLog r method target s) (r.handle method target s).2.metrics := by
  unfold requestLog
  rcases r.handle_cases method target s with ⟨name, p, hasked, hleft⟩ | ⟨hasked, engine, hleft⟩
  · rw [hasked, hleft]
    exact tallied_search name p { s with chains := r.chains }
  · rw [hasked, hleft]
    exact Metrics.tallied_of_eq rfl rfl rfl

/-- Pushes are counted in a family of their own. -/
theorem tallied_apply (name : String) (s : Service σ) :
    s.metrics.Tallied [] (apply name s).2.metrics := by
  cases h : s.registry.variant? name with
  | none =>
    rw [apply_of_none h]
    exact Metrics.tallied_of_eq rfl rfl rfl
  | some v =>
    rw [apply_of_some h]
    exact Metrics.tallied_of_eq rfl rfl rfl

theorem tallied_act (s : Service σ) (activity : Activity σ) :
    s.metrics.Tallied (s.activityLog activity) (s.act activity).metrics := by
  cases activity with
  | request r method target => exact tallied_request r method target s
  | operation op =>
    cases op with
    | build name p => exact tallied_build name p s
    | execute name request => exact tallied_execute name request s
    | apply name => exact tallied_apply name s
    | applyAll =>
      -- Several pushes are counted one by one, and none of them in these families.
      refine applyEach_induction (fun t => s.metrics.Tallied [] t.metrics) ?_ _ s
        (Metrics.tallied_of_eq rfl rfl rfl)
      intro name t ht
      exact ht.append (tallied_apply name t)
    | _ => exact Metrics.tallied_of_eq rfl rfl rfl

/-- The counters after a run are the ones before it after the events of the log. -/
theorem tallied_acts (s : Service σ) (activities : List (Activity σ)) :
    s.metrics.Tallied (s.log activities) (s.acts activities).metrics := by
  induction activities generalizing s with
  | nil => exact Metrics.tallied_of_eq rfl rfl rfl
  | cons activity activities ih => exact (tallied_act s activity).append (ih (s.act activity))

theorem registry_search (name : String) (p : SearchParameters) (s : Service σ) :
    (search name p s).2.registry = s.registry := by
  cases h : SearchRequest.build s.registry s.chains name p with
  | error e => rw [search_of_error h]
  | ok built =>
    rw [search_of_ok h]
    exact registry_execute name built.1 _

theorem registry_handle (r : Router) (method : String) (target : Web.Target) (s : Service σ) :
    (r.handle method target s).2.registry = s.registry := by
  rcases r.handle_cases method target s with ⟨name, p, -, hleft⟩ | ⟨-, engine, hleft⟩
  · rw [hleft]
    exact registry_search name p { s with chains := r.chains }
  · rw [hleft]

/-- A registered name stays registered. -/
theorem mem_names_act {name : String} {s : Service σ} (h : name ∈ s.registry.names)
    (activity : Activity σ) : name ∈ (s.act activity).registry.names := by
  cases activity with
  | request r method target =>
    rw [act, registry_handle]
    exact h
  | operation op =>
    rw [act, registry_perform]
    exact Registry.mem_names_foldl_follow h _

theorem mem_names_of_mem_searchLog {name : String} {p : SearchParameters} {s : Service σ}
    {e : CountedEvent} (h : e ∈ searchLog name p s) : e.name ∈ s.registry.names := by
  unfold searchLog buildLog at h
  cases hbuild : SearchRequest.build s.registry s.chains name p with
  | error failure =>
    rw [build_of_error hbuild, hbuild] at h
    cases h
  | ok built =>
    obtain ⟨request, fired⟩ := built
    rw [build_of_ok hbuild, hbuild] at h
    have hname : e.name = name := by
      rcases List.mem_append.1 h with h | h <;> rw [List.mem_singleton.1 h] <;> rfl
    rw [hname, Registry.mem_names_iff]
    exact SearchRequest.registered_of_build hbuild

/-- What is counted for an activity that is no direct search is counted under a registered name. -/
theorem mem_names_of_mem_activityLog {s : Service σ} {activity : Activity σ} {e : CountedEvent}
    (hroute : ¬ activity.IsDirectSearch) (h : e ∈ s.activityLog activity) :
    e.name ∈ s.registry.names := by
  cases activity with
  | request r method target =>
    change e ∈ requestLog r method target s at h
    unfold requestLog at h
    split at h
    · cases h
    · exact mem_names_of_mem_searchLog (s := { s with chains := r.chains }) h
  | operation op =>
    cases op with
    | build name p => exact absurd trivial hroute
    | execute name request => exact absurd trivial hroute
    | _ => cases h

theorem mem_names_of_mem_log {s : Service σ} {activities : List (Activity σ)} {e : CountedEvent}
    (hroutes : ∀ activity ∈ activities, ¬ activity.IsDirectSearch) (h : e ∈ s.log activities) :
    e.name ∈ (s.acts activities).registry.names := by
  -- The name is registered when its event is logged, and stays so to the end of the run.
  have hkept : ∀ (more : List (Activity σ)) (t : Service σ), e.name ∈ t.registry.names →
      e.name ∈ (t.acts more).registry.names := by
    intro more
    induction more with
    | nil => exact fun t ht => ht
    | cons activity more ih => exact fun t ht => ih _ (mem_names_act ht activity)
  induction activities generalizing s with
  | nil => cases h
  | cons activity activities ih =>
    obtain ⟨hroute, hroutes⟩ := List.forall_mem_cons.1 hroutes
    rcases List.mem_append.1 h with h | h
    · have hname := mem_names_of_mem_activityLog hroute h
      exact hkept activities _ (mem_names_act hname activity)
    · exact ih hroutes h

def firingsOf (log : List CountedEvent) : List (String × String) :=
  log.flatMap CountedEvent.firings

theorem count_searchLabels (name outcome : String) (log : List CountedEvent) :
    (log.flatMap CountedEvent.searchLabels).count [name, outcome] =
      log.countP (·.endsWith name outcome) := by
  refine countP_flatMap_of_indicator (fun e => ?_) log
  cases e with
  | built other fired => rfl
  | executed other result configured =>
    rw [CountedEvent.searchLabels, CountedEvent.endsWith, List.countP_singleton]
    simp

theorem count_timingLabels (name : String) (log : List CountedEvent) :
    (log.flatMap CountedEvent.timingLabels).count [name] = log.countP (·.asks name) := by
  refine countP_flatMap_of_indicator (fun e => ?_) log
  cases e with
  | built other fired => rfl
  | executed other result configured =>
    cases configured with
    | false => simp [CountedEvent.timingLabels, CountedEvent.asks]
    | true => simp [CountedEvent.timingLabels, CountedEvent.asks]

theorem count_firingLabels (name rule : String) (log : List CountedEvent) :
    (log.flatMap CountedEvent.firingLabels).count [name, rule] =
      (firingsOf log).count (name, rule) := by
  have hlabels : log.flatMap CountedEvent.firingLabels =
      (firingsOf log).map fun p => [p.1, p.2] := by
    rw [firingsOf, List.map_flatMap]
    rfl
  have hinjective : Function.Injective fun p : String × String => [p.1, p.2] := by
    rintro ⟨name, rule⟩ ⟨name', rule'⟩ h
    cases h
    rfl
  rw [hlabels]
  exact List.count_map_of_injective _ _ hinjective (name, rule)

/-- The samples of searches, timings and firings. -/
def searchSamples (m : Metrics) : List Sample :=
  m.searches.samples ++ m.timings.samples ++ m.firings.samples

/-- From empty counters on, every sample has labels of an event of the log. -/
theorem name_of_mem_searchSamples {log : List CountedEvent} {m : Metrics}
    (h : Metrics.empty.Tallied log m) {sample : Sample} (hsample : sample ∈ searchSamples m) :
    ∃ e ∈ log, sample.labels.head? = some e.name := by
  -- In each family the labels start with the name of the event.
  have hfamily {labels : CountedEvent → List (List String)}
      (hname : ∀ e, ∀ l ∈ labels e, l.head? = some e.name) {family : SampleFamily}
      (hfamily : family = SampleFamily.empty.tally (log.flatMap labels))
      (hmem : sample ∈ family.samples) : ∃ e ∈ log, sample.labels.head? = some e.name := by
    rw [hfamily] at hmem
    rcases SampleFamily.labels_of_mem_tally hmem with hlabels | ⟨old, hold, -⟩
    · obtain ⟨e, he, hlabels⟩ := List.mem_flatMap.1 hlabels
      exact ⟨e, he, hname e _ hlabels⟩
    · cases hold
  rcases List.mem_append.1 hsample with hsample | hsample
  · rcases List.mem_append.1 hsample with hsample | hsample
    · refine hfamily (fun e l hl => ?_) h.searches hsample
      cases e with
      | built name fired => cases hl
      | executed name result configured => rw [List.mem_singleton.1 hl]; rfl
    · refine hfamily (fun e l hl => ?_) h.timings hsample
      cases e with
      | built name fired => cases hl
      | executed name result configured =>
        cases configured with
        | false => cases hl
        | true => rw [List.mem_singleton.1 hl]; rfl
  · refine hfamily (fun e l hl => ?_) h.firings hsample
    obtain ⟨p, hp, rfl⟩ := List.mem_map.1 hl
    cases e with
    | built name fired =>
      obtain ⟨rule, -, rfl⟩ := List.mem_map.1 hp
      rfl
    | executed name result configured => cases hp

/-- From empty counters on, a number is how many of the counted events have labels with the same
hash: executions by name and outcome, executions that found the name configured by name, and rules that
fired by name and rule. So it is how many executions ended so, how many found the name configured, or
how often the rule fired for the name, just if no other labels with the hash were counted; and pairs
that form the same text have one number. If no request is built or executed but for a route, all
samples of these families are labelled by names that are registered. -/
theorem metrics_tell_log (s : Service σ) (hreset : s.metrics = .empty)
    (activities : List (Activity σ)) :
    let log := s.log activities
    let metrics := (s.acts activities).metrics
    (metrics.searches.Tells (log.flatMap CountedEvent.searchLabels) ∧
        metrics.timings.Tells (log.flatMap CountedEvent.timingLabels) ∧
        metrics.firings.Tells (log.flatMap CountedEvent.firingLabels)) ∧
      (∀ name outcome,
        metrics.searches.count [name, outcome] = log.countP (·.endsWith name outcome) ↔
          Unshared [name, outcome] (log.flatMap CountedEvent.searchLabels)) ∧
      (∀ name, metrics.timings.count [name] = log.countP (·.asks name) ↔
        Unshared [name] (log.flatMap CountedEvent.timingLabels)) ∧
      (∀ name rule, metrics.firings.count [name, rule] = (firingsOf log).count (name, rule) ↔
        Unshared [name, rule] (log.flatMap CountedEvent.firingLabels)) ∧
      (∀ name rule name' rule', name ++ rule = name' ++ rule' →
        metrics.firings.count [name, rule] = metrics.firings.count [name', rule']) ∧
      ((∀ activity ∈ activities, ¬ activity.IsDirectSearch) → ∀ sample ∈ searchSamples metrics,
        ∃ name ∈ (s.acts activities).registry.names, sample.labels.head? = some name) := by
  intro log metrics
  -- Everything follows from the families being the tallies of the log.
  have htally : Metrics.empty.Tallied log metrics := by
    rw [← hreset]
    exact tallied_acts s activities
  have hsearches : metrics.searches.Tells (log.flatMap CountedEvent.searchLabels) := by
    rw [htally.searches]
    exact SampleFamily.tells_tally _
  have htimings : metrics.timings.Tells (log.flatMap CountedEvent.timingLabels) := by
    rw [htally.timings]
    exact SampleFamily.tells_tally _
  have hfirings : metrics.firings.Tells (log.flatMap CountedEvent.firingLabels) := by
    rw [htally.firings]
    exact SampleFamily.tells_tally _
  refine ⟨⟨hsearches, htimings, hfirings⟩, ?_, ?_, ?_, ?_, ?_⟩
  · intro name outcome
    rw [← count_searchLabels]
    exact hsearches.count_eq_iff [name, outcome]
  · intro name
    rw [← count_timingLabels]
    exact htimings.count_eq_iff [name]
  · intro name rule
    rw [← count_firingLabels]
    exact hfirings.count_eq_iff [name, rule]
  · intro name rule name' rule' htext
    -- The hash reads the labels one after the other, so it does not see where one of them ends.
    calc metrics.firings.count [name, rule]
        = (log.flatMap CountedEvent.firingLabels).countP fun event =>
            labelHash event = labelHash [name, rule] := hfirings [name, rule]
      _ = (log.flatMap CountedEvent.firingLabels).countP fun event =>
            labelHash event = labelHash [name', rule'] := by rw [labelHash_pair_eq htext]
      _ = metrics.firings.count [name', rule'] := (hfirings [name', rule']).symm
  · intro hroutes sample hsample
    obtain ⟨e, he, hlabel⟩ := name_of_mem_searchSamples htally hsample
    exact ⟨e.name, mem_names_of_mem_log hroutes he, hlabel⟩

def hailRule (name : String) : Expansion :=
  ⟨name, "hail".toList, "storm", .substring, by decide, by decide, by decide⟩

def overlapping : Service Memory :=
  ((((start (Memory.fresh 1)).register (.plain "v1")).register (.plain "v1a")).bind "v1"
    [hailRule "ab"]).bind "v1a" [hailRule "b"]

def hailSearch (path : String) : Activity Memory :=
  .request ⟨Router.earlyRouter.routes, overlapping.chains⟩ "GET"
    ⟨path.toList, some "q=hail".toList⟩

def routedRun : List (Activity Memory) :=
  [.operation (.apply "v1"), hailSearch "/search/v1", hailSearch "/search/v1a",
    hailSearch "/search/v1ab"]

theorem metrics_tell_log_of_routedRun :
    let metrics := (overlapping.acts routedRun).metrics
    overlapping.metrics = .empty ∧ metrics.searches.count ["v1", "ok"] = 1 ∧
      metrics.searches.count ["v1a", "index_not_found"] = 1 ∧ metrics.timings.count ["v1"] = 1 ∧
      (searchSamples metrics).length = 4 ∧
      ∀ sample ∈ searchSamples metrics,
        ∃ name ∈ (overlapping.acts routedRun).registry.names, sample.labels.head? = some name := by
  intro metrics
  have hroutes : ∀ activity ∈ routedRun, ¬ activity.IsDirectSearch := by
    simp [routedRun, hailSearch, Activity.IsDirectSearch]
  obtain ⟨-, hsearches, htimings, -, -, hnames⟩ := metrics_tell_log overlapping rfl routedRun
  have hok := (hsearches "v1" "ok").2 (by unfold Unshared; decide +kernel)
  have hmissing := (hsearches "v1a" "index_not_found").2 (by unfold Unshared; decide +kernel)
  have htimed := (htimings "v1").2 (by unfold Unshared; decide +kernel)
  refine ⟨rfl, ?_, ?_, ?_, by decide +kernel, hnames hroutes⟩
  · exact hok.trans (by decide +kernel)
  · exact hmissing.trans (by decide +kernel)
  · exact htimed.trans (by decide +kernel)

/-- One rule fires for each of the two variants, and the first one gets both. -/
theorem firing_counted_for_other_variant :
    let run : List (Activity Memory) :=
      [.operation (.build "v1" { SearchParameters.standard with query := "hail" }),
        .operation (.build "v1a" { SearchParameters.standard with query := "hail" })]
    overlapping.metrics = .empty ∧
      firingsOf (overlapping.log run) = [("v1", "ab"), ("v1a", "b")] ∧
      (overlapping.acts run).metrics.firings.count ["v1", "ab"] = 2 := by
  decide +kernel

end Service

end VariantSearch

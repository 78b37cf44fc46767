import VariantSearch.Proofs.Accounting
import VariantSearch.Proofs.ClientSearch
import VariantSearch.Proofs.Isolation

/-!
Comparisons from the command line. No request of one changes what another reads, except that searches
are counted.
-/

namespace VariantSearch

namespace Metrics

def Commented (lines : List String) : Prop :=
  lines = [] ∨ ∃ text more, lines = ("# HELP " ++ text) :: more

theorem Commented.append {first second : List String} (h : Commented first)
    (h' : Commented second) : Commented (first ++ second) := by
  rcases h with rfl | ⟨text, more, rfl⟩
  · exact h'
  · exact Or.inr ⟨text, more ++ second, rfl⟩

theorem commented_familyLines (h : Heading) (family : SampleFamily) :
    Commented (familyLines h family) := by
  unfold familyLines
  split
  · exact Or.inl rfl
  · refine Or.inr ⟨h.name ++ " " ++ h.help, ("# TYPE " ++ h.name ++ " " ++ h.kind) ::
      family.sorted.map (sampleLine h), ?_⟩
    simp only [String.append_assoc]

theorem commented_lines (m : Metrics) : Commented m.lines := by
  refine Commented.append (Commented.append (Commented.append ?_ ?_) ?_) ?_
  all_goals exact commented_familyLines _ _

theorem toText_of_lines {m : Metrics} {text : String} {more : List String}
    (h : m.lines = ("# HELP " ++ text) :: more) : ∃ rest, m.toText.toList = '#' :: rest := by
  rw [toText, h, List.map_cons, String.join_cons, String.toList_append, String.toList_append,
    String.toList_append]
  exact ⟨_, rfl⟩

/-- The page is empty, or it starts with the mark of a comment. -/
theorem toText_eq_empty_or (m : Metrics) : m.toText = "" ∨ ∃ rest, m.toText.toList = '#' :: rest := by
  rcases m.commented_lines with hlines | ⟨text, more, hlines⟩
  · rw [toText, hlines]
    exact Or.inl rfl
  · exact Or.inr (toText_of_lines hlines)

theorem samples_increment_ne_nil (family : SampleFamily) (labels : List String) :
    (family.increment labels).samples ≠ [] := by
  change SampleFamily.bump labels family.samples ≠ []
  cases family.samples with
  | nil => exact List.cons_ne_nil _ _
  | cons s rest =>
    rw [SampleFamily.bump]
    split <;> exact List.cons_ne_nil _ _

/-- As soon as a search was counted there is something on the page. -/
theorem toText_countSearch_ne_empty (m : Metrics) (name outcome : String) :
    (m.countSearch name outcome).toText ≠ "" := by
  have hlines : (m.countSearch name outcome).lines ≠ [] := by
    have hfamily (h : Heading) :
        familyLines h (m.searches.increment [name, outcome]) ≠ [] := by
      rw [familyLines, List.isEmpty_eq_false_iff.2 (samples_increment_ne_nil _ _)]
      exact List.cons_ne_nil _ _
    exact fun hnil => hfamily _ (List.append_eq_nil_iff.1 hnil).2
  rcases (m.countSearch name outcome).commented_lines with hnone | ⟨text, more, hsome⟩
  · exact absurd hnone hlines
  · obtain ⟨rest, hrest⟩ := toText_of_lines hsome
    intro hempty
    rw [hempty] at hrest
    cases hrest

end Metrics

/-- What is on the page of the counters is no JSON. -/
theorem ofString?_toText_metrics (m : Metrics) : Json.ofString? m.toText = none := by
  rcases m.toText_eq_empty_or with hempty | ⟨rest, hrest⟩
  · rw [hempty]
    rfl
  · rw [Json.ofString?, Json.SyntaxTree.ofString?, hrest]
    rfl

namespace Service

variable {s s' : Service Memory}

/-- The services agree in all that is answered but the counters: besides these only what the engine
keeps of searches may differ. -/
structure Agree (s s' : Service Memory) : Prop where
  registry : s'.registry = s.registry
  chains : s'.chains = s.chains
  engine : ∀ indexUid, Memory.SameAt indexUid s.engine s'.engine

theorem kept_agree : Kept Agree where
  refl s := ⟨rfl, rfl, fun indexUid => (Memory.kept_sameAt indexUid).refl s.engine⟩
  trans _ _ _ h h' :=
    ⟨h'.registry.trans h.registry, h'.chains.trans h.chains,
      fun indexUid => (Memory.kept_sameAt indexUid).trans _ _ _ (h.engine indexUid) (h'.engine indexUid)⟩

theorem Agree.withChains (h : Agree s s') (chains : Chains) :
    Agree { s with chains } { s' with chains } :=
  ⟨h.registry, rfl, h.engine⟩

theorem Agree.sameFor (h : Agree s s') (name indexUid : String) : SameFor name indexUid s s' where
  registration := by rw [h.registry]
  chain := by rw [h.chains]
  engine := h.engine indexUid

theorem agree_execute (name : String) (request : SearchRequest) (s : Service Memory) :
    Agree s (execute name request s).2 := by
  refine ⟨registry_execute name request s, chains_execute name request s, fun indexUid => ?_⟩
  cases h : s.registry.appliedIndex? name with
  | none =>
    rw [execute_of_none h]
    exact (Memory.kept_sameAt indexUid).refl s.engine
  | some found =>
    rw [execute_of_some h]
    exact Memory.sameAt_search found indexUid request.toQuery s.engine

theorem agree_search (name : String) (p : SearchParameters) (s : Service Memory) :
    Agree s (search name p s).2 := by
  cases h : SearchRequest.build s.registry s.chains name p with
  | error e =>
    rw [search_of_error h]
    exact kept_agree.refl s
  | ok built =>
    rw [search_of_ok h]
    have hexecuted := agree_execute name built.1
      { s with metrics := s.metrics.countFirings name built.2 }
    exact ⟨hexecuted.registry, hexecuted.chains, hexecuted.engine⟩

/-- Every execution is counted, whether the engine is asked or not. -/
theorem exists_countSearch_execute (name : String) (request : SearchRequest) (s : Service Memory) :
    ∃ m outcome, (execute name request s).2.metrics = Metrics.countSearch m name outcome := by
  cases h : s.registry.appliedIndex? name with
  | none =>
    rw [execute_of_none h]
    exact ⟨_, _, rfl⟩
  | some indexUid =>
    rw [execute_of_some h]
    exact ⟨_, _, rfl⟩

/-- A search has the same result in services that agree, for names that are registered and for
others. -/
theorem result_search_of_agree (h : Agree s s') (name : String) (p : SearchParameters) :
    (search name p s').1 = (search name p s).1 := by
  cases hv : s.registry.variant? name with
  | some v => exact answer_of_sameFor (h.sameFor name v.indexUid) hv rfl p
  | none =>
    -- A name that is not registered has no request in either.
    have hbuild := build_of_sameFor (h.sameFor name "") p
    cases hrequest : SearchRequest.build s.registry s.chains name p with
    | error e => rw [search_of_error hrequest, search_of_error (hbuild.trans hrequest)]
    | ok built =>
      obtain ⟨v, hfound⟩ := SearchRequest.registered_of_build hrequest
      rw [hv] at hfound
      cases hfound

end Service

namespace Router

open Service

variable {s s' : Service Memory} {r : Router}

theorem agree_routed (r : Router) (name : String) (query : Option (List Char)) (s : Service Memory) :
    Agree s (r.search name query s).2 := by
  rcases search_cases r name query s with ⟨p, -, hleft⟩ | ⟨-, hleft⟩
  · have hsearched := agree_search name p { s with chains := r.chains }
    rw [hleft]
    exact ⟨hsearched.registry, rfl, hsearched.engine⟩
  · rw [hleft]
    exact kept_agree.refl s

theorem answer_routed_of_agree (h : Agree s s') (name : String) (query : Option (List Char)) :
    (r.search name query s').1 = (r.search name query s).1 := by
  cases hread : SearchParameters.ofQuery (query.getD []) with
  | error f => simp only [search, hread]
  | ok p =>
    rw [search_of_readable hread, search_of_readable hread]
    show answerOf (Service.search name p { s' with chains := r.chains }).1 =
      answerOf (Service.search name p { s with chains := r.chains }).1
    rw [result_search_of_agree (h.withChains r.chains)]

/-- A page leaves all as it was but the counters. -/
theorem agree_visit (r : Router) (page : Page) (captured : List Char) (query : Option (List Char))
    (s : Service Memory) : Agree s (r.visit page captured query s).2 := by
  cases page with
  | health => exact ⟨rfl, rfl, fun indexUid => Memory.sameAt_health indexUid s.engine⟩
  | search =>
    rw [visit]
    cases parameterText? captured with
    | none => exact kept_agree.refl s
    | some name => exact agree_routed r name query s
  | searchNamed name => exact agree_routed r name query s
  | configurations | metrics => exact kept_agree.refl s
  | configuration =>
    rw [visit]
    cases parameterText? captured <;> exact kept_agree.refl s

/-- Every page but that of the counters is the same in services that agree. -/
theorem answer_visit_of_agree (h : Agree s s') {page : Page} (hpage : page ≠ .metrics)
    (captured : List Char) (query : Option (List Char)) :
    (r.visit page captured query s').1 = (r.visit page captured query s).1 := by
  cases page with
  | health =>
    have hhealth : (Service.health s').1 = (Service.health s).1 := by
      show (Memory.health s'.engine).1 = (Memory.health s.engine).1
      simp only [Memory.health, Memory.whenAvailable, (h.engine "").available]
      split <;> rfl
    show Answer.ofJson 200 (healthReport s').1 = Answer.ofJson 200 (healthReport s).1
    simp only [healthReport, hhealth]
    rfl
  | search =>
    rw [visit, visit]
    cases parameterText? captured with
    | none => rfl
    | some name => exact answer_routed_of_agree h name query
  | searchNamed name => exact answer_routed_of_agree h name query
  | configurations =>
    show Answer.ofJson 200 s'.registry.summaries = Answer.ofJson 200 s.registry.summaries
    rw [h.registry]
  | configuration =>
    rw [visit, visit, h.registry]
    cases parameterText? captured <;> rfl
  | metrics => exact absurd rfl hpage

def Counts (r : Router) (registry : Registry) (target : Web.Target) : Prop :=
  ∃ name p built, r.asked? "GET" target = some (name, p) ∧
    SearchRequest.build registry r.chains name p = .ok built

theorem toText_handle_of_counts {target : Web.Target} (h : r.Counts s.registry target) :
    (r.handle "GET" target s).2.metrics.toText ≠ "" := by
  obtain ⟨name, p, built, hasked, hbuild⟩ := h
  rcases r.handle_cases "GET" target s with ⟨name', p', hasked', hleft⟩ | ⟨hnone, -⟩
  · obtain ⟨rfl, rfl⟩ := Prod.mk.inj (Option.some.inj (hasked.symm.trans hasked'))
    have hsearch : Service.search name p { s with chains := r.chains } =
        execute name built.1
          { s with chains := r.chains, metrics := s.metrics.countFirings name built.2 } :=
      search_of_ok hbuild
    obtain ⟨m, outcome, hcounted⟩ := exists_countSearch_execute name built.1
      { s with chains := r.chains, metrics := s.metrics.countFirings name built.2 }
    rw [hleft, hsearch]
    show (execute name built.1 _).2.metrics.toText ≠ ""
    rw [hcounted]
    exact m.toText_countSearch_ne_empty name outcome
  · rw [hasked] at hnone
    cases hnone

theorem metrics_handle_of_not_counts {target : Web.Target} (h : ¬ r.Counts s.registry target) :
    (r.handle "GET" target s).2.metrics = s.metrics := by
  rcases r.handle_cases "GET" target s with ⟨name, p, hasked, hleft⟩ | ⟨-, engine, hleft⟩
  · rw [hleft]
    cases hbuild : SearchRequest.build s.registry r.chains name p with
    | error e =>
      have hsearch : Service.search name p { s with chains := r.chains } =
          (.error e, { s with chains := r.chains }) := search_of_error hbuild
      rw [hsearch]
    | ok built => exact absurd ⟨name, p, built, hasked, hbuild⟩ h
  · rw [hleft]

end Router

namespace CommandLine

open Service

variable {site : Site} {endpoint url name : String} {pairs : List (String × String)}
  {s s' : Service Memory}

def requested? (site : Site) (url : String) (pairs : List (String × String)) : Option Web.Target :=
  match Web.Url.parse url with
  | .error _ => none
  | .ok address =>
    let address := address.withPairs pairs
    if !address.secure ∧ address.host = site.host ∧ address.portNumber = site.portNumber then
      some ⟨address.path, address.query⟩
    else none

def LeadsToCounters (site : Site) (url : String) (pairs : List (String × String)) : Prop :=
  ∃ target captured, requested? site url pairs = some target ∧
    site.router.find? target.path = some (.metrics, captured)

def IsCounted (site : Site) (registry : Registry) (url : String) (pairs : List (String × String)) :
    Prop :=
  ∃ target, requested? site url pairs = some target ∧ site.router.Counts registry target

theorem fetch_of_requested {target : Web.Target} (h : requested? site url pairs = some target)
    (s : Service Memory) :
    fetch site url pairs s =
      (readAnswer url (site.router.handle "GET" target s).1,
        (site.router.handle "GET" target s).2) := by
  cases haddress : Web.Url.parse url with
  | error fault =>
    simp only [requested?, haddress] at h
    cases h
  | ok address =>
    simp only [requested?, haddress] at h
    split at h
    · next hleads =>
      obtain rfl := Option.some.inj h
      simp only [fetch, haddress, if_pos hleads]
    · cases h

/-- A request that does not get to the site fails in the same way, whatever the service. -/
theorem fetch_of_none (h : requested? site url pairs = none) :
    ∃ f, ∀ s : Service Memory, fetch site url pairs s = (.error f, s) := by
  cases haddress : Web.Url.parse url with
  | error fault =>
    simp only [fetch, haddress]
    exact ⟨_, fun _ => rfl⟩
  | ok address =>
    simp only [requested?, haddress] at h
    split at h
    · cases h
    · next hleads =>
      simp only [fetch, haddress, if_neg hleads]
      exact ⟨_, fun _ => rfl⟩

theorem agree_fetch (site : Site) (url : String) (pairs : List (String × String))
    (s : Service Memory) : Agree s (fetch site url pairs s).2 := by
  cases h : requested? site url pairs with
  | none =>
    obtain ⟨f, hf⟩ := fetch_of_none h
    rw [hf]
    exact kept_agree.refl s
  | some target =>
    rw [fetch_of_requested h, Router.handle]
    cases site.router.find? target.path with
    | none => exact kept_agree.refl s
    | some found => exact Router.agree_visit site.router found.1 found.2 target.query s

/-- A request that does not lead to the counters has the same result in services that agree. -/
theorem result_fetch_of_agree (hother : ¬ LeadsToCounters site url pairs) (h : Agree s s') :
    (fetch site url pairs s').1 = (fetch site url pairs s).1 := by
  cases hrequested : requested? site url pairs with
  | none =>
    obtain ⟨f, hf⟩ := fetch_of_none hrequested
    rw [hf, hf]
  | some target =>
    rw [fetch_of_requested hrequested, fetch_of_requested hrequested, Router.handle, Router.handle]
    cases hfound : site.router.find? target.path with
    | none => rfl
    | some found =>
      have hpage : found.1 ≠ .metrics := fun heq =>
        hother ⟨target, found.2, hrequested, hfound.trans (congrArg some (Prod.ext heq rfl))⟩
      exact congrArg (readAnswer url) (Router.answer_visit_of_agree h hpage found.2 target.query)

/-- The page of the counters is no JSON, and all that is told of it is whether it is empty. -/
theorem result_fetch_of_leads (h : LeadsToCounters site url pairs) (s : Service Memory) :
    (fetch site url pairs s).1 = .error (.notJson s.metrics.toText.isEmpty) := by
  obtain ⟨target, captured, hrequested, hfound⟩ := h
  have hpage : (site.router.handle "GET" target s).1 =
      ⟨200, some "text/plain; version=0.0.4", none, .text s.metrics.toText⟩ := by
    simp only [Router.handle, hfound, Router.visit, if_true]
  rw [fetch_of_requested hrequested, hpage]
  simp only [readAnswer, bodyText, ofString?_toText_metrics]

theorem toText_fetch_eq_empty_iff (site : Site) (url : String) (pairs : List (String × String))
    (s : Service Memory) :
    (fetch site url pairs s).2.metrics.toText = "" ↔
      s.metrics.toText = "" ∧ ¬ IsCounted site s.registry url pairs := by
  cases hrequested : requested? site url pairs with
  | none =>
    obtain ⟨f, hf⟩ := fetch_of_none hrequested
    rw [hf]
    refine ⟨fun hempty => ⟨hempty, ?_⟩, And.left⟩
    rintro ⟨target, htarget, -⟩
    rw [hrequested] at htarget
    cases htarget
  | some target =>
    -- The address leads to one target only, so being counted is a matter of this target.
    have hcounted : IsCounted site s.registry url pairs ↔ site.router.Counts s.registry target := by
      constructor
      · rintro ⟨_, htarget, hcounts⟩
        obtain rfl := Option.some.inj (hrequested.symm.trans htarget)
        exact hcounts
      · exact fun hcounts => ⟨target, hrequested, hcounts⟩
    rw [fetch_of_requested hrequested, hcounted]
    -- Once something is counted the page is never empty; what is not counted leaves it alone.
    by_cases hcounts : site.router.Counts s.registry target
    · exact iff_of_false (Router.toText_handle_of_counts hcounts) fun hall => hall.2 hcounts
    · rw [Router.metrics_handle_of_not_counts hcounts]
      exact ⟨fun hempty => ⟨hempty, hcounts⟩, And.left⟩

theorem blocks_cons (site : Site) (endpoint : String) (pairs : List (String × String))
    (name : String) (more : List String) (s : Service Memory) :
    blocks site endpoint pairs (name :: more) s =
      (block name (fetch site (searchUrl endpoint name) pairs s).1 ++
          (blocks site endpoint pairs more (fetch site (searchUrl endpoint name) pairs s).2).1,
        (blocks site endpoint pairs more (fetch site (searchUrl endpoint name) pairs s).2).2) := by
  rw [blocks]

theorem agree_blocks (site : Site) (endpoint : String) (pairs : List (String × String))
    (names : List String) (s : Service Memory) :
    Agree s (blocks site endpoint pairs names s).2 := by
  induction names generalizing s with
  | nil => exact kept_agree.refl s
  | cons name more ih =>
    rw [blocks_cons]
    have hfirst := agree_fetch site (searchUrl endpoint name) pairs s
    exact kept_agree.trans _ _ _ hfirst (ih (fetch site (searchUrl endpoint name) pairs s).2)

theorem toText_blocks_eq_empty_iff (site : Site) (endpoint : String)
    (pairs : List (String × String)) (names : List String) (s : Service Memory) :
    (blocks site endpoint pairs names s).2.metrics.toText = "" ↔
      s.metrics.toText = "" ∧
        ¬ ∃ name ∈ names, IsCounted site s.registry (searchUrl endpoint name) pairs := by
  induction names generalizing s with
  | nil => simp [blocks]
  | cons name more ih =>
    -- What is counted is decided by the registry, which the first request leaves as it is.
    have hrest := ih (fetch site (searchUrl endpoint name) pairs s).2
    rw [(agree_fetch site (searchUrl endpoint name) pairs s).registry, toText_fetch_eq_empty_iff,
      and_assoc] at hrest
    rw [blocks_cons, hrest]
    simp only [List.mem_cons, exists_eq_or_imp, not_or]

def blockAfter (site : Site) (endpoint : String) (pairs : List (String × String))
    (others : List String) (name : String) (s : Service Memory) : String :=
  block name (fetch site (searchUrl endpoint name) pairs (blocks site endpoint pairs others s).2).1

theorem block_notJson_ne (name : String) :
    block name (.error (.notJson true)) ≠ block name (.error (.notJson false)) := by
  intro heq
  have hfull : (ClientFault.notJson true).full = (ClientFault.notJson false).full := by
    have hlists := congrArg String.toList heq
    simp only [block, String.toList_append] at hlists
    exact String.toList_inj.1 (List.append_cancel_left (List.append_cancel_right hlists))
  revert hfull
  decide

theorem blockAfter_of_leads (h : LeadsToCounters site (searchUrl endpoint name) pairs)
    (others : List String) (s : Service Memory) :
    blockAfter site endpoint pairs others name s =
      block name
        (.error (.notJson (blocks site endpoint pairs others s).2.metrics.toText.isEmpty)) := by
  rw [blockAfter, result_fetch_of_leads h]

/-- The name leads to the counters, and it is one of the requests before it that is counted first. -/
def IsDisturbed (site : Site) (endpoint : String) (pairs : List (String × String))
    (others : List String) (name : String) (s : Service Memory) : Prop :=
  LeadsToCounters site (searchUrl endpoint name) pairs ∧ s.metrics.toText = "" ∧
    ∃ other ∈ others, IsCounted site s.registry (searchUrl endpoint other) pairs

/-- Other requests leave the block of a name as it is, but for a name whose address leads to the
counters: its block tells whether anything was counted yet. -/
theorem blockAfter_eq_iff (site : Site) (endpoint : String) (pairs : List (String × String))
    (others : List String) (name : String) (s : Service Memory) :
    blockAfter site endpoint pairs others name s = blockAfter site endpoint pairs [] name s ↔
      ¬ IsDisturbed site endpoint pairs others name s := by
  -- Only the page of the counters tells of other requests.
  by_cases hleads : LeadsToCounters site (searchUrl endpoint name) pairs
  swap
  · refine iff_of_true ?_ fun hall => hleads hall.1
    exact congrArg (block name)
      (result_fetch_of_agree hleads (agree_blocks site endpoint pairs others s))
  have hafter := toText_blocks_eq_empty_iff site endpoint pairs others s
  have halone : blockAfter site endpoint pairs [] name s =
      block name (.error (.notJson s.metrics.toText.isEmpty)) := blockAfter_of_leads hleads [] s
  rw [blockAfter_of_leads hleads, halone]
  by_cases hbefore : s.metrics.toText = ""
  · rw [hbefore]
    by_cases hcounted : ∃ other ∈ others, IsCounted site s.registry (searchUrl endpoint other) pairs
    · -- The first that was counted is seen.
      have hne : (blocks site endpoint pairs others s).2.metrics.toText.isEmpty = false := by
        rw [← Bool.not_eq_true, String.isEmpty_iff, hafter]
        exact fun hall => hall.2 hcounted
      rw [hne]
      exact iff_of_false (block_notJson_ne name).symm fun hall => hall ⟨hleads, hbefore, hcounted⟩
    · rw [hafter.2 ⟨hbefore, hcounted⟩]
      exact iff_of_true rfl fun hall => hcounted hall.2.2
  -- A page with something on it reads the same for the client, whatever was added.
  · have hne : (blocks site endpoint pairs others s).2.metrics.toText ≠ "" := fun hempty =>
      hbefore (hafter.1 hempty).1
    have hsame : (blocks site endpoint pairs others s).2.metrics.toText.isEmpty =
        s.metrics.toText.isEmpty := by
      rw [Bool.eq_iff_iff, String.isEmpty_iff, String.isEmpty_iff]
      exact iff_of_false hne hbefore
    rw [hsame]
    exact iff_of_true rfl fun hall => hbefore hall.2.1

/-- The blocks of several names at their places in a list, when their requests are answered in some
order. -/
def answered (site : Site) (endpoint : String) (pairs : List (String × String)) (names : List String) :
    List Nat → Service Memory → List (Nat × String)
  | [], _ => []
  | place :: more, s =>
    let name := names.getD place ""
    (place, block name (fetch site (searchUrl endpoint name) pairs s).1) ::
      answered site endpoint pairs names more (fetch site (searchUrl endpoint name) pairs s).2

def namesBefore (names : List String) (order : List Nat) (place : Nat) : List String :=
  (order.takeWhile (· != place)).map (names.getD · "")

/-- What a comparison prints: the blocks stand in the order of the names, whatever the order of the
answers is. -/
def outcomeIn (site : Site) (endpoint query : String) (facets : Option String) (limit : Int)
    (names : List String) (order : List Nat) (s : Service Memory) : Outcome :=
  let blocks := answered site endpoint (searchPairs query facets none 1 limit) names order s
  ⟨0, heading query ++
    String.join ((List.range names.length).map fun place => (blocks.lookup place).getD ""), ""⟩

/-- The block at a place is that of its name after the requests that are answered before it. -/
theorem lookup_answered (site : Site) (endpoint : String) (pairs : List (String × String))
    (names : List String) {order : List Nat} {place : Nat} (h : place ∈ order)
    (s : Service Memory) :
    (answered site endpoint pairs names order s).lookup place =
      some (blockAfter site endpoint pairs (namesBefore names order place) (names.getD place "") s) := by
  -- The state is generalized: the later requests are made where the first one has left off.
  induction order generalizing s with
  | nil => cases h
  | cons first more ih =>
    by_cases hfirst : first = place
    · subst hfirst
      simp [answered, namesBefore, blockAfter, blocks]
    · have hmore : place ∈ more := (List.mem_cons.1 h).resolve_left fun heq => hfirst heq.symm
      have hbefore : namesBefore names (first :: more) place =
          names.getD first "" :: namesBefore names more place := by
        simp [namesBefore, hfirst]
      rw [answered, List.lookup_cons, beq_false_of_ne (Ne.symm hfirst)]
      dsimp only
      rw [ih hmore, hbefore, blockAfter, blockAfter, blocks_cons]

theorem takeWhile_range {place n : Nat} (h : place < n) :
    (List.range n).takeWhile (· != place) = List.range place := by
  have hsplit : List.range n = List.range place ++ place :: (List.range (n - place - 1)).map
      (· + (place + 1)) := by
    have hn : n = place + ((n - place - 1) + 1) := by omega
    conv => lhs; rw [hn, List.range_add, List.range_succ_eq_map]
    simp [Function.comp_def, Nat.add_left_comm]
  rw [hsplit, List.takeWhile_append_of_pos]
  · simp
  · intro i hi
    simp only [bne_iff_ne, ne_eq]
    exact Nat.ne_of_lt (List.mem_range.1 hi)

/-- In the order of the list the names before a place are those in front of it. -/
theorem namesBefore_range (names : List String) {place : Nat} (h : place < names.length) :
    namesBefore names (List.range names.length) place = names.take place := by
  rw [namesBefore, takeWhile_range h]
  refine List.ext_getElem (by simp; omega) fun i hi _ => ?_
  have hlt : i < names.length := by
    rw [List.length_map, List.length_range] at hi
    omega
  simp [List.getElem?_eq_getElem hlt]

theorem blocks_eq_join (site : Site) (endpoint : String) (pairs : List (String × String))
    (names : List String) (s : Service Memory) :
    (blocks site endpoint pairs names s).1 = String.join ((List.range names.length).map fun place =>
      blockAfter site endpoint pairs (names.take place) (names.getD place "") s) := by
  induction names generalizing s with
  | nil => rfl
  | cons name more ih =>
    rw [blocks_cons, ih, List.length_cons, List.range_succ_eq_map, List.map_cons, List.map_map,
      String.join_cons]
    have hmore : ∀ place ∈ List.range more.length,
        blockAfter site endpoint pairs (more.take place) (more.getD place "")
            (fetch site (searchUrl endpoint name) pairs s).2 =
          blockAfter site endpoint pairs ((name :: more).take (place + 1))
            ((name :: more).getD (place + 1) "") s := by
      intro place _
      rw [List.take_succ_cons, List.getD_cons_succ, blockAfter, blockAfter, blocks_cons]
    rw [List.map_congr_left hmore]
    rfl

theorem blocks_pair (site : Site) (endpoint : String) (pairs : List (String × String))
    (first second : String) (s : Service Memory) :
    (blocks site endpoint pairs [first, second] s).1 =
      blockAfter site endpoint pairs [] first s ++ blockAfter site endpoint pairs [first] second s := by
  simp only [blockAfter, blocks, String.append_empty]

inductive IsBlock (name : String) : String → Prop where
  | hits (answer : Json) : IsBlock name (block name (.ok answer))
  | error (f : ClientFault) : IsBlock name (padded name ++ " error: " ++ f.full ++ "\n")

theorem isBlock_blockAfter (site : Site) (endpoint : String) (pairs : List (String × String))
    (others : List String) (name : String) (s : Service Memory) :
    IsBlock name (blockAfter site endpoint pairs others name s) := by
  unfold blockAfter
  cases (fetch site (searchUrl endpoint name) pairs (blocks site endpoint pairs others s).2).1 with
  | ok answer => exact .hits answer
  | error f => exact .error f

/-- A comparison prints, at the place of each name, its block after the requests that are answered
before it. -/
theorem outcomeIn_eq (site : Site) (endpoint query : String) (facets : Option String) (limit : Int)
    {names : List String} {order : List Nat} (h : order.Perm (List.range names.length))
    (s : Service Memory) :
    outcomeIn site endpoint query facets limit names order s =
      ⟨0, heading query ++ String.join ((List.range names.length).map fun place =>
        blockAfter site endpoint (searchPairs query facets none 1 limit)
          (namesBefore names order place) (names.getD place "") s), ""⟩ := by
  have hblocks : ∀ place ∈ List.range names.length,
      ((answered site endpoint (searchPairs query facets none 1 limit) names order s).lookup
          place).getD "" =
        blockAfter site endpoint (searchPairs query facets none 1 limit)
          (namesBefore names order place) (names.getD place "") s := by
    intro place hplace
    rw [lookup_answered site endpoint _ names (h.mem_iff.2 hplace), Option.getD_some]
  simp only [outcomeIn, List.map_congr_left hblocks]

theorem outcome_blocks (site : Site) (endpoint query : String) (facets : Option String)
    (limit : Int) (names : List String) (s : Service Memory) :
    (carryOut site endpoint (.compare query facets limit names) s).1 =
      ⟨0, heading query ++
        (blocks site endpoint (searchPairs query facets none 1 limit) names s).1, ""⟩ := rfl

/-- The answers come in the order of the list where each request waits for the one before it. -/
theorem outcome_compare (site : Site) (endpoint query : String) (facets : Option String)
    (limit : Int) (names : List String) (s : Service Memory) :
    (carryOut site endpoint (.compare query facets limit names) s).1 =
      outcomeIn site endpoint query facets limit names (List.range names.length) s := by
  have hbefore : ∀ place ∈ List.range names.length,
      blockAfter site endpoint (searchPairs query facets none 1 limit) (names.take place)
          (names.getD place "") s =
        blockAfter site endpoint (searchPairs query facets none 1 limit)
          (namesBefore names (List.range names.length) place) (names.getD place "") s := by
    intro place hplace
    rw [namesBefore_range names (List.mem_range.1 hplace)]
  rw [outcome_blocks, outcomeIn_eq site endpoint query facets limit (List.Perm.refl _), blocks_eq_join,
    List.map_congr_left hbefore]

/-- A name that is compared alone has the block that it has before all other requests. -/
theorem outcome_alone_iff (site : Site) (endpoint query : String) (facets : Option String)
    (limit : Int) (name text : String) (s : Service Memory) :
    (carryOut site endpoint (.compare query facets limit [name]) s).1 =
        ⟨0, heading query ++ text, ""⟩ ↔
      text = blockAfter site endpoint (searchPairs query facets none 1 limit) [] name s := by
  have hone : (blocks site endpoint (searchPairs query facets none 1 limit) [name] s).1 =
      blockAfter site endpoint (searchPairs query facets none 1 limit) [] name s := by
    rw [blocks_cons, blockAfter, blocks, blocks, String.append_empty]
  rw [outcome_blocks, hone, Outcome.mk.injEq, String.append_right_inj]
  simp only [true_and, and_true]
  exact eq_comm

theorem requested?_of_isSafe (haddress : IsAddressOf endpoint site) (hname : Web.Url.IsSafe name)
    (hpairs : pairs ≠ []) :
    requested? site (searchUrl endpoint name) pairs =
      some ⟨Router.searchPrefix ++ name.toList, some (Web.Form.encodePairs pairs)⟩ := by
  have hempty : ¬ pairs.isEmpty = true := mt List.isEmpty_iff.1 hpairs
  rw [requested?, haddress.parse_searchUrl hname]
  simp only [Web.Url.withPairs, if_neg hempty, Bool.not_false, and_self, if_true]

/-- A name that an address may hold as it is leads to a search. -/
theorem not_leadsToCounters_of_isSafe {registry : Registry} {chains : Chains} {metrics : Bool}
    (hr : Router.make registry chains metrics = .ok site.router)
    (haddress : IsAddressOf endpoint site) (hname : Web.Url.IsSafe name) (hpairs : pairs ≠ []) :
    ¬ LeadsToCounters site (searchUrl endpoint name) pairs := by
  have hnil : name.toList ≠ [] := fun heq => hname.ne (String.toList_eq_nil_iff.1 heq)
  have hslash : '/' ∉ name.toList := hname.isSegment.not_mem (by decide)
  have hrequested := requested?_of_isSafe haddress hname hpairs
  rintro ⟨target, captured, htarget, hfound⟩
  obtain rfl := Option.some.inj (hrequested.symm.trans htarget)
  rw [Router.find?_search hr hnil hslash] at hfound
  cases hfound

/-- A comparison succeeds and prints its heading and one block for each name, in the order of the names,
in whatever order their requests are answered. The block of a name is the one that it has alone, whatever
was answered before it, just if its address does not lead to the counters, or something was counted
already, or nothing is counted before it. So names that an address may hold as they are never disturb
each other. -/
theorem compare_composes_iff (site : Site) (endpoint query : String) (facets : Option String)
    (limit : Int) (s : Service Memory) :
    let pairs := searchPairs query facets none 1 limit
    (∀ names order, order.Perm (List.range names.length) → ∃ texts : List String,
      outcomeIn site endpoint query facets limit names order s =
        ⟨0, heading query ++ String.join texts, ""⟩ ∧
      texts.length = names.length ∧
      ∀ place name, names[place]? = some name → ∃ text,
        texts[place]? = some text ∧ IsBlock name text ∧
          ((carryOut site endpoint (.compare query facets limit [name]) s).1 =
              ⟨0, heading query ++ text, ""⟩ ↔
            ¬ IsDisturbed site endpoint pairs (namesBefore names order place) name s)) ∧
    (∀ names, (carryOut site endpoint (.compare query facets limit names) s).1 =
      outcomeIn site endpoint query facets limit names (List.range names.length) s) ∧
    (∀ others name, blockAfter site endpoint pairs others name s =
        blockAfter site endpoint pairs [] name s ↔
      ¬ IsDisturbed site endpoint pairs others name s) ∧
    ∀ registry chains metrics, Router.make registry chains metrics = .ok site.router →
      IsAddressOf endpoint site → ∀ names, (∀ name ∈ names, Web.Url.IsSafe name) →
        ∀ order, order.Perm (List.range names.length) →
          outcomeIn site endpoint query facets limit names order s =
            ⟨0, heading query ++
              String.join (names.map fun name => blockAfter site endpoint pairs [] name s), ""⟩ := by
  intro pairs
  refine ⟨fun names order horder => ?_,
    fun names => outcome_compare site endpoint query facets limit names s,
    fun others name => blockAfter_eq_iff site endpoint pairs others name s, ?_⟩
  · refine ⟨_, outcomeIn_eq site endpoint query facets limit horder s, by simp, ?_⟩
    intro place name hname
    obtain ⟨hlt, rfl⟩ := List.getElem?_eq_some_iff.1 hname
    refine ⟨blockAfter site endpoint pairs (namesBefore names order place) names[place] s, ?_,
      isBlock_blockAfter site endpoint pairs _ _ s, ?_⟩
    · rw [List.getElem?_map, List.getElem?_range hlt, Option.map_some, List.getD_eq_getElem?_getD,
        List.getElem?_eq_getElem hlt, Option.getD_some]
    -- Compared alone, the name is answered first.
    · rw [outcome_alone_iff]
      exact blockAfter_eq_iff site endpoint pairs (namesBefore names order place) names[place] s
  · intro registry chains metrics hr haddress names hsafe order horder
    -- Names that need no escapes never lead to the counters, so none of them is disturbed.
    have halone : (List.range names.length).map (fun place =>
        blockAfter site endpoint pairs (namesBefore names order place) (names.getD place "") s) =
          names.map fun name => blockAfter site endpoint pairs [] name s := by
      refine List.ext_getElem (by simp) fun place _ hplace => ?_
      have hlt : place < names.length := by rwa [List.length_map] at hplace
      have hleads := not_leadsToCounters_of_isSafe hr haddress (hsafe _ (List.getElem_mem hlt))
        (List.cons_ne_nil _ _ : pairs ≠ [])
      simp only [List.getElem_map, List.getElem_range, List.getD_eq_getElem?_getD,
        List.getElem?_eq_getElem hlt, Option.getD_some]
      exact (blockAfter_eq_iff site endpoint pairs _ _ s).2 fun hall => hleads hall.1
    rw [outcomeIn_eq site endpoint query facets limit horder, halone]

def unpushed : Service Memory := (Service.start (Memory.fresh 1)).register (.plain "v1")

theorem isSafe_unknown : Web.Url.IsSafe "no-such.name~" where
  ne := by decide
  unreserved := List.all_eq_true.1 (by decide)
  one_dot := by decide
  two_dots := by decide

/-- A name that is compared twice, and the requests are answered in the opposite order. -/
theorem compare_composes_for_repeatedNames :
    let pairs := searchPairs "rain" none none 1 5
    Router.make .empty .empty true = .ok (nearby .empty).router ∧
      IsAddressOf "http://localhost:8000" (nearby .empty) ∧
      (∀ name ∈ ["v1", "no-such.name~", "v1"], Web.Url.IsSafe name) ∧
      [2, 1, 0].Perm (List.range 3) ∧
      outcomeIn (nearby .empty) "http://localhost:8000" "rain" none 5
          ["v1", "no-such.name~", "v1"] [2, 1, 0] unpushed =
        ⟨0, heading "rain" ++ String.join (["v1", "no-such.name~", "v1"].map fun name =>
          blockAfter (nearby .empty) "http://localhost:8000" pairs [] name unpushed), ""⟩ := by
  intro pairs
  have hsafe : ∀ name ∈ ["v1", "no-such.name~", "v1"], Web.Url.IsSafe name := by
    simp only [List.mem_cons, List.not_mem_nil, or_false]
    rintro name (rfl | rfl | rfl)
    · exact isSafe_v1
    · exact isSafe_unknown
    · exact isSafe_v1
  have horder : [2, 1, 0].Perm (List.range 3) := by decide
  obtain ⟨-, -, -, hcomposes⟩ :=
    compare_composes_iff (nearby .empty) "http://localhost:8000" "rain" none 5 unpushed
  exact ⟨make_nearby .empty, isAddressOf_nearby .empty, hsafe, horder,
    hcomposes _ _ _ (make_nearby .empty) (isAddressOf_nearby .empty) _ hsafe _ horder⟩

def dottedBlock (reason : String) : String :=
  "../metrics error: response is not JSON: error decoding response body: " ++ reason ++ ": " ++
    reason ++ "\n"

theorem leadsToCounters_dotted :
    LeadsToCounters (nearby .empty) (searchUrl "http://localhost:8000" "../metrics")
      (searchPairs "" none none 1 10) := by
  have hrequested : requested? (nearby .empty) (searchUrl "http://localhost:8000" "../metrics")
      (searchPairs "" none none 1 10) =
        some ⟨"/metrics".toList, some (Web.Form.encodePairs (searchPairs "" none none 1 10))⟩ := by
    decide +kernel
  have hfound : (nearby .empty).router.find? "/metrics".toList = some (.metrics, []) := by
    decide +kernel
  exact ⟨_, [], hrequested, hfound⟩

theorem isCounted_v1 :
    IsCounted (nearby .empty) unpushed.registry (searchUrl "http://localhost:8000" "v1")
      (searchPairs "" none none 1 10) := by
  have hrequested := requested?_of_isSafe (isAddressOf_nearby .empty) isSafe_v1
    (List.cons_ne_nil _ _ : searchPairs "" none none 1 10 ≠ [])
  have hasked : (nearby .empty).router.asked? "GET"
      ⟨Router.searchPrefix ++ "v1".toList,
        some (Web.Form.encodePairs (searchPairs "" none none 1 10))⟩ =
        some ("v1", ⟨"", none, none, 1, 10⟩) := by
    decide +kernel
  exact ⟨_, hrequested, "v1", _, _, hasked, rfl⟩

/-- The page of the counters is empty until the search for the name before it was counted. -/
theorem block_disturbed_for_dottedName :
    ∃ first,
      (carryOut (nearby .empty) "http://localhost:8000" (.compare "" none 10 ["v1"]) unpushed).1 =
        ⟨0, heading "" ++ first, ""⟩ ∧
      (carryOut (nearby .empty) "http://localhost:8000" (.compare "" none 10 ["../metrics"])
          unpushed).1 =
        ⟨0, heading "" ++ dottedBlock "EOF while parsing a value at line 1 column 0", ""⟩ ∧
      (carryOut (nearby .empty) "http://localhost:8000" (.compare "" none 10 ["v1", "../metrics"])
          unpushed).1 =
        ⟨0, heading "" ++ (first ++ dottedBlock "expected value at line 1 column 1"), ""⟩ ∧
      dottedBlock "expected value at line 1 column 1" ≠
        dottedBlock "EOF while parsing a value at line 1 column 0" := by
  have hbefore : unpushed.metrics.toText = "" := rfl
  -- The search for `v1` comes first and is counted.
  have hafter : (blocks (nearby .empty) "http://localhost:8000" (searchPairs "" none none 1 10) ["v1"]
      unpushed).2.metrics.toText.isEmpty = false := by
    rw [← Bool.not_eq_true, String.isEmpty_iff, toText_blocks_eq_empty_iff]
    exact fun hall => hall.2 ⟨"v1", List.mem_singleton_self _, isCounted_v1⟩
  have halone : blockAfter (nearby .empty) "http://localhost:8000" (searchPairs "" none none 1 10) []
      "../metrics" unpushed = dottedBlock "EOF while parsing a value at line 1 column 0" := by
    rw [blockAfter_of_leads leadsToCounters_dotted]
    show block "../metrics" (.error (.notJson unpushed.metrics.toText.isEmpty)) = _
    rw [hbefore]
    decide +kernel
  have hdisturbed : blockAfter (nearby .empty) "http://localhost:8000"
      (searchPairs "" none none 1 10) ["v1"] "../metrics" unpushed =
        dottedBlock "expected value at line 1 column 1" := by
    rw [blockAfter_of_leads leadsToCounters_dotted, hafter]
    decide +kernel
  refine ⟨_, (outcome_alone_iff _ _ _ _ _ _ _ _).2 rfl, (outcome_alone_iff _ _ _ _ _ _ _ _).2
    halone.symm, ?_, by decide⟩
  rw [outcome_blocks, blocks_pair, hdisturbed]

end CommandLine

end VariantSearch

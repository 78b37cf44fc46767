import VariantSearch.Proofs.AcceptedSettings
import VariantSearch.Proofs.UnconfiguredNames
import VariantSearch.Startup

namespace VariantSearch

theorem Registry.mem_names_register (r : Registry) (v : Variant) (name : String) :
    name ∈ (r.register v).names ↔ name = v.name ∨ name ∈ r.names := by
  rw [mem_names_iff, mem_names_iff, variant?, find?_register]
  by_cases hname : v.name = name
  · simp [hname]
  · simp [hname, Ne.symm hname, variant?]

namespace Service

variable {σ : Type} [SearchEngine σ]

theorem seedEach_nil (batchSize : Nat) (vs : List Variant) (engine : σ) :
    ∃ counts, seedEach [] batchSize vs engine = (.ok counts, engine) := by
  induction vs with
  | nil => exact ⟨∅, rfl⟩
  | cons v more ih =>
    obtain ⟨counts, hcounts⟩ := ih
    have hfirst : addBatches v.indexUid v.primaryKey (chunks batchSize []) engine =
        (.ok (), engine) := rfl
    refine ⟨counts.insert v.indexUid 0, ?_⟩
    refine (Attempt.run_bind_of_ok hfirst).trans ?_
    exact Attempt.run_bind_of_ok hcounts

/-- No documents are taken by every service, and nothing is sent for them. -/
theorem seed_nil (batchSize : Nat) (s : Service σ) :
    ∃ counts, seed [] batchSize s = (.ok counts, s) := by
  obtain ⟨counts, hcounts⟩ := seedEach_nil batchSize s.registry.configured s.engine
  refine ⟨counts, ?_⟩
  change asking (seedEach [] batchSize s.registry.configured) s = _
  unfold asking Attempt.on
  rw [hcounts]

end Service

def EngineCall.IsBare : EngineCall → Prop
  | addDocuments _ _ _ => False
  | createIndex _ _ | updateSettings _ _ | search _ _ | health => True

def EngineCall.BringsTo (vs : List Variant) : EngineCall → Prop
  | addDocuments indexUid _ _ => ∃ v ∈ vs, v.indexUid = indexUid
  | createIndex _ _ | updateSettings _ _ | search _ _ | health => True

theorem EngineCall.IsBare.bringsTo {c : EngineCall} (h : c.IsBare) (vs : List Variant) :
    c.BringsTo vs := by
  cases c with
  | addDocuments => exact h.elim
  | createIndex | updateSettings | search | health => trivial

namespace Service

variable {σ : Type} [SearchEngine σ]

open Watched

theorem called_apply (name : String) (s : Service (Watched σ)) :
    Called EngineCall.IsBare s.engine (apply name s).2.engine := by
  cases h : s.registry.variant? name with
  | none =>
    rw [apply_of_none h]
    exact (kept_called _).refl s.engine
  | some v =>
    rw [apply_of_some h]
    exact keeps_push (kept_called _) v (keeps_noting trivial _) (keeps_noting trivial _) s.engine

/-- No documents are sent while settings are pushed. -/
theorem called_applyAll (s : Service (Watched σ)) :
    Called EngineCall.IsBare s.engine (applyAll s).2.engine := by
  refine applyEach_induction (fun t => Called EngineCall.IsBare s.engine t.engine) ?_ _ s
    ((kept_called _).refl s.engine)
  intro name t ht
  exact (kept_called _).trans _ _ _ ht (called_apply name t)

/-- Documents are sent to the indexes of configured variants only. -/
theorem called_seed (documents : List Json) (batchSize : Nat) (s : Service (Watched σ)) :
    Called (EngineCall.BringsTo s.registry.configured) s.engine
      (seed documents batchSize s).2.engine := by
  refine keeps_seedEach (kept_called _) documents batchSize s.registry.configured ?_ s.engine
  intro v hv batch
  exact keeps_noting ⟨v, hv, rfl⟩ _

end Service

namespace Startup

variable {σ : Type}

def installed (c : Config) (engine : σ) : Service σ :=
  (Service.start engine).install (Catalog.entries c.indexes.stem c.indexes.primaryKey)

theorem names_installed (c : Config) (engine : σ) :
    (installed c engine).registry.names = ["v1", "v2"] := by
  -- Only the names matter, so the variants of the catalog are left out of sight.
  have hnames (first second : Variant) (hfirst : first.name = "v1") (hsecond : second.name = "v2") :
      ((Registry.empty.register first).register second).names = ["v1", "v2"] := by
    have hascending : ["v1", "v2"].Pairwise (· < ·) := by decide
    refine (Registry.names_ascending _).eq_of_mem_iff hascending fun name => ?_
    rw [Registry.mem_names_register, Registry.mem_names_register, hfirst, hsecond]
    simp only [List.mem_cons]
    exact or_left_comm
  exact hnames (Catalog.first c.indexes.stem c.indexes.primaryKey)
    (Catalog.second c.indexes.stem c.indexes.primaryKey) rfl rfl

/-- The registered variants are the two of the catalog. -/
theorem variant?_installed {c : Config} {engine : σ} {name : String} {v : Variant}
    (h : (installed c engine).registry.variant? name = some v) :
    (name = "v1" ∨ name = "v2") ∧ v.indexUid = Catalog.indexUid c.indexes.stem name := by
  let first := Catalog.first c.indexes.stem c.indexes.primaryKey
  let second := Catalog.second c.indexes.stem c.indexes.primaryKey
  change ((Registry.empty.register first).register second).variant? name = some v at h
  obtain ⟨reg, hreg, rfl⟩ := Option.map_eq_some_iff.1 h
  -- The second variant was registered last, so it is looked at first.
  rw [Registry.find?_register] at hreg
  split at hreg
  · next hname =>
    subst hname
    obtain rfl := Option.some.inj hreg
    exact ⟨Or.inr rfl, rfl⟩
  · rw [Registry.find?_register] at hreg
    split at hreg
    · next hname =>
      subst hname
      obtain rfl := Option.some.inj hreg
      exact ⟨Or.inl rfl, rfl⟩
    · cases hreg

theorem isPlain_of_installed {c : Config} {engine : σ} {name : String} {v : Variant}
    (h : (installed c engine).registry.variant? name = some v) :
    Router.IsPlain name ∧ name ≠ "" ∧ ∀ ch ∈ name.toList, Web.Target.isUnreserved ch = true := by
  unfold Router.IsPlain
  obtain ⟨rfl | rfl, -⟩ := variant?_installed h
  · exact ⟨by decide, by decide, List.all_eq_true.1 (by decide)⟩
  · exact ⟨by decide, by decide, List.all_eq_true.1 (by decide)⟩

theorem indexUid_inj {stem name other : String}
    (h : Catalog.indexUid stem name = Catalog.indexUid stem other) : name = other := by
  have hlist := congrArg String.toList h
  simp only [Catalog.indexUid, String.toList_append] at hlist
  exact String.toList_inj.1 (List.append_cancel_left hlist)

/-- The names of the catalog leave room for all routes. -/
theorem exists_routerOf (metrics : Bool) {c : Config} {s : Service σ} {engine : σ}
    (h : ∀ name, s.registry.variant? name = (installed c engine).registry.variant? name) :
    ∃ r, routerOf metrics s = .ok r ∧ Router.make s.registry s.chains metrics = .ok r := by
  have hplain : ∀ name ∈ s.registry.names, Router.IsPlain name := by
    intro name hname
    obtain ⟨v, hv⟩ := (s.registry.mem_names_iff name).1 hname
    rw [h] at hv
    exact (isPlain_of_installed hv).1
  obtain ⟨r, hr⟩ := Router.exists_make hplain s.chains metrics
  have hrouter : routerOf metrics s = .ok r := by
    unfold routerOf
    rw [hr]
  exact ⟨r, hrouter, hr⟩

variable [SearchEngine σ]

/-- What came of pushing the variants lets the start go on. -/
def GoesOn (failFast : Bool) (pushed : Except SearchFailure Unit) : Prop :=
  pushed = .ok () ∨ ∃ detail, pushed = .error (.engineUnavailable detail) ∧ failFast = false

def Fills (c : CorpusConfig) (read : String → Corpus.Source) (s : Service σ) : Prop :=
  ∀ path, c.path = some path → ∃ documents counts, Corpus.load path (read path) = .ok documents ∧
    (Service.seed documents c.batchSize s).1 = .ok counts

def HasDocuments (c : CorpusConfig) (read : String → Corpus.Source) : Prop :=
  ∃ path documents, c.path = some path ∧ Corpus.load path (read path) = .ok documents ∧
    documents ≠ []

def serve (r : Router) (s : Service σ) (requests : List (String × Web.Target)) : Service σ :=
  requests.foldl (fun s request => (r.handle request.1 request.2 s).2) s

theorem applyVariants_cases (failFast : Bool) (s : Service σ) :
    (GoesOn failFast (Service.applyAll s).1 ∧
        applyVariants failFast s = (.ok (), (Service.applyAll s).2)) ∨
      (¬ GoesOn failFast (Service.applyAll s).1 ∧ ∃ fault,
        applyVariants failFast s = (.error fault, (Service.applyAll s).2)) := by
  rw [applyVariants]
  obtain ⟨result, s'⟩ := Service.applyAll s
  cases result with
  | ok u => exact Or.inl ⟨Or.inl rfl, rfl⟩
  | error e =>
    have hgoesOn : GoesOn failFast (.error e) ↔ tolerable failFast e = true := by
      cases e <;> simp [GoesOn, tolerable]
    dsimp only
    by_cases htolerable : tolerable failFast e = true
    · rw [if_pos htolerable]
      exact Or.inl ⟨hgoesOn.2 htolerable, rfl⟩
    · rw [if_neg htolerable]
      exact Or.inr ⟨fun h => htolerable (hgoesOn.1 h), _, rfl⟩

theorem seedCorpus_of_not_hasDocuments {c : CorpusConfig} {read : String → Corpus.Source}
    (h : ¬ HasDocuments c read) (s : Service σ) : (seedCorpus c read s).2 = s := by
  unfold seedCorpus
  split
  · rfl
  · next path hpath =>
    split
    · rfl
    · rfl
    · next documents hne hload => exact absurd ⟨path, documents, hpath, hload, hne⟩ h

theorem seedCorpus_iff (c : CorpusConfig) (read : String → Corpus.Source) (s : Service σ) :
    (seedCorpus c read s).1 = .ok () ↔ Fills c read s := by
  unfold seedCorpus Fills
  cases hpath : c.path with
  | none => simp
  | some path =>
    simp only [Option.some.injEq, forall_eq']
    cases hload : Corpus.load path (read path) with
    | error e => simp
    | ok documents =>
      cases documents with
      | nil =>
        obtain ⟨counts, hcounts⟩ := Service.seed_nil c.batchSize s
        exact iff_of_true rfl ⟨[], counts, rfl, by rw [hcounts]⟩
      | cons d rest =>
        simp only [Except.ok.injEq, exists_and_left, exists_eq_left']
        obtain ⟨result, s'⟩ := Service.seed (d :: rest) c.batchSize s
        cases result <;> simp

/-- The documents are sent in one go, or none are. -/
theorem seedCorpus_cases (c : CorpusConfig) (read : String → Corpus.Source) (s : Service σ) :
    (seedCorpus c read s).2 = s ∨
      ∃ documents, (seedCorpus c read s).2 = (Service.seed documents c.batchSize s).2 := by
  by_cases h : HasDocuments c read
  · obtain ⟨path, documents, hpath, hload, hne⟩ := h
    refine Or.inr ⟨documents, ?_⟩
    obtain ⟨d, rest, rfl⟩ := List.exists_cons_of_ne_nil hne
    simp only [seedCorpus, hpath, hload]
    obtain ⟨result, s'⟩ := Service.seed (d :: rest) c.batchSize s
    cases result <;> rfl
  · exact Or.inl (seedCorpus_of_not_hasDocuments h s)

theorem registry_seedCorpus (c : CorpusConfig) (read : String → Corpus.Source) (s : Service σ) :
    (seedCorpus c read s).2.registry = s.registry := by
  rcases seedCorpus_cases c read s with hsame | ⟨documents, hseed⟩
  · rw [hsame]
  · rw [hseed]
    rfl

theorem called_seedCorpus (c : CorpusConfig) (read : String → Corpus.Source)
    (s : Service (Watched σ)) :
    Watched.Called (EngineCall.BringsTo s.registry.configured) s.engine
      (seedCorpus c read s).2.engine := by
  rcases seedCorpus_cases c read s with hsame | ⟨documents, hseed⟩
  · rw [hsame]
    exact (Watched.kept_called _).refl s.engine
  · rw [hseed]
    exact Service.called_seed documents c.batchSize s

section Start

variable (c : Config) (read : String → Corpus.Source)

def applied (c : Config) (engine : σ) : Service σ := (Service.applyAll (installed c engine)).2

theorem variant?_applied (c : Config) (engine : σ) (name : String) :
    (applied c engine).registry.variant? name = (installed c engine).registry.variant? name :=
  Service.variant?_applyAll name _

section Ends

variable {engine : σ} {s s' : Service σ} {fault : StartupFault}

theorem run_of_stops
    (h : applyVariants c.engine.failFast (installed c engine) = (.error fault, s)) :
    run c read engine = (.error fault, s) := by
  rw [installed] at h
  simp only [run, h]

theorem run_of_unseeded
    (h : applyVariants c.engine.failFast (installed c engine) = (.ok (), s))
    (hseed : seedCorpus c.corpus read s = (.error fault, s')) :
    run c read engine = (.error fault, s') := by
  rw [installed] at h
  simp only [run, h, hseed]

theorem run_of_seeded
    (h : applyVariants c.engine.failFast (installed c engine) = (.ok (), s))
    (hseed : seedCorpus c.corpus read s = (.ok (), s')) :
    run c read engine = (routerOf c.observability.metrics s', s') := by
  rw [installed] at h
  simp only [run, h, hseed]

end Ends

/-- Where a start ends, and with what. -/
inductive Ended (engine : σ) : Prop where
  | stopped (fault : StartupFault)
      (hstops : ¬ GoesOn c.engine.failFast (Service.applyAll (installed c engine)).1)
      (hrun : run c read engine = (.error fault, applied c engine))
  | unfilled (fault : StartupFault)
      (hgoesOn : GoesOn c.engine.failFast (Service.applyAll (installed c engine)).1)
      (hfills : ¬ Fills c.corpus read (applied c engine))
      (hrun : run c read engine = (.error fault, (seedCorpus c.corpus read (applied c engine)).2))
  | up (r : Router)
      (hgoesOn : GoesOn c.engine.failFast (Service.applyAll (installed c engine)).1)
      (hfills : Fills c.corpus read (applied c engine))
      (hrun : run c read engine = (.ok r, (seedCorpus c.corpus read (applied c engine)).2))
      (hmade : Router.make (seedCorpus c.corpus read (applied c engine)).2.registry
        (seedCorpus c.corpus read (applied c engine)).2.chains c.observability.metrics = .ok r)

/-- Every start ends in one of these ways, since the names of the catalog leave room for the routes. -/
theorem ended_run (engine : σ) : Ended c read engine := by
  rcases applyVariants_cases c.engine.failFast (installed c engine) with
    ⟨hgoesOn, happlied⟩ | ⟨hstops, fault, happlied⟩
  · have hvariants : ∀ name,
        (seedCorpus c.corpus read (applied c engine)).2.registry.variant? name =
          (installed c engine).registry.variant? name := by
      intro name
      rw [registry_seedCorpus]
      exact variant?_applied c engine name
    -- The router depends on the names only, and these are the same however far the documents came.
    obtain ⟨r, hrouter, hmade⟩ := exists_routerOf c.observability.metrics hvariants
    have hfills := seedCorpus_iff c.corpus read (applied c engine)
    obtain ⟨result, s, hseed⟩ : ∃ result s,
        seedCorpus c.corpus read (applied c engine) = (result, s) := ⟨_, _, rfl⟩
    rw [hseed] at hfills
    have hafter : (seedCorpus c.corpus read (applied c engine)).2 = s := congrArg Prod.snd hseed
    cases result with
    | error fault =>
      refine .unfilled fault hgoesOn (fun h => ?_) ?_
      · cases hfills.2 h
      · rw [hafter, run_of_unseeded c read happlied hseed]
    | ok u =>
      refine .up r hgoesOn (hfills.1 rfl) ?_ hmade
      rw [hafter] at hrouter ⊢
      rw [run_of_seeded c read happlied hseed, hrouter]
  · exact .stopped fault hstops (run_of_stops c read happlied)

/-- Requests change nothing of the registry. -/
theorem registry_serve (r : Router) (s : Service σ) (requests : List (String × Web.Target)) :
    (serve r s requests).registry = s.registry := by
  induction requests generalizing s with
  | nil => rfl
  | cons request rest ih =>
    have hrest := ih (r.handle request.1 request.2 s).2
    rw [Service.registry_handle] at hrest
    exact hrest

/-- The variants in the end are those of the catalog, each with an index of its own. -/
theorem variant?_run (engine : σ) (name : String) :
    (run c read engine).2.registry.variant? name = (installed c engine).registry.variant? name := by
  have happlied := variant?_applied c engine name
  cases ended_run c read engine with
  | stopped fault hstops hrun =>
    rw [hrun]
    exact happlied
  | unfilled fault hgoesOn hfills hrun | up r hgoesOn hfills hrun hmade =>
    rw [hrun]
    dsimp only
    rw [registry_seedCorpus]
    exact happlied

/-- The service comes up just if the variants are pushed, or not pushed to an engine that may be
unavailable, and the documents are then read and taken. -/
theorem run_eq_ok_iff (engine : σ) :
    (∃ r, (run c read engine).1 = .ok r) ↔
      GoesOn c.engine.failFast (Service.applyAll (installed c engine)).1 ∧
        Fills c.corpus read (applied c engine) := by
  cases ended_run c read engine with
  | stopped fault hstops hrun =>
    rw [hrun]
    refine iff_of_false ?_ (fun h => hstops h.1)
    rintro ⟨r, h⟩
    cases h
  | unfilled fault hgoesOn hfills hrun =>
    rw [hrun]
    refine iff_of_false ?_ (fun h => hfills h.2)
    rintro ⟨r, h⟩
    cases h
  | up r hgoesOn hfills hrun hmade =>
    rw [hrun]
    exact iff_of_true ⟨r, rfl⟩ ⟨hgoesOn, hfills⟩

/-- However the start ends, the calls that were made bring documents to configured variants only, and
there are documents to bring. -/
theorem called_run (engine : σ) :
    Watched.Called (fun call => call.BringsTo
        (run c read (⟨engine, []⟩ : Watched σ)).2.registry.configured ∧
          (¬ HasDocuments c.corpus read → call.IsBare))
      ⟨engine, []⟩ (run c read (⟨engine, []⟩ : Watched σ)).2.engine := by
  -- Sending documents changes nothing of the registry, so those that are configured in the end were
  -- configured when the pushing ended.
  let vs := (applied c (⟨engine, []⟩ : Watched σ)).registry.configured
  let Proper : EngineCall → Prop := fun call =>
    call.BringsTo vs ∧ (¬ HasDocuments c.corpus read → call.IsBare)
  have happlied : Watched.Called Proper ⟨engine, []⟩ (applied c (⟨engine, []⟩ : Watched σ)).engine := by
    obtain ⟨more, hmore, hbare⟩ := Service.called_applyAll (installed c (⟨engine, []⟩ : Watched σ))
    exact ⟨more, hmore, fun call hcall => ⟨(hbare call hcall).bringsTo vs, fun _ => hbare call hcall⟩⟩
  have hseeded : Watched.Called Proper ⟨engine, []⟩
      (seedCorpus c.corpus read (applied c (⟨engine, []⟩ : Watched σ))).2.engine := by
    refine (Watched.kept_called Proper).trans _ _ _ happlied ?_
    by_cases hdocuments : HasDocuments c.corpus read
    · obtain ⟨more, hmore, hbrings⟩ := called_seedCorpus c.corpus read
        (applied c (⟨engine, []⟩ : Watched σ))
      exact ⟨more, hmore, fun call hcall => ⟨hbrings call hcall, fun h => absurd hdocuments h⟩⟩
    · rw [seedCorpus_of_not_hasDocuments hdocuments]
      exact (Watched.kept_called Proper).refl _
  cases ended_run c read (⟨engine, []⟩ : Watched σ) with
  | stopped fault hstops hrun =>
    rw [hrun]
    exact happlied
  | unfilled fault hgoesOn hfills hrun | up r hgoesOn hfills hrun hmade =>
    rw [hrun]
    dsimp only
    rw [registry_seedCorpus]
    exact hseeded

end Start

/-- What is kept to while documents are sent, however the start ends. -/
structure SendsOrderly (c : Config) (read : String → Corpus.Source)
    (out : Except StartupFault Router × Service (Watched σ)) : Prop where
  configured : ∀ indexUid primaryKey documents,
    .addDocuments indexUid primaryKey documents ∈ out.2.engine.calls →
      ∃ name v, out.2.registry.find? name = some ⟨v, .configured⟩ ∧ v.indexUid = indexUid
  /-- None are sent to the index of a name that is not configured. -/
  unconfigured : ∀ name v, out.2.registry.find? name = some ⟨v, .unconfigured⟩ →
    ∀ primaryKey documents, .addDocuments v.indexUid primaryKey documents ∉ out.2.engine.calls
  unsent : ¬ HasDocuments c.corpus read → ∀ indexUid primaryKey documents,
    .addDocuments indexUid primaryKey documents ∉ out.2.engine.calls

theorem sendsOrderly_run (c : Config) (read : String → Corpus.Source) (engine : σ) :
    SendsOrderly c read (run c read (⟨engine, []⟩ : Watched σ)) := by
  obtain ⟨more, hmore, hproper⟩ := called_run c read engine
  rw [List.nil_append] at hmore
  rw [← hmore] at hproper
  have hconfigured : ∀ indexUid primaryKey documents,
      .addDocuments indexUid primaryKey documents ∈
          (run c read (⟨engine, []⟩ : Watched σ)).2.engine.calls →
        ∃ name v, (run c read (⟨engine, []⟩ : Watched σ)).2.registry.find? name =
          some ⟨v, .configured⟩ ∧ v.indexUid = indexUid := by
    intro indexUid primaryKey documents hcall
    obtain ⟨v, hv, hindex⟩ := (hproper _ hcall).1
    obtain ⟨name, hname⟩ := Registry.find?_of_mem_configured hv
    exact ⟨name, v, hname, hindex⟩
  refine ⟨hconfigured, fun name v hv primaryKey documents hcall => ?_,
    fun hnone indexUid primaryKey documents hcall => (hproper _ hcall).2 hnone⟩
  -- Two names never share an index, so the configured name would be this one.
  obtain ⟨other, w, hw, hindex⟩ := hconfigured _ primaryKey documents hcall
  have hvariant := variant?_run c read (⟨engine, []⟩ : Watched σ) name
  have hvariant' := variant?_run c read (⟨engine, []⟩ : Watched σ) other
  rw [Registry.variant?, hv] at hvariant
  rw [Registry.variant?, hw] at hvariant'
  have hv' := (variant?_installed hvariant.symm).2
  have hw' := (variant?_installed hvariant'.symm).2
  obtain rfl : name = other := indexUid_inj (hv'.symm.trans (hindex.symm.trans hw'))
  rw [hv] at hw
  cases hw

/-- Every start, over any engine. The service comes up just if both variants are pushed, or pushing
them ends with an engine that is unavailable and need not be available, and the documents are then
read and taken. However the start ends, documents are sent to the indexes of configured names only,
and none if there are none. While the service is up, whatever it is asked for, searches for a name
that was left unconfigured are turned away without a call. -/
theorem start_decided (c : Config) (read : String → Corpus.Source) (engine : σ) :
    (installed c (⟨engine, []⟩ : Watched σ)).registry.names = ["v1", "v2"] ∧
      ((∃ r, (run c read (⟨engine, []⟩ : Watched σ)).1 = .ok r) ↔
        GoesOn c.engine.failFast (Service.applyAll (installed c (⟨engine, []⟩ : Watched σ))).1 ∧
          Fills c.corpus read (applied c (⟨engine, []⟩ : Watched σ))) ∧
      SendsOrderly c read (run c read (⟨engine, []⟩ : Watched σ)) ∧
      ∀ r s, run c read (⟨engine, []⟩ : Watched σ) = (.ok r, s) →
        ∀ name, s.registry.state? name = some .unconfigured →
          (∀ query, r.SearchesFor name "GET" ⟨Router.searchPrefix ++ name.toList, query⟩ ∧
            r.SearchesFor name "GET" ⟨Router.namedPrefix ++ name.toList, query⟩) ∧
          ∀ requests, r.TurnsAway name (serve r s requests) := by
  refine ⟨names_installed c _, run_eq_ok_iff c read _, sendsOrderly_run c read engine, ?_⟩
  intro r s hrun name hstate
  obtain ⟨reg, hreg, -⟩ := Option.map_eq_some_iff.1 hstate
  have hv : s.registry.variant? name = some reg.variant :=
    Option.map_eq_some_iff.2 ⟨reg, hreg, rfl⟩
  -- A name that is registered in the end is one of the catalog, and both of those are plain.
  have hinstalled := variant?_run c read (⟨engine, []⟩ : Watched σ) name
  rw [hrun, hv] at hinstalled
  obtain ⟨hplain, hne, hunreserved⟩ := isPlain_of_installed hinstalled.symm
  obtain ⟨metrics, hmade⟩ : ∃ metrics, Router.make s.registry s.chains metrics = .ok r := by
    cases ended_run c read (⟨engine, []⟩ : Watched σ) with
    | stopped fault hstops hfails =>
      rw [hfails] at hrun
      cases hrun
    | unfilled fault hgoesOn hfills hfails =>
      rw [hfails] at hrun
      cases hrun
    | up r' hgoesOn hfills hok hmade =>
      rw [hok] at hrun
      cases hrun
      exact ⟨_, hmade⟩
  refine ⟨fun query => ⟨?_, ?_⟩, fun requests => ?_⟩
  · exact Router.searchesFor_search hmade hne hunreserved query
  · exact Router.searchesFor_named hmade ((s.registry.mem_names_iff name).2 ⟨_, hv⟩) hplain query
  · refine Router.turnsAway_of_unconfigured ?_
    rw [registry_serve]
    exact hstate

def brokenScript : List Web.Reply :=
  let accepted := [.answer 202 (Text.Utf8.ofString "\x7b\"taskUid\":7\x7d"),
    .answer 200 (Text.Utf8.ofString "\x7b\"status\":\"succeeded\"\x7d")]
  .answer 200 [] :: accepted ++ .closed :: accepted

def lenient : Config :=
  { Config.standard with
    engine := { EngineConfig.standard with failFast := false }
    corpus := ⟨some "games.json", 1000⟩ }

def oneGame : String → Corpus.Source := fun _ =>
  .bytes (Text.Utf8.ofString "[\x7b\"id\":1\x7d]")

def brokenEngine : Remote := .fresh Service.nearby true brokenScript

def brokenStart : Except StartupFault Router × Service (Watched Remote) :=
  run lenient oneGame ⟨brokenEngine, []⟩

theorem start_decided_for_brokenScript :
    ∃ r s, brokenStart = (.ok r, s) ∧ s.registry.state? "v1" = some .configured ∧
      s.registry.state? "v2" = some .unconfigured ∧
      (∀ primaryKey documents,
        .addDocuments (Catalog.indexUid lenient.indexes.stem "v2") primaryKey documents ∉
          s.engine.calls) ∧
      ∀ requests, r.TurnsAway "v2" (serve r s requests) := by
  have hcomes : brokenStart.1.isOk = true ∧
      brokenStart.2.registry.state? "v1" = some .configured ∧
        brokenStart.2.registry.state? "v2" = some .unconfigured := by decide +kernel
  obtain ⟨-, -, horderly, hserves⟩ :=
    start_decided lenient oneGame brokenEngine
  have hvariant := variant?_run lenient oneGame (⟨brokenEngine, []⟩ : Watched Remote) "v2"
  -- The outcome is named, so that it is evaluated for the first three facts only.
  obtain ⟨out, hout⟩ : ∃ out, brokenStart = out := ⟨_, rfl⟩
  have hrun : run lenient oneGame (⟨brokenEngine, []⟩ : Watched Remote) = out := hout
  rw [hout] at hcomes
  rw [hrun] at horderly hvariant hserves
  obtain ⟨hup, hfirst, hsecond⟩ := hcomes
  obtain ⟨result, s⟩ := out
  cases result with
  | error fault => cases hup
  | ok r =>
    obtain ⟨reg, hreg, hstate⟩ := Option.map_eq_some_iff.1 hsecond
    have hfound : s.registry.find? "v2" = some ⟨reg.variant, .unconfigured⟩ := by
      rw [← hstate]
      exact hreg
    have hv : s.registry.variant? "v2" = some reg.variant :=
      Option.map_eq_some_iff.2 ⟨reg, hreg, rfl⟩
    have hunsent := horderly.unconfigured "v2" reg.variant hfound
    rw [(variant?_installed (hvariant.symm.trans hv)).2] at hunsent
    exact ⟨r, s, hout, hfirst, hsecond, hunsent, (hserves r s rfl "v2" hsecond).2⟩

end Startup

end VariantSearch

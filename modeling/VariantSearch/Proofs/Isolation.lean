import VariantSearch.Proofs.MemoryCalls

/-!
Operations on other names leave every answer to a search for a name as it was.
-/

namespace VariantSearch

/-- The operation leaves a name and an index alone, by the registrations of a state. -/
def Operation.Spares (name indexUid : String) (s : Service Memory) : Operation Memory → Prop
  | register v => v.name ≠ name
  | bind other _ | build other _ | execute other _ => other ≠ name
  | apply other => other ≠ name ∧ (s.registry.variant? other).map (·.indexUid) ≠ some indexUid
  | call (.createIndex other _) | call (.updateSettings other _) | call (.addDocuments other _ _) =>
    other ≠ indexUid
  | call (.search _ _) | call .health => True
  -- These concern all names, all configured names, or the whole engine.
  | applyAll | seed _ _ | incident _ => False

def Operation.AllSpare (name indexUid : String) : Service Memory → List (Operation Memory) → Prop
  | _, [] => True
  | s, op :: ops => op.Spares name indexUid s ∧ AllSpare name indexUid (s.perform op) ops

namespace Operation

instance (name indexUid : String) (s : Service Memory) :
    (op : Operation Memory) → Decidable (op.Spares name indexUid s)
  | register v => inferInstanceAs (Decidable (v.name ≠ name))
  | bind other _ | build other _ | execute other _ => inferInstanceAs (Decidable (other ≠ name))
  | apply other =>
    inferInstanceAs (Decidable (other ≠ name ∧
      (s.registry.variant? other).map (·.indexUid) ≠ some indexUid))
  | call (.createIndex other _) | call (.updateSettings other _) | call (.addDocuments other _ _) =>
    inferInstanceAs (Decidable (other ≠ indexUid))
  | call (.search _ _) | call .health => inferInstanceAs (Decidable True)
  | applyAll | seed _ _ | incident _ => inferInstanceAs (Decidable False)

instance decidableAllSpare (name indexUid : String) :
    (s : Service Memory) → (ops : List (Operation Memory)) → Decidable (AllSpare name indexUid s ops)
  | _, [] => inferInstanceAs (Decidable True)
  | s, op :: ops =>
    have := decidableAllSpare name indexUid (s.perform op) ops
    inferInstanceAs (Decidable (op.Spares name indexUid s ∧ _))

end Operation

namespace Service

/-- The states agree in all that a search for a name reads. -/
structure SameFor (name indexUid : String) (s s' : Service Memory) : Prop where
  registration : s'.registry.find? name = s.registry.find? name
  chain : s'.chains.chain? name = s.chains.chain? name
  engine : Memory.SameAt indexUid s.engine s'.engine

variable {name indexUid : String} {s s' : Service Memory}

theorem SameFor.refl (name indexUid : String) (s : Service Memory) : SameFor name indexUid s s :=
  ⟨rfl, rfl, (Memory.kept_sameAt indexUid).refl _⟩

theorem SameFor.trans {s'' : Service Memory} (h : SameFor name indexUid s s')
    (h' : SameFor name indexUid s' s'') : SameFor name indexUid s s'' where
  registration := h'.registration.trans h.registration
  chain := h'.chain.trans h.chain
  engine := (Memory.kept_sameAt indexUid).trans _ _ _ h.engine h'.engine

theorem sameFor_apply {other : String} (hname : other ≠ name)
    (hindex : (s.registry.variant? other).map (·.indexUid) ≠ some indexUid) :
    SameFor name indexUid s (apply other s).2 := by
  have hregistry := find?_apply_of_ne hname s
  cases hv : s.registry.variant? other with
  | none =>
    rw [apply_of_none hv]
    exact SameFor.refl name indexUid s
  | some v =>
    have hne : v.indexUid ≠ indexUid := by
      intro heq
      exact hindex (by rw [hv, Option.map_some, heq])
    rw [apply_of_some hv] at hregistry ⊢
    exact ⟨hregistry, rfl, Memory.sameAt_push hne s.engine⟩

theorem sameFor_execute {other : String} (request : SearchRequest) :
    SameFor name indexUid s (execute other request s).2 := by
  refine ⟨by rw [registry_execute], by rw [chains_execute], ?_⟩
  cases h : s.registry.appliedIndex? other with
  | none =>
    rw [execute_of_none h]
    exact (Memory.kept_sameAt indexUid).refl s.engine
  | some otherUid =>
    rw [execute_of_some h]
    exact Memory.sameAt_search otherUid indexUid request.toQuery s.engine

theorem sameAt_call (c : EngineCall) (hc : (Operation.call c).Spares name indexUid s) :
    Memory.SameAt indexUid s.engine (c.perform s.engine) := by
  cases c with
  | createIndex other primaryKey => exact Memory.sameAt_createIndex hc primaryKey s.engine
  | updateSettings other settings => exact Memory.sameAt_updateSettings hc settings s.engine
  | addDocuments other primaryKey documents =>
    exact Memory.sameAt_addDocuments hc primaryKey documents s.engine
  | search other query => exact Memory.sameAt_search other indexUid query s.engine
  | health => exact Memory.sameAt_health indexUid s.engine

/-- One operation that spares a name leaves all that a search for it reads. -/
theorem sameFor_perform (op : Operation Memory) (hop : op.Spares name indexUid s) :
    SameFor name indexUid s (s.perform op) := by
  have hengine := (Memory.kept_sameAt indexUid).refl s.engine
  -- Operations that go through all names spare none.
  cases op with
  | register v =>
    refine ⟨?_, rfl, hengine⟩
    rw [perform, register, Registry.find?_register, if_neg hop]
  | bind other chain =>
    refine ⟨rfl, ?_, hengine⟩
    have hne : ¬ other = name := hop
    rw [perform, bind, Chains.chain?, Chains.bind, TextMap.get?_insert, if_neg hne]
    rfl
  | apply other => exact sameFor_apply hop.1 hop.2
  | applyAll => exact hop.elim
  | seed documents batchSize => exact hop.elim
  | build other p =>
    refine ⟨by rw [perform, registry_build], by rw [perform, chains_build], ?_⟩
    rw [perform, engine_build]
    exact hengine
  | execute other request => exact sameFor_execute request
  | call c => exact ⟨rfl, rfl, sameAt_call c hop⟩
  | incident change => exact hop.elim

theorem sameFor_run (ops : List (Operation Memory)) (s : Service Memory)
    (hops : Operation.AllSpare name indexUid s ops) : SameFor name indexUid s (s.run ops) := by
  induction ops generalizing s with
  | nil => exact SameFor.refl name indexUid s
  | cons op ops ih =>
    obtain ⟨hop, hrest⟩ := hops
    have hstep := sameFor_perform op hop
    exact hstep.trans (ih (s.perform op) hrest)

theorem answer_search_of_sameAt {m m' : Memory} (h : Memory.SameAt indexUid m m') (query : EngineQuery) :
    (Memory.search indexUid query m').1 = (Memory.search indexUid query m).1 := by
  simp only [Memory.search, Memory.whenAvailable, h.available, h.index]
  split
  · split <;> rfl
  · rfl

theorem build_of_sameFor (h : SameFor name indexUid s s') (p : SearchParameters) :
    SearchRequest.build s'.registry s'.chains name p = SearchRequest.build s.registry s.chains name p := by
  have hvariant : s'.registry.variant? name = s.registry.variant? name := by
    simp only [Registry.variant?, h.registration]
  have hexpand : s'.chains.expand name p.query = s.chains.expand name p.query := by
    simp only [Chains.expand, h.chain]
  simp only [SearchRequest.build, hvariant, hexpand]

theorem indexUid_of_appliedIndex? {r : Registry} {v : Variant} {found : String}
    (hv : r.variant? name = some v) (h : r.appliedIndex? name = some found) : found = v.indexUid := by
  obtain ⟨reg, hreg, rfl⟩ := Option.map_eq_some_iff.1 hv
  simp only [Registry.appliedIndex?, hreg] at h
  split at h
  · next hconfigured =>
    obtain rfl := Option.some.inj hconfigured
    exact (Option.some.inj h).symm
  · cases h

theorem answer_execute_of_sameFor (h : SameFor name indexUid s s') {v : Variant}
    (hv : s.registry.variant? name = some v) (hindex : v.indexUid = indexUid)
    (request : SearchRequest) : (execute name request s').1 = (execute name request s).1 := by
  have happlied : s'.registry.appliedIndex? name = s.registry.appliedIndex? name := by
    simp only [Registry.appliedIndex?, h.registration]
  cases hfound : s.registry.appliedIndex? name with
  | none => rw [execute_of_none hfound, execute_of_none (happlied.trans hfound)]
  | some found =>
    -- The index that is searched is the one that the states agree on.
    obtain rfl : found = indexUid := (indexUid_of_appliedIndex? hv hfound).trans hindex
    rw [execute_of_some hfound, execute_of_some (happlied.trans hfound)]
    exact answer_search_of_sameAt h.engine request.toQuery

/-- States that agree in what a search for a name reads give it the same answer. -/
theorem answer_of_sameFor (h : SameFor name indexUid s s') {v : Variant}
    (hv : s.registry.variant? name = some v) (hindex : v.indexUid = indexUid) (p : SearchParameters) :
    (search name p s').1 = (search name p s).1 := by
  have hbuild := build_of_sameFor h p
  cases hrequest : SearchRequest.build s.registry s.chains name p with
  | error e =>
    rw [search_of_error hrequest, search_of_error (hbuild.trans hrequest)]
  | ok built =>
    obtain ⟨request, fired⟩ := built
    rw [search_of_ok hrequest, search_of_ok (hbuild.trans hrequest)]
    -- The counters differ, but an answer does not depend on them.
    have hcounted : SameFor name indexUid
        { s with metrics := s.metrics.countFirings name fired }
        { s' with metrics := s'.metrics.countFirings name fired } :=
      ⟨h.registration, h.chain, h.engine⟩
    exact answer_execute_of_sameFor hcounted hv hindex request

/-- After any operations on other names and other indexes a search for a registered name is answered
as before them, with the same hits or the same failure. -/
theorem answer_isolated (s : Service Memory) (name : String) (v : Variant)
    (hv : s.registry.variant? name = some v) (ops : List (Operation Memory))
    (hops : Operation.AllSpare name v.indexUid s ops) (p : SearchParameters) :
    (search name p (s.run ops)).1 = (search name p s).1 :=
  answer_of_sameFor (sameFor_run ops s hops) hv rfl p

def twoFilled : Service Memory :=
  (start (Memory.fresh 2)).run
    [.register (.plain "v1"), .register (.plain "v2"), .applyAll,
      .seed [.ofMembers [("id", .nat 1)]] 10]

def workOnSecond : List (Operation Memory) :=
  [.register { Variant.plain "v2" with settings.maxTotalHits := 1 }, .apply "v2",
    .call (.addDocuments "idx_v2" "id" [.ofMembers [("id", .nat 2)]]),
    .execute "v2" ⟨"hail", 0, 5, [], none⟩, .bind "v2" [],
    .register { Variant.plain "v3" with primaryKey := "" }, .apply "v3"]

theorem answer_isolated_from_workOnSecond :
    Operation.AllSpare "v1" "idx_v1" twoFilled workOnSecond ∧
      (search "v1" .standard (twoFilled.run workOnSecond)).1 =
        (search "v1" .standard twoFilled).1 := by
  have hv : twoFilled.registry.variant? "v1" = some (.plain "v1") := by decide +kernel
  have hspare : Operation.AllSpare "v1" "idx_v1" twoFilled workOnSecond := by decide +kernel
  exact ⟨hspare, answer_isolated twoFilled "v1" (.plain "v1") hv workOnSecond hspare .standard⟩

end Service

end VariantSearch

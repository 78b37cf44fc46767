import VariantSearch.Proofs.Keeping
import VariantSearch.Proofs.RegistryViews
import VariantSearch.Proofs.Searching

namespace VariantSearch

variable {σ : Type}

inductive EngineCall where
  | createIndex (indexUid primaryKey : String)
  | updateSettings (indexUid : String) (settings : Settings)
  | addDocuments (indexUid primaryKey : String) (documents : List Json)
  | search (indexUid : String) (query : EngineQuery)
  | health

inductive Operation (σ : Type) where
  | register (v : Variant)
  | bind (name : String) (chain : Chain)
  | apply (name : String)
  | applyAll
  | seed (documents : List Json) (batchSize : Nat)
  | build (name : String) (p : SearchParameters)
  | execute (name : String) (request : SearchRequest)
  | call (c : EngineCall)
  | incident (change : σ → σ)

def Variant.plain (name : String) : Variant := ⟨name, "idx_" ++ name, "id", .standard⟩

variable [SearchEngine σ]

def EngineCall.perform (engine : σ) : EngineCall → σ
  | createIndex indexUid primaryKey => (SearchEngine.createIndex indexUid primaryKey engine).2
  | updateSettings indexUid settings => (SearchEngine.updateSettings indexUid settings engine).2
  | addDocuments indexUid primaryKey documents =>
    (SearchEngine.addDocuments indexUid primaryKey documents engine).2
  | search indexUid query => (SearchEngine.search indexUid query engine).2
  | health => (SearchEngine.health engine).2

namespace Service

def perform (s : Service σ) : Operation σ → Service σ
  | .register v => s.register v
  | .bind name chain => s.bind name chain
  | .apply name => (apply name s).2
  | .applyAll => (applyAll s).2
  | .seed documents batchSize => (seed documents batchSize s).2
  | .build name p => (build name p s).2
  | .execute name request => (execute name request s).2
  | .call c => { s with engine := c.perform s.engine }
  | .incident change => { s with engine := change s.engine }

def run (s : Service σ) (ops : List (Operation σ)) : Service σ := ops.foldl perform s

@[simp] theorem run_nil (s : Service σ) : s.run [] = s := rfl

@[simp] theorem run_cons (s : Service σ) (op : Operation σ) (ops : List (Operation σ)) :
    s.run (op :: ops) = (s.perform op).run ops := rfl

/-- A run has every property that its operations hand on. -/
theorem run_induction (holds : Service σ → Prop) (ops : List (Operation σ))
    (hstep : ∀ op ∈ ops, ∀ s, holds s → holds (s.perform op)) (s : Service σ) (hs : holds s) :
    holds (s.run ops) := by
  induction ops generalizing s with
  | nil => exact hs
  | cons op ops ih =>
    have hop : holds (s.perform op) := hstep op List.mem_cons_self s hs
    exact ih (fun op' hop' => hstep op' (List.mem_cons_of_mem _ hop')) _ hop

/-- The settings of a name that is not registered are not pushed. -/
theorem apply_of_none {s : Service σ} {name : String} (h : s.registry.variant? name = none) :
    apply name s = (.error (unknownVariant name), s) := by
  simp only [apply, h]

/-- The settings of a registered name are pushed, and the result is noted. -/
theorem apply_of_some {s : Service σ} {name : String} {v : Variant}
    (h : s.registry.variant? name = some v) :
    apply name s =
      ((push v s.engine).1,
        noteApply name (push v s.engine).1 { s with engine := (push v s.engine).2 }) := by
  simp only [apply, h]
  rfl

/-- The settings of several names are pushed one after another, until one fails. -/
theorem applyEach_cons (name : String) (more : List String) (s : Service σ) :
    applyEach (name :: more) s =
      match (apply name s).1 with
      | .ok () => applyEach more (apply name s).2
      | .error e => (.error e, (apply name s).2) := by
  change Attempt.andThen (apply name) (fun _ => applyEach more) s = _
  unfold Attempt.andThen
  obtain ⟨result, t⟩ := apply name s
  cases result <;> rfl

/-- A property that pushing the settings of one name hands on is handed on by pushing those of
several. -/
theorem applyEach_induction (holds : Service σ → Prop)
    (hstep : ∀ name s, holds s → holds (apply name s).2) (names : List String) (s : Service σ)
    (hs : holds s) : holds (applyEach names s).2 := by
  induction names generalizing s with
  | nil => exact hs
  | cons name more ih =>
    have happly := hstep name s hs
    rw [applyEach_cons]
    split
    · exact ih _ happly
    · exact happly

/-- The registry after settings were pushed: the name is marked just if the engine took them. -/
theorem registry_apply (name : String) (s : Service σ) :
    (apply name s).2.registry =
      match (apply name s).1 with
      | .ok () => s.registry.markConfigured name
      | .error _ => s.registry := by
  cases h : s.registry.variant? name with
  | none => rw [apply_of_none h]
  | some v =>
    rw [apply_of_some h]
    rfl

theorem find?_apply_of_ne {name other : String} (hne : name ≠ other) (s : Service σ) :
    (apply name s).2.registry.find? other = s.registry.find? other := by
  rw [registry_apply]
  split
  · rw [Registry.find?_markConfigured, if_neg hne]
  · rfl

theorem variant?_apply (name other : String) (s : Service σ) :
    (apply name s).2.registry.variant? other = s.registry.variant? other := by
  rw [registry_apply]
  split
  · exact Registry.variant?_markConfigured s.registry name other
  · rfl

/-- Pushing settings leaves the variants as they are. -/
theorem variant?_applyAll (other : String) (s : Service σ) :
    (applyAll s).2.registry.variant? other = s.registry.variant? other :=
  applyEach_induction (fun t => t.registry.variant? other = s.registry.variant? other)
    (fun name t ht => (variant?_apply name other t).trans ht) _ s rfl

/-- A name is configured after a push only if it was so before, or if its own settings were pushed and
taken. -/
theorem configured_apply {name other : String} {v : Variant} {s : Service σ}
    (h : (apply name s).2.registry.find? other = some ⟨v, .configured⟩) :
    s.registry.find? other = some ⟨v, .configured⟩ ∨
      (other = name ∧ s.registry.variant? name = some v ∧ (push v s.engine).1 = .ok ()) := by
  cases hfound : s.registry.variant? name with
  | none =>
    rw [apply_of_none hfound] at h
    exact Or.inl h
  | some w =>
    rw [registry_apply] at h
    -- Only a push that succeeds marks a name, and only this one.
    split at h
    · next hok =>
      rw [apply_of_some hfound] at hok
      rw [Registry.find?_markConfigured] at h
      split at h
      · next hname =>
        subst hname
        obtain ⟨reg, hreg, heq⟩ := Option.map_eq_some_iff.1 h
        obtain ⟨rfl, -⟩ := Registration.mk.inj heq
        obtain rfl : reg.variant = w := by
          rw [Registry.variant?, hreg] at hfound
          exact Option.some.inj hfound
        exact Or.inr ⟨rfl, rfl, hok⟩
      · exact Or.inl h
    · exact Or.inl h

/-- Operations that push no settings make no name configured. -/
theorem configured_perform_of_ne {op : Operation σ} (happly : ∀ name, op ≠ .apply name)
    (hall : op ≠ .applyAll) {name : String} {v : Variant} {s : Service σ}
    (h : (s.perform op).registry.find? name = some ⟨v, .configured⟩) :
    s.registry.find? name = some ⟨v, .configured⟩ := by
  cases op with
  | register w => exact Registry.find?_of_register h
  | bind other chain => exact h
  | apply other => exact absurd rfl (happly other)
  | applyAll => exact absurd rfl hall
  | seed documents batchSize => exact h
  | build other p => rwa [perform, registry_build] at h
  | execute other request => rwa [perform, registry_execute] at h
  | call c => exact h
  | incident change => exact h

section Calls

open Attempt

variable {R : σ → σ → Prop} (hR : Kept R)
include hR

theorem keeps_addBatches {indexUid primaryKey : String}
    (hadd : ∀ documents, Keeps R
      (SearchEngine.addDocuments indexUid primaryKey documents : Attempt σ Unit))
    (batches : List (List Json)) :
    Keeps R (addBatches indexUid primaryKey batches : Attempt σ Unit) := by
  induction batches with
  | nil => exact keeps_pure hR ()
  | cons batch more ih => exact Keeps.bind hR (hadd batch) fun _ => ih

theorem keeps_seedEach (documents : List Json) (batchSize : Nat) (vs : List Variant)
    (hadd : ∀ v ∈ vs, ∀ batch, Keeps R
      (SearchEngine.addDocuments v.indexUid v.primaryKey batch : Attempt σ Unit)) :
    Keeps R (seedEach documents batchSize vs : Attempt σ (TextMap Nat)) := by
  induction vs with
  | nil => exact keeps_pure hR _
  | cons v more ih =>
    have hv := keeps_addBatches hR (hadd v List.mem_cons_self) (chunks batchSize documents)
    have hmore := ih fun w hw => hadd w (List.mem_cons_of_mem v hw)
    refine Keeps.bind hR hv fun _ => ?_
    exact Keeps.bind hR hmore fun rest => keeps_pure hR _

theorem keeps_push (v : Variant)
    (hcreate : Keeps R (SearchEngine.createIndex v.indexUid v.primaryKey : Attempt σ Unit))
    (hupdate : Keeps R (SearchEngine.updateSettings v.indexUid v.settings : Attempt σ Unit)) :
    Keeps R (push v : Attempt σ Unit) := by
  refine Keeps.bind hR (keeps_ofExcept hR v.check) fun _ => ?_
  exact Keeps.bind hR hcreate fun _ => hupdate

theorem engine_execute
    (hsearch : ∀ indexUid query, Keeps R (SearchEngine.search indexUid query : Attempt σ Json))
    (name : String) (request : SearchRequest) (s : Service σ) :
    R s.engine (execute name request s).2.engine := by
  cases h : s.registry.appliedIndex? name with
  | none =>
    rw [execute_of_none h]
    exact hR.refl s.engine
  | some indexUid =>
    rw [execute_of_some h]
    exact hsearch indexUid request.toQuery s.engine

variable (hcall : ∀ c e, R e (EngineCall.perform e c))
include hcall

theorem engine_apply (name : String) (s : Service σ) : R s.engine (apply name s).2.engine := by
  cases h : s.registry.variant? name with
  | none =>
    rw [apply_of_none h]
    exact hR.refl s.engine
  | some v =>
    rw [apply_of_some h]
    exact keeps_push hR v (hcall (.createIndex v.indexUid v.primaryKey))
      (hcall (.updateSettings v.indexUid v.settings)) s.engine

/-- What every call to the engine keeps is kept by every operation. -/
theorem engine_perform (op : Operation σ)
    (hincident : ∀ change, op = .incident change → ∀ e, R e (change e)) (s : Service σ) :
    R s.engine (s.perform op).engine := by
  cases op with
  | register v => exact hR.refl s.engine
  | bind name chain => exact hR.refl s.engine
  | apply name => exact engine_apply hR hcall name s
  | applyAll =>
    -- Each attempt starts from the engine that the attempts before it left.
    refine applyEach_induction (fun t => R s.engine t.engine) ?_ _ s (hR.refl s.engine)
    intro name t ht
    exact hR.trans _ _ _ ht (engine_apply hR hcall name t)
  | seed documents batchSize =>
    exact keeps_seedEach hR documents batchSize _ (fun v _ batch =>
      hcall (.addDocuments v.indexUid v.primaryKey batch)) s.engine
  | build name p =>
    rw [perform, engine_build]
    exact hR.refl s.engine
  | execute name request =>
    exact engine_execute hR (fun indexUid query => hcall (.search indexUid query)) name request s
  | call c => exact hcall c s.engine
  | incident change => exact hincident change rfl s.engine

end Calls

def HasConfigured (Has : Variant → σ → Prop) (s : Service σ) : Prop :=
  ∀ name v, s.registry.find? name = some ⟨v, .configured⟩ → Has v s.engine

section Has

variable {Has : Variant → σ → Prop}
  (hcall : ∀ c e v, Has v e → Has v (EngineCall.perform e c))
  (hpush : ∀ v e, (push v e).1 = .ok () → Has v (push v e).2)
include hcall hpush

theorem HasConfigured.apply {s : Service σ} (h : HasConfigured Has s) (name : String) :
    HasConfigured Has (apply name s).2 := by
  intro other v hv
  rcases configured_apply hv with hv | ⟨-, hfound, hok⟩
  · exact engine_apply (kept_forall Has) (fun c e v => hcall c e v) name s v (h other v hv)
  · rw [apply_of_some hfound]
    exact hpush v s.engine hok

theorem HasConfigured.perform {s : Service σ} (h : HasConfigured Has s) (op : Operation σ)
    (hincident : ∀ change, op = .incident change → ∀ e v, Has v e → Has v (change e)) :
    HasConfigured Has (s.perform op) := by
  by_cases hop : (∀ name, op ≠ .apply name) ∧ op ≠ .applyAll
  · intro name v hv
    have hbefore := configured_perform_of_ne hop.1 hop.2 hv
    exact engine_perform (kept_forall Has) (fun c e v => hcall c e v) op hincident s v
      (h name v hbefore)
  · cases op with
    | apply name => exact h.apply hcall hpush name
    | applyAll => exact applyEach_induction _ (fun name t ht => ht.apply hcall hpush name) _ s h
    | _ => exact absurd ⟨by simp, by simp⟩ hop

/-- What the engine gets by a push and no call takes away again it has of every configured variant
after every run. -/
theorem HasConfigured.run {s : Service σ} (h : HasConfigured Has s) (ops : List (Operation σ))
    (hincident : ∀ change, .incident change ∈ ops → ∀ e v, Has v e → Has v (change e)) :
    HasConfigured Has (s.run ops) := by
  refine run_induction _ ops (fun op hop t ht => ht.perform hcall hpush op ?_) s h
  rintro change rfl
  exact hincident change hop

end Has

end Service

end VariantSearch

import Mathlib.Data.List.Induction
import VariantSearch.Engine.Memory
import VariantSearch.Proofs.ByteOrder
import VariantSearch.Proofs.Operations
import VariantSearch.Proofs.RegistryViews

/-!
The registry as a function of what has happened to it.
-/

namespace VariantSearch

inductive RegistryEvent where
  | registered (v : Variant)
  | applied (name : String) (result : Except SearchFailure Unit)

namespace RegistryEvent

def variantFor? (name : String) : RegistryEvent → Option Variant
  | registered v => if v.name = name then some v else none
  | applied _ _ => none

/-- The variant that was registered last under a name. -/
def lastRegistered? (h : List RegistryEvent) (name : String) : Option Variant :=
  (h.filterMap (variantFor? name)).getLast?

def IsChange (h : List RegistryEvent) (name : String) (i : Nat) : Prop :=
  ∃ v, h[i]? = some (registered v) ∧ v.name = name ∧ lastRegistered? (h.take i) name ≠ some v

/-- The settings of a name were pushed with success after the last event that introduced the name or
changed its variant. -/
def AppliedSinceChange (h : List RegistryEvent) (name : String) : Prop :=
  ∃ i, IsChange h name i ∧ (∀ j, IsChange h name j → j ≤ i) ∧
    ∃ k, i < k ∧ h[k]? = some (applied name (.ok ()))

end RegistryEvent

open RegistryEvent

namespace Service

variable {σ : Type} [SearchEngine σ]

def applyEvents : List String → Service σ → List RegistryEvent
  | [], _ => []
  | name :: more, s =>
    .applied name (apply name s).1 ::
      match (apply name s).1 with
      | .ok () => applyEvents more (apply name s).2
      | .error _ => []

def events (s : Service σ) : Operation σ → List RegistryEvent
  | .register v => [.registered v]
  | .apply name => [.applied name (apply name s).1]
  | .applyAll => applyEvents s.registry.names s
  | _ => []

def history : Service σ → List (Operation σ) → List RegistryEvent
  | _, [] => []
  | s, op :: ops => s.events op ++ history (s.perform op) ops

end Service

namespace Registry

def follow (r : Registry) : RegistryEvent → Registry
  | .registered v => r.register v
  | .applied name (.ok ()) => r.markConfigured name
  | .applied _ (.error _) => r

end Registry

namespace Service

variable {σ : Type} [SearchEngine σ]

theorem registry_apply_eq_follow (name : String) (s : Service σ) :
    (apply name s).2.registry = s.registry.follow (.applied name (apply name s).1) := by
  rw [registry_apply]
  cases (apply name s).1 <;> rfl

theorem registry_applyEach (names : List String) (s : Service σ) :
    (applyEach names s).2.registry = (applyEvents names s).foldl Registry.follow s.registry := by
  induction names generalizing s with
  | nil => rfl
  | cons name more ih =>
    have hname := registry_apply_eq_follow name s
    rw [applyEach_cons, applyEvents, List.foldl_cons, ← hname]
    -- The attempts after a failure are not made, so they are no events either.
    cases (apply name s).1 with
    | ok u => exact ih (apply name s).2
    | error e => rfl

/-- The registry after an operation is the one that follows from the events. -/
theorem registry_perform (s : Service σ) (op : Operation σ) :
    (s.perform op).registry = (s.events op).foldl Registry.follow s.registry := by
  cases op with
  | register v => rfl
  | bind name chain => rfl
  | apply name => exact registry_apply_eq_follow name s
  | applyAll => exact registry_applyEach s.registry.names s
  | seed documents batchSize => rfl
  | build name p => exact registry_build name p s
  | execute name request => exact registry_execute name request s
  | call c => rfl
  | incident change => rfl

/-- The registry after a run is the one that follows from the history. -/
theorem registry_run (s : Service σ) (ops : List (Operation σ)) :
    (s.run ops).registry = (s.history ops).foldl Registry.follow s.registry := by
  induction ops generalizing s with
  | nil => rfl
  | cons op ops ih =>
    rw [run_cons, history, List.foldl_append, ← registry_perform]
    exact ih (s.perform op)

end Service

namespace RegistryEvent

variable (h : List RegistryEvent) (e : RegistryEvent) (name : String)

theorem lastRegistered?_append :
    lastRegistered? (h ++ [e]) name = (variantFor? name e).or (lastRegistered? h name) := by
  cases he : variantFor? name e with
  | none => simp [lastRegistered?, List.filterMap_append, he]
  | some v => simp [lastRegistered?, List.filterMap_append, he]

theorem isChange_append_iff (i : Nat) :
    IsChange (h ++ [e]) name i ↔
      IsChange h name i ∨
        (i = h.length ∧ ∃ v, variantFor? name e = some v ∧ lastRegistered? h name ≠ some v) := by
  rcases Nat.lt_trichotomy i h.length with hi | rfl | hi
  · have htake : (h ++ [e]).take i = h.take i := List.take_append_of_le_length (Nat.le_of_lt hi)
    simp [IsChange, List.getElem?_append_left hi, htake, Nat.ne_of_lt hi]
  · cases e with
    | registered v => simp [IsChange, variantFor?]
    | applied other result => simp [IsChange, variantFor?]
  · have hnone : (h ++ [e])[i]? = none := List.getElem?_eq_none (by simp; omega)
    have hnone' : h[i]? = none := List.getElem?_eq_none (Nat.le_of_lt hi)
    simp [IsChange, hnone, hnone', Nat.ne_of_gt hi]

variable {h : List RegistryEvent} {e : RegistryEvent} {name : String}

theorem IsChange.lt_length {i : Nat} (hi : IsChange h name i) : i < h.length := by
  obtain ⟨v, hv, -⟩ := hi
  exact (List.getElem?_eq_some_iff.1 hv).1

theorem mem_of_lastRegistered? {v : Variant} (hv : lastRegistered? h name = some v) :
    .registered v ∈ h ∧ v.name = name := by
  obtain ⟨e, he, hev⟩ := List.mem_filterMap.1 (List.mem_of_getLast? hv)
  cases e with
  | applied other result => cases hev
  | registered w =>
    simp only [variantFor?] at hev
    split at hev
    · next hname =>
      obtain rfl := Option.some.inj hev
      exact ⟨he, hname⟩
    · cases hev

theorem exists_last_change {v : Variant} (hv : lastRegistered? h name = some v) :
    ∃ i, IsChange h name i ∧ ∀ j, IsChange h name j → j ≤ i := by
  induction h using List.reverseRecOn generalizing v with
  | nil => cases hv
  | append_singleton h e ih =>
    by_cases hchange : ∃ w, variantFor? name e = some w ∧ lastRegistered? h name ≠ some w
    · -- The new event is a change, and nothing comes after it.
      refine ⟨h.length, (isChange_append_iff h e name _).2 (Or.inr ⟨rfl, hchange⟩), fun j hj => ?_⟩
      have hlt := hj.lt_length
      simp only [List.length_append, List.length_singleton] at hlt
      omega
    · -- The new event is no change, so the name was registered before and has its last change there.
      have hold : ∃ w, lastRegistered? h name = some w := by
        rw [lastRegistered?_append] at hv
        cases he : variantFor? name e with
        | none => exact ⟨v, by simpa [he] using hv⟩
        | some w =>
          refine ⟨w, ?_⟩
          by_contra hne
          exact hchange ⟨w, he, hne⟩
      obtain ⟨w, hw⟩ := hold
      obtain ⟨i, hi, hlast⟩ := ih hw
      refine ⟨i, (isChange_append_iff h e name i).2 (Or.inl hi), fun j hj => ?_⟩
      rcases (isChange_append_iff h e name j).1 hj with hj | ⟨-, hj⟩
      · exact hlast j hj
      · exact absurd hj hchange

theorem not_appliedSinceChange_of_change {v : Variant} (he : variantFor? name e = some v)
    (hv : lastRegistered? h name ≠ some v) : ¬ AppliedSinceChange (h ++ [e]) name := by
  rintro ⟨i, -, hlast, k, hik, hk⟩
  -- The success would have to come after the new event, which is the last one.
  have hchange : IsChange (h ++ [e]) name h.length :=
    (isChange_append_iff h e name _).2 (Or.inr ⟨rfl, v, he, hv⟩)
  have hle := hlast _ hchange
  have hlt := (List.getElem?_eq_some_iff.1 hk).1
  simp only [List.length_append, List.length_singleton] at hlt
  omega

theorem lastRegistered?_of_isChange {i : Nat} (hi : IsChange h name i) :
    ∃ v, lastRegistered? h name = some v := by
  obtain ⟨v, hv, rfl, -⟩ := hi
  have hmem : v ∈ h.filterMap (variantFor? v.name) :=
    List.mem_filterMap.2 ⟨_, List.mem_of_getElem? hv, by simp [variantFor?]⟩
  exact ⟨_, List.getLast?_eq_some_getLast (List.ne_nil_of_mem hmem)⟩

/-- An event that is no change for a name adds nothing but, if it is one, a success. -/
theorem appliedSinceChange_append_iff
    (he : ¬ ∃ v, variantFor? name e = some v ∧ lastRegistered? h name ≠ some v) :
    AppliedSinceChange (h ++ [e]) name ↔
      AppliedSinceChange h name ∨
        (e = applied name (.ok ()) ∧ ∃ v, lastRegistered? h name = some v) := by
  have hchange (i : Nat) : IsChange (h ++ [e]) name i ↔ IsChange h name i := by
    rw [isChange_append_iff]
    exact or_iff_left fun hi => he hi.2
  simp only [AppliedSinceChange, hchange]
  constructor
  · rintro ⟨i, hi, hlast, k, hik, hk⟩
    -- The success that comes after the last change is an old event or the new one.
    rcases Nat.lt_or_ge k h.length with hlt | hge
    · rw [List.getElem?_append_left hlt] at hk
      exact Or.inl ⟨i, hi, hlast, k, hik, hk⟩
    · rw [List.getElem?_append_right hge] at hk
      have hek := List.mem_singleton.1 (List.mem_of_getElem? hk)
      exact Or.inr ⟨hek.symm, lastRegistered?_of_isChange hi⟩
  · rintro (⟨i, hi, hlast, k, hik, hk⟩ | ⟨rfl, v, hv⟩)
    · have hlt := (List.getElem?_eq_some_iff.1 hk).1
      exact ⟨i, hi, hlast, k, hik, by rwa [List.getElem?_append_left hlt]⟩
    · obtain ⟨i, hi, hlast⟩ := exists_last_change hv
      exact ⟨i, hi, hlast, h.length, hi.lt_length, by simp⟩

end RegistryEvent

namespace Registry

variable {r : Registry} {e : RegistryEvent} {name : String}

theorem variant?_follow (r : Registry) (e : RegistryEvent) (name : String) :
    (r.follow e).variant? name = (variantFor? name e).or (r.variant? name) := by
  cases e with
  | registered v =>
    simp only [follow, variant?, find?_register, variantFor?]
    split <;> rfl
  | applied other result =>
    cases result with
    | error f => rfl
    | ok u =>
      simp only [follow, variant?, find?_markConfigured, variantFor?, Option.none_or]
      split
      · cases r.find? name <;> rfl
      · rfl

theorem isConfigured_follow_of_change {v : Variant} (he : variantFor? name e = some v)
    (hv : r.variant? name ≠ some v) : (r.follow e).isConfigured name = false := by
  cases e with
  | applied other result => cases he
  | registered w =>
    simp only [variantFor?] at he
    split at he
    · next hname =>
      obtain rfl := Option.some.inj he
      subst hname
      -- The state is kept for the very variant only.
      have hstate : stateFor (r.find? w.name) w = .unconfigured := by
        unfold stateFor
        split
        · next reg hreg =>
          refine if_neg fun heq => hv ?_
          rw [variant?, hreg, Option.map_some, heq]
        · rfl
      simp [isConfigured, state?, follow, find?_register, hstate]
    · cases he

/-- Any other event leaves a name as it is or, if it is a success for a registered name, makes it
configured. -/
theorem isConfigured_follow_iff
    (he : ¬ ∃ v, variantFor? name e = some v ∧ r.variant? name ≠ some v) :
    (r.follow e).isConfigured name = true ↔
      r.isConfigured name = true ∨
        (e = .applied name (.ok ()) ∧ ∃ v, r.variant? name = some v) := by
  cases e with
  | registered v =>
    simp only [reduceCtorEq, false_and, or_false]
    by_cases hname : v.name = name
    · subst hname
      have hv : r.variant? v.name = some v := by
        by_contra hne
        exact he ⟨v, by simp [variantFor?], hne⟩
      -- The variant is registered as it was, so nothing changes.
      rw [follow, register_of_variant? hv]
    · rw [follow, isConfigured, isConfigured, state?, state?, find?_register, if_neg hname]
  | applied other result =>
    cases result with
    | error f => simp [follow]
    | ok u =>
      by_cases hname : other = name
      · subst hname
        cases hreg : r.find? other with
        | none => simp [follow, isConfigured, state?, variant?, find?_markConfigured, hreg]
        | some reg => simp [follow, isConfigured, state?, variant?, find?_markConfigured, hreg]
      · simp [follow, isConfigured, state?, find?_markConfigured, hname]

def ofHistory (h : List RegistryEvent) : Registry := h.foldl follow empty

theorem ofHistory_append (h : List RegistryEvent) (e : RegistryEvent) :
    ofHistory (h ++ [e]) = (ofHistory h).follow e := by
  simp only [ofHistory, List.foldl_append, List.foldl_cons, List.foldl_nil]

theorem variant?_ofHistory (h : List RegistryEvent) (name : String) :
    (ofHistory h).variant? name = lastRegistered? h name := by
  induction h using List.reverseRecOn with
  | nil => rfl
  | append_singleton h e ih => rw [ofHistory_append, variant?_follow, lastRegistered?_append, ih]

/-- A name is configured just if its settings were pushed since it was last changed. -/
theorem isConfigured_ofHistory_iff (h : List RegistryEvent) (name : String) :
    (ofHistory h).isConfigured name = true ↔ AppliedSinceChange h name := by
  induction h using List.reverseRecOn with
  | nil =>
    constructor
    · intro hconfigured
      cases hconfigured
    · rintro ⟨i, ⟨v, hv, -⟩, -⟩
      cases hv
  | append_singleton h e ih =>
    rw [ofHistory_append]
    -- A change makes both sides false, and any other event adds the same to both.
    by_cases hchange : ∃ v, variantFor? name e = some v ∧ lastRegistered? h name ≠ some v
    · obtain ⟨v, he, hv⟩ := hchange
      have hr : (ofHistory h).variant? name ≠ some v := by rwa [variant?_ofHistory]
      rw [isConfigured_follow_of_change he hr]
      exact iff_of_false Bool.false_ne_true (not_appliedSinceChange_of_change he hv)
    · rw [appliedSinceChange_append_iff hchange, isConfigured_follow_iff (by rwa [variant?_ofHistory]),
        ih, variant?_ofHistory]

theorem mem_names_ofHistory_iff (h : List RegistryEvent) (name : String) :
    name ∈ (ofHistory h).names ↔ ∃ v, .registered v ∈ h ∧ v.name = name := by
  rw [mem_names_iff]
  simp only [variant?_ofHistory, lastRegistered?]
  constructor
  · rintro ⟨v, hv⟩
    exact ⟨v, mem_of_lastRegistered? hv⟩
  · rintro ⟨v, hv, hname⟩
    have hmem : v ∈ h.filterMap (variantFor? name) :=
      List.mem_filterMap.2 ⟨_, hv, by simp [variantFor?, hname]⟩
    exact ⟨_, List.getLast?_eq_some_getLast (List.ne_nil_of_mem hmem)⟩

/-- Every view of a registry says what the history says. -/
structure Tells (h : List RegistryEvent) (r : Registry) : Prop where
  variant : ∀ name, r.variant? name = lastRegistered? h name
  configured_iff : ∀ name, r.state? name = some .configured ↔ AppliedSinceChange h name
  mem_names_iff : ∀ name, name ∈ r.names ↔ ∃ v, .registered v ∈ h ∧ v.name = name
  names_ascending : r.names.Pairwise fun a b => Text.Utf8.ofString a < Text.Utf8.ofString b
  configured_eq : r.configured = r.names.filterMap fun name =>
    if r.state? name = some .configured then r.variant? name else none
  summaries_eq : r.summaries = .list (r.names.filterMap fun name => (r.find? name).map fun reg =>
    .ofMembers
      [("index_uid", .text reg.variant.indexUid), ("name", .text name),
        ("state", .text reg.state.toText)])
  appliedIndex_iff : ∀ name indexUid, r.appliedIndex? name = some indexUid ↔
    r.state? name = some .configured ∧ ∃ v, r.variant? name = some v ∧ v.indexUid = indexUid

theorem tells_ofHistory (h : List RegistryEvent) : Tells h (ofHistory h) where
  variant := variant?_ofHistory h
  configured_iff name := by
    rw [← isConfigured_ofHistory_iff, isConfigured, decide_eq_true_eq]
  mem_names_iff := mem_names_ofHistory_iff h
  names_ascending := (ofHistory h).names_ascending.imp Text.Utf8.ofString_lt_ofString
  configured_eq := by
    rw [Registry.configured_eq]
    simp only [isConfigured, decide_eq_true_eq]
  summaries_eq := (ofHistory h).summaries_eq
  appliedIndex_iff name indexUid := by
    rw [appliedIndex?_eq_some_iff, isConfigured, decide_eq_true_eq]

end Registry

namespace Service

variable {σ : Type} [SearchEngine σ]

/-- Over every engine and after every run the views of the registry say what the history of the run
says. Registering a variant again as it is changes nothing, and registering or pushing one name
changes neither the variant nor the state of another. -/
theorem registry_tells_history (engine : σ) (ops : List (Operation σ)) :
    ((start engine).run ops).registry.Tells ((start engine).history ops) ∧
      (∀ v, ((start engine).run ops).registry.variant? v.name = some v →
        (((start engine).run ops).register v).registry = ((start engine).run ops).registry) ∧
      (∀ v other, v.name ≠ other →
        (((start engine).run ops).register v).registry.find? other =
          ((start engine).run ops).registry.find? other) ∧
      (∀ name other, name ≠ other →
        (apply name ((start engine).run ops)).2.registry.find? other =
          ((start engine).run ops).registry.find? other) := by
  refine ⟨?_, ?_, ?_, ?_⟩
  · rw [registry_run]
    exact Registry.tells_ofHistory _
  · intro v hv
    exact Registry.register_of_variant? hv
  · intro v other hne
    rw [register, Registry.find?_register, if_neg hne]
  · intro name other hne
    exact find?_apply_of_ne hne _

def lossyRun : List (Operation Memory) :=
  [.register (.plain "v1"), .apply "v1", .register (.plain "v2"),
    .incident fun m => m.setAvailable false, .register (.plain "v1"), .applyAll, .apply "v2"]

theorem registry_tells_history_of_lossyRun :
    ((start (Memory.fresh 1)).run lossyRun).registry.Tells
        ((start (Memory.fresh 1)).history lossyRun) ∧
      ((start (Memory.fresh 1)).run lossyRun).registry.state? "v1" = some .configured ∧
      ((start (Memory.fresh 1)).run lossyRun).registry.state? "v2" = some .unconfigured ∧
      (((start (Memory.fresh 1)).run lossyRun).register (.plain "v1")).registry =
        ((start (Memory.fresh 1)).run lossyRun).registry ∧
      (((start (Memory.fresh 1)).run lossyRun).register (.plain "v3")).registry.find? "v1" =
        ((start (Memory.fresh 1)).run lossyRun).registry.find? "v1" ∧
      (apply "v2" ((start (Memory.fresh 1)).run lossyRun)).2.registry.find? "v1" =
        ((start (Memory.fresh 1)).run lossyRun).registry.find? "v1" := by
  have h := registry_tells_history (Memory.fresh 1) lossyRun
  refine ⟨h.1, by decide +kernel, by decide +kernel, ?_, ?_, ?_⟩
  · exact h.2.1 (.plain "v1") (by decide +kernel)
  · exact h.2.2.1 (.plain "v3") "v1" (by decide)
  · exact h.2.2.2 "v2" "v1" (by decide)

end Service

end VariantSearch

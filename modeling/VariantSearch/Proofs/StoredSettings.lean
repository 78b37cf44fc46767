import VariantSearch.Proofs.MemoryCalls
import VariantSearch.Proofs.RegistryViews

/-!
As long as no two names share an index, a configured variant has its settings in the engine.
-/

namespace VariantSearch

/-- Every registered variant stands under its own name and has a property. -/
def Registry.Within (P : Variant → Prop) (r : Registry) : Prop :=
  ∀ name reg, r.find? name = some reg → reg.variant.name = name ∧ P reg.variant

namespace Registry

variable {P : Variant → Prop} {r : Registry}

theorem within_empty (P : Variant → Prop) : Within P empty := by
  intro name reg h
  cases h

theorem Within.register (h : Within P r) {v : Variant} (hv : P v) : Within P (r.register v) := by
  intro name reg hreg
  rw [find?_register] at hreg
  split at hreg
  · next hname =>
    obtain rfl := Option.some.inj hreg
    exact ⟨hname, hv⟩
  · exact h name reg hreg

theorem Within.markConfigured (h : Within P r) (name : String) :
    Within P (r.markConfigured name) := by
  intro other reg hreg
  rw [find?_markConfigured] at hreg
  split at hreg
  · obtain ⟨old, hold, rfl⟩ := Option.map_eq_some_iff.1 hreg
    exact h other old hold
  · exact h other reg hreg

end Registry

namespace Operation

variable {σ : Type}

def LeavesSettings : Operation Memory → Prop
  | call (.updateSettings _ _) => False
  | incident change => ∃ available, change = fun m => m.setAvailable available
  | _ => True

def OnlyOutages : Operation Memory → Prop
  | incident change => ∃ available, change = fun m => m.setAvailable available
  | _ => True

def IndexesApart (ops : List (Operation σ)) : Prop :=
  ∀ v w, register v ∈ ops → register w ∈ ops → v.indexUid = w.indexUid → v.name = w.name

end Operation

namespace Service

def SettingsStored (s : Service Memory) : Prop :=
  ∀ name v, s.registry.find? name = some ⟨v, .configured⟩ →
    s.engine.settings? v.indexUid = some v.settings

theorem settingsStored_start (engine : Memory) : SettingsStored (start engine) := by
  intro name v h
  cases h

section Engine

open Memory Attempt

theorem settingsStay_search (indexUid : String) (query : EngineQuery) :
    Keeps SettingsStay (Memory.search indexUid query) :=
  fun m => settingsStay_of_sameAt fun other => sameAt_search indexUid other query m

theorem settingsStay_call (c : EngineCall) (hc : ∀ indexUid settings, c ≠ .updateSettings indexUid settings)
    (m : Memory) : SettingsStay m (c.perform m) := by
  cases c with
  | createIndex indexUid primaryKey => exact settingsStay_createIndex indexUid primaryKey m
  | updateSettings indexUid settings => exact absurd rfl (hc indexUid settings)
  | addDocuments indexUid primaryKey documents =>
    exact settingsStay_addDocuments indexUid primaryKey documents m
  | search indexUid query => exact settingsStay_search indexUid query m
  | health => exact settingsStay_of_sameAt fun other => sameAt_health other m

theorem hasSettings_updateSettings (other : String) (given : Settings) (m : Memory)
    (indexUid : String) (h : ∃ settings, m.settings? indexUid = some settings) :
    ∃ settings, (updateSettings other given m).2.settings? indexUid = some settings := by
  obtain ⟨settings, hsettings⟩ := h
  unfold updateSettings whenAvailable
  split
  · dsimp only
    split
    · exact ⟨settings, hsettings⟩
    · next index _ =>
      by_cases hne : other = indexUid
      · refine ⟨given, (settings?_eq_some_iff _ _ _).2
          ⟨{ index with settings := some given, settingsUpdates := index.settingsUpdates + 1 }, ?_,
            rfl⟩⟩
        rw [get?_putIndex, if_pos hne]
      · refine ⟨settings, ?_⟩
        rwa [settings?_of_sameAt (sameAt_putIndex hne m _)]
  · exact ⟨settings, hsettings⟩

/-- No call takes the settings of an index away. -/
theorem hasSettings_call (c : EngineCall) (m : Memory) (indexUid : String)
    (h : ∃ settings, m.settings? indexUid = some settings) :
    ∃ settings, (c.perform m).settings? indexUid = some settings := by
  by_cases hc : ∃ other given, c = .updateSettings other given
  · obtain ⟨other, given, rfl⟩ := hc
    exact hasSettings_updateSettings other given m indexUid h
  · obtain ⟨settings, hsettings⟩ := h
    have hstay := settingsStay_call c (fun other given heq => hc ⟨other, given, heq⟩) m
    exact ⟨settings, hstay indexUid settings hsettings⟩

theorem settingsStay_setAvailable (m : Memory) (available : Bool) :
    SettingsStay m (m.setAvailable available) := fun _ _ h => h

end Engine

variable {s : Service Memory} {P : Variant → Prop}

theorem SettingsStored.register (h : SettingsStored s) (v : Variant) : SettingsStored (s.register v) :=
  fun name w hw => h name w (Registry.find?_of_register hw)

theorem SettingsStored.of_stay {s' : Service Memory} (h : SettingsStored s)
    (hregistry : s'.registry = s.registry) (hengine : Memory.SettingsStay s.engine s'.engine) :
    SettingsStored s' := by
  intro name v hv
  rw [hregistry] at hv
  exact hengine v.indexUid v.settings (h name v hv)

theorem within_apply (hw : s.registry.Within P) (name : String) :
    (apply name s).2.registry.Within P := by
  rw [registry_apply]
  split
  · exact hw.markConfigured name
  · exact hw

/-- A name whose settings the engine took has them stored, and the other names have other indexes. -/
theorem SettingsStored.apply (hw : s.registry.Within P)
    (hp : ∀ v w, P v → P w → v.indexUid = w.indexUid → v.name = w.name) (h : SettingsStored s)
    (name : String) : SettingsStored (apply name s).2 := by
  cases hv : s.registry.variant? name with
  | none => rwa [apply_of_none hv]
  | some v =>
    rw [apply_of_some hv]
    cases hpush : (push v s.engine).1 with
    | error e => rwa [Memory.push_of_error hpush]
    | ok u =>
      obtain ⟨reg, hreg, rfl⟩ := Option.map_eq_some_iff.1 hv
      intro other w hother
      change (s.registry.markConfigured name).find? other = _ at hother
      change (push reg.variant s.engine).2.settings? w.indexUid = _
      rw [Registry.find?_markConfigured] at hother
      split at hother
      · next hname =>
        -- The name itself: what is stored was pushed a moment ago.
        subst hname
        rw [hreg] at hother
        obtain ⟨rfl, -⟩ := Registration.mk.inj (Option.some.inj hother)
        rw [Memory.push_of_ok hpush]
        exact Memory.settings?_pushed s.engine reg.variant
      · next hname =>
        -- Another name has another index, which the push left alone.
        have hne : reg.variant.indexUid ≠ w.indexUid := by
          intro heq
          obtain ⟨hregname, hregp⟩ := hw name reg hreg
          obtain ⟨hwname, hwp⟩ := hw other _ hother
          exact hname (hregname.symm.trans ((hp _ _ hregp hwp heq).trans hwname))
        have hsame := Memory.sameAt_push hne s.engine
        have hold := h other w hother
        unfold Memory.settings? at hold ⊢
        rwa [hsame.index]

/-- What every operation of a run hands on: the registered variants are those of the run, and the
settings of the configured ones are stored. -/
theorem settingsStored_perform (hp : ∀ v w, P v → P w → v.indexUid = w.indexUid → v.name = w.name)
    (op : Operation Memory) (hop : op.LeavesSettings) (hreg : ∀ v, op = .register v → P v)
    (h : s.registry.Within P ∧ SettingsStored s) :
    (s.perform op).registry.Within P ∧ SettingsStored (s.perform op) := by
  obtain ⟨hw, hs⟩ := h
  cases op with
  | register v => exact ⟨hw.register (hreg v rfl), hs.register v⟩
  | bind name chain => exact ⟨hw, hs⟩
  | apply name => exact ⟨within_apply hw name, hs.apply hw hp name⟩
  | applyAll =>
    -- Whatever the attempts before the first failure stored stays stored.
    refine applyEach_induction (fun t => t.registry.Within P ∧ SettingsStored t) ?_ _ s ⟨hw, hs⟩
    intro name t ht
    exact ⟨within_apply ht.1 name, ht.2.apply ht.1 hp name⟩
  | seed documents batchSize =>
    have hstay := keeps_seedEach Memory.kept_settingsStay documents batchSize s.registry.configured
      (fun v _ => Memory.settingsStay_addDocuments v.indexUid v.primaryKey) s.engine
    exact ⟨hw, hs.of_stay rfl hstay⟩
  | build name p =>
    refine ⟨by rwa [perform, registry_build], hs.of_stay (registry_build name p s) ?_⟩
    rw [perform, engine_build]
    exact Memory.kept_settingsStay.refl s.engine
  | execute name request =>
    refine ⟨by rwa [perform, registry_execute], ?_⟩
    exact hs.of_stay (registry_execute name request s)
      (engine_execute Memory.kept_settingsStay settingsStay_search name request s)
  | call c =>
    refine ⟨hw, hs.of_stay rfl (settingsStay_call c ?_ s.engine)⟩
    rintro indexUid settings rfl
    exact hop
  | incident change =>
    obtain ⟨available, rfl⟩ := hop
    exact ⟨hw, hs.of_stay rfl (settingsStay_setAvailable s.engine available)⟩

/-- In every state that a fresh engine can reach by calls and outages, the index of a configured name
has settings. -/
theorem hasSettings_of_configured (capacity : Nat) (ops : List (Operation Memory))
    (hops : ∀ op ∈ ops, op.OnlyOutages) {name : String} {v : Variant}
    (hv : ((start (Memory.fresh capacity)).run ops).registry.find? name = some ⟨v, .configured⟩) :
    ∃ settings,
      ((start (Memory.fresh capacity)).run ops).engine.settings? v.indexUid = some settings := by
  have hstart : HasConfigured (fun v m => ∃ settings, m.settings? v.indexUid = some settings)
      (start (Memory.fresh capacity)) := by
    intro name v h
    cases h
  refine hstart.run ?_ ?_ ops ?_ name v hv
  · intro c m v h
    exact hasSettings_call c m v.indexUid h
  · intro v m hpush
    rw [Memory.push_of_ok hpush]
    exact ⟨v.settings, Memory.settings?_pushed m v⟩
  · intro change hchange m v h
    obtain ⟨available, rfl⟩ := hops _ hchange
    exact h

/-- In every state of a run over a fresh engine, in which no two names are ever registered with the
same index and nobody changes settings past the service, the index of every configured variant exists
and has exactly the settings of the variant. -/
theorem configured_settings_stored (capacity : Nat) (ops : List (Operation Memory))
    (hops : ∀ op ∈ ops, op.LeavesSettings) (hapart : Operation.IndexesApart ops)
    (name : String) (v : Variant)
    (hv : ((start (Memory.fresh capacity)).run ops).registry.find? name = some ⟨v, .configured⟩) :
    ∃ index, ((start (Memory.fresh capacity)).run ops).engine.indexes.get? v.indexUid = some index ∧
      index.settings = some v.settings := by
  have hrun : ((start (Memory.fresh capacity)).run ops).registry.Within (fun v => .register v ∈ ops) ∧
      SettingsStored ((start (Memory.fresh capacity)).run ops) := by
    refine run_induction (fun s => s.registry.Within (fun v => .register v ∈ ops) ∧ SettingsStored s)
      ops ?_ _ ⟨Registry.within_empty _, settingsStored_start _⟩
    intro op hop s hs
    exact settingsStored_perform hapart op (hops op hop) (fun v hv => hv ▸ hop) hs
  exact (Memory.settings?_eq_some_iff _ _ _).1 (hrun.2 name v hv)

def interruptedRun : List (Operation Memory) :=
  [.register (.plain "v1"), .register (.plain "v2"), .apply "v1",
    .incident fun m => m.setAvailable false, .apply "v2", .incident fun m => m.setAvailable true,
    .seed [.ofMembers [("id", .nat 1)]] 10,
    .register { Variant.plain "v1" with settings.maxTotalHits := 5 }, .applyAll]

theorem settings_stored_after_interruptedRun :
    (∀ op ∈ interruptedRun, op.LeavesSettings) ∧ Operation.IndexesApart interruptedRun ∧
      ∃ index,
        ((start (Memory.fresh 3)).run interruptedRun).engine.indexes.get? "idx_v1" = some index ∧
          index.settings = some { Settings.standard with maxTotalHits := 5 } := by
  have hleaves : ∀ op ∈ interruptedRun, op.LeavesSettings := by
    simp [interruptedRun, Operation.LeavesSettings]
  have hapart : Operation.IndexesApart interruptedRun := by
    intro v w hv hw
    simp only [interruptedRun, List.mem_cons, Operation.register.injEq, reduceCtorEq, false_or,
      List.not_mem_nil, or_false] at hv hw
    rcases hv with rfl | rfl | rfl <;> rcases hw with rfl | rfl | rfl <;> decide +kernel
  have hstored := configured_settings_stored 3 interruptedRun hleaves hapart "v1"
    { Variant.plain "v1" with settings.maxTotalHits := 5 } (by decide +kernel)
  exact ⟨hleaves, hapart, hstored⟩

end Service

end VariantSearch

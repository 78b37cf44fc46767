import VariantSearch.Proofs.IndexKeys

/-!
Rounds in which all names are pushed in ascending order, up to the first that fails.
-/

namespace VariantSearch

namespace Registry

theorem find?_foldl_markConfigured (names : List String) (r : Registry) (name : String) :
    (names.foldl markConfigured r).find? name =
      if name ∈ names then (r.find? name).map ({ · with state := .configured })
      else r.find? name := by
  induction names generalizing r with
  | nil => rfl
  | cons first more ih =>
    rw [List.foldl_cons, ih, find?_markConfigured]
    by_cases hfirst : first = name
    · subst hfirst
      -- A name that comes again is marked twice, which is the same as once.
      cases r.find? first <;> simp
    · simp [hfirst, Ne.symm hfirst]

theorem markConfigured_of_configured {r : Registry} {name : String}
    (h : r.state? name = some .configured) : r.markConfigured name = r := by
  obtain ⟨⟨v, state⟩, hreg, rfl⟩ := Option.map_eq_some_iff.1 h
  have hentries := r.entries.insert_of_get? name ⟨v, .configured⟩ hreg
  simp only [markConfigured, hreg, hentries]

theorem foldl_markConfigured_of_configured {names : List String} {r : Registry}
    (h : ∀ name ∈ names, r.state? name = some .configured) : names.foldl markConfigured r = r := by
  induction names with
  | nil => rfl
  | cons name more ih =>
    obtain ⟨hname, hmore⟩ := List.forall_mem_cons.1 h
    rw [List.foldl_cons, markConfigured_of_configured hname]
    exact ih hmore

end Registry

def MemoryIndex.setAgain (index : MemoryIndex) (times : Nat) : MemoryIndex :=
  { index with settingsUpdates := index.settingsUpdates + times }

namespace Memory

variable {m : Memory} {vs : List Variant} {indexUid : String}

theorem get?_pushed (m : Memory) (v : Variant) (indexUid : String) :
    (m.pushed v).indexes.get? indexUid =
      if v.indexUid = indexUid then
        let index := (m.indexes.get? indexUid).getD (.ofKey v.primaryKey)
        some { index with settings := some v.settings, settingsUpdates := index.settingsUpdates + 1 }
      else m.indexes.get? indexUid := by
  rw [pushed, get?_putIndex]
  split
  · next heq => rw [heq]
  · rfl

/-- Pushing variants does nothing but put indexes. -/
theorem exists_foldl_pushed_eq (vs : List Variant) (m : Memory) :
    ∃ indexes, vs.foldl pushed m = { m with indexes := indexes } := by
  induction vs generalizing m with
  | nil => exact ⟨m.indexes, rfl⟩
  | cons v more ih => exact ih (m.pushed v)

def lastSettings? (vs : List Variant) (indexUid : String) : Option Settings :=
  ((vs.filter (·.indexUid = indexUid)).getLast?).map (·.settings)

theorem lastSettings?_concat (vs : List Variant) (v : Variant) (indexUid : String) :
    lastSettings? (vs ++ [v]) indexUid =
      if v.indexUid = indexUid then some v.settings else lastSettings? vs indexUid := by
  by_cases h : v.indexUid = indexUid
  · simp [lastSettings?, List.filter_append, h]
  · simp [lastSettings?, List.filter_append, h]

theorem get?_foldl_pushed_of_not_mem (h : ∀ v ∈ vs, v.indexUid ≠ indexUid) :
    (vs.foldl pushed m).indexes.get? indexUid = m.indexes.get? indexUid := by
  induction vs generalizing m with
  | nil => rfl
  | cons v more ih =>
    obtain ⟨hv, hmore⟩ := List.forall_mem_cons.1 h
    rw [List.foldl_cons, ih hmore, get?_pushed, if_neg hv]

/-- An index that exists gets the last settings, and everything else of it stays. -/
theorem get?_foldl_pushed_of_some {index : MemoryIndex}
    (h : m.indexes.get? indexUid = some index) :
    (vs.foldl pushed m).indexes.get? indexUid =
      some { index with
        settings := (lastSettings? vs indexUid).or index.settings
        settingsUpdates := index.settingsUpdates + vs.countP (·.indexUid = indexUid) } := by
  induction vs using List.reverseRecOn with
  | nil => exact h
  | append_singleton vs v ih =>
    rw [List.foldl_append, List.foldl_cons, List.foldl_nil, get?_pushed, ih, lastSettings?_concat,
      List.countP_append, List.countP_singleton]
    by_cases hv : v.indexUid = indexUid
    · simp [hv, Nat.add_assoc]
    · simp [hv]

theorem exists_get?_foldl_pushed {settings : Settings}
    (h : lastSettings? vs indexUid = some settings) :
    ∃ index, (vs.foldl pushed m).indexes.get? indexUid = some index ∧
      index.settings = some settings := by
  induction vs using List.reverseRecOn with
  | nil => cases h
  | append_singleton vs v ih =>
    rw [lastSettings?_concat] at h
    rw [List.foldl_append, List.foldl_cons, List.foldl_nil, get?_pushed]
    split at h
    · next hv =>
      rw [if_pos hv]
      exact ⟨_, rfl, h⟩
    · next hv =>
      rw [if_neg hv]
      exact ih h

/-- Variants that are pushed again, all in the same order, change nothing of any index but the number
of times that its settings were set. -/
theorem get?_foldl_pushed_foldl_pushed (vs : List Variant) (m : Memory) (indexUid : String) :
    (vs.foldl pushed (vs.foldl pushed m)).indexes.get? indexUid =
      ((vs.foldl pushed m).indexes.get? indexUid).map
        (·.setAgain (vs.countP (·.indexUid = indexUid))) := by
  cases hlast : lastSettings? vs indexUid with
  | none =>
    have hnone : ∀ v ∈ vs, v.indexUid ≠ indexUid := by
      simpa [lastSettings?] using hlast
    have hcount : vs.countP (·.indexUid = indexUid) = 0 := by
      simpa [List.countP_eq_zero] using hnone
    rw [get?_foldl_pushed_of_not_mem hnone, hcount]
    cases (vs.foldl pushed m).indexes.get? indexUid <;> rfl
  | some settings =>
    -- The first time has left these settings, so the second one finds what it would set.
    obtain ⟨index, hindex, hsettings⟩ := exists_get?_foldl_pushed (m := m) hlast
    rw [get?_foldl_pushed_of_some hindex, hindex, hlast, Option.some_or, ← hsettings]
    rfl

end Memory

namespace Service

section Engine

variable {σ : Type} [SearchEngine σ] {names : List String} {s : Service σ}

theorem applyEvents_of_ok (h : (applyEach names s).1 = .ok ()) :
    applyEvents names s = names.map fun name => .applied name (.ok ()) := by
  induction names generalizing s with
  | nil => rfl
  | cons name more ih =>
    rw [applyEach_cons] at h
    rw [applyEvents, List.map_cons]
    cases happly : (apply name s).1 with
    | error e =>
      rw [happly] at h
      cases h
    | ok u =>
      rw [happly] at h
      simp only [ih h]

/-- A failure is that of one name, for which nothing but the names before it was pushed. -/
theorem exists_stop_of_error {e : SearchFailure} (h : (applyEach names s).1 = .error e) :
    ∃ before name after, names = before ++ name :: after ∧ (applyEach before s).1 = .ok () ∧
      apply name (applyEach before s).2 = (.error e, (applyEach names s).2) ∧
      applyEvents names s = applyEvents before s ++ [.applied name (.error e)] := by
  induction names generalizing s with
  | nil => cases h
  | cons first more ih =>
    rw [applyEach_cons] at h
    cases happly : (apply first s).1 with
    | error f =>
      rw [happly] at h
      obtain rfl := Except.error.inj h
      refine ⟨[], first, more, rfl, rfl, ?_, ?_⟩
      · rw [applyEach_cons, happly]
        exact Prod.ext happly rfl
      · simp only [applyEvents, happly, List.nil_append]
    | ok u =>
      -- The name that fails is one of the others, and the first name joins those before it.
      rw [happly] at h
      obtain ⟨before, name, after, rfl, hbefore, hname, hevents⟩ := ih h
      have hfirst : applyEach (first :: before) s = applyEach before (apply first s).2 := by
        rw [applyEach_cons, happly]
      refine ⟨first :: before, name, after, rfl, ?_, ?_, ?_⟩
      · rw [hfirst]
        exact hbefore
      · rw [hfirst, applyEach_cons, happly]
        exact hname
      · rw [applyEvents, applyEvents, happly]
        simp only [hevents, List.cons_append]

theorem registry_applyEach_of_ok (h : (applyEach names s).1 = .ok ()) :
    (applyEach names s).2.registry = names.foldl Registry.markConfigured s.registry := by
  rw [registry_applyEach, applyEvents_of_ok h, List.foldl_map]
  rfl

theorem state?_applyEach_of_ok (h : (applyEach names s).1 = .ok ()) {name : String}
    (hname : name ∈ names) {v : Variant} (hv : s.registry.variant? name = some v) :
    (applyEach names s).2.registry.state? name = some .configured := by
  obtain ⟨reg, hreg, -⟩ := Option.map_eq_some_iff.1 hv
  rw [registry_applyEach_of_ok h, Registry.state?, Registry.find?_foldl_markConfigured, if_pos hname,
    hreg]
  rfl

end Engine

section Memory

variable {names : List String} {s : Service Memory} {name : String}

def Accepts (s : Service Memory) (name : String) : Prop :=
  ∃ v, s.registry.variant? name = some v ∧ v.check = .ok () ∧ s.engine.available = true

theorem apply_eq_ok_iff : (apply name s).1 = .ok () ↔ s.Accepts name := by
  cases hv : s.registry.variant? name with
  | none => simp [apply_of_none hv, Accepts, hv]
  | some v =>
    rw [apply_of_some hv, Memory.push_eq]
    cases hcheck : v.check with
    | error e => simp [Accepts, hv, hcheck]
    | ok u => cases hm : s.engine.available <;> simp [Accepts, hv, hcheck, hm]

theorem engine_apply_of_ok (h : (apply name s).1 = .ok ()) {v : Variant}
    (hv : s.registry.variant? name = some v) : (apply name s).2.engine = s.engine.pushed v := by
  rw [apply_of_some hv] at h ⊢
  exact Memory.push_of_ok h

theorem accepts_apply_iff (happly : (apply name s).1 = .ok ()) (other : String) :
    (apply name s).2.Accepts other ↔ s.Accepts other := by
  obtain ⟨v, hv, -⟩ := apply_eq_ok_iff.1 happly
  have hengine := engine_apply_of_ok happly hv
  have havailable : (apply name s).2.engine.available = s.engine.available := by
    rw [hengine]
    rfl
  simp only [Accepts, variant?_apply, havailable]

theorem applyEach_eq_ok_iff :
    (applyEach names s).1 = .ok () ↔ ∀ name ∈ names, s.Accepts name := by
  induction names generalizing s with
  | nil => exact ⟨fun _ => List.forall_mem_nil _, fun _ => rfl⟩
  | cons first more ih =>
    rw [applyEach_cons, List.forall_mem_cons, ← apply_eq_ok_iff]
    cases happly : (apply first s).1 with
    | error e => simp
    | ok u =>
      -- A success changes nothing of what the other names are accepted by.
      simp only [ih, accepts_apply_iff happly, true_and]

/-- The engine after pushes of which none failed. -/
theorem engine_applyEach_of_ok (h : (applyEach names s).1 = .ok ()) :
    (applyEach names s).2.engine =
      (names.filterMap s.registry.variant?).foldl Memory.pushed s.engine := by
  induction names generalizing s with
  | nil => rfl
  | cons first more ih =>
    rw [applyEach_eq_ok_iff, List.forall_mem_cons, ← apply_eq_ok_iff] at h
    obtain ⟨happly, hmore⟩ := h
    obtain ⟨v, hv, -⟩ := apply_eq_ok_iff.1 happly
    have hvariants : (apply first s).2.registry.variant? = s.registry.variant? :=
      funext fun other => variant?_apply first other s
    have hrest : (applyEach more (apply first s).2).1 = .ok () := by
      simp only [applyEach_eq_ok_iff, accepts_apply_iff happly]
      exact hmore
    rw [applyEach_cons, happly, List.filterMap_cons, hv, List.foldl_cons, ← engine_apply_of_ok happly hv,
      ← hvariants]
    exact ih hrest

structure StoppedAt (s : Service Memory) (name : String) (e : SearchFailure) (s' : Service Memory)
    (before after : List String) : Prop where
  names_eq : s.registry.names = before ++ name :: after
  /-- The names before it are pushed in turn, and those after it are not tried. -/
  events_eq : s.events .applyAll =
    before.map (fun other => .applied other (.ok ())) ++ [.applied name (.error e)]
  configured : ∀ other ∈ before, s'.registry.state? other = some .configured
  kept : ∀ other ∈ name :: after, s'.registry.find? other = s.registry.find? other
  engine_eq : s'.engine = (before.filterMap s.registry.variant?).foldl Memory.pushed s.engine

structure Completed (s s' : Service Memory) : Prop where
  events_eq : s.events .applyAll = s.registry.names.map fun name => .applied name (.ok ())
  configured : ∀ name ∈ s.registry.names, s'.registry.state? name = some .configured
  engine_eq : s'.engine = (s.registry.names.filterMap s.registry.variant?).foldl Memory.pushed s.engine

/-- Nothing is changed of the registry and the engine but the numbers of times that the settings of
indexes were set, each of which grows by the number of names that have the index. -/
structure SetAgain (s s' : Service Memory) : Prop where
  registry : s'.registry = s.registry
  indexes : s'.engine.indexes.keys = s.engine.indexes.keys
  index : ∀ indexUid, s'.engine.indexes.get? indexUid =
    (s.engine.indexes.get? indexUid).map (·.setAgain
      (s.registry.names.countP fun name =>
        (s.registry.variant? name).any (·.indexUid = indexUid)))
  log : s'.engine.log = s.engine.log
  available : s'.engine.available = s.engine.available

theorem exists_stoppedAt {e : SearchFailure} (h : (applyAll s).1 = .error e) :
    ∃ name before after, StoppedAt s name e (applyAll s).2 before after := by
  obtain ⟨before, name, after, hnames, hbefore, hname, hevents⟩ := exists_stop_of_error h
  have hlast : (applyEach s.registry.names s).2 = (apply name (applyEach before s).2).2 := by
    rw [hname]
  have herror : (apply name (applyEach before s).2).1 = .error e := by rw [hname]
  have hregistry : (applyAll s).2.registry = before.foldl Registry.markConfigured s.registry := by
    rw [applyAll, hlast, registry_apply, herror]
    exact registry_applyEach_of_ok hbefore
  refine ⟨name, before, after, hnames, ?_, ?_, ?_, ?_⟩
  · rw [events, hevents, applyEvents_of_ok hbefore]
  · intro other hother
    have hmem : other ∈ s.registry.names := hnames ▸ List.mem_append_left _ hother
    obtain ⟨v, hv⟩ := (s.registry.mem_names_iff other).1 hmem
    -- The failure marks nothing, so the state is the one after the names before it.
    rw [hregistry, ← registry_applyEach_of_ok hbefore]
    exact state?_applyEach_of_ok hbefore hother hv
  · intro other hother
    -- The names ascend, so none of these is among the names before.
    have hnot : other ∉ before := by
      intro hmem
      have hascending := s.registry.names_ascending
      rw [hnames, List.pairwise_append] at hascending
      exact String.lt_irrefl other (hascending.2.2 other hmem other hother)
    rw [hregistry, Registry.find?_foldl_markConfigured, if_neg hnot]
  · rw [applyAll, hlast, engine_apply_of_error herror]
    exact engine_applyEach_of_ok hbefore

theorem completed (h : (applyAll s).1 = .ok ()) : Completed s (applyAll s).2 := by
  refine ⟨applyEvents_of_ok h, ?_, engine_applyEach_of_ok h⟩
  intro name hname
  obtain ⟨v, hv⟩ := (s.registry.mem_names_iff name).1 hname
  exact state?_applyEach_of_ok h hname hv

theorem names_applyAll (s : Service Memory) : (applyAll s).2.registry.names = s.registry.names := by
  refine List.Pairwise.eq_of_mem_iff (Registry.names_ascending _) (Registry.names_ascending _) ?_
  intro name
  rw [Registry.mem_names_iff, Registry.mem_names_iff, variant?_applyAll]

/-- One more round after one without a failure has no failure either. -/
theorem applyAll_again_ok (h : (applyAll s).1 = .ok ()) : (applyAll (applyAll s).2).1 = .ok () := by
  have hfirst : ∀ name ∈ s.registry.names, s.Accepts name := applyEach_eq_ok_iff.1 h
  obtain ⟨indexes, hindexes⟩ :=
    Memory.exists_foldl_pushed_eq (s.registry.names.filterMap s.registry.variant?) s.engine
  have havailable : (applyAll s).2.engine.available = s.engine.available := by
    rw [(completed h).engine_eq, hindexes]
  apply applyEach_eq_ok_iff.2
  rw [names_applyAll]
  intro name hname
  obtain ⟨v, hv, hcheck, hm⟩ := hfirst name hname
  exact ⟨v, by rw [variant?_applyAll, hv], hcheck, havailable.trans hm⟩

/-- The round after one without a failure pushes the same variants to the engine that has them. -/
theorem engine_applyAll_again (h : (applyAll s).1 = .ok ()) :
    (applyAll (applyAll s).2).2.engine =
      (s.registry.names.filterMap s.registry.variant?).foldl Memory.pushed (applyAll s).2.engine := by
  have hvariants : (applyAll s).2.registry.variant? = s.registry.variant? :=
    funext fun name => variant?_applyAll name s
  rw [(completed (applyAll_again_ok h)).engine_eq, names_applyAll, hvariants]

theorem index_applyAll_again (h : (applyAll s).1 = .ok ()) (indexUid : String) :
    (applyAll (applyAll s).2).2.engine.indexes.get? indexUid =
      ((applyAll s).2.engine.indexes.get? indexUid).map (·.setAgain
        (s.registry.names.countP fun name =>
          (s.registry.variant? name).any (·.indexUid = indexUid))) := by
  have hany (found : Option Variant) : (found.map fun v => decide (v.indexUid = indexUid)).getD false =
      found.any fun v => decide (v.indexUid = indexUid) := by
    cases found <;> rfl
  rw [engine_applyAll_again h, (completed h).engine_eq, Memory.get?_foldl_pushed_foldl_pushed,
    List.countP_filterMap]
  simp only [hany]

theorem setAgain_applyAll (h : (applyAll s).1 = .ok ()) :
    SetAgain (applyAll s).2 (applyAll (applyAll s).2).2 := by
  obtain ⟨indexes, hindexes⟩ := Memory.exists_foldl_pushed_eq
    (s.registry.names.filterMap s.registry.variant?) (applyAll s).2.engine
  rw [← engine_applyAll_again h] at hindexes
  refine ⟨?_, ?_, ?_, ?_, ?_⟩
  · rw [applyAll, registry_applyEach_of_ok (applyAll_again_ok h)]
    apply Registry.foldl_markConfigured_of_configured
    rw [names_applyAll]
    exact (completed h).configured
  · apply TextMap.keys_eq_of_get?
    intro indexUid
    rw [index_applyAll_again h, Option.isSome_map]
  · intro indexUid
    simp only [names_applyAll, variant?_applyAll]
    exact index_applyAll_again h indexUid
  · rw [hindexes]
  · rw [hindexes]

/-- A round goes through the names in ascending order of their bytes. If it fails, it stops at a name
before which all are configured, and this name and those after it are as they were. If it does not
fail, every name is configured, and one more round only sets the same settings again, also where
several names have one index. -/
theorem applyAll_in_rounds (s : Service Memory) :
    (s.registry.names.Pairwise fun a b => Text.Utf8.ofString a < Text.Utf8.ofString b) ∧
      (∀ e, (applyAll s).1 = .error e →
        ∃ name before after, StoppedAt s name e (applyAll s).2 before after) ∧
      ((applyAll s).1 = .ok () → Completed s (applyAll s).2 ∧
        (applyAll (applyAll s).2).1 = .ok () ∧
        SetAgain (applyAll s).2 (applyAll (applyAll s).2).2) := by
  refine ⟨?_, ?_, ?_⟩
  · exact s.registry.names_ascending.imp Text.Utf8.ofString_lt_ofString
  · intro e herror
    exact exists_stoppedAt herror
  · intro hok
    exact ⟨completed hok, applyAll_again_ok hok, setAgain_applyAll hok⟩

def sharing : Service Memory :=
  (start (Memory.fresh 1)).run
    [.register ⟨"a", "shared", "id", .standard⟩,
      .register ⟨"b", "shared", "sku", { Settings.standard with maxTotalHits := 5 }⟩]

def blocked : Service Memory := sharing.register ⟨"ab", "", "id", .standard⟩

theorem applyAll_in_rounds_of_sharing :
    SetAgain (applyAll sharing).2 (applyAll (applyAll sharing).2).2 ∧
      ((applyAll sharing).2.engine.indexes.get? "shared").map (·.settingsUpdates) = some 2 ∧
      ((applyAll (applyAll sharing).2).2.engine.indexes.get? "shared").map (·.settingsUpdates) =
        some 4 ∧
      (∃ e name before after, StoppedAt blocked name e (applyAll blocked).2 before after) ∧
      (applyAll blocked).2.registry.state? "a" = some .configured ∧
      (applyAll blocked).2.registry.state? "b" = some .unconfigured := by
  have hok : (applyAll sharing).1 = .ok () := by decide +kernel
  have hfails : (applyAll blocked).1 ≠ .ok () := by decide +kernel
  refine ⟨((applyAll_in_rounds sharing).2.2 hok).2.2, by decide +kernel, by decide +kernel, ?_,
    by decide +kernel, by decide +kernel⟩
  cases herror : (applyAll blocked).1 with
  | error e => exact ⟨e, (applyAll_in_rounds blocked).2.1 e herror⟩
  | ok u => exact absurd herror hfails

end Memory

end Service

end VariantSearch

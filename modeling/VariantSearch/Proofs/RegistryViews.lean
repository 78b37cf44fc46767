import VariantSearch.Proofs.TextMap
import VariantSearch.Registry

namespace VariantSearch.Registry

theorem mem_names_iff (r : Registry) (name : String) :
    name ∈ r.names ↔ ∃ v, r.variant? name = some v := by
  rw [names, TextMap.mem_keys_iff]
  constructor
  · rintro ⟨reg, hreg⟩
    exact ⟨reg.variant, Option.map_eq_some_iff.2 ⟨reg, hreg, rfl⟩⟩
  · rintro ⟨v, hv⟩
    obtain ⟨reg, hreg, -⟩ := Option.map_eq_some_iff.1 hv
    exact ⟨reg, hreg⟩

theorem names_ascending (r : Registry) : r.names.Pairwise (· < ·) := r.entries.keys_ascending

theorem isConfigured_iff (r : Registry) (name : String) :
    r.isConfigured name = true ↔ ∃ v, r.find? name = some ⟨v, .configured⟩ := by
  simp only [isConfigured, state?, decide_eq_true_eq, Option.map_eq_some_iff]
  constructor
  · rintro ⟨⟨v, state⟩, hreg, hstate⟩
    exact ⟨v, hstate ▸ hreg⟩
  · rintro ⟨v, hv⟩
    exact ⟨_, hv, rfl⟩

/-- The index of a name is the one of its variant, just if the name is configured. -/
theorem appliedIndex?_eq_some_iff (r : Registry) (name indexUid : String) :
    r.appliedIndex? name = some indexUid ↔
      r.isConfigured name = true ∧ ∃ v, r.variant? name = some v ∧ v.indexUid = indexUid := by
  rw [isConfigured_iff]
  simp only [appliedIndex?, variant?]
  cases r.find? name with
  | none => simp
  | some reg =>
    obtain ⟨v, state⟩ := reg
    cases state <;> simp

theorem appliedIndex?_eq_none_iff (r : Registry) (name : String) :
    r.appliedIndex? name = none ↔ r.state? name ≠ some .configured := by
  simp only [appliedIndex?, state?]
  cases r.find? name with
  | none => simp
  | some reg =>
    obtain ⟨v, state⟩ := reg
    cases state <;> simp

theorem find?_of_mem_configured {r : Registry} {v : Variant} (h : v ∈ r.configured) :
    ∃ name, r.find? name = some ⟨v, .configured⟩ := by
  obtain ⟨⟨w, state⟩, hreg, rfl⟩ := List.mem_map.1 h
  obtain ⟨hmem, hstate⟩ := List.mem_filter.1 hreg
  obtain ⟨⟨name, reg⟩, hentry, rfl⟩ := List.mem_map.1 hmem
  have hfound := (r.entries.get?_eq_some_iff name _).2 hentry
  obtain rfl := of_decide_eq_true hstate
  exact ⟨name, hfound⟩

/-- The configured variants are those of the configured names, in the order of the names. -/
theorem configured_eq (r : Registry) :
    r.configured = r.names.filterMap fun name =>
      if r.isConfigured name then r.variant? name else none := by
  have hnames := r.entries.filterMap_keys fun _ reg =>
    if reg.state = .configured then some reg.variant else none
  have hlook (name : String) : (if r.isConfigured name then r.variant? name else none) =
      (r.entries.get? name).bind fun reg =>
        if reg.state = .configured then some reg.variant else none := by
    cases hreg : r.entries.get? name with
    | none => simp [isConfigured, state?, find?, hreg]
    | some reg => simp [isConfigured, state?, variant?, find?, hreg]
  simp only [hlook]
  -- Now both sides go through the entries, and they keep the same ones.
  rw [names, hnames, configured, registrations, TextMap.values, List.filter_map, List.map_map,
    ← List.filterMap_eq_filter, List.map_filterMap]
  refine List.filterMap_congr fun e he => ?_
  by_cases hstate : e.2.state = .configured <;> simp [Option.guard, hstate]

theorem summaries_eq (r : Registry) :
    r.summaries = .list (r.names.filterMap fun name => (r.find? name).map fun reg =>
      .ofMembers
        [("index_uid", .text reg.variant.indexUid), ("name", .text name),
          ("state", .text reg.state.toText)]) := by
  have hnames := r.entries.filterMap_keys fun name reg => some (Json.ofMembers
    [("index_uid", .text reg.variant.indexUid), ("name", .text name),
      ("state", .text reg.state.toText)])
  have hmap (found : Option Registration) (f : Registration → Json) :
      found.map f = found.bind fun reg => some (f reg) := by
    cases found <;> rfl
  simp only [hmap, find?]
  rw [names, hnames, summaries, List.filterMap_eq_map']

/-- Registering a variant again as it is changes nothing, so a configured one stays configured. -/
theorem register_of_variant? {r : Registry} {v : Variant} (h : r.variant? v.name = some v) :
    r.register v = r := by
  obtain ⟨⟨w, state⟩, hreg, rfl⟩ := Option.map_eq_some_iff.1 h
  have hstate : stateFor (r.find? w.name) w = state := by
    rw [hreg]
    simp only [stateFor, ↓reduceIte]
  have hentries := r.entries.insert_of_get? w.name ⟨w, state⟩ hreg
  simp only [register, hstate, hentries]

/-- A registration leaves no name configured that was not so before. -/
theorem find?_of_register {r : Registry} {v w : Variant} {name : String}
    (h : (r.register v).find? name = some ⟨w, .configured⟩) : r.find? name = some ⟨w, .configured⟩ := by
  rw [find?_register] at h
  split at h
  · next hname =>
    obtain ⟨rfl, hstate⟩ := Registration.mk.inj (Option.some.inj h)
    -- Only an equal variant leaves its state to the new one.
    unfold stateFor at hstate
    split at hstate
    · next reg hreg =>
      split at hstate
      · next hvariant =>
        rw [← hname, hreg, ← hvariant, ← hstate]
      · cases hstate
    · cases hstate
  · exact h

theorem variant?_markConfigured (r : Registry) (name other : String) :
    (r.markConfigured name).variant? other = r.variant? other := by
  rw [variant?, variant?, find?_markConfigured]
  split
  · cases r.find? other <;> rfl
  · rfl

end VariantSearch.Registry

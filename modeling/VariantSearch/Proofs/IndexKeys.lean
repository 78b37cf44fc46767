import VariantSearch.Proofs.History
import VariantSearch.Proofs.KeyedDocuments
import VariantSearch.Proofs.StoredSettings

/-!
Which key the index of a variant has: the one that came with the first push for the index.
-/

namespace VariantSearch

namespace RegistryEvent

def acceptedBy? (before : List RegistryEvent) : RegistryEvent → Option Variant
  | applied name (.ok ()) => lastRegistered? before name
  | _ => none

def acceptedAfter (before : List RegistryEvent) : List RegistryEvent → List Variant
  | [] => []
  | e :: rest => (acceptedBy? before e).toList ++ acceptedAfter (before ++ [e]) rest

def firstAccepted? (h : List RegistryEvent) (indexUid : String) : Option Variant :=
  (acceptedAfter [] h).find? fun v => v.indexUid = indexUid

theorem acceptedAfter_append (before h : List RegistryEvent) (e : RegistryEvent) :
    acceptedAfter before (h ++ [e]) =
      acceptedAfter before h ++ (acceptedBy? (before ++ h) e).toList := by
  induction h generalizing before with
  | nil => simp [acceptedAfter]
  | cons first rest ih => simp [acceptedAfter, ih]

theorem firstAccepted?_append_of_none {h : List RegistryEvent} {e : RegistryEvent}
    (he : acceptedBy? h e = none) (indexUid : String) :
    firstAccepted? (h ++ [e]) indexUid = firstAccepted? h indexUid := by
  rw [firstAccepted?, acceptedAfter_append, List.nil_append, he, Option.toList_none, List.append_nil,
    firstAccepted?]

/-- An index that has an accepted variant keeps it as its first one. -/
theorem firstAccepted?_append_of_some {h : List RegistryEvent} {e : RegistryEvent} {v : Variant}
    (he : acceptedBy? h e = some v) (indexUid : String) :
    firstAccepted? (h ++ [e]) indexUid =
      (firstAccepted? h indexUid).or (if v.indexUid = indexUid then some v else none) := by
  rw [firstAccepted?, acceptedAfter_append, List.nil_append, he, List.find?_append, firstAccepted?]
  by_cases hv : v.indexUid = indexUid <;> simp [hv]

theorem registered_of_mem_acceptedAfter {before h : List RegistryEvent} {v : Variant}
    (hv : v ∈ acceptedAfter before h) : .registered v ∈ before ++ h := by
  induction h generalizing before with
  | nil => cases hv
  | cons e rest ih =>
    rcases List.mem_append.1 hv with hv | hv
    · have haccepted : acceptedBy? before e = some v := Option.mem_toList.1 hv
      unfold acceptedBy? at haccepted
      split at haccepted
      · exact List.mem_append_left _ (mem_of_lastRegistered? haccepted).1
      · cases haccepted
    · have hrest := ih hv
      rwa [List.append_assoc] at hrest

theorem registered_of_firstAccepted? {h : List RegistryEvent} {indexUid : String} {w : Variant}
    (hw : firstAccepted? h indexUid = some w) : .registered w ∈ h ∧ w.indexUid = indexUid := by
  have hmem := registered_of_mem_acceptedAfter (List.mem_of_find?_eq_some hw)
  have hindex := List.find?_some hw
  exact ⟨hmem, of_decide_eq_true hindex⟩

end RegistryEvent

open RegistryEvent

def Operation.ThroughService : Operation Memory → Prop
  | call _ => False
  | incident change => ∃ available, change = fun m => m.setAvailable available
  | _ => True

theorem Operation.ThroughService.onlyOutages {op : Operation Memory} (h : op.ThroughService) :
    op.OnlyOutages := by
  cases op with
  | call c => exact h.elim
  | incident change => exact h
  | _ => trivial

theorem Variant.primaryKey_ne_of_check {v : Variant} (h : v.check = .ok ()) : v.primaryKey ≠ "" := by
  intro hempty
  have hviolation : Violation.emptyPrimaryKey ∈ v.violations := by simp [violations, hempty]
  unfold check at h
  split at h
  · next hnone =>
    rw [hnone] at hviolation
    cases hviolation
  · cases h

namespace Service

section Registrations

variable {σ : Type} [SearchEngine σ]

theorem registered_not_mem_applyEvents (v : Variant) (names : List String) (s : Service σ) :
    .registered v ∉ applyEvents names s := by
  induction names generalizing s with
  | nil => exact List.not_mem_nil
  | cons name more ih =>
    rw [applyEvents]
    split
    · simpa using ih (apply name s).2
    · simp

/-- A history has the registrations of its run. -/
theorem register_of_mem_history {v : Variant} {s : Service σ} {ops : List (Operation σ)}
    (h : .registered v ∈ s.history ops) : .register v ∈ ops := by
  induction ops generalizing s with
  | nil => cases h
  | cons op ops ih =>
    rcases List.mem_append.1 h with h | h
    · cases op with
      | register w =>
        obtain rfl := RegistryEvent.registered.inj (List.mem_singleton.1 h)
        exact List.mem_cons_self
      | apply name => cases List.mem_singleton.1 h
      | applyAll => exact absurd h (registered_not_mem_applyEvents v _ s)
      | _ => cases h
    · exact List.mem_cons_of_mem _ (ih h)

end Registrations

/-- The keys of the indexes are those that a history tells, and the documents stand under them. -/
structure Tied (h : List RegistryEvent) (s : Service Memory) : Prop where
  registry : s.registry = .ofHistory h
  wellKeyed : s.engine.WellKeyed
  key : ∀ indexUid, s.engine.keyOf? indexUid = (firstAccepted? h indexUid).map (·.primaryKey)

variable {h : List RegistryEvent} {s : Service Memory}

theorem tied_start (capacity : Nat) : Tied [] (start (Memory.fresh capacity)) where
  registry := rfl
  wellKeyed _ _ hindex := by cases hindex
  key _ := rfl

/-- Nothing happens to the registry, and the indexes keep their keys. -/
theorem Tied.of_stay (ht : Tied h s) {s' : Service Memory} (hregistry : s'.registry = s.registry)
    (hengine : Memory.KeysStay s.engine s'.engine) : Tied (h ++ []) s' := by
  obtain ⟨hwell, hkeys⟩ := hengine ht.wellKeyed
  rw [List.append_nil]
  exact ⟨hregistry.trans ht.registry, hwell, fun indexUid => (hkeys indexUid).trans (ht.key indexUid)⟩

/-- An event by which no settings are taken has no part in the keys. -/
theorem Tied.append_of_none (ht : Tied h s) {e : RegistryEvent} (he : acceptedBy? h e = none)
    {s' : Service Memory} (hregistry : s'.registry = s.registry.follow e)
    (hengine : s'.engine = s.engine) : Tied (h ++ [e]) s' where
  registry := by rw [hregistry, ht.registry, Registry.ofHistory_append]
  wellKeyed := hengine ▸ ht.wellKeyed
  key indexUid := by rw [hengine, firstAccepted?_append_of_none he, ht.key]

theorem engine_apply_of_error {name : String} {e : SearchFailure}
    (happly : (apply name s).1 = .error e) : (apply name s).2.engine = s.engine := by
  cases hv : s.registry.variant? name with
  | none => rw [apply_of_none hv]
  | some v =>
    rw [apply_of_some hv] at happly ⊢
    exact Memory.push_of_error happly

theorem apply_eq_ok {name : String} (happly : (apply name s).1 = .ok ()) :
    ∃ v, s.registry.variant? name = some v ∧ v.primaryKey ≠ "" ∧
      (apply name s).2.engine = s.engine.pushed v := by
  cases hv : s.registry.variant? name with
  | none =>
    rw [apply_of_none hv] at happly
    cases happly
  | some v =>
    rw [apply_of_some hv] at happly ⊢
    have hchecked := Memory.check_of_push_ok happly
    exact ⟨v, rfl, Variant.primaryKey_ne_of_check hchecked, Memory.push_of_ok happly⟩

/-- A success makes the index with the key of the variant, or finds it as it was made. -/
theorem Tied.apply (ht : Tied h s) (name : String) :
    Tied (h ++ [.applied name (apply name s).1]) (apply name s).2 := by
  have hregistry := registry_apply_eq_follow name s
  cases happly : (Service.apply name s).1 with
  | error e =>
    rw [happly] at hregistry
    exact ht.append_of_none rfl hregistry (engine_apply_of_error happly)
  | ok u =>
    obtain ⟨v, hv, hnamed, hengine⟩ := apply_eq_ok happly
    have haccepted : acceptedBy? h (.applied name (.ok ())) = some v := by
      rw [← hv, ht.registry, Registry.variant?_ofHistory]
      rfl
    rw [happly] at hregistry
    refine ⟨?_, ?_, fun indexUid => ?_⟩
    · rw [hregistry, ht.registry, Registry.ofHistory_append]
    · rw [hengine]
      exact ht.wellKeyed.pushed hnamed
    · -- Both sides keep what they have of the index and take the new variant only if it is the first.
      rw [hengine, Memory.keyOf?_pushed, ht.key, firstAccepted?_append_of_some haccepted]
      cases firstAccepted? h indexUid with
      | some w => rfl
      | none => by_cases hindex : v.indexUid = indexUid <;> simp [hindex]

theorem Tied.applyEach (names : List String) (ht : Tied h s) :
    Tied (h ++ applyEvents names s) (applyEach names s).2 := by
  induction names generalizing h s with
  | nil => rwa [applyEvents, List.append_nil]
  | cons name more ih =>
    have hname := ht.apply name
    rw [applyEach_cons, applyEvents, List.append_cons]
    cases happly : (Service.apply name s).1 with
    | error e =>
      -- The names after a failure are not tried, and there are no events of theirs.
      rw [happly] at hname
      rwa [List.append_nil]
    | ok u =>
      rw [happly] at hname
      exact ih hname

theorem tied_perform (ht : Tied h s) (op : Operation Memory) (hop : op.ThroughService) :
    Tied (h ++ s.events op) (s.perform op) := by
  cases op with
  | register v => exact ht.append_of_none rfl rfl rfl
  | apply name => exact ht.apply name
  | applyAll => exact ht.applyEach s.registry.names
  -- The other operations are no events, and the keys of the indexes stay.
  | bind name chain => exact ht.of_stay rfl (Memory.kept_keysStay.refl s.engine)
  | seed documents batchSize =>
    have hstay := keeps_seedEach Memory.kept_keysStay documents batchSize s.registry.configured
      (fun v _ => Memory.keysStay_addDocuments v.indexUid v.primaryKey) s.engine
    exact ht.of_stay rfl hstay
  | build name p =>
    refine ht.of_stay (registry_build name p s) ?_
    rw [perform, engine_build]
    exact Memory.kept_keysStay.refl s.engine
  | execute name request =>
    have hstay := engine_execute Memory.kept_keysStay Memory.keysStay_search name request s
    exact ht.of_stay (registry_execute name request s) hstay
  | call c => exact hop.elim
  | incident change =>
    obtain ⟨available, rfl⟩ := hop
    exact ht.of_stay rfl (Memory.keysStay_setAvailable s.engine available)

theorem tied_run (ops : List (Operation Memory)) (hops : ∀ op ∈ ops, op.ThroughService)
    (ht : Tied h s) : Tied (h ++ s.history ops) (s.run ops) := by
  induction ops generalizing h s with
  | nil => rwa [history, List.append_nil]
  | cons op ops ih =>
    have hstep := tied_perform ht op (hops op List.mem_cons_self)
    rw [history, ← List.append_assoc, run_cons]
    exact ih (fun op' hop' => hops op' (List.mem_cons_of_mem _ hop')) hstep

/-- How the index of a name is keyed after some operations with a history. -/
structure KeyedByFirst (ops : List (Operation Memory)) (h : List RegistryEvent) (name : String)
    (v : Variant) (index : MemoryIndex) : Prop where
  /-- The key is that of the variant whose settings were the first to be taken for the index. -/
  first : ∃ w, firstAccepted? h v.indexUid = some w ∧ .register w ∈ ops ∧ w.name = name ∧
    w.indexUid = v.indexUid ∧ index.primaryKey = w.primaryKey
  /-- It is the key of the variant itself if no other was ever registered for the index. -/
  own : (∀ u, .register u ∈ ops → u.indexUid = v.indexUid → u.primaryKey = v.primaryKey) →
    index.primaryKey = v.primaryKey
  carried : ∀ e ∈ index.documents, ∃ value, e.2.member? index.primaryKey = some value
  distinct : index.documents.Pairwise fun e e' =>
    MemoryIndex.keyText? index.primaryKey e.2 ≠ MemoryIndex.keyText? index.primaryKey e'.2

theorem carried_of_wellKeyed {index : MemoryIndex} (hi : index.WellKeyed) {e : String × Json}
    (he : e ∈ index.documents) : ∃ value, e.2.member? index.primaryKey = some value := by
  obtain ⟨value, hvalue, -⟩ := Option.map_eq_some_iff.1 (hi.keyed e he)
  exact ⟨value, hvalue⟩

theorem distinct_of_wellKeyed {index : MemoryIndex} (hi : index.WellKeyed) :
    index.documents.Pairwise fun e e' =>
      MemoryIndex.keyText? index.primaryKey e.2 ≠ MemoryIndex.keyText? index.primaryKey e'.2 := by
  have hapart := List.pairwise_map.1 hi.apart
  refine hapart.imp_of_mem fun {e e'} he he' hne => ?_
  rw [hi.keyed e he, hi.keyed e' he']
  exact fun heq => hne (Option.some.inj heq)

/-- The first accepted variant of an index was registered in the run, and for the name itself if no two
names share an index. -/
theorem Tied.keyedByFirst (ht : Tied h s) {ops : List (Operation Memory)}
    (hregistered : ∀ u, .registered u ∈ h → .register u ∈ ops)
    (hapart : Operation.IndexesApart ops) {name : String} {v : Variant} {index : MemoryIndex}
    (hv : s.registry.find? name = some ⟨v, .configured⟩)
    (hindex : s.engine.indexes.get? v.indexUid = some index) : KeyedByFirst ops h name v index := by
  have hwell := ht.wellKeyed v.indexUid index hindex
  have hkey := ht.key v.indexUid
  rw [Memory.keyOf?, hindex, Option.map_some] at hkey
  obtain ⟨w, hw, hwkey⟩ := Option.map_eq_some_iff.1 hkey.symm
  obtain ⟨hwmem, hwindex⟩ := registered_of_firstAccepted? hw
  have hwop := hregistered w hwmem
  have hlast : lastRegistered? h name = some v := by
    rw [← Registry.variant?_ofHistory, ← ht.registry, Registry.variant?, hv]
    rfl
  obtain ⟨hvmem, hvname⟩ := mem_of_lastRegistered? hlast
  -- Both variants were registered for the index, and so for the same name.
  have hname := hapart w v hwop (hregistered v hvmem) hwindex
  refine ⟨⟨w, hw, hwop, hname.trans hvname, hwindex, hwkey.symm⟩, ?_, ?_, ?_⟩
  · intro hsame
    exact hwkey.symm.trans (hsame w hwop hwindex)
  · intro e he
    exact carried_of_wellKeyed hwell he
  · exact distinct_of_wellKeyed hwell

theorem Tied.takes (ht : Tied h s) (havailable : s.engine.available = true)
    {documents : List Json}
    (hcarry : ∀ name v, s.registry.find? name = some ⟨v, .configured⟩ →
      ∃ index, s.engine.indexes.get? v.indexUid = some index ∧
        ∀ d ∈ documents, ∃ value, d.member? index.primaryKey = some value) :
    s.engine.Takes documents s.registry.configured := by
  refine ⟨havailable, fun v hv => ?_⟩
  obtain ⟨name, hname⟩ := Registry.find?_of_mem_configured hv
  obtain ⟨index, hindex, hdocuments⟩ := hcarry name v hname
  have hkey : s.engine.keyOf? v.indexUid = some index.primaryKey := by
    rw [Memory.keyOf?, hindex]
    rfl
  have hnamed := (ht.wellKeyed v.indexUid index hindex).named
  exact ⟨index.primaryKey, hkey, hnamed, hdocuments⟩

/-- In every state of a run over a fresh engine, in which no two names are ever registered with the
same index and the engine is reached through the service only, the index of every configured variant
exists and has the key of the variant whose settings were the first to be taken for it. Documents are
stored under that key, and documents that have the key of every such index can be seeded in batches of
any size while the engine is available. -/
theorem configured_index_keyed_by_first (capacity : Nat) (ops : List (Operation Memory))
    (hops : ∀ op ∈ ops, op.ThroughService) (hapart : Operation.IndexesApart ops)
    (s : Service Memory) (hs : s = (start (Memory.fresh capacity)).run ops) :
    (∀ name v, s.registry.find? name = some ⟨v, .configured⟩ →
      ∃ index, s.engine.indexes.get? v.indexUid = some index ∧
        KeyedByFirst ops ((start (Memory.fresh capacity)).history ops) name v index) ∧
      (s.engine.available = true → ∀ documents batchSize,
        (∀ name v, s.registry.find? name = some ⟨v, .configured⟩ → ∀ index,
          s.engine.indexes.get? v.indexUid = some index →
            ∀ d ∈ documents, ∃ value, d.member? index.primaryKey = some value) →
        ∃ counts, (seed documents batchSize s).1 = .ok counts) := by
  have ht : Tied ((start (Memory.fresh capacity)).history ops) s := by
    rw [hs]
    exact tied_run ops hops (tied_start capacity)
  -- A configured variant has its settings somewhere, and so it has an index.
  have hindex : ∀ name v, s.registry.find? name = some ⟨v, .configured⟩ →
      ∃ index, s.engine.indexes.get? v.indexUid = some index := by
    intro name v hv
    rw [hs] at hv ⊢
    obtain ⟨settings, hsettings⟩ :=
      hasSettings_of_configured capacity ops (fun op hop => (hops op hop).onlyOutages) hv
    obtain ⟨index, hindex, -⟩ := (Memory.settings?_eq_some_iff _ _ _).1 hsettings
    exact ⟨index, hindex⟩
  refine ⟨fun name v hv => ?_, fun havailable documents batchSize hcarry => ?_⟩
  · obtain ⟨index, hfound⟩ := hindex name v hv
    have hkeyed := ht.keyedByFirst (fun u hu => register_of_mem_history hu) hapart hv hfound
    exact ⟨index, hfound, hkeyed⟩
  · have htakes : s.engine.Takes documents s.registry.configured := by
      refine ht.takes havailable fun name v hv => ?_
      obtain ⟨index, hfound⟩ := hindex name v hv
      exact ⟨index, hfound, hcarry name v hv index hfound⟩
    exact htakes.seedEach batchSize _ fun _ hv => hv

def rekeyed : Variant := { Variant.plain "v1" with primaryKey := "sku" }

def twins : List Json :=
  [.ofMembers [("id", .nat 1), ("sku", .nat 5)], .ofMembers [("id", .nat 2), ("sku", .nat 5)]]

def rekeyingRun : List (Operation Memory) :=
  [.register (.plain "v1"), .apply "v1", .register rekeyed, .applyAll, .seed twins 10]

def afterRekeying : Service Memory := (start (Memory.fresh 1)).run rekeyingRun

theorem throughService_rekeyingRun : ∀ op ∈ rekeyingRun, op.ThroughService := by
  simp [rekeyingRun, Operation.ThroughService]

theorem indexesApart_rekeyingRun : Operation.IndexesApart rekeyingRun := by
  intro v w hv hw
  simp only [rekeyingRun, List.mem_cons, Operation.register.injEq, reduceCtorEq, false_or,
    List.not_mem_nil, or_false] at hv hw
  rcases hv with rfl | rfl <;> rcases hw with rfl | rfl <;> decide

theorem configured_afterRekeying {name : String} {v : Variant}
    (h : afterRekeying.registry.find? name = some ⟨v, .configured⟩) : v = rekeyed := by
  have hentries : afterRekeying.registry.entries.entries = [("v1", ⟨rekeyed, .configured⟩)] := by
    decide +kernel
  have hmem := TextMap.mem_of_lookup h
  rw [hentries] at hmem
  cases List.mem_singleton.1 hmem
  rfl

theorem index_afterRekeying :
    ∃ index, afterRekeying.engine.indexes.get? "idx_v1" = some index ∧ index.primaryKey = "id" ∧
      index.documents.map (·.2) = twins := ⟨_, rfl, rfl, rfl⟩

theorem configured_index_keyed_by_first_of_rekeyingRun :
    (∀ op ∈ rekeyingRun, op.ThroughService) ∧ Operation.IndexesApart rekeyingRun ∧
      (∃ index, afterRekeying.engine.indexes.get? "idx_v1" = some index ∧
        KeyedByFirst rekeyingRun ((start (Memory.fresh 1)).history rekeyingRun) "v1" rekeyed index) ∧
      ∃ counts, (seed [.ofMembers [("id", .nat 3)]] 10 afterRekeying).1 = .ok counts := by
  obtain ⟨hkeyed, hseed⟩ := configured_index_keyed_by_first 1 rekeyingRun throughService_rekeyingRun
    indexesApart_rekeyingRun afterRekeying rfl
  refine ⟨throughService_rekeyingRun, indexesApart_rekeyingRun, ?_, ?_⟩
  · exact hkeyed "v1" rekeyed (by decide +kernel)
  · refine hseed (by decide +kernel) _ 10 fun name v hv index hindex d hd => ?_
    obtain ⟨old, hold, hkey, -⟩ := index_afterRekeying
    obtain rfl := configured_afterRekeying hv
    obtain rfl := Option.some.inj (hold.symm.trans hindex)
    cases List.mem_singleton.1 hd
    exact ⟨.nat 3, by rw [hkey]; rfl⟩

/-- The key of a configured variant may differ from that of its index: the index then holds two
documents with the same value under the key of the variant, and a document that has that key only is
refused. -/
theorem own_key_missed_by_rekeyingRun :
    (∀ op ∈ rekeyingRun, op.ThroughService) ∧ Operation.IndexesApart rekeyingRun ∧
      afterRekeying.registry.find? "v1" = some ⟨rekeyed, .configured⟩ ∧
      afterRekeying.engine.available = true ∧
      (∃ index, afterRekeying.engine.indexes.get? rekeyed.indexUid = some index ∧
        index.primaryKey ≠ rekeyed.primaryKey ∧
        ¬ index.documents.Pairwise fun e e' =>
          e.2.member? rekeyed.primaryKey ≠ e'.2.member? rekeyed.primaryKey) ∧
      (∀ name v, afterRekeying.registry.find? name = some ⟨v, .configured⟩ →
        (Json.ofMembers [("sku", .nat 7)]).member? v.primaryKey = some (.nat 7)) ∧
      (seed [.ofMembers [("sku", .nat 7)]] 10 afterRekeying).1 =
        .error (MemoryIndex.missingKey "id") := by
  obtain ⟨index, hindex, hkey, hdocuments⟩ := index_afterRekeying
  have hsame : ¬ index.documents.Pairwise fun e e' => e.2.member? "sku" ≠ e'.2.member? "sku" := by
    intro hpairwise
    have htwins : twins.Pairwise fun d d' => d.member? "sku" ≠ d'.member? "sku" := by
      rw [← hdocuments]
      exact List.pairwise_map.2 hpairwise
    have hdistinct := (List.pairwise_cons.1 htwins).1 _ (List.mem_singleton.2 rfl)
    exact hdistinct rfl
  refine ⟨throughService_rekeyingRun, indexesApart_rekeyingRun, by decide +kernel,
    by decide +kernel, ⟨index, hindex, by rw [hkey]; decide, hsame⟩, ?_, by decide +kernel⟩
  intro name v hv
  rw [configured_afterRekeying hv]
  rfl

end Service

end VariantSearch

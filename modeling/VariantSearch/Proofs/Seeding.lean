import VariantSearch.Proofs.IndexKeys
import VariantSearch.Proofs.Upserts

/-!
Giving documents to all configured variants, in batches of any size.
-/

namespace VariantSearch

namespace Memory

open Attempt

variable {documents : List Json} {vs : List Variant} {m : Memory} {indexUid : String}
  {index : MemoryIndex}

def fill (m : Memory) (documents : List Json) (indexUid : String) : Memory :=
  match m.indexes.get? indexUid with
  | none => m
  | some index => m.putIndex indexUid (index.filledWith documents)

def fillEach (documents : List Json) (vs : List Variant) (m : Memory) : Memory :=
  vs.foldl (fun m v => m.fill documents v.indexUid) m

theorem fill_of_some (h : m.indexes.get? indexUid = some index) (documents : List Json) :
    m.fill documents indexUid = m.putIndex indexUid (index.filledWith documents) := by
  simp only [fill, h]

theorem get?_fill (m : Memory) (documents : List Json) (indexUid other : String) :
    (m.fill documents indexUid).indexes.get? other =
      if indexUid = other then (m.indexes.get? other).map (·.filledWith documents)
      else m.indexes.get? other := by
  cases hindex : m.indexes.get? indexUid with
  | none =>
    simp only [fill, hindex]
    split
    · next heq => rw [← heq, hindex]; rfl
    · rfl
  | some index =>
    rw [fill_of_some hindex, get?_putIndex]
    split
    · next heq => rw [← heq, hindex]; rfl
    · rfl

theorem available_fill (m : Memory) (documents : List Json) (indexUid : String) :
    (m.fill documents indexUid).available = m.available := by
  unfold fill
  split <;> rfl

theorem log_fill (m : Memory) (documents : List Json) (indexUid : String) :
    (m.fill documents indexUid).log = m.log := by
  unfold fill
  split <;> rfl

theorem keyOf?_fill (m : Memory) (documents : List Json) (indexUid other : String) :
    (m.fill documents indexUid).keyOf? other = m.keyOf? other := by
  rw [keyOf?, keyOf?, get?_fill]
  split
  · rw [Option.map_map]; rfl
  · rfl

theorem WellKeyed.fill (hm : m.WellKeyed) (documents : List Json) (indexUid : String) :
    (m.fill documents indexUid).WellKeyed := by
  intro other found hfound
  rw [get?_fill] at hfound
  split at hfound
  · obtain ⟨index, hindex, rfl⟩ := Option.map_eq_some_iff.1 hfound
    exact (hm other index hindex).filledWith documents
  · exact hm other found hfound

theorem addBatches_of_allHave (hm : m.available = true)
    (hindex : m.indexes.get? indexUid = some index) (hkeyed : index.WellKeyed)
    (batches : List (List Json)) (hhave : MemoryIndex.AllHave index.primaryKey batches.flatten)
    (primaryKey : String) :
    Service.addBatches indexUid primaryKey batches m =
      (.ok (), m.putIndex indexUid (index.filledWith batches.flatten)) := by
  -- Each batch goes into what the batches before it have left, and only the last write counts.
  induction batches generalizing m index with
  | nil =>
    rw [List.flatten_nil, hkeyed.filledWith_nil, putIndex_self hindex]
    rfl
  | cons batch more ih =>
    rw [List.flatten_cons] at hhave ⊢
    have hfirst := addDocuments_of_allHave hm hindex hkeyed
      (fun d hd => hhave d (List.mem_append_left _ hd)) primaryKey
    have hm' : (m.putIndex indexUid (index.filledWith batch)).available = true := hm
    have hfound : (m.putIndex indexUid (index.filledWith batch)).indexes.get? indexUid =
        some (index.filledWith batch) := by
      rw [get?_putIndex, if_pos rfl]
    have hrest := ih hm' hfound (hkeyed.filledWith batch) fun d hd => hhave d (List.mem_append_right _ hd)
    rw [putIndex_putIndex, ← MemoryIndex.filledWith_append] at hrest
    exact (run_bind_of_ok hfirst).trans hrest

theorem addBatches_of_not_allHave (hm : m.available = true)
    (hindex : m.indexes.get? indexUid = some index) (hkeyed : index.WellKeyed)
    (batches : List (List Json)) (hhave : ¬ MemoryIndex.AllHave index.primaryKey batches.flatten)
    (primaryKey : String) :
    ∃ e m', Service.addBatches indexUid primaryKey batches m = (.error e, m') := by
  induction batches generalizing m index with
  | nil => exact absurd (fun d hd => absurd hd List.not_mem_nil) hhave
  | cons batch more ih =>
    -- The first batch that is not taken ends it; the batches before it leave the key as it is.
    by_cases hbatch : MemoryIndex.AllHave index.primaryKey batch
    · have hmore : ¬ MemoryIndex.AllHave index.primaryKey more.flatten := by
        intro hmore
        refine hhave fun d hd => ?_
        rcases List.mem_append.1 hd with hd | hd
        · exact hbatch d hd
        · exact hmore d hd
      have hfirst := addDocuments_of_allHave hm hindex hkeyed hbatch primaryKey
      have hm' : (m.putIndex indexUid (index.filledWith batch)).available = true := hm
      have hfound : (m.putIndex indexUid (index.filledWith batch)).indexes.get? indexUid =
          some (index.filledWith batch) := by
        rw [get?_putIndex, if_pos rfl]
      obtain ⟨e, m', hrest⟩ := ih hm' hfound (hkeyed.filledWith batch) hmore
      exact ⟨e, m', (run_bind_of_ok hfirst).trans hrest⟩
    · have hfirst := addDocuments_of_not_allHave hm hindex hkeyed hbatch primaryKey
      exact ⟨_, _, run_bind_of_error hfirst⟩

/-- The index of a variant takes some documents: there are none, or the engine is available and all
of them have the key of the index. -/
def TakesFor (m : Memory) (documents : List Json) (v : Variant) : Prop :=
  documents ≠ [] → m.available = true ∧
    ∃ key, m.keyOf? v.indexUid = some key ∧ MemoryIndex.AllHave key documents

theorem takesFor_fill_iff {v : Variant} :
    (m.fill documents indexUid).TakesFor documents v ↔ m.TakesFor documents v := by
  rw [TakesFor, TakesFor, available_fill, keyOf?_fill]

theorem chunks_ne_nil (batchSize : Nat) (h : documents ≠ []) :
    Service.chunks batchSize documents ≠ [] := by
  intro hnil
  have hflatten := Service.flatten_chunks batchSize documents
  rw [hnil] at hflatten
  exact h hflatten.symm

section Chunks

variable {v : Variant} (hm : m.WellKeyed)
  (hindex : ∃ index, m.indexes.get? v.indexUid = some index) (batchSize : Nat)
include hm hindex

/-- Documents that an index takes are put in, in batches of any size. -/
theorem TakesFor.addBatches (h : m.TakesFor documents v) :
    Service.addBatches v.indexUid v.primaryKey (Service.chunks batchSize documents) m =
      (.ok (), m.fill documents v.indexUid) := by
  obtain ⟨index, hindex⟩ := hindex
  rw [fill_of_some hindex]
  by_cases hnil : documents = []
  · subst hnil
    rw [(hm v.indexUid index hindex).filledWith_nil, putIndex_self hindex]
    rfl
  · obtain ⟨havailable, key, hkey, hhave⟩ := h hnil
    rw [keyOf?, hindex, Option.map_some] at hkey
    obtain rfl := Option.some.inj hkey
    have hkeyed := hm v.indexUid index hindex
    have hall := addBatches_of_allHave havailable hindex hkeyed
      (Service.chunks batchSize documents)
    rw [Service.flatten_chunks] at hall
    exact hall hhave v.primaryKey

theorem addBatches_of_not_takesFor (h : ¬ m.TakesFor documents v) :
    ∃ e m', Service.addBatches v.indexUid v.primaryKey (Service.chunks batchSize documents) m =
      (.error e, m') := by
  obtain ⟨index, hindex⟩ := hindex
  obtain ⟨hne, hrefused⟩ := not_forall.1 h
  cases havailable : m.available with
  | false =>
    -- There is a first batch, and the engine does not take it.
    obtain ⟨batch, more, hbatches⟩ := List.exists_cons_of_ne_nil (chunks_ne_nil batchSize hne)
    have hfirst : addDocuments v.indexUid v.primaryKey batch m = (.error unavailable, m) :=
      whenAvailable_of_false _ havailable
    rw [hbatches]
    exact ⟨unavailable, m, run_bind_of_error hfirst⟩
  | true =>
    have hkeyed := hm v.indexUid index hindex
    refine addBatches_of_not_allHave havailable hindex hkeyed _ (fun hhave => ?_) v.primaryKey
    rw [Service.flatten_chunks] at hhave
    refine hrefused ⟨havailable, index.primaryKey, ?_, hhave⟩
    rw [keyOf?, hindex]
    rfl

end Chunks

theorem exists_index_fill_iff {other : String} :
    (∃ index, (m.fill documents indexUid).indexes.get? other = some index) ↔
      ∃ index, m.indexes.get? other = some index := by
  rw [get?_fill]
  split
  · simp
  · rfl

def givenCounts (documents : List Json) (vs : List Variant) : TextMap Nat :=
  vs.foldr (fun v counts => counts.insert v.indexUid documents.length) ∅

theorem get?_givenCounts (documents : List Json) (vs : List Variant) (indexUid : String) :
    (givenCounts documents vs).get? indexUid =
      if ∃ v ∈ vs, v.indexUid = indexUid then some documents.length else none := by
  induction vs with
  | nil => simp [givenCounts]; rfl
  | cons v more ih =>
    rw [givenCounts] at ih
    rw [givenCounts, List.foldr_cons, TextMap.get?_insert, ih]
    by_cases hv : v.indexUid = indexUid <;> simp [hv]

section Each

variable (hm : m.WellKeyed)
  (hindexes : ∀ v ∈ vs, ∃ index, m.indexes.get? v.indexUid = some index) (batchSize : Nat)
include hm hindexes

/-- If every index takes the documents, all are filled, whatever the size of the batches is. -/
theorem seedEach_of_takesFor (h : ∀ v ∈ vs, m.TakesFor documents v) :
    Service.seedEach documents batchSize vs m =
      (.ok (givenCounts documents vs), fillEach documents vs m) := by
  induction vs generalizing m with
  | nil => rfl
  | cons v more ih =>
    have hv := (h v List.mem_cons_self).addBatches hm (hindexes v List.mem_cons_self) batchSize
    have hrest := ih (hm.fill documents v.indexUid)
      (fun w hw => exists_index_fill_iff.2 (hindexes w (List.mem_cons_of_mem _ hw)))
      (fun w hw => takesFor_fill_iff.2 (h w (List.mem_cons_of_mem _ hw)))
    refine (run_bind_of_ok hv).trans ?_
    exact run_bind_of_ok hrest

/-- If some index does not take the documents, seeding fails, whatever the size of the batches is. -/
theorem seedEach_of_not_takesFor (h : ¬ ∀ v ∈ vs, m.TakesFor documents v) :
    ∃ e m', Service.seedEach documents batchSize vs m = (.error e, m') := by
  induction vs generalizing m with
  | nil => exact absurd (fun _ hv => absurd hv List.not_mem_nil) h
  | cons v more ih =>
    -- Filling one index keeps the keys of all, so the variants behind it are tested as before.
    by_cases hfirst : m.TakesFor documents v
    · have hv := hfirst.addBatches hm (hindexes v List.mem_cons_self) batchSize
      have hmore : ¬ ∀ w ∈ more, (m.fill documents v.indexUid).TakesFor documents w := by
        intro hmore
        refine h fun w hw => ?_
        rcases List.mem_cons.1 hw with rfl | hw
        · exact hfirst
        · exact takesFor_fill_iff.1 (hmore w hw)
      obtain ⟨e, m', hrest⟩ := ih (hm.fill documents v.indexUid)
        (fun w hw => exists_index_fill_iff.2 (hindexes w (List.mem_cons_of_mem _ hw))) hmore
      refine ⟨e, m', (run_bind_of_ok hv).trans ?_⟩
      exact run_bind_of_error hrest
    · obtain ⟨e, m', hv⟩ := addBatches_of_not_takesFor hm (hindexes v List.mem_cons_self) batchSize
        hfirst
      exact ⟨e, m', run_bind_of_error hv⟩

end Each

/-- Of two variants with one index the second finds its documents there already. -/
theorem get?_fillEach (hm : m.WellKeyed) (documents : List Json) (vs : List Variant)
    (indexUid : String) :
    (fillEach documents vs m).indexes.get? indexUid =
      if ∃ v ∈ vs, v.indexUid = indexUid then
        (m.indexes.get? indexUid).map (·.filledWith documents)
      else m.indexes.get? indexUid := by
  induction vs generalizing m with
  | nil => simp [fillEach]
  | cons v more ih =>
    have hrest := ih (hm.fill documents v.indexUid)
    rw [fillEach] at hrest
    rw [fillEach, List.foldl_cons, hrest, get?_fill]
    by_cases hv : v.indexUid = indexUid
    · cases hindex : m.indexes.get? indexUid with
      | none => simp [hv]
      | some index =>
        have htwice := MemoryIndex.filledWith_filledWith (hm indexUid index hindex) documents
        simp [hv, htwice]
    · simp [hv]

/-- Filling touches nothing of the engine but its indexes. -/
theorem fillEach_eq (documents : List Json) (vs : List Variant) (m : Memory) :
    fillEach documents vs m = { m with indexes := (fillEach documents vs m).indexes } := by
  induction vs generalizing m with
  | nil => rfl
  | cons v more ih =>
    have hrest := ih (m.fill documents v.indexUid)
    rw [log_fill, available_fill] at hrest
    exact hrest

/-- Filling indexes that hold the documents already changes nothing. -/
theorem fillEach_of_filled
    (h : ∀ v ∈ vs, ∃ index, m.indexes.get? v.indexUid = some index ∧
      index.filledWith documents = index) : fillEach documents vs m = m := by
  induction vs with
  | nil => rfl
  | cons v more ih =>
    obtain ⟨index, hindex, hfilled⟩ := h v List.mem_cons_self
    have hv : m.fill documents v.indexUid = m := by
      rw [fill_of_some hindex, hfilled, putIndex_self hindex]
    rw [fillEach, List.foldl_cons, hv]
    exact ih fun w hw => h w (List.mem_cons_of_mem _ hw)

end Memory

theorem Registry.mem_configured_iff (r : Registry) (v : Variant) :
    v ∈ r.configured ↔ ∃ name, r.find? name = some ⟨v, .configured⟩ := by
  constructor
  · exact find?_of_mem_configured
  · rintro ⟨name, hfound⟩
    have hentry := (r.entries.get?_eq_some_iff name _).1 hfound
    refine List.mem_map.2 ⟨⟨v, .configured⟩, List.mem_filter.2 ⟨?_, by simp⟩, rfl⟩
    exact List.mem_map.2 ⟨(name, ⟨v, .configured⟩), hentry, rfl⟩

namespace Service

open Memory Attempt

def MakesKeyed : Service Memory → List (Operation Memory) → Prop
  | _, [] => True
  | s, op :: ops =>
    (∀ e ∈ (s.perform op).engine.indexes.entries,
        s.engine.indexes.get? e.1 = none → e.2.primaryKey ≠ "") ∧
      MakesKeyed (s.perform op) ops

instance decidableMakesKeyed :
    (s : Service Memory) → (ops : List (Operation Memory)) → Decidable (MakesKeyed s ops)
  | _, [] => inferInstanceAs (Decidable True)
  | s, op :: ops =>
    have := decidableMakesKeyed (s.perform op) ops
    inferInstanceAs (Decidable (_ ∧ MakesKeyed (s.perform op) ops))

theorem keysStay_updateSettings (indexUid : String) (settings : Settings) :
    Keeps KeysStay (updateSettings indexUid settings) := by
  refine keeps_whenAvailable kept_keysStay fun m hm => ?_
  split
  · exact ⟨hm, fun _ => rfl⟩
  · next index hindex =>
    have hkeyed := (hm indexUid index hindex).withSettings (some settings) (index.settingsUpdates + 1)
    exact ⟨hm.putIndex hkeyed, keyOf?_putIndex_of_some hindex rfl⟩

/-- Every call but the one that makes indexes leaves their keys. -/
theorem keysStay_call (c : EngineCall)
    (hc : ∀ indexUid primaryKey, c ≠ .createIndex indexUid primaryKey) (m : Memory) :
    KeysStay m (c.perform m) := by
  cases c with
  | createIndex indexUid primaryKey => exact absurd rfl (hc indexUid primaryKey)
  | updateSettings indexUid settings => exact keysStay_updateSettings indexUid settings m
  | addDocuments indexUid primaryKey documents =>
    exact keysStay_addDocuments indexUid primaryKey documents m
  | search indexUid query => exact keysStay_search indexUid query m
  | health => exact keeps_whenAvailable kept_keysStay (keeps_pure kept_keysStay ()) m

theorem wellKeyed_createIndex {m : Memory} (hm : m.WellKeyed) (indexUid primaryKey : String)
    (hmade : ∀ e ∈ (createIndex indexUid primaryKey m).2.indexes.entries,
      m.indexes.get? e.1 = none → e.2.primaryKey ≠ "") :
    (createIndex indexUid primaryKey m).2.WellKeyed := by
  cases havailable : m.available with
  | false =>
    have hfails : createIndex indexUid primaryKey m = (.error unavailable, m) :=
      whenAvailable_of_false _ havailable
    rwa [hfails]
  | true =>
    cases hindex : m.indexes.get? indexUid with
    | some index => rwa [createIndex_of_some primaryKey havailable hindex]
    | none =>
      rw [createIndex_of_none primaryKey havailable hindex] at hmade ⊢
      have hentry : (indexUid, MemoryIndex.ofKey primaryKey) ∈
          (m.putIndex indexUid (.ofKey primaryKey)).indexes.entries := by
        rw [← TextMap.get?_eq_some_iff, get?_putIndex, if_pos rfl]
      -- The index is new, so its key is one of those that are made.
      have hnamed := hmade _ hentry hindex
      exact hm.putIndex (MemoryIndex.wellKeyed_ofKey hnamed)

theorem wellKeyed_apply {s : Service Memory} (hs : s.engine.WellKeyed) (name : String) :
    (apply name s).2.engine.WellKeyed := by
  cases happly : (apply name s).1 with
  | error e => rwa [engine_apply_of_error happly]
  | ok u =>
    obtain ⟨v, -, hnamed, hengine⟩ := apply_eq_ok happly
    rw [hengine]
    exact hs.pushed hnamed

theorem wellKeyed_perform {s : Service Memory} (hs : s.engine.WellKeyed) (op : Operation Memory)
    (hop : op.OnlyOutages)
    (hmade : ∀ e ∈ (s.perform op).engine.indexes.entries,
      s.engine.indexes.get? e.1 = none → e.2.primaryKey ≠ "") :
    (s.perform op).engine.WellKeyed := by
  cases op with
  | register v => exact hs
  | bind name chain => exact hs
  | apply name => exact wellKeyed_apply hs name
  | applyAll =>
    exact applyEach_induction (fun t => t.engine.WellKeyed) (fun name t ht => wellKeyed_apply ht name)
      _ s hs
  | seed documents batchSize =>
    have hstay := keeps_seedEach kept_keysStay documents batchSize s.registry.configured
      (fun v _ => keysStay_addDocuments v.indexUid v.primaryKey) s.engine
    exact (hstay hs).1
  | build name p => rwa [perform, engine_build]
  | execute name request =>
    exact (engine_execute kept_keysStay keysStay_search name request s hs).1
  | call c =>
    -- Only a call that makes an index can bring one without a key.
    by_cases hc : ∃ indexUid primaryKey, c = .createIndex indexUid primaryKey
    · obtain ⟨indexUid, primaryKey, rfl⟩ := hc
      exact wellKeyed_createIndex hs indexUid primaryKey hmade
    · exact (keysStay_call c (fun indexUid primaryKey heq => hc ⟨indexUid, primaryKey, heq⟩)
        s.engine hs).1
  | incident change =>
    obtain ⟨available, rfl⟩ := hop
    exact (keysStay_setAvailable s.engine available hs).1

theorem wellKeyed_run {s : Service Memory} (hs : s.engine.WellKeyed) (ops : List (Operation Memory))
    (hops : ∀ op ∈ ops, op.OnlyOutages) (hmade : MakesKeyed s ops) :
    (s.run ops).engine.WellKeyed := by
  induction ops generalizing s with
  | nil => exact hs
  | cons op ops ih =>
    have hstep := wellKeyed_perform hs op (hops op List.mem_cons_self) hmade.1
    exact ih hstep (fun op' hop' => hops op' (List.mem_cons_of_mem _ hop')) hmade.2

/-- Documents can be given to all configured variants: there are none, or the engine is available and
all of them have the key of the index of every configured variant. -/
def Takes (s : Service Memory) (documents : List Json) : Prop :=
  ∀ name v, s.registry.find? name = some ⟨v, .configured⟩ → s.engine.TakesFor documents v

structure Seeded (documents : List Json) (s s' : Service Memory) (counts : TextMap Nat) : Prop where
  /-- The index of a configured variant holds what it held, with the documents put in. -/
  filled : ∀ name v, s.registry.find? name = some ⟨v, .configured⟩ →
    ∃ index, s.engine.indexes.get? v.indexUid = some index ∧
      s'.engine.indexes.get? v.indexUid = some (index.filledWith documents)
  other : ∀ indexUid,
    (∀ name v, s.registry.find? name = some ⟨v, .configured⟩ → v.indexUid ≠ indexUid) →
      s'.engine.indexes.get? indexUid = s.engine.indexes.get? indexUid
  rest : s' = { s with engine := { s.engine with indexes := s'.engine.indexes } }
  /-- The index of every configured variant was given all documents. -/
  counted : ∀ name v, s.registry.find? name = some ⟨v, .configured⟩ →
    counts.get? v.indexUid = some documents.length
  uncounted : ∀ indexUid,
    (∀ name v, s.registry.find? name = some ⟨v, .configured⟩ → v.indexUid ≠ indexUid) →
      counts.get? indexUid = none

def filled (s : Service Memory) (documents : List Json) : Service Memory :=
  { s with engine := fillEach documents s.registry.configured s.engine }

section Seed

variable {s : Service Memory} {documents : List Json}

theorem takes_iff :
    s.Takes documents ↔ ∀ v ∈ s.registry.configured, s.engine.TakesFor documents v := by
  constructor
  · intro h v hv
    obtain ⟨name, hname⟩ := (s.registry.mem_configured_iff v).1 hv
    exact h name v hname
  · intro h name v hname
    exact h v ((s.registry.mem_configured_iff v).2 ⟨name, hname⟩)

theorem exists_configured_index_iff (r : Registry) (indexUid : String) :
    (∃ v ∈ r.configured, v.indexUid = indexUid) ↔
      ∃ name v, r.find? name = some ⟨v, .configured⟩ ∧ v.indexUid = indexUid := by
  constructor
  · rintro ⟨v, hv, hindex⟩
    obtain ⟨name, hname⟩ := (r.mem_configured_iff v).1 hv
    exact ⟨name, v, hname, hindex⟩
  · rintro ⟨name, v, hname, hindex⟩
    exact ⟨v, (r.mem_configured_iff v).2 ⟨name, hname⟩, hindex⟩

variable (hindexes : ∀ name v, s.registry.find? name = some ⟨v, .configured⟩ →
    ∃ index, s.engine.indexes.get? v.indexUid = some index)
include hindexes

theorem exists_index_of_mem_configured :
    ∀ v ∈ s.registry.configured, ∃ index, s.engine.indexes.get? v.indexUid = some index := by
  intro v hv
  obtain ⟨name, hname⟩ := (s.registry.mem_configured_iff v).1 hv
  exact hindexes name v hname

variable (hs : s.engine.WellKeyed)
include hs

theorem seed_of_takes (h : s.Takes documents) (batchSize : Nat) :
    seed documents batchSize s =
      (.ok (givenCounts documents s.registry.configured), s.filled documents) := by
  have hengine := seedEach_of_takesFor hs (exists_index_of_mem_configured hindexes) batchSize
    (takes_iff.1 h)
  change asking (seedEach documents batchSize s.registry.configured) s = _
  unfold asking Attempt.on
  rw [hengine]
  rfl

theorem seed_of_not_takes (h : ¬ s.Takes documents) (batchSize : Nat) :
    ∃ e, (seed documents batchSize s).1 = .error e := by
  obtain ⟨e, m', hengine⟩ := seedEach_of_not_takesFor hs
    (exists_index_of_mem_configured hindexes) batchSize (fun hall => h (takes_iff.2 hall))
  refine ⟨e, ?_⟩
  change (asking (seedEach documents batchSize s.registry.configured) s).1 = _
  unfold asking Attempt.on
  rw [hengine]

theorem seeded_filled :
    Seeded documents s (s.filled documents) (givenCounts documents s.registry.configured) where
  filled name v hv := by
    obtain ⟨index, hindex⟩ := hindexes name v hv
    have hmem := (exists_configured_index_iff s.registry v.indexUid).2 ⟨name, v, hv, rfl⟩
    refine ⟨index, hindex, ?_⟩
    rw [Service.filled, get?_fillEach hs, if_pos hmem, hindex]
    rfl
  other indexUid hother := by
    rw [Service.filled, get?_fillEach hs, if_neg]
    rw [exists_configured_index_iff]
    rintro ⟨name, v, hv, hindex⟩
    exact hother name v hv hindex
  rest := by
    rw [Service.filled]
    dsimp only
    rw [← fillEach_eq]
  counted name v hv := by
    have hmem := (exists_configured_index_iff s.registry v.indexUid).2 ⟨name, v, hv, rfl⟩
    rw [get?_givenCounts, if_pos hmem]
  uncounted indexUid hother := by
    rw [get?_givenCounts, if_neg]
    rw [exists_configured_index_iff]
    rintro ⟨name, v, hv, hindex⟩
    exact hother name v hv hindex

/-- The same documents are taken again, and change nothing. -/
theorem seed_filled (h : s.Takes documents) (batchSize : Nat) :
    seed documents batchSize (s.filled documents) =
      (.ok (givenCounts documents s.registry.configured), s.filled documents) := by
  have hfilled : Seeded documents s (s.filled documents)
      (givenCounts documents s.registry.configured) := seeded_filled hindexes hs
  have hs' : (s.filled documents).engine.WellKeyed := by
    intro indexUid found hfound
    rw [Service.filled, get?_fillEach hs] at hfound
    split at hfound
    · obtain ⟨index, hindex, rfl⟩ := Option.map_eq_some_iff.1 hfound
      exact (hs indexUid index hindex).filledWith documents
    · exact hs indexUid found hfound
  have hindexes' : ∀ name v, (s.filled documents).registry.find? name = some ⟨v, .configured⟩ →
      ∃ index, (s.filled documents).engine.indexes.get? v.indexUid = some index := by
    intro name v hv
    obtain ⟨index, -, hindex⟩ := hfilled.filled name v hv
    exact ⟨_, hindex⟩
  have htakes : (s.filled documents).Takes documents := by
    intro name v hv hne
    obtain ⟨havailable, key, hkey, hhave⟩ := h name v hv hne
    obtain ⟨index, hindex, hindex'⟩ := hfilled.filled name v hv
    rw [keyOf?, hindex] at hkey
    refine ⟨?_, key, ?_, hhave⟩
    · rw [hfilled.rest]
      exact havailable
    · rw [keyOf?, hindex']
      exact hkey
  -- Every index has the documents already, under the keys that they have.
  have hsame : (s.filled documents).filled documents = s.filled documents := by
    have hengine : fillEach documents s.registry.configured (s.filled documents).engine =
        (s.filled documents).engine := by
      refine fillEach_of_filled fun v hv => ?_
      obtain ⟨name, hname⟩ := (s.registry.mem_configured_iff v).1 hv
      obtain ⟨index, hindex, hindex'⟩ := hfilled.filled name v hname
      exact ⟨_, hindex', MemoryIndex.filledWith_filledWith (hs v.indexUid index hindex) documents⟩
    rw [Service.filled, Service.filled]
    dsimp only
    exact congrArg (fun engine => { s with engine }) hengine
  have hagain := seed_of_takes hindexes' hs' htakes batchSize
  rw [hsame] at hagain
  exact hagain

end Seed

/-- In every state of a run over a fresh engine, in which every index got a key when it was made,
giving documents to all configured variants does not depend on the size of the batches. Either it
fails in batches of every size, or it succeeds in batches of every size and ends in one and the same
state, in which giving the same documents again succeeds and changes nothing. -/
theorem seed_same_in_batches (capacity : Nat) (ops : List (Operation Memory))
    (hops : ∀ op ∈ ops, op.OnlyOutages) (hmade : MakesKeyed (start (Memory.fresh capacity)) ops)
    (s : Service Memory) (hs : s = (start (Memory.fresh capacity)).run ops)
    (documents : List Json) :
    (¬ s.Takes documents ∧ ∀ batchSize, ∃ e, (seed documents batchSize s).1 = .error e) ∨
      (s.Takes documents ∧ ∃ counts s', Seeded documents s s' counts ∧
        (∀ batchSize, seed documents batchSize s = (.ok counts, s')) ∧
          ∀ batchSize, seed documents batchSize s' = (.ok counts, s')) := by
  have hstart : (start (Memory.fresh capacity)).engine.WellKeyed := by
    intro indexUid index hindex
    cases hindex
  have hwell : s.engine.WellKeyed := by
    rw [hs]
    exact wellKeyed_run hstart ops hops hmade
  have hindexes : ∀ name v, s.registry.find? name = some ⟨v, .configured⟩ →
      ∃ index, s.engine.indexes.get? v.indexUid = some index := by
    intro name v hv
    rw [hs] at hv ⊢
    obtain ⟨settings, hsettings⟩ := hasSettings_of_configured capacity ops hops hv
    obtain ⟨index, hindex, -⟩ := (settings?_eq_some_iff _ _ _).1 hsettings
    exact ⟨index, hindex⟩
  -- Whether the documents are taken is decided before any is sent, so the batches play no part in
  -- it.
  by_cases htakes : s.Takes documents
  · exact Or.inr ⟨htakes, _, _, seeded_filled hindexes hwell, seed_of_takes hindexes hwell htakes,
      seed_filled hindexes hwell htakes⟩
  · exact Or.inl ⟨htakes, seed_of_not_takes hindexes hwell htakes⟩

def sharingRun : List (Operation Memory) :=
  [.register (.plain "v1"), .register { Variant.plain "v2" with indexUid := "idx_v1" },
    .register (.plain "v3"), .apply "v1", .apply "v2", .incident fun m => m.setAvailable false,
    .apply "v3", .incident fun m => m.setAvailable true, .call (.createIndex "idx_v4" "sku")]

def afterSharing : Service Memory := (start (Memory.fresh 1)).run sharingRun

def repeated : List Json :=
  [.ofMembers [("id", .nat 1)], .ofMembers [("id", .nat 2)],
    .ofMembers [("id", .nat 1), ("title", .text "hail")]]

theorem seed_same_in_batches_after_sharingRun :
    (∀ op ∈ sharingRun, op.OnlyOutages) ∧ MakesKeyed (start (Memory.fresh 1)) sharingRun ∧
      ∃ counts s', Seeded repeated afterSharing s' counts ∧
        ∀ batchSize, seed repeated batchSize afterSharing = (.ok counts, s') := by
  have hops : ∀ op ∈ sharingRun, op.OnlyOutages := by simp [sharingRun, Operation.OnlyOutages]
  have hmade : MakesKeyed (start (Memory.fresh 1)) sharingRun := by decide +kernel
  refine ⟨hops, hmade, ?_⟩
  rcases seed_same_in_batches 1 sharingRun hops hmade afterSharing rfl repeated with
    ⟨-, hfails⟩ | ⟨-, counts, s', hseeded, hsame, -⟩
  · obtain ⟨e, he⟩ := hfails 2
    have hok : (seed repeated 2 afterSharing).1.isOk = true := by decide +kernel
    rw [he] at hok
    cases hok
  · exact ⟨counts, s', hseeded, hsame⟩

end Service

end VariantSearch

import VariantSearch.Proofs.MemoryCalls
import VariantSearch.Proofs.Positions
import VariantSearch.Proofs.Traversal

namespace VariantSearch

namespace MemoryIndex

/-- The index has a key, and every document stands under the written value of it, each under a value
of its own that has the position of the document. -/
structure WellKeyed (index : MemoryIndex) : Prop extends Placed index where
  named : index.primaryKey ≠ ""
  keyed : ∀ e ∈ index.documents, keyText? index.primaryKey e.2 = some e.1

variable {index : MemoryIndex}

theorem WellKeyed.upsert (h : index.WellKeyed) {e : String × Json}
    (he : keyText? index.primaryKey e.2 = some e.1) : (index.upsert e).WellKeyed := by
  have hplaced := h.toPlaced.upsert e
  rw [h.upsert_eq] at hplaced ⊢
  refine ⟨hplaced, h.named, fun e' he' => ?_⟩
  rcases eq_or_mem_of_mem_upsertInto he' with rfl | he'
  · exact he
  · exact h.keyed e' he'

theorem WellKeyed.foldl_upsert (h : index.WellKeyed) (entries : List (String × Json))
    (hentries : ∀ e ∈ entries, keyText? index.primaryKey e.2 = some e.1) :
    (entries.foldl MemoryIndex.upsert index).WellKeyed := by
  induction entries generalizing index with
  | nil => exact h
  | cons e rest ih =>
    have hfirst := h.upsert (hentries e List.mem_cons_self)
    have hkey : (index.upsert e).primaryKey = index.primaryKey := by rw [h.upsert_eq]; rfl
    exact ih hfirst fun e' he' => hkey ▸ hentries e' (List.mem_cons_of_mem _ he')

/-- An index that was just made is well keyed if it has a key. -/
theorem wellKeyed_ofKey {primaryKey : String} (h : primaryKey ≠ "") : (ofKey primaryKey).WellKeyed :=
  ⟨placed_ofKey primaryKey, h, fun _ he => absurd he List.not_mem_nil⟩

/-- Setting the settings leaves the key, the documents and their positions. -/
theorem WellKeyed.withSettings (h : index.WellKeyed) (settings : Option Settings) (updates : Nat) :
    { index with settings := settings, settingsUpdates := updates : MemoryIndex }.WellKeyed :=
  ⟨⟨h.apart, h.placed⟩, h.named, h.keyed⟩

theorem primaryKey_add {filled : MemoryIndex} {documents : List Json}
    (h : index.add documents = .ok filled) : filled.primaryKey = index.primaryKey := by
  obtain ⟨stored, positions, rfl⟩ := Memory.exists_documents_of_add h
  rfl

theorem WellKeyed.add (h : index.WellKeyed) {filled : MemoryIndex} {documents : List Json}
    (hadd : index.add documents = .ok filled) : filled.WellKeyed := by
  unfold MemoryIndex.add at hadd
  split at hadd
  · cases hadd
  · next entries hentries =>
    obtain rfl := Except.ok.inj hadd
    refine h.foldl_upsert entries fun e he => ?_
    obtain ⟨d, -, hd⟩ := exists_of_mem_mapM hentries he
    obtain ⟨text, htext, rfl⟩ := Option.map_eq_some_iff.1 hd
    exact htext

/-- An index takes documents that all have its key. -/
theorem exists_add_eq_ok {documents : List Json}
    (h : ∀ d ∈ documents, ∃ value, d.member? index.primaryKey = some value) :
    ∃ filled, index.add documents = .ok filled := by
  have hentries : ∀ d ∈ documents, ∃ entry,
      (keyText? index.primaryKey d).map (·, d) = some entry := by
    intro d hd
    obtain ⟨value, hvalue⟩ := h d hd
    exact ⟨(value.toText, d), by rw [keyText?, hvalue]; rfl⟩
  obtain ⟨entries, hentries⟩ := exists_mapM_eq_some hentries
  exact ⟨entries.foldl upsert index, by simp only [add, hentries]⟩

theorem keyedBy_of_ne {offered : String} (h : index.primaryKey ≠ "") :
    index.keyedBy offered = index := if_neg h

end MemoryIndex

namespace Memory

open Attempt

def keyOf? (m : Memory) (indexUid : String) : Option String :=
  (m.indexes.get? indexUid).map (·.primaryKey)

def WellKeyed (m : Memory) : Prop :=
  ∀ indexUid index, m.indexes.get? indexUid = some index → index.WellKeyed

/-- No index comes or goes or gets another key, and documents stay well keyed. -/
def KeysStay (m m' : Memory) : Prop :=
  m.WellKeyed → m'.WellKeyed ∧ ∀ indexUid, m'.keyOf? indexUid = m.keyOf? indexUid

theorem kept_keysStay : Kept KeysStay where
  refl _ h := ⟨h, fun _ => rfl⟩
  trans _ _ _ h h' hm := by
    obtain ⟨hwell, hkeys⟩ := h hm
    obtain ⟨hwell', hkeys'⟩ := h' hwell
    exact ⟨hwell', fun indexUid => (hkeys' indexUid).trans (hkeys indexUid)⟩

theorem keyOf?_putIndex (m : Memory) (indexUid other : String) (index : MemoryIndex) :
    (m.putIndex indexUid index).keyOf? other =
      if indexUid = other then some index.primaryKey else m.keyOf? other := by
  rw [keyOf?, get?_putIndex]
  split <;> rfl

theorem WellKeyed.putIndex {m : Memory} (hm : m.WellKeyed) {indexUid : String} {index : MemoryIndex}
    (h : index.WellKeyed) : (m.putIndex indexUid index).WellKeyed := by
  intro other found hfound
  rw [get?_putIndex] at hfound
  split at hfound
  · obtain rfl := Option.some.inj hfound
    exact h
  · exact hm other found hfound

/-- An index may be replaced by one with the same key. -/
theorem keyOf?_putIndex_of_some {m : Memory} {indexUid : String} {old index : MemoryIndex}
    (hold : m.indexes.get? indexUid = some old) (hkey : index.primaryKey = old.primaryKey)
    (other : String) : (m.putIndex indexUid index).keyOf? other = m.keyOf? other := by
  rw [keyOf?_putIndex]
  split
  · next heq => rw [← heq, keyOf?, hold, hkey]; rfl
  · rfl

theorem keysStay_of_indexes {m m' : Memory} (h : m'.indexes = m.indexes) : KeysStay m m' := by
  intro hm
  refine ⟨?_, fun indexUid => by rw [keyOf?, keyOf?, h]⟩
  intro indexUid index hindex
  rw [h] at hindex
  exact hm indexUid index hindex

theorem keysStay_setAvailable (m : Memory) (available : Bool) :
    KeysStay m (m.setAvailable available) := keysStay_of_indexes rfl

theorem keysStay_search (indexUid : String) (query : EngineQuery) :
    Keeps KeysStay (search indexUid query) := by
  refine keeps_whenAvailable kept_keysStay fun m => ?_
  dsimp only
  split <;> exact keysStay_of_indexes rfl

theorem keysStay_addDocuments (indexUid primaryKey : String) (documents : List Json) :
    Keeps KeysStay (addDocuments indexUid primaryKey documents) := by
  refine keeps_whenAvailable kept_keysStay fun m hm => ?_
  split
  · exact ⟨hm, fun _ => rfl⟩
  · next index hindex =>
    have hwell := hm indexUid index hindex
    -- The index has a key, so the offered one is not looked at.
    rw [MemoryIndex.keyedBy_of_ne hwell.named]
    dsimp only
    split
    · exact ⟨hm.putIndex hwell, keyOf?_putIndex_of_some hindex rfl⟩
    · next filled hfilled =>
      have hkey := MemoryIndex.primaryKey_add hfilled
      exact ⟨hm.putIndex (hwell.add hfilled), keyOf?_putIndex_of_some hindex hkey⟩

/-- A push keeps the key of the index, and an index that it makes has the key of the variant. -/
theorem keyOf?_pushed (m : Memory) (v : Variant) (indexUid : String) :
    (m.pushed v).keyOf? indexUid =
      (m.keyOf? indexUid).or (if v.indexUid = indexUid then some v.primaryKey else none) := by
  rw [pushed, keyOf?_putIndex]
  split
  · next heq =>
    rw [keyOf?, heq]
    cases m.indexes.get? indexUid <;> rfl
  · rw [Option.or_none]

theorem WellKeyed.pushed {m : Memory} (hm : m.WellKeyed) {v : Variant} (hv : v.primaryKey ≠ "") :
    (m.pushed v).WellKeyed := by
  refine hm.putIndex ?_
  cases hindex : m.indexes.get? v.indexUid with
  | none => exact (MemoryIndex.wellKeyed_ofKey hv).withSettings _ _
  | some index => exact (hm v.indexUid index hindex).withSettings _ _

structure Takes (documents : List Json) (vs : List Variant) (m : Memory) : Prop where
  available : m.available = true
  keyed : ∀ v ∈ vs, ∃ key, m.keyOf? v.indexUid = some key ∧ key ≠ "" ∧
    ∀ d ∈ documents, ∃ value, d.member? key = some value

variable {documents : List Json} {vs : List Variant} {m : Memory}

theorem Takes.addDocuments (h : m.Takes documents vs) {v : Variant} (hv : v ∈ vs)
    {batch : List Json} (hbatch : batch ⊆ documents) :
    ∃ m', addDocuments v.indexUid v.primaryKey batch m = (.ok (), m') ∧ m'.Takes documents vs := by
  obtain ⟨key, hkey, hnamed, hcarry⟩ := h.keyed v hv
  obtain ⟨index, hindex, rfl⟩ := Option.map_eq_some_iff.1 hkey
  obtain ⟨filled, hfilled⟩ := MemoryIndex.exists_add_eq_ok fun d hd => hcarry d (hbatch hd)
  refine ⟨m.putIndex v.indexUid filled, ?_, h.available, ?_⟩
  · -- The index has a key, so the key that the variant offers does not matter.
    simp only [Memory.addDocuments, whenAvailable, h.available, ↓reduceIte, hindex,
      MemoryIndex.keyedBy_of_ne hnamed, hfilled]
  · -- Another variant may have the same index, and it finds the same key there.
    intro w hw
    rw [keyOf?_putIndex_of_some hindex (MemoryIndex.primaryKey_add hfilled)]
    exact h.keyed w hw

theorem Takes.addBatches (h : m.Takes documents vs) {v : Variant} (hv : v ∈ vs)
    (batches : List (List Json)) (hbatches : ∀ batch ∈ batches, batch ⊆ documents) :
    ∃ m', Service.addBatches v.indexUid v.primaryKey batches m = (.ok (), m') ∧
      m'.Takes documents vs := by
  induction batches generalizing m with
  | nil => exact ⟨m, rfl, h⟩
  | cons batch more ih =>
    obtain ⟨m₁, hfirst, h₁⟩ := h.addDocuments hv (hbatches batch List.mem_cons_self)
    obtain ⟨m₂, hrest, h₂⟩ := ih h₁ fun b hb => hbatches b (List.mem_cons_of_mem _ hb)
    exact ⟨m₂, (run_bind_of_ok hfirst).trans hrest, h₂⟩

theorem subset_of_mem_chunks {size : Nat} {batch : List Json}
    (h : batch ∈ Service.chunks size documents) : batch ⊆ documents := by
  intro d hd
  rw [← Service.flatten_chunks size documents]
  exact List.mem_flatten.2 ⟨batch, h, hd⟩

/-- Documents that have the keys of the indexes are taken by all of them. -/
theorem Takes.seedEach (batchSize : Nat) (h : m.Takes documents vs) (ws : List Variant)
    (hws : ws ⊆ vs) : ∃ counts, (Service.seedEach documents batchSize ws m).1 = .ok counts := by
  -- All variants stay in view, since the indexes to come must still have their keys.
  induction ws generalizing m with
  | nil => exact ⟨∅, rfl⟩
  | cons w more ih =>
    obtain ⟨m₁, hfirst, h₁⟩ := h.addBatches (hws List.mem_cons_self)
      (Service.chunks batchSize documents) fun _ hbatch => subset_of_mem_chunks hbatch
    obtain ⟨counts, hcounts⟩ := ih h₁ fun _ hv => hws (List.mem_cons_of_mem _ hv)
    obtain ⟨m₂, hrest⟩ : ∃ m₂, Service.seedEach documents batchSize more m₁ = (.ok counts, m₂) :=
      ⟨_, Prod.ext hcounts rfl⟩
    have hall : Service.seedEach documents batchSize (w :: more) m =
        (.ok (counts.insert w.indexUid documents.length), m₂) := by
      refine (run_bind_of_ok hfirst).trans ?_
      exact run_bind_of_ok hrest
    exact ⟨counts.insert w.indexUid documents.length, congrArg Prod.fst hall⟩

end Memory

end VariantSearch

import VariantSearch.Proofs.KeyedDocuments

namespace VariantSearch

namespace MemoryIndex

def entriesOf (primaryKey : String) (documents : List Json) : List (String × Json) :=
  documents.filterMap fun d => (keyText? primaryKey d).map (·, d)

def upsertAll (entries stored : List (String × Json)) : List (String × Json) :=
  entries.foldl (fun stored e => upsertInto e.1 e.2 stored) stored

def filledWith (index : MemoryIndex) (documents : List Json) : MemoryIndex :=
  index.holding (upsertAll (entriesOf index.primaryKey documents) index.documents)

def AllHave (primaryKey : String) (documents : List Json) : Prop :=
  ∀ d ∈ documents, ∃ value, d.member? primaryKey = some value

section Stored

variable {key other : String} {document : Json} {entries stored : List (String × Json)}

theorem upsertAll_append (first second stored : List (String × Json)) :
    upsertAll (first ++ second) stored = upsertAll second (upsertAll first stored) :=
  List.foldl_append

theorem lookup_upsertInto (key other : String) (document : Json) (stored : List (String × Json)) :
    TextMap.lookup other (upsertInto key document stored) =
      if key = other then some document else TextMap.lookup other stored := by
  induction stored with
  | nil => rfl
  | cons first rest ih =>
    obtain ⟨k, d⟩ := first
    rw [upsertInto]
    by_cases hk : k = key
    · subst hk
      rw [if_pos rfl, TextMap.lookup, TextMap.lookup]
      split <;> rfl
    · rw [if_neg hk, TextMap.lookup, TextMap.lookup, ih]
      by_cases hother : k = other
      · subst hother
        rw [if_pos rfl, if_neg (Ne.symm hk), if_pos rfl]
      · rw [if_neg hother, if_neg hother]

theorem lookup_append (key : String) (first second : List (String × Json)) :
    TextMap.lookup key (first ++ second) =
      (TextMap.lookup key first).or (TextMap.lookup key second) := by
  induction first with
  | nil => rfl
  | cons e rest ih =>
    rw [List.cons_append, TextMap.lookup, TextMap.lookup, ih]
    split <;> rfl

/-- A key has the last document that was put in under it, or else the one that it had. -/
theorem lookup_upsertAll (key : String) (entries stored : List (String × Json)) :
    TextMap.lookup key (upsertAll entries stored) =
      (TextMap.lookup key entries.reverse).or (TextMap.lookup key stored) := by
  induction entries generalizing stored with
  | nil => rfl
  | cons e rest ih =>
    have hrest := ih (upsertInto e.1 e.2 stored)
    rw [upsertAll] at hrest
    rw [upsertAll, List.foldl_cons, hrest, List.reverse_cons, lookup_append, Option.or_assoc,
      lookup_upsertInto, TextMap.lookup, TextMap.lookup]
    split <;> rfl

theorem mem_keys_upsertInto :
    other ∈ (upsertInto key document stored).map (·.1) ↔
      other = key ∨ other ∈ stored.map (·.1) := by
  rw [keys_upsertInto]
  split
  · next hkey =>
    constructor
    · exact Or.inr
    · rintro (rfl | h)
      · exact hkey
      · exact h
  · rw [List.mem_append, List.mem_singleton, or_comm]

theorem mem_keys_upsertAll :
    other ∈ (upsertAll entries stored).map (·.1) ↔
      other ∈ entries.map (·.1) ∨ other ∈ stored.map (·.1) := by
  induction entries generalizing stored with
  | nil => simp [upsertAll]
  | cons e rest ih =>
    have hrest := @ih (upsertInto e.1 e.2 stored)
    rw [upsertAll] at hrest
    rw [upsertAll, List.foldl_cons, hrest, mem_keys_upsertInto, List.map_cons, List.mem_cons]
    tauto

/-- Documents under keys that are stored already take the places of others. -/
theorem keys_upsertAll_of_subset (h : entries.map (·.1) ⊆ stored.map (·.1)) :
    (upsertAll entries stored).map (·.1) = stored.map (·.1) := by
  induction entries generalizing stored with
  | nil => rfl
  | cons e rest ih =>
    rw [List.map_cons, List.cons_subset] at h
    have hfirst : (upsertInto e.1 e.2 stored).map (·.1) = stored.map (·.1) := by
      rw [keys_upsertInto, if_pos h.1]
    have hrest := @ih (upsertInto e.1 e.2 stored) (by rw [hfirst]; exact h.2)
    rw [← hfirst]
    exact hrest

theorem nodup_upsertAll (h : (stored.map (·.1)).Nodup) :
    ((upsertAll entries stored).map (·.1)).Nodup := by
  induction entries generalizing stored with
  | nil => exact h
  | cons e rest ih => exact ih (nodup_upsertInto h)

theorem lookup_eq_none (h : key ∉ stored.map (·.1)) : TextMap.lookup key stored = none := by
  refine Option.eq_none_iff_forall_ne_some.2 fun d hd => h ?_
  exact List.mem_map.2 ⟨(key, d), TextMap.mem_of_lookup hd, rfl⟩

/-- Stored documents are determined by the order of their keys and what is found under each. -/
theorem eq_of_lookup_eq {first second : List (String × Json)}
    (hkeys : first.map (·.1) = second.map (·.1)) (hnodup : (first.map (·.1)).Nodup)
    (h : ∀ key, TextMap.lookup key first = TextMap.lookup key second) : first = second := by
  induction first generalizing second with
  | nil => exact (List.map_eq_nil_iff.1 hkeys.symm).symm
  | cons e rest ih =>
    cases second with
    | nil => cases hkeys
    | cons f more =>
      obtain ⟨k, d⟩ := e
      obtain ⟨l, d'⟩ := f
      simp only [List.map_cons, List.cons.injEq] at hkeys hnodup
      obtain ⟨rfl, hkeys⟩ := hkeys
      obtain ⟨hnew, hnodup⟩ := List.nodup_cons.1 hnodup
      have hhead := h k
      simp only [TextMap.lookup, if_true, Option.some.injEq] at hhead
      have htail : rest = more := by
        refine ih hkeys hnodup fun key => ?_
        by_cases hkey : k = key
        · -- The first key stands nowhere else, so neither rest has it.
          subst hkey
          rw [lookup_eq_none hnew, lookup_eq_none (hkeys ▸ hnew)]
        · have hother := h key
          simpa only [TextMap.lookup, if_neg hkey] using hother
      rw [hhead, htail]

/-- Putting in the same documents again changes nothing. -/
theorem upsertAll_upsertAll (h : (stored.map (·.1)).Nodup) :
    upsertAll entries (upsertAll entries stored) = upsertAll entries stored := by
  have hsubset : entries.map (·.1) ⊆ (upsertAll entries stored).map (·.1) := fun key hkey =>
    mem_keys_upsertAll.2 (Or.inl hkey)
  have hnodup : ((upsertAll entries (upsertAll entries stored)).map (·.1)).Nodup :=
    nodup_upsertAll (nodup_upsertAll h)
  refine eq_of_lookup_eq (keys_upsertAll_of_subset hsubset) hnodup fun key => ?_
  rw [lookup_upsertAll, lookup_upsertAll]
  cases TextMap.lookup key entries.reverse <;> rfl

end Stored

variable {index : MemoryIndex} {documents : List Json}

theorem Placed.filledWith_nil (h : index.Placed) : index.filledWith [] = index :=
  h.holding_documents

/-- Documents may be put in piece by piece. -/
theorem filledWith_append (index : MemoryIndex) (first second : List Json) :
    index.filledWith (first ++ second) = (index.filledWith first).filledWith second := by
  simp only [filledWith, holding, entriesOf, List.filterMap_append, upsertAll_append]

theorem filledWith_filledWith (h : index.WellKeyed) (documents : List Json) :
    (index.filledWith documents).filledWith documents = index.filledWith documents := by
  simp only [filledWith, holding, upsertAll_upsertAll h.apart]

theorem Placed.foldl_upsert_entriesOf (h : index.Placed) (documents : List Json) :
    (entriesOf index.primaryKey documents).foldl MemoryIndex.upsert index =
      index.filledWith documents :=
  h.foldl_upsert_eq _

/-- An index takes documents just if all of them have its key. -/
theorem Placed.add_of_allHave (hindex : index.Placed) (h : AllHave index.primaryKey documents) :
    index.add documents = .ok (index.filledWith documents) := by
  obtain ⟨entries, hentries⟩ : ∃ entries,
      (documents.mapM fun d => (keyText? index.primaryKey d).map (·, d)) = some entries := by
    refine exists_mapM_eq_some fun d hd => ?_
    obtain ⟨value, hvalue⟩ := h d hd
    exact ⟨(value.toText, d), by rw [keyText?, hvalue]; rfl⟩
  obtain rfl : entries = entriesOf index.primaryKey documents := eq_filterMap_of_mapM hentries
  simp only [add, hentries, hindex.foldl_upsert_entriesOf]

theorem add_of_not_allHave (h : ¬ AllHave index.primaryKey documents) :
    index.add documents = .error (missingKey index.primaryKey) := by
  cases hentries : documents.mapM fun d => (keyText? index.primaryKey d).map (·, d) with
  | none => simp only [add, hentries]
  | some entries =>
    refine absurd (fun d hd => ?_) h
    obtain ⟨e, he⟩ := exists_of_mapM_eq_some hentries hd
    obtain ⟨text, htext, -⟩ := Option.map_eq_some_iff.1 he
    obtain ⟨value, hvalue, -⟩ := Option.map_eq_some_iff.1 htext
    exact ⟨value, hvalue⟩

theorem WellKeyed.filledWith (h : index.WellKeyed) (documents : List Json) :
    (index.filledWith documents).WellKeyed := by
  rw [← h.foldl_upsert_entriesOf]
  refine h.foldl_upsert _ fun e he => ?_
  obtain ⟨d, -, hd⟩ := List.mem_filterMap.1 he
  obtain ⟨text, htext, rfl⟩ := Option.map_eq_some_iff.1 hd
  exact htext

end MemoryIndex

namespace Memory

variable {m : Memory} {indexUid : String} {index : MemoryIndex} {documents : List Json}
  (hm : m.available = true) (hindex : m.indexes.get? indexUid = some index)
  (hkeyed : index.WellKeyed)
include hm hindex hkeyed

/-- An index that is there and has a key takes documents that all have it. -/
theorem addDocuments_of_allHave (hhave : MemoryIndex.AllHave index.primaryKey documents)
    (primaryKey : String) :
    addDocuments indexUid primaryKey documents m =
      (.ok (), m.putIndex indexUid (index.filledWith documents)) := by
  simp only [addDocuments, whenAvailable, hm, if_true, hindex,
    MemoryIndex.keyedBy_of_ne hkeyed.named, hkeyed.add_of_allHave hhave]

/-- If one of the documents lacks the key, all of them are refused and nothing changes. -/
theorem addDocuments_of_not_allHave (hhave : ¬ MemoryIndex.AllHave index.primaryKey documents)
    (primaryKey : String) :
    addDocuments indexUid primaryKey documents m =
      (.error (MemoryIndex.missingKey index.primaryKey), m) := by
  simp only [addDocuments, whenAvailable, hm, if_true, hindex,
    MemoryIndex.keyedBy_of_ne hkeyed.named, MemoryIndex.add_of_not_allHave hhave,
    putIndex_self hindex]

end Memory

end VariantSearch

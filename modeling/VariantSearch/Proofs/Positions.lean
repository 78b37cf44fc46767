import Mathlib.Data.List.Nodup
import VariantSearch.Engine.Memory
import VariantSearch.Proofs.TextMap

/-!
The positions of an index are those at which its keys stand.
-/

namespace VariantSearch.MemoryIndex

def upsertInto (key : String) (document : Json) : List (String × Json) → List (String × Json)
  | [] => [(key, document)]
  | (k, d) :: rest => if k = key then (k, document) :: rest else (k, d) :: upsertInto key document rest

def places (stored : List (String × Json)) : TextMap Nat := .ofList (stored.map (·.1)).zipIdx

def holding (index : MemoryIndex) (stored : List (String × Json)) : MemoryIndex :=
  { index with documents := stored, positions := places stored }

/-- No two documents stand under one key, and the positions are those at which the keys stand. -/
structure Placed (index : MemoryIndex) : Prop where
  apart : (index.documents.map (·.1)).Nodup
  placed : index.positions = places index.documents

section Upsert

variable {key : String} {document : Json} {l : List (String × Json)}

theorem eq_or_mem_of_mem_upsertInto {e : String × Json} (h : e ∈ upsertInto key document l) :
    e = (key, document) ∨ e ∈ l := by
  induction l with
  | nil => exact Or.inl (List.mem_singleton.1 h)
  | cons first rest ih =>
    obtain ⟨k, d⟩ := first
    rw [upsertInto] at h
    split at h
    · next hk =>
      rcases List.mem_cons.1 h with rfl | h
      · exact Or.inl (hk ▸ rfl)
      · exact Or.inr (List.mem_cons_of_mem _ h)
    · rcases List.mem_cons.1 h with rfl | h
      · exact Or.inr List.mem_cons_self
      · exact (ih h).imp_right (List.mem_cons_of_mem _)

/-- A key that is there keeps its place, and a new one comes last. -/
theorem keys_upsertInto (key : String) (document : Json) (l : List (String × Json)) :
    (upsertInto key document l).map (·.1) =
      if key ∈ l.map (·.1) then l.map (·.1) else l.map (·.1) ++ [key] := by
  induction l with
  | nil => rfl
  | cons first rest ih =>
    obtain ⟨k, d⟩ := first
    rw [upsertInto]
    by_cases hk : k = key
    · simp [hk]
    · have hne : ¬ key = k := fun h => hk h.symm
      rw [if_neg hk, List.map_cons, ih]
      simp only [List.map_cons, List.mem_cons, hne, false_or]
      split <;> rfl

theorem nodup_upsertInto (h : (l.map (·.1)).Nodup) :
    ((upsertInto key document l).map (·.1)).Nodup := by
  rw [keys_upsertInto]
  split
  · exact h
  · next hnew =>
    refine List.nodup_append.2 ⟨h, List.pairwise_singleton _ _, ?_⟩
    rintro k hk other hother rfl
    exact hnew (List.mem_singleton.1 hother ▸ hk)

theorem upsertInto_of_new (h : key ∉ l.map (·.1)) :
    upsertInto key document l = l ++ [(key, document)] := by
  induction l with
  | nil => rfl
  | cons first rest ih =>
    obtain ⟨hne, hrest⟩ := not_or.1 (fun hmem => h (List.mem_cons.2 hmem))
    rw [upsertInto, if_neg (Ne.symm hne), ih hrest, List.cons_append]

/-- The document that has a key is the one at the position at which the key stands. -/
theorem upsertInto_eq_set (hl : (l.map (·.1)).Nodup) {position : Nat}
    (h : (l.map (·.1))[position]? = some key) :
    upsertInto key document l = l.set position (key, document) := by
  induction l generalizing position with
  | nil => cases h
  | cons first rest ih =>
    obtain ⟨k, d⟩ := first
    obtain ⟨hnew, hrest⟩ := List.nodup_cons.1 hl
    cases position with
    | zero =>
      obtain rfl : k = key := Option.some.inj h
      rw [upsertInto, if_pos rfl, List.set_cons_zero]
    | succ position =>
      have htail : (rest.map (·.1))[position]? = some key := h
      -- The key stands further on, so it is not the first one.
      have hne : k ≠ key := fun heq => hnew (heq ▸ List.mem_of_getElem? htail)
      rw [upsertInto, if_neg hne, ih hrest htail, List.set_cons_succ]

end Upsert

section Places

variable {stored : List (String × Json)}

/-- A key has a position just if it stands there. -/
theorem get?_places (h : (stored.map (·.1)).Nodup) (key : String) (position : Nat) :
    (places stored).get? key = some position ↔ (stored.map (·.1))[position]? = some key := by
  have hlisted : (key, position) ∈ (stored.map (·.1)).zipIdx ↔
      (stored.map (·.1))[position]? = some key := List.mem_zipIdx_iff_getElem?
  rw [← hlisted]
  constructor
  · exact fun hget => TextMap.mem_of_mem_ofList ((TextMap.get?_eq_some_iff _ _ _).1 hget)
  · intro hmem
    refine TextMap.get?_ofList_of_mem ?_ hmem
    rwa [List.zipIdx_map_fst]

theorem get?_places_eq_none_iff (h : (stored.map (·.1)).Nodup) (key : String) :
    (places stored).get? key = none ↔ key ∉ stored.map (·.1) := by
  rw [List.mem_iff_getElem?, Option.eq_none_iff_forall_ne_some, not_exists]
  exact forall_congr' fun position => not_congr (get?_places h key position)

theorem places_concat (stored : List (String × Json)) (e : String × Json) :
    places (stored ++ [e]) = (places stored).insert e.1 stored.length := by
  have hzip : ((stored ++ [e]).map (·.1)).zipIdx =
      (stored.map (·.1)).zipIdx ++ [(e.1, stored.length)] := by
    simp [List.zipIdx_append]
  rw [places, hzip, TextMap.ofList_concat, places]

/-- The positions depend on the keys alone. -/
theorem places_congr {other : List (String × Json)} (h : stored.map (·.1) = other.map (·.1)) :
    places stored = places other := by
  rw [places, h, places]

end Places

variable {index : MemoryIndex}

theorem placed_ofKey (primaryKey : String) : (ofKey primaryKey).Placed := ⟨List.nodup_nil, rfl⟩

theorem placed_holding (index : MemoryIndex) {stored : List (String × Json)}
    (h : (stored.map (·.1)).Nodup) : (index.holding stored).Placed := ⟨h, rfl⟩

theorem Placed.holding_documents (h : index.Placed) : index.holding index.documents = index := by
  rw [holding, ← h.placed]

/-- A position leads to a document, and this is the one with the key. -/
theorem Placed.get?_positions (h : index.Placed) (key : String) (position : Nat) :
    index.positions.get? key = some position ↔
      (index.documents.map (·.1))[position]? = some key := by
  rw [h.placed]
  exact get?_places h.apart key position

/-- A document that comes in replaces the one that has its key, or comes last. -/
theorem Placed.upsert_eq (h : index.Placed) (e : String × Json) :
    index.upsert e = index.holding (upsertInto e.1 e.2 index.documents) := by
  cases hposition : index.positions.get? e.1 with
  | some position =>
    have hstands := (h.get?_positions e.1 position).1 hposition
    have hset : upsertInto e.1 e.2 index.documents = index.documents.set position e :=
      upsertInto_eq_set h.apart hstands
    have hkeys : (index.documents.set position e).map (·.1) = index.documents.map (·.1) := by
      rw [← hset, keys_upsertInto, if_pos (List.mem_of_getElem? hstands)]
    simp only [upsert, hposition, hset, holding, places_congr hkeys, ← h.placed]
  | none =>
    have hnew : e.1 ∉ index.documents.map (·.1) := by
      rw [h.placed] at hposition
      exact (get?_places_eq_none_iff h.apart e.1).1 hposition
    simp only [upsert, hposition, upsertInto_of_new hnew, holding, places_concat, ← h.placed]

theorem Placed.upsert (h : index.Placed) (e : String × Json) : (index.upsert e).Placed := by
  rw [h.upsert_eq]
  exact placed_holding index (nodup_upsertInto h.apart)

/-- Documents that come in one after another are put among those that are there. -/
theorem Placed.foldl_upsert_eq (h : index.Placed) (entries : List (String × Json)) :
    entries.foldl MemoryIndex.upsert index =
      index.holding
        (entries.foldl (fun stored e => upsertInto e.1 e.2 stored) index.documents) := by
  induction entries generalizing index with
  | nil => exact h.holding_documents.symm
  | cons e rest ih =>
    rw [List.foldl_cons, ih (h.upsert e), h.upsert_eq]
    rfl

end VariantSearch.MemoryIndex

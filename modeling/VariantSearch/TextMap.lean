namespace VariantSearch

/-- A finite map from strings, listed in ascending order of the keys. -/
structure TextMap (α : Type) where
  entries : List (String × α)
  ascending : entries.Pairwise (fun a b => a.1 < b.1)

namespace TextMap

variable {α β : Type}

instance [DecidableEq α] : DecidableEq (TextMap α) := fun a b =>
  match decEq a.entries b.entries with
  | isTrue h => isTrue (by cases a; cases b; cases h; rfl)
  | isFalse h => isFalse (fun e => h (e ▸ rfl))

def empty : TextMap α := ⟨[], .nil⟩

instance : EmptyCollection (TextMap α) := ⟨empty⟩
instance : Inhabited (TextMap α) := ⟨empty⟩

def lookup (key : String) : List (String × α) → Option α
  | [] => none
  | (k, v) :: rest => if k = key then some v else lookup key rest

def get? (map : TextMap α) (key : String) : Option α := lookup key map.entries

def keys (map : TextMap α) : List String := map.entries.map (·.1)

def values (map : TextMap α) : List α := map.entries.map (·.2)

def size (map : TextMap α) : Nat := map.entries.length

def insertSorted (key : String) (value : α) : List (String × α) → List (String × α)
  | [] => [(key, value)]
  | (k, v) :: rest =>
    if key < k then (key, value) :: (k, v) :: rest
    else if key = k then (key, value) :: rest
    else (k, v) :: insertSorted key value rest

theorem key_of_mem_insertSorted {key : String} {value : α} {l : List (String × α)}
    {e : String × α} (h : e ∈ insertSorted key value l) : e = (key, value) ∨ e ∈ l := by
  induction l with
  | nil => simpa [insertSorted] using h
  | cons f rest ih =>
    unfold insertSorted at h
    split at h
    · simpa using h
    · split at h
      · rcases List.mem_cons.1 h with h | h
        · exact .inl h
        · exact .inr (List.mem_cons_of_mem _ h)
      · rcases List.mem_cons.1 h with h | h
        · exact .inr (h ▸ List.mem_cons_self)
        · rcases ih h with h | h
          · exact .inl h
          · exact .inr (List.mem_cons_of_mem _ h)

theorem pairwise_insertSorted {key : String} {value : α} {l : List (String × α)}
    (h : l.Pairwise (fun a b => a.1 < b.1)) :
    (insertSorted key value l).Pairwise (fun a b => a.1 < b.1) := by
  induction l with
  | nil => simp [insertSorted]
  | cons f rest ih =>
    obtain ⟨hf, hrest⟩ := List.pairwise_cons.1 h
    unfold insertSorted
    split
    · next hlt =>
      refine List.pairwise_cons.2 ⟨fun e he => ?_, h⟩
      rcases List.mem_cons.1 he with rfl | he
      · exact hlt
      · exact String.lt_trans hlt (hf e he)
    · next hlt =>
      split
      · next heq => exact List.pairwise_cons.2 ⟨fun e he => heq ▸ hf e he, hrest⟩
      · next hne =>
        refine List.pairwise_cons.2 ⟨fun e he => ?_, ih hrest⟩
        rcases key_of_mem_insertSorted he with rfl | he
        · grind
        · exact hf e he

def insert (map : TextMap α) (key : String) (value : α) : TextMap α :=
  ⟨insertSorted key value map.entries, pairwise_insertSorted map.ascending⟩

def alter (map : TextMap α) (key : String) (f : Option α → α) : TextMap α :=
  map.insert key (f (map.get? key))

def ofList (l : List (String × α)) : TextMap α :=
  l.foldl (fun map e => map.insert e.1 e.2) empty

theorem lookup_insertSorted {key k : String} {value : α} {l : List (String × α)}
    (h : l.Pairwise (fun a b => a.1 < b.1)) :
    lookup k (insertSorted key value l) = if key = k then some value else lookup k l := by
  induction l with
  | nil => simp [insertSorted, lookup]
  | cons f rest ih =>
    obtain ⟨hf, hrest⟩ := List.pairwise_cons.1 h
    unfold insertSorted
    split
    · simp [lookup]
    · split
      · next heq => subst heq; simp only [lookup]; split <;> rfl
      · next hne =>
        simp only [lookup, ih hrest]
        by_cases h1 : f.1 = k
        · subst h1; simp [hne]
        · simp [h1]

/-- After an insertion the key has the new value and every other key keeps its own. -/
theorem get?_insert (map : TextMap α) (key k : String) (value : α) :
    (map.insert key value).get? k = if key = k then some value else map.get? k :=
  lookup_insertSorted map.ascending

end TextMap

end VariantSearch

import Mathlib.Data.List.Basic
import Mathlib.Data.List.Induction
import Mathlib.Data.List.Sort
import VariantSearch.TextMap

namespace VariantSearch.TextMap

variable {α β : Type}

theorem mem_of_lookup {key : String} {value : α} {l : List (String × α)}
    (h : lookup key l = some value) : (key, value) ∈ l := by
  induction l with
  | nil => simp [lookup] at h
  | cons e rest ih =>
    simp only [lookup] at h
    split at h
    · next he =>
      obtain rfl := Option.some.inj h
      exact he ▸ List.mem_cons_self
    · exact List.mem_cons_of_mem _ (ih h)

theorem lookup_of_mem {key : String} {value : α} {l : List (String × α)}
    (hl : l.Pairwise (fun a b => a.1 < b.1)) (h : (key, value) ∈ l) :
    lookup key l = some value := by
  induction l with
  | nil => exact absurd h List.not_mem_nil
  | cons e rest ih =>
    obtain ⟨he, hrest⟩ := List.pairwise_cons.1 hl
    rcases List.mem_cons.1 h with rfl | h
    · simp [lookup]
    · have hlt : e.1 < key := he (key, value) h
      have hne : e.1 ≠ key := fun hk => String.lt_irrefl key (hk ▸ hlt)
      simp [lookup, hne, ih hrest h]

/-- The entries are the keys with the values that are found at them. -/
theorem get?_eq_some_iff (map : TextMap α) (key : String) (value : α) :
    map.get? key = some value ↔ (key, value) ∈ map.entries :=
  ⟨mem_of_lookup, lookup_of_mem map.ascending⟩

/-- A key is listed if there is a value at it. -/
theorem mem_keys_iff (map : TextMap α) (key : String) :
    key ∈ map.keys ↔ ∃ value, map.get? key = some value := by
  simp only [keys, List.mem_map, get?_eq_some_iff]
  constructor
  · rintro ⟨⟨k, value⟩, he, rfl⟩
    exact ⟨value, he⟩
  · rintro ⟨value, he⟩
    exact ⟨(key, value), he, rfl⟩

theorem keys_ascending (map : TextMap α) : map.keys.Pairwise (· < ·) := by
  simp only [keys, List.pairwise_map]
  exact map.ascending

/-- Maps that have something at the same keys list the same keys. -/
theorem keys_eq_of_get? {map : TextMap α} {other : TextMap β}
    (h : ∀ key, (map.get? key).isSome = (other.get? key).isSome) : map.keys = other.keys := by
  refine map.keys_ascending.eq_of_mem_iff other.keys_ascending fun key => ?_
  rw [mem_keys_iff, mem_keys_iff, ← Option.isSome_iff_exists, ← Option.isSome_iff_exists, h]

/-- A key that is there is found at once, and its old value goes. -/
theorem insertSorted_cons_self (key : String) (value old : α) (rest : List (String × α)) :
    insertSorted key value ((key, old) :: rest) = (key, value) :: rest := by
  rw [insertSorted, if_neg (String.lt_irrefl key), if_pos rfl]

theorem insertSorted_of_mem {key : String} {value : α} {l : List (String × α)}
    (hl : l.Pairwise (fun a b => a.1 < b.1)) (h : (key, value) ∈ l) :
    insertSorted key value l = l := by
  induction l with
  | nil => exact absurd h List.not_mem_nil
  | cons e rest ih =>
    obtain ⟨he, hrest⟩ := List.pairwise_cons.1 hl
    rcases List.mem_cons.1 h with rfl | h
    · exact insertSorted_cons_self key value value rest
    · have hlt : e.1 < key := he (key, value) h
      have hnlt : ¬ key < e.1 := fun hk => String.lt_irrefl key (String.lt_trans hk hlt)
      have hne : key ≠ e.1 := fun hk => String.lt_irrefl key (hk ▸ hlt)
      simp [insertSorted, hnlt, hne, ih hrest h]

/-- Setting an entry to the value that it has changes nothing. -/
theorem insert_of_get? (map : TextMap α) (key : String) (value : α)
    (h : map.get? key = some value) : map.insert key value = map := by
  have he := insertSorted_of_mem map.ascending ((map.get?_eq_some_iff key value).1 h)
  cases map
  simp only [insert] at he ⊢
  congr

theorem insertSorted_insertSorted (key : String) (first second : α) (l : List (String × α)) :
    insertSorted key second (insertSorted key first l) = insertSorted key second l := by
  induction l with
  | nil => exact insertSorted_cons_self key second first []
  | cons e rest ih =>
    obtain ⟨k, v⟩ := e
    by_cases hlt : key < k
    · have hfirst : insertSorted key first ((k, v) :: rest) = (key, first) :: (k, v) :: rest := by
        rw [insertSorted, if_pos hlt]
      rw [hfirst, insertSorted_cons_self, insertSorted, if_pos hlt]
    · by_cases heq : key = k
      · subst heq
        rw [insertSorted_cons_self, insertSorted_cons_self, insertSorted_cons_self]
      · simp [insertSorted, hlt, heq, ih]

/-- Of two settings of one entry the second one counts. -/
theorem insert_insert (map : TextMap α) (key : String) (first second : α) :
    (map.insert key first).insert key second = map.insert key second := by
  have h := insertSorted_insertSorted key first second map.entries
  simp only [insert]
  congr

/-- Going through the keys with the values found at them is going through the entries. -/
theorem filterMap_keys (map : TextMap α) (f : String → α → Option β) :
    map.keys.filterMap (fun key => (map.get? key).bind (f key)) =
      map.entries.filterMap fun e => f e.1 e.2 := by
  rw [keys, List.filterMap_map]
  refine List.filterMap_congr fun e he => ?_
  have hv : map.get? e.1 = some e.2 := (map.get?_eq_some_iff e.1 e.2).2 he
  simp only [Function.comp, hv, Option.bind_some]

theorem ofList_concat (l : List (String × α)) (e : String × α) :
    ofList (l ++ [e]) = (ofList l).insert e.1 e.2 := by
  rw [ofList, List.foldl_append]
  rfl

theorem mem_of_mem_ofList {l : List (String × α)} {e : String × α} (h : e ∈ (ofList l).entries) :
    e ∈ l := by
  induction l using List.reverseRecOn with
  | nil => exact absurd h List.not_mem_nil
  | append_singleton l f ih =>
    rw [ofList_concat] at h
    rcases key_of_mem_insertSorted h with rfl | h
    · exact List.mem_append_right l List.mem_cons_self
    · exact List.mem_append_left [f] (ih h)

/-- An entry whose key does not repeat is found. -/
theorem get?_ofList_of_mem {l : List (String × α)} {key : String} {value : α}
    (hl : (l.map (·.1)).Nodup) (h : (key, value) ∈ l) : (ofList l).get? key = some value := by
  induction l using List.reverseRecOn with
  | nil => exact absurd h List.not_mem_nil
  | append_singleton l e ih =>
    rw [List.map_append, List.nodup_append] at hl
    obtain ⟨hl, -, hdistinct⟩ := hl
    rw [ofList_concat, get?_insert]
    rcases List.mem_append.1 h with h | h
    · have hne : e.1 ≠ key := fun heq =>
        hdistinct key (List.mem_map_of_mem h) e.1 List.mem_cons_self heq.symm
      rw [if_neg hne]
      exact ih hl h
    · obtain rfl := List.mem_singleton.1 h
      rw [if_pos rfl]

theorem insertSorted_of_lt {key : String} {value : α} {l : List (String × α)}
    (h : ∀ e ∈ l, e.1 < key) : insertSorted key value l = l ++ [(key, value)] := by
  induction l with
  | nil => rfl
  | cons e rest ih =>
    have he : e.1 < key := h e List.mem_cons_self
    have hnlt : ¬ key < e.1 := fun hk => String.lt_irrefl key (String.lt_trans hk he)
    have hne : key ≠ e.1 := fun hk => String.lt_irrefl key (hk ▸ he)
    rw [insertSorted, if_neg hnlt, if_neg hne, ih fun f hf => h f (List.mem_cons_of_mem e hf),
      List.cons_append]

/-- An ascending list is the listing of its map. -/
theorem entries_ofList {l : List (String × α)} (h : l.Pairwise (fun a b => a.1 < b.1)) :
    (ofList l).entries = l := by
  induction l using List.reverseRecOn with
  | nil => rfl
  | append_singleton l e ih =>
    obtain ⟨hl, -, hlast⟩ := List.pairwise_append.1 h
    have hentries : (ofList (l ++ [e])).entries = insertSorted e.1 e.2 (ofList l).entries := by
      rw [ofList_concat]
      rfl
    rw [hentries, ih hl]
    exact insertSorted_of_lt fun f hf => hlast f hf e List.mem_cons_self

theorem eq_of_entries_eq {map other : TextMap α} (h : map.entries = other.entries) :
    map = other := by
  cases map
  cases other
  cases h
  rfl

theorem ofList_entries (map : TextMap α) : ofList map.entries = map :=
  eq_of_entries_eq (entries_ofList map.ascending)

section Lookups

variable {map other : TextMap α} {l before after : List (String × α)} {key : String} {value : α}

/-- What is made of the entries depends on what the look-ups say. -/
theorem map_entries_eq (f : String → α → β)
    (h : ∀ key, (map.get? key).map (f key) = (other.get? key).map (f key)) :
    map.entries.map (fun e => f e.1 e.2) = other.entries.map fun e => f e.1 e.2 := by
  have hkeys : map.keys = other.keys := by
    apply keys_eq_of_get?
    intro key
    have hsome := congrArg Option.isSome (h key)
    rwa [Option.isSome_map, Option.isSome_map] at hsome
  have hlisted (m : TextMap α) : m.entries.map (fun e => f e.1 e.2) =
      m.keys.filterMap fun key => (m.get? key).map (f key) := by
    have hvia := m.filterMap_keys fun key a => some (f key a)
    rw [List.filterMap_eq_map'] at hvia
    rw [← hvia]
    exact List.filterMap_congr fun key _ => (Option.map_eq_bind).symm
  rw [hlisted, hlisted, hkeys]
  exact List.filterMap_congr fun key _ => h key

/-- A map is determined by its look-ups. -/
theorem ext (h : ∀ key, map.get? key = other.get? key) : map = other := by
  apply eq_of_entries_eq
  have hentries := map_entries_eq Prod.mk fun key => congrArg (Option.map (Prod.mk key)) (h key)
  simpa using hentries

/-- Maps with the same keys are the same if no key has different values in them. -/
theorem ext_of_keys (hkeys : ∀ key, key ∈ map.keys ↔ key ∈ other.keys)
    (h : ∀ key value value', map.get? key = some value → other.get? key = some value' →
      value = value') : map = other := by
  apply ext
  intro key
  have hfound := hkeys key
  rw [mem_keys_iff, mem_keys_iff] at hfound
  cases hvalue : map.get? key with
  | none =>
    cases hvalue' : other.get? key with
    | none => rfl
    | some value =>
      obtain ⟨found, hsome⟩ := hfound.2 ⟨value, hvalue'⟩
      rw [hvalue] at hsome
      cases hsome
  | some value =>
    obtain ⟨value', hvalue'⟩ := hfound.1 ⟨value, hvalue⟩
    rw [hvalue', h key value value' hvalue hvalue']

theorem get?_ofList_concat (l : List (String × α)) (e : String × α) (key : String) :
    (ofList (l ++ [e])).get? key = if e.1 = key then some e.2 else (ofList l).get? key := by
  rw [ofList_concat, get?_insert]

/-- Entries of other keys have no say. -/
theorem get?_ofList_filter (l : List (String × α)) (key : String) :
    (ofList (l.filter (·.1 = key))).get? key = (ofList l).get? key := by
  induction l using List.reverseRecOn with
  | nil => rfl
  | append_singleton l e ih =>
    rw [get?_ofList_concat, List.filter_append]
    by_cases he : e.1 = key
    · rw [if_pos he, List.filter_singleton, decide_eq_true he]
      exact (get?_ofList_concat _ e key).trans (if_pos he)
    · rw [if_neg he, List.filter_singleton, decide_eq_false he]
      exact (congrArg (fun kept => (ofList kept).get? key) (List.append_nil _)).trans ih

/-- The last entry of a key counts. -/
theorem get?_ofList_around (h : ∀ e ∈ after, e.1 ≠ key) :
    (ofList (before ++ (key, value) :: after)).get? key = some value := by
  have hnone : after.filter (·.1 = key) = [] := by
    rw [List.filter_eq_nil_iff]
    intro e he
    simpa using h e he
  rw [← get?_ofList_filter, List.filter_append, List.filter_cons_of_pos (by simp), hnone,
    get?_ofList_concat, if_pos rfl]

/-- With one value in the place of another, a look-up changes only if it found that value. -/
theorem get?_ofList_replace (before after : List (String × α)) (name key : String) (a b : α) :
    (ofList (before ++ (name, a) :: after)).get? key =
        (ofList (before ++ (name, b) :: after)).get? key ∨
      key = name ∧ (ofList (before ++ (name, a) :: after)).get? key = some a ∧
        (ofList (before ++ (name, b) :: after)).get? key = some b := by
  induction after using List.reverseRecOn with
  | nil =>
    rw [get?_ofList_concat, get?_ofList_concat]
    by_cases hname : name = key
    · rw [if_pos hname, if_pos hname]
      exact Or.inr ⟨hname.symm, rfl, rfl⟩
    · rw [if_neg hname, if_neg hname]
      exact Or.inl rfl
  | append_singleton after e ih =>
    rw [← List.cons_append, ← List.cons_append, ← List.append_assoc, ← List.append_assoc,
      get?_ofList_concat, get?_ofList_concat]
    by_cases he : e.1 = key
    · rw [if_pos he, if_pos he]
      exact Or.inl rfl
    · rw [if_neg he, if_neg he]
      exact ih

/-- A map of a list depends on what its entries of each key are, in their order. -/
theorem ofList_eq_of_filter {l m : List (String × α)}
    (h : ∀ key, l.filter (·.1 = key) = m.filter (·.1 = key)) : ofList l = ofList m := by
  apply ext
  intro key
  rw [← get?_ofList_filter l, h, get?_ofList_filter]

end Lookups

end VariantSearch.TextMap

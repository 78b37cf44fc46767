namespace VariantSearch

structure TextSet where
  toList : List String
  ascending : toList.Pairwise (· < ·)
deriving DecidableEq

namespace TextSet

instance : Membership String TextSet := ⟨fun set s => s ∈ set.toList⟩

instance (s : String) (set : TextSet) : Decidable (s ∈ set) :=
  inferInstanceAs (Decidable (s ∈ set.toList))

def empty : TextSet := ⟨[], .nil⟩

instance : EmptyCollection TextSet := ⟨empty⟩
instance : Inhabited TextSet := ⟨empty⟩

def insertSorted (s : String) : List String → List String
  | [] => [s]
  | t :: rest => if s < t then s :: t :: rest else if s = t then t :: rest else t :: insertSorted s rest

theorem mem_insertSorted {s t : String} {l : List String} :
    t ∈ insertSorted s l ↔ t = s ∨ t ∈ l := by
  induction l with
  | nil => simp [insertSorted]
  | cons u rest ih =>
    unfold insertSorted
    split
    · simp
    · split
      · next h => subst h; simp
      · simp only [List.mem_cons, ih]; grind

theorem pairwise_insertSorted {s : String} {l : List String} (h : l.Pairwise (· < ·)) :
    (insertSorted s l).Pairwise (· < ·) := by
  induction l with
  | nil => simp [insertSorted]
  | cons t rest ih =>
    obtain ⟨ht, hrest⟩ := List.pairwise_cons.1 h
    unfold insertSorted
    split
    · next hst =>
      refine List.pairwise_cons.2 ⟨fun u hu => ?_, h⟩
      rcases List.mem_cons.1 hu with rfl | hu
      · exact hst
      · exact String.lt_trans hst (ht u hu)
    · next hst =>
      split
      · exact h
      · next hne =>
        refine List.pairwise_cons.2 ⟨fun u hu => ?_, ih hrest⟩
        rcases mem_insertSorted.1 hu with rfl | hu
        · grind
        · exact ht u hu

def insert (set : TextSet) (s : String) : TextSet :=
  ⟨insertSorted s set.toList, pairwise_insertSorted set.ascending⟩

def ofList (l : List String) : TextSet := l.foldl insert empty

@[simp] theorem mem_insert {set : TextSet} {s t : String} : t ∈ set.insert s ↔ t = s ∨ t ∈ set :=
  mem_insertSorted

theorem mem_foldl_insert {l : List String} {set : TextSet} {t : String} :
    t ∈ l.foldl insert set ↔ t ∈ l ∨ t ∈ set := by
  induction l generalizing set with
  | nil => simp
  | cons s rest ih => simp only [List.foldl_cons, ih, mem_insert, List.mem_cons]; grind

@[simp] theorem not_mem_empty {t : String} : ¬ t ∈ empty := List.not_mem_nil

@[simp] theorem mem_ofList {l : List String} {t : String} : t ∈ ofList l ↔ t ∈ l := by
  simp [ofList, mem_foldl_insert]

/-- Two ascending lists with the same members are equal. -/
theorem eq_of_mem_iff {l m : List String} (hl : l.Pairwise (· < ·)) (hm : m.Pairwise (· < ·))
    (h : ∀ s, s ∈ l ↔ s ∈ m) : l = m := by
  induction l generalizing m with
  | nil =>
    cases m with
    | nil => rfl
    | cons t rest => exact absurd ((h t).2 (by simp)) (by simp)
  | cons s rest ih =>
    cases m with
    | nil => exact absurd ((h s).1 (by simp)) (by simp)
    | cons t more =>
      obtain ⟨hs, hrest⟩ := List.pairwise_cons.1 hl
      obtain ⟨ht, hmore⟩ := List.pairwise_cons.1 hm
      have hst : s = t := by
        have h1 := (h s).1 (by simp)
        have h2 := (h t).2 (by simp)
        rcases List.mem_cons.1 h1 with h1 | h1
        · exact h1
        · rcases List.mem_cons.1 h2 with h2 | h2
          · exact h2.symm
          · exact absurd (String.lt_trans (ht s h1) (hs t h2)) (String.lt_irrefl t)
      subst hst
      congr 1
      refine ih hrest hmore fun u => ?_
      constructor
      · intro hu
        rcases List.mem_cons.1 ((h u).1 (List.mem_cons_of_mem _ hu)) with rfl | hu'
        · exact absurd (hs u hu) (String.lt_irrefl u)
        · exact hu'
      · intro hu
        rcases List.mem_cons.1 ((h u).2 (List.mem_cons_of_mem _ hu)) with rfl | hu'
        · exact absurd (ht u hu) (String.lt_irrefl u)
        · exact hu'

/-- A set is determined by its members. -/
theorem ext {a b : TextSet} (h : ∀ s, s ∈ a ↔ s ∈ b) : a = b := by
  cases a with
  | mk l hl =>
    cases b with
    | mk m hm =>
      obtain rfl : l = m := eq_of_mem_iff hl hm h
      rfl

end TextSet

end VariantSearch

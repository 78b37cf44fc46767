import Mathlib.Data.List.Basic
import Mathlib.Data.List.Forall2

namespace VariantSearch

variable {α β : Type} {f : α → Option β} {l : List α} {results : List β}

theorem mapM_eq_some_iff : l.mapM f = some results ↔ l.map f = results.map some := by
  induction l generalizing results with
  | nil =>
    rw [List.mapM_nil, List.map_nil]
    cases results with
    | nil => exact iff_of_true rfl rfl
    | cons b results => exact iff_of_false (fun h => by cases h) (fun h => by cases h)
  | cons a rest ih =>
    rw [List.mapM_cons, List.map_cons]
    constructor
    · intro h
      obtain ⟨b, hb, h⟩ := Option.bind_eq_some_iff.1 h
      obtain ⟨others, hothers, h⟩ := Option.bind_eq_some_iff.1 h
      obtain rfl := Option.some.inj h
      rw [List.map_cons, hb, ih.1 hothers]
    · intro h
      cases results with
      | nil => cases h
      | cons b results =>
        obtain ⟨hb, hrest⟩ := List.cons.inj h
        rw [hb, ih.2 hrest]
        rfl

theorem length_of_mapM (h : l.mapM f = some results) : results.length = l.length := by
  have hmap := congrArg List.length (mapM_eq_some_iff.1 h)
  rw [List.length_map, List.length_map] at hmap
  exact hmap.symm

theorem exists_of_mem_mapM (h : l.mapM f = some results) {b : β} (hb : b ∈ results) :
    ∃ a ∈ l, f a = some b := by
  have hmem : some b ∈ results.map some := List.mem_map_of_mem hb
  rw [← mapM_eq_some_iff.1 h] at hmem
  exact List.mem_map.1 hmem

theorem exists_of_mapM_eq_some (h : l.mapM f = some results) {a : α} (ha : a ∈ l) :
    ∃ b, f a = some b := by
  have hmem : f a ∈ l.map f := List.mem_map_of_mem ha
  rw [mapM_eq_some_iff.1 h] at hmem
  obtain ⟨b, -, hb⟩ := List.mem_map.1 hmem
  exact ⟨b, hb.symm⟩

theorem eq_filterMap_of_mapM (h : l.mapM f = some results) : results = l.filterMap f := by
  have hfilter : l.filterMap f = (l.map f).filterMap id := by
    rw [List.filterMap_map]
    rfl
  rw [hfilter, mapM_eq_some_iff.1 h, List.filterMap_map]
  exact List.filterMap_some.symm

theorem exists_mapM_eq_some (h : ∀ a ∈ l, ∃ b, f a = some b) : ∃ results, l.mapM f = some results := by
  induction l with
  | nil => exact ⟨[], List.mapM_nil⟩
  | cons a rest ih =>
    obtain ⟨b, hb⟩ := h a List.mem_cons_self
    obtain ⟨results, hresults⟩ := ih fun a' ha' => h a' (List.mem_cons_of_mem _ ha')
    refine ⟨b :: results, ?_⟩
    rw [List.mapM_cons, hb, hresults]
    rfl

/-- What is written and read item by item comes back if every item does. -/
theorem mapM_map_eq_some {write : β → α} {items : List β} (h : ∀ b ∈ items, f (write b) = some b) :
    (items.map write).mapM f = some items := by
  rw [mapM_eq_some_iff, List.map_map]
  exact List.map_congr_left h

/-- Reading that can fail with a reason gives the results item by item. -/
theorem mapM_eq_ok_iff {ε : Type} {f : α → Except ε β} :
    l.mapM f = .ok results ↔ List.Forall₂ (fun a b => f a = .ok b) l results := by
  induction l generalizing results with
  | nil =>
    rw [List.mapM_nil, List.forall₂_nil_left_iff]
    exact ⟨fun h => (Except.ok.inj h).symm, fun h => congrArg Except.ok h.symm⟩
  | cons a rest ih =>
    rw [List.mapM_cons]
    constructor
    · intro h
      cases ha : f a with
      | error e => simp [ha, bind, Except.bind] at h
      | ok b =>
        cases hrest : rest.mapM f with
        | error e => simp [ha, hrest, bind, Except.bind] at h
        | ok others =>
          simp only [ha, hrest, bind, Except.bind, pure, Except.pure, Except.ok.injEq] at h
          subst h
          exact .cons ha (ih.1 hrest)
    · intro h
      cases h with
      | cons ha hrest =>
        rw [ha, ih.2 hrest]
        rfl

/-- What belongs to the items of one list belongs to items of the other. -/
theorem exists_of_forall₂ {R : α → β → Prop} (h : List.Forall₂ R l results) {a : α} (ha : a ∈ l) :
    ∃ b ∈ results, R a b := by
  induction h with
  | nil => cases ha
  | cons hfirst hrest ih =>
    rcases List.mem_cons.1 ha with rfl | ha
    · exact ⟨_, List.mem_cons_self, hfirst⟩
    · obtain ⟨b, hb, hab⟩ := ih ha
      exact ⟨b, List.mem_cons_of_mem _ hb, hab⟩

section Beside

variable {l' before after : List α}

theorem rel_refl {R : α → α → Prop} (hR : ∀ a, R a a) (o : Option α) : Option.Rel R o o := by
  cases o with
  | none => exact .none
  | some a => exact .some (hR a)

theorem rel_trans {R : α → α → Prop} (hR : ∀ a b c, R a b → R b c → R a c) {o p q : Option α}
    (h : Option.Rel R o p) (h' : Option.Rel R p q) : Option.Rel R o q := by
  cases h with
  | none =>
    cases h'
    exact .none
  | some hab =>
    cases h' with
    | some hbc => exact .some (hR _ _ _ hab hbc)

/-- Either nothing is read on both sides, or there are results that are related. -/
theorem cases_of_rel {R : α → β → Prop} {o : Option α} {p : Option β} (h : Option.Rel R o p) :
    (o = none ∧ p = none) ∨ ∃ a b, o = some a ∧ p = some b ∧ R a b := by
  cases h with
  | none => exact Or.inl ⟨rfl, rfl⟩
  | some hab => exact Or.inr ⟨_, _, rfl, rfl, hab⟩

/-- What is read further from results that are related is related if each step relates it. -/
theorem rel_bind {γ δ : Type} {R : α → β → Prop} {S : γ → δ → Prop} {o : Option α} {p : Option β}
    {f : α → Option γ} {g : β → Option δ} (h : Option.Rel R o p)
    (hstep : ∀ a b, R a b → Option.Rel S (f a) (g b)) : Option.Rel S (o.bind f) (p.bind g) := by
  cases h with
  | none => exact .none
  | some hab => exact hstep _ _ hab

theorem map_eq_of_rel {γ : Type} {R : α → β → Prop} {f : α → γ} {g : β → γ} {o : Option α}
    {p : Option β} (h : Option.Rel R o p) (hstep : ∀ a b, R a b → f a = g b) : o.map f = p.map g := by
  cases h with
  | none => rfl
  | some hab => exact congrArg some (hstep _ _ hab)

theorem bind_eq_of_rel {γ : Type} {R : α → β → Prop} {f : α → Option γ} {g : β → Option γ}
    {o : Option α} {p : Option β} (h : Option.Rel R o p) (hstep : ∀ a b, R a b → f a = g b) :
    o.bind f = p.bind g := by
  cases h with
  | none => rfl
  | some hab => exact hstep _ _ hab

theorem mem_iff_of_mapM (h : l.mapM f = some results) (b : β) : b ∈ results ↔ ∃ a ∈ l, f a = some b := by
  rw [eq_filterMap_of_mapM h, List.mem_filterMap]

/-- Lists with the same items are read as lists with the same results. -/
theorem mapM_of_mem_iff (h : ∀ a, a ∈ l ↔ a ∈ l') :
    Option.Rel (fun r r' => ∀ b, b ∈ r ↔ b ∈ r') (l.mapM f) (l'.mapM f) := by
  cases hl : l.mapM f with
  | none =>
    cases hl' : l'.mapM f with
    | none => exact Option.Rel.none
    | some r' =>
      have hall : ∀ a ∈ l, ∃ b, f a = some b := fun a ha => exists_of_mapM_eq_some hl' ((h a).1 ha)
      obtain ⟨r, hr⟩ := exists_mapM_eq_some hall
      rw [hl] at hr
      cases hr
  | some r =>
    have hall : ∀ a ∈ l', ∃ b, f a = some b := fun a ha => exists_of_mapM_eq_some hl ((h a).2 ha)
    obtain ⟨r', hr'⟩ := exists_mapM_eq_some hall
    rw [hr']
    apply Option.Rel.some
    intro b
    rw [mem_iff_of_mapM hl, mem_iff_of_mapM hr']
    exact exists_congr fun a => and_congr_left' (h a)

theorem exists_mapM_of_perm (h : l.Perm l') (hl : l.mapM f = some results) :
    ∃ results', l'.mapM f = some results' ∧ results.Perm results' := by
  obtain ⟨results', hresults'⟩ := exists_mapM_eq_some fun a ha =>
    exists_of_mapM_eq_some hl (h.mem_iff.2 ha)
  refine ⟨results', hresults', ?_⟩
  rw [eq_filterMap_of_mapM hl, eq_filterMap_of_mapM hresults']
  exact h.filterMap f

/-- The results around one item. -/
theorem mapM_around (before after : List α) (a : α) :
    (before ++ a :: after).mapM f =
      (before.mapM f).bind fun front => (f a).bind fun b =>
        (after.mapM f).bind fun back => some (front ++ b :: back) := by
  rw [List.mapM_append, List.mapM_cons]
  cases before.mapM f with
  | none => rfl
  | some front =>
    cases f a with
    | none => rfl
    | some b => cases after.mapM f <;> rfl

theorem mapM_around_eq_some_iff {a : α} :
    (before ++ a :: after).mapM f = some results ↔
      ∃ front b back, before.mapM f = some front ∧ f a = some b ∧ after.mapM f = some back ∧
        results = front ++ b :: back := by
  rw [mapM_around]
  constructor
  · intro h
    obtain ⟨front, hfront, h⟩ := Option.bind_eq_some_iff.1 h
    obtain ⟨b, hb, h⟩ := Option.bind_eq_some_iff.1 h
    obtain ⟨back, hback, h⟩ := Option.bind_eq_some_iff.1 h
    exact ⟨front, b, back, hfront, hb, hback, (Option.some.inj h).symm⟩
  · rintro ⟨front, b, back, hfront, hb, hback, rfl⟩
    rw [hfront, hb, hback]
    rfl

end Beside

end VariantSearch

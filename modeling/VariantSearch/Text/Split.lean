namespace VariantSearch.Text

def pieces (sep : Char) : List Char → List (List Char)
  | [] => [[]]
  | c :: rest =>
    if c = sep then [] :: pieces sep rest
    else
      match pieces sep rest with
      | [] => [[c]]
      | piece :: more => (c :: piece) :: more

def cutFirst? (sep : Char) : List Char → Option (List Char × List Char)
  | [] => none
  | c :: rest =>
    if c = sep then some ([], rest)
    else (cutFirst? sep rest).map fun (before, after) => (c :: before, after)

def cutLast? (sep : Char) : List Char → Option (List Char × List Char)
  | [] => none
  | c :: rest =>
    match cutLast? sep rest with
    | some (before, after) => some (c :: before, after)
    -- No separator follows, so this one would be the last.
    | none => if c = sep then some ([], rest) else none

def joined (sep : Char) : List (List Char) → List Char
  | [] => []
  | [piece] => piece
  | piece :: more => piece ++ sep :: joined sep more

theorem pieces_ne_nil (sep : Char) (cs : List Char) : pieces sep cs ≠ [] := by
  cases cs with
  | nil => simp [pieces]
  | cons c rest =>
    unfold pieces
    split
    · simp
    · split <;> simp

/-- Joining the pieces gives the text back. -/
theorem joined_pieces (sep : Char) (cs : List Char) : joined sep (pieces sep cs) = cs := by
  induction cs with
  | nil => rfl
  | cons c rest ih =>
    have hne := pieces_ne_nil sep rest
    unfold pieces
    cases h : pieces sep rest with
    | nil => exact absurd h hne
    | cons piece more =>
      rw [h] at ih
      split <;> cases more <;> simp_all [joined]

theorem pieces_of_not_mem {sep : Char} {cs : List Char} (h : sep ∉ cs) : pieces sep cs = [cs] := by
  induction cs with
  | nil => rfl
  | cons c rest ih =>
    have hc : ¬ c = sep := fun heq => h (heq ▸ List.mem_cons_self)
    rw [pieces, if_neg hc, ih (List.not_mem_of_not_mem_cons h)]

/-- A separator ends a piece and starts the next one. -/
theorem pieces_append_sep (sep : Char) (a b : List Char) :
    pieces sep (a ++ sep :: b) = pieces sep a ++ pieces sep b := by
  induction a with
  | nil => simp [pieces]
  | cons c rest ih =>
    have hne := pieces_ne_nil sep rest
    rw [List.cons_append, pieces, pieces, ih]
    cases h : pieces sep rest with
    | nil => exact absurd h hne
    | cons piece more => split <;> rfl

/-- Texts without the separator are the pieces of what they form. -/
theorem pieces_joined {sep : Char} {texts : List (List Char)} (hne : texts ≠ [])
    (h : ∀ text ∈ texts, sep ∉ text) : pieces sep (joined sep texts) = texts := by
  induction texts with
  | nil => exact absurd rfl hne
  | cons text more ih =>
    have htext : pieces sep text = [text] := pieces_of_not_mem (h text List.mem_cons_self)
    cases more with
    | nil => exact htext
    | cons next more =>
      have hmore := ih (List.cons_ne_nil next more) fun t ht => h t (List.mem_cons_of_mem text ht)
      rw [joined, pieces_append_sep, htext, hmore, List.singleton_append]
      exact List.cons_ne_nil next more

/-- Texts without the separator are known from what they form. -/
theorem joined_inj {sep : Char} {a b : List (List Char)} (ha : a ≠ []) (hb : b ≠ [])
    (ha' : ∀ text ∈ a, sep ∉ text) (hb' : ∀ text ∈ b, sep ∉ text)
    (h : joined sep a = joined sep b) : a = b := by
  rw [← pieces_joined ha ha', h, pieces_joined hb hb']

/-- A piece holds no separator, and its characters stand in the text in the same order. -/
theorem of_mem_pieces {sep : Char} {cs piece : List Char} (h : piece ∈ pieces sep cs) :
    sep ∉ piece ∧ piece.Sublist cs := by
  induction cs generalizing piece with
  | nil =>
    obtain rfl := List.mem_singleton.1 h
    exact ⟨List.not_mem_nil, List.nil_sublist []⟩
  | cons c rest ih =>
    unfold pieces at h
    split at h
    · rcases List.mem_cons.1 h with rfl | h
      · exact ⟨List.not_mem_nil, List.nil_sublist _⟩
      · exact ⟨(ih h).1, (ih h).2.cons c⟩
    · next hc =>
      cases hrest : pieces sep rest with
      | nil => exact absurd hrest (pieces_ne_nil sep rest)
      | cons first more =>
        rw [hrest] at h ih
        rcases List.mem_cons.1 h with rfl | h
        · obtain ⟨hsep, hsub⟩ := ih List.mem_cons_self
          exact ⟨List.not_mem_cons_of_ne_of_not_mem (Ne.symm hc) hsep, hsub.cons_cons c⟩
        · obtain ⟨hsep, hsub⟩ := ih (List.mem_cons_of_mem first h)
          exact ⟨hsep, hsub.cons c⟩

/-- Only a text without the separator cannot be cut. -/
theorem cutFirst?_eq_none_iff {sep : Char} {cs : List Char} :
    cutFirst? sep cs = none ↔ sep ∉ cs := by
  induction cs with
  | nil => simp [cutFirst?]
  | cons c rest ih =>
    rw [cutFirst?, List.mem_cons, not_or, ← ih]
    split
    · next hc => simp [hc]
    · next hc => simp [Ne.symm hc]

theorem cutFirst?_append {sep : Char} {before : List Char} (h : sep ∉ before) (after : List Char) :
    cutFirst? sep (before ++ sep :: after) = some (before, after) := by
  induction before with
  | nil => simp [cutFirst?]
  | cons c rest ih =>
    obtain ⟨hc, hrest⟩ := List.ne_and_not_mem_of_not_mem_cons h
    rw [List.cons_append, cutFirst?, if_neg (Ne.symm hc), ih hrest, Option.map_some]

/-- The first cut is at a separator, and no separator comes before it. -/
theorem cutFirst?_eq_some {sep : Char} {cs before after : List Char}
    (h : cutFirst? sep cs = some (before, after)) :
    cs = before ++ sep :: after ∧ sep ∉ before := by
  induction cs generalizing before with
  | nil => simp [cutFirst?] at h
  | cons c rest ih =>
    unfold cutFirst? at h
    split at h
    · next hc => simp_all
    · next hc =>
      obtain ⟨p, hp, heq⟩ := Option.map_eq_some_iff.1 h
      obtain ⟨rfl, rfl⟩ := Prod.mk.inj heq
      obtain ⟨h1, h2⟩ := ih hp
      refine ⟨by rw [h1]; rfl, ?_⟩
      simp [h2, Ne.symm hc]

end VariantSearch.Text

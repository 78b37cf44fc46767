import VariantSearch.Proofs.TextMap
import VariantSearch.Variant

/-!
The synonyms after some were added are determined by which entries there are.
-/

namespace VariantSearch.Variant

def StandsFor (map : TextMap TextSet) (term text : String) : Prop :=
  ∃ texts, map.get? term = some texts ∧ text ∈ texts

def Adds (entries : List (String × List String)) (term text : String) : Prop :=
  ∃ e ∈ entries, e.1 = term ∧ text ∈ e.2

/-- The merged map is the union of a map and some entries, term by term. -/
structure IsUnion (old : TextMap TextSet) (entries : List (String × List String))
    (merged : TextMap TextSet) : Prop where
  /-- An entry makes its term one of the map, even if it has no texts for it. -/
  terms : ∀ term, term ∈ merged.keys ↔ term ∈ old.keys ∨ term ∈ entries.map (·.1)
  texts : ∀ term text,
    StandsFor merged term text ↔ StandsFor old term text ∨ Adds entries term text

section Union

variable {old merged merged' : TextMap TextSet} {entries more : List (String × List String)}

theorem standsFor_iff {map : TextMap TextSet} {term text : String} {texts : TextSet}
    (h : map.get? term = some texts) : StandsFor map term text ↔ text ∈ texts := by
  constructor
  · rintro ⟨found, hfound, htext⟩
    obtain rfl := Option.some.inj (hfound.symm.trans h)
    exact htext
  · exact fun htext => ⟨texts, h, htext⟩

/-- There is one union only. -/
theorem IsUnion.unique (h : IsUnion old entries merged) (h' : IsUnion old entries merged') :
    merged = merged' := by
  apply TextMap.ext_of_keys
  · intro term
    exact (h.terms term).trans (h'.terms term).symm
  · intro term texts texts' hfound hfound'
    apply TextSet.ext
    intro text
    calc text ∈ texts
      _ ↔ StandsFor merged term text := (standsFor_iff hfound).symm
      _ ↔ StandsFor merged' term text := (h.texts term text).trans (h'.texts term text).symm
      _ ↔ text ∈ texts' := standsFor_iff hfound'

theorem isUnion_nil (map : TextMap TextSet) : IsUnion map [] map where
  terms term := by simp
  texts term text := by simp [Adds]

/-- A union with further entries is the union with all of them. -/
theorem IsUnion.append (h : IsUnion old entries merged) (h' : IsUnion merged more merged') :
    IsUnion old (entries ++ more) merged' where
  terms term := by rw [h'.terms, h.terms, List.map_append, List.mem_append, or_assoc]
  texts term text := by
    have hadds : Adds (entries ++ more) term text ↔
        Adds entries term text ∨ Adds more term text := by
      simp only [Adds, List.mem_append, or_and_right, exists_or]
    rw [h'.texts, h.texts, hadds, or_assoc]

/-- Entries that say the same have the same union. -/
theorem IsUnion.congr (h : IsUnion old entries merged)
    (hterms : ∀ term, term ∈ entries.map (·.1) ↔ term ∈ more.map (·.1))
    (htexts : ∀ term text, Adds entries term text ↔ Adds more term text) :
    IsUnion old more merged where
  terms term := by rw [h.terms, hterms]
  texts term text := by rw [h.texts, htexts]

/-- One entry changes the set of its term, or makes one, and leaves all other terms. -/
theorem isUnion_mergeSynonym (map : TextMap TextSet) (entry : String × List String) :
    IsUnion map [entry] (mergeSynonym map entry) := by
  have hget (term : String) : (mergeSynonym map entry).get? term =
      if entry.1 = term then some (entry.2.foldl TextSet.insert ((map.get? entry.1).getD ∅))
      else map.get? term := TextMap.get?_insert _ _ _ _
  constructor
  · intro term
    rw [TextMap.mem_keys_iff, TextMap.mem_keys_iff, hget, List.map_singleton, List.mem_singleton]
    by_cases hterm : entry.1 = term
    · simp [hterm]
    · simp [hterm, Ne.symm hterm]
  · intro term text
    by_cases hterm : entry.1 = term
    · subst hterm
      -- A term that was not there stood for nothing.
      have hold : StandsFor map entry.1 text ↔ text ∈ (map.get? entry.1).getD ∅ := by
        cases hfound : map.get? entry.1 with
        | none =>
          refine iff_of_false ?_ TextSet.not_mem_empty
          rintro ⟨texts, htexts, -⟩
          rw [hfound] at htexts
          cases htexts
        | some texts => exact standsFor_iff hfound
      rw [standsFor_iff ((hget entry.1).trans (if_pos rfl)), TextSet.mem_foldl_insert, hold, or_comm]
      simp [Adds]
    · have hsame : StandsFor (mergeSynonym map entry) term text ↔ StandsFor map term text := by
        rw [StandsFor, hget, if_neg hterm, StandsFor]
      rw [hsame]
      simp [Adds, hterm]

/-- Entries that are merged one after another give the union. -/
theorem isUnion_foldl (entries : List (String × List String)) (map : TextMap TextSet) :
    IsUnion map entries (entries.foldl mergeSynonym map) := by
  -- The map varies, since each entry is merged into what those before it left.
  induction entries generalizing map with
  | nil => exact isUnion_nil map
  | cons entry more ih => exact (isUnion_mergeSynonym map entry).append (ih (mergeSynonym map entry))

end Union

section Laws

variable (v : Variant) {entries other : List (String × List String)}

/-- The terms of the entries and what is said of each are all that matters of them. -/
theorem addSynonyms_congr (hterms : ∀ term, term ∈ entries.map (·.1) ↔ term ∈ other.map (·.1))
    (htexts : ∀ term text, Adds entries term text ↔ Adds other term text) :
    v.addSynonyms entries = v.addSynonyms other := by
  have hunion := (isUnion_foldl entries v.settings.synonyms).congr hterms htexts
  have hsame := hunion.unique (isUnion_foldl other v.settings.synonyms)
  rw [addSynonyms, hsame, addSynonyms]

theorem addSynonyms_of_mem_iff (h : ∀ e, e ∈ entries ↔ e ∈ other) :
    v.addSynonyms entries = v.addSynonyms other := by
  apply addSynonyms_congr
  · intro term
    simp only [List.mem_map, h]
  · intro term text
    simp only [Adds, h]

theorem addSynonyms_append (entries more : List (String × List String)) :
    v.addSynonyms (entries ++ more) = (v.addSynonyms entries).addSynonyms more := by
  rw [addSynonyms, List.foldl_append]
  rfl

end Laws

/-- Synonyms are added by union: the terms are the old ones and those of the entries, and a term
stands for what it stood for and what any of its entries says. So neither the order nor the number of
equal entries matters, entries may be added in one go or one part after the other, adding them again
changes nothing, a text that only some term stands for does not become a term, and the rest of the
variant stays. -/
theorem addSynonyms_unites (v : Variant) (entries : List (String × List String)) :
    IsUnion v.settings.synonyms entries (v.addSynonyms entries).settings.synonyms ∧
      (∀ other, (∀ e, e ∈ other ↔ e ∈ entries) → v.addSynonyms other = v.addSynonyms entries) ∧
      (∀ more, v.addSynonyms (entries ++ more) = (v.addSynonyms entries).addSynonyms more) ∧
      (v.addSynonyms entries).addSynonyms entries = v.addSynonyms entries ∧
      (∀ e ∈ entries, ∀ text ∈ e.2, text ∉ v.settings.synonyms.keys →
        text ∉ entries.map (·.1) → (v.addSynonyms entries).settings.synonyms.get? text = none) ∧
      ∃ merged, v.addSynonyms entries = { v with settings.synonyms := merged } := by
  have hunion := isUnion_foldl entries v.settings.synonyms
  refine ⟨hunion, ?_, v.addSynonyms_append entries, ?_, ?_, _, rfl⟩
  · intro other hsame
    exact v.addSynonyms_of_mem_iff hsame
  · rw [← v.addSynonyms_append entries entries]
    apply v.addSynonyms_of_mem_iff
    intro e
    rw [List.mem_append, or_self]
  · intro e _ text _ hold hnew
    have hterm : text ∉ (v.addSynonyms entries).settings.synonyms.keys := by
      intro hterm
      exact ((hunion.terms text).1 hterm).elim hold hnew
    rw [TextMap.mem_keys_iff] at hterm
    exact Option.eq_none_iff_forall_ne_some.2 fun texts htexts => hterm ⟨texts, htexts⟩

def repeatedEntries : List (String × List String) :=
  [("UM", ["UM coverage"]), ("claim", ["loss"]), ("UIM", []), ("claim", ["damage", "loss"])]

def shuffledEntries : List (String × List String) :=
  [("claim", ["damage", "loss"]), ("UIM", []), ("UM", ["UM coverage"]), ("UIM", []),
    ("claim", ["loss"])]

def insured : Variant :=
  ⟨"v1", "idx_v1", "id",
    { Settings.standard with synonyms := .ofList [("UM", .ofList ["uninsured motorist"])] }⟩

theorem addSynonyms_unites_for_repeatedEntries :
    (∀ e, e ∈ shuffledEntries ↔ e ∈ repeatedEntries) ∧
      insured.addSynonyms shuffledEntries = insured.addSynonyms repeatedEntries ∧
      (insured.addSynonyms repeatedEntries).settings.synonyms.keys = ["UIM", "UM", "claim"] ∧
      (∀ text, StandsFor (insured.addSynonyms repeatedEntries).settings.synonyms "claim" text ↔
        text = "loss" ∨ text = "damage") ∧
      (insured.addSynonyms repeatedEntries).settings.synonyms.get? "loss" = none := by
  have hsame : ∀ e, e ∈ shuffledEntries ↔ e ∈ repeatedEntries := by
    intro e
    simp only [shuffledEntries, repeatedEntries, List.mem_cons, List.not_mem_nil, or_false]
    tauto
  obtain ⟨hunion, hother, -, -, hreverse, -⟩ := addSynonyms_unites insured repeatedEntries
  refine ⟨hsame, hother _ hsame, by decide +kernel, fun text => ?_, ?_⟩
  · have hold : ¬ StandsFor insured.settings.synonyms "claim" text := by
      rintro ⟨texts, htexts, -⟩
      have hnone : insured.settings.synonyms.get? "claim" = none := by decide +kernel
      rw [hnone] at htexts
      cases htexts
    rw [hunion.texts]
    simp only [hold, false_or, Adds, repeatedEntries, List.mem_cons, List.not_mem_nil]
    simp
    tauto
  · exact hreverse ("claim", ["loss"]) (by decide) "loss" (by decide) (by decide +kernel) (by decide)

end VariantSearch.Variant

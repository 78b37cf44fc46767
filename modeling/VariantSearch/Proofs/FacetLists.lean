import Mathlib.Data.List.Basic
import VariantSearch.Proofs.FacetGrammar

namespace VariantSearch.Facet

open Text

/-- A facet that a segment between two commas can say. -/
structure IsListable (f : Facet) : Prop extends IsSound f where
  comma_not_mem : ',' ∉ f.value.toList

def listText (facets : List Facet) : String := ",".intercalate (facets.map toText)

theorem toList_toText (f : Facet) : f.toText.toList = f.field.toList ++ ':' :: f.value.toList :=
  RankingRule.toList_clause f.field f.value

/-- The text of a facet is a segment that says it, without blanks around its parts. -/
theorem IsSound.isWritten_toText {f : Facet} (h : IsSound f) : IsWritten f.toText.toList f := by
  have hnone : Blank [] := fun c hc => absurd hc List.not_mem_nil
  refine ⟨h, [], [], [], [], hnone, hnone, hnone, hnone, ?_⟩
  rw [toList_toText]
  simp

theorem IsListable.comma_not_mem_toText {f : Facet} (h : IsListable f) : ',' ∉ f.toText.toList := by
  have hfield : ',' ∉ f.field.toList := by
    intro hmem
    exact absurd (h.field_chars ',' hmem) (by decide)
  rw [toList_toText, List.mem_append, List.mem_cons]
  rintro (hmem | hmem | hmem)
  · exact hfield hmem
  · exact absurd hmem (by decide)
  · exact h.comma_not_mem hmem

/-- A facet that is said by a segment without commas has no comma in its value. -/
theorem isListable_of_isWritten {segment : List Char} {f : Facet} (h : IsWritten segment f)
    (hsegment : ',' ∉ segment) : IsListable f := by
  obtain ⟨w₁, w₂, w₃, w₄, -, -, -, -, rfl⟩ := h.form
  refine ⟨h.toIsSound, ?_⟩
  intro hmem
  apply hsegment
  simp [hmem]

theorem isListable_of_mem_parse {raw : String} {f : Facet} (h : f ∈ parse raw) : IsListable f := by
  obtain ⟨segment, hsegment, hf⟩ := List.mem_filterMap.1 h
  exact isListable_of_isWritten (isWritten_of_ofSegment? hf) (of_mem_pieces hsegment).1

theorem parse_listText {facets : List Facet} (h : ∀ f ∈ facets, IsListable f) :
    parse (listText facets) = facets := by
  -- The text of the empty list is one empty segment, which says none.
  by_cases hne : facets = []
  · subst hne
    rfl
  · have hbare : ∀ text ∈ facets.map toText, ',' ∉ text.toList := by
      intro text htext
      obtain ⟨f, hf, rfl⟩ := List.mem_map.1 htext
      exact (h f hf).comma_not_mem_toText
    have hsplit : IsSplit ',' (listText facets).toList ((facets.map toText).map String.toList) :=
      isSplit_intercalate (fun hnil => hne (List.map_eq_nil_iff.1 hnil)) hbare
    have hread : ∀ f ∈ facets, ofSegment? f.toText.toList = some f := by
      intro f hf
      exact ofSegment?_of_isWritten (h f hf).toIsSound.isWritten_toText
    calc parse (listText facets)
        = ((facets.map toText).map String.toList).filterMap ofSegment? := parse_eq hsplit
      _ = facets.filterMap fun f => ofSegment? f.toText.toList := by
        rw [List.filterMap_map, List.filterMap_map]
        rfl
      _ = facets.filterMap some := List.filterMap_congr hread
      _ = facets := List.filterMap_some

/-- A comma ends a segment, whatever stands on its two sides. -/
theorem parse_append_comma (a b : String) : parse (a ++ "," ++ b) = parse a ++ parse b := by
  have htext : (a ++ "," ++ b).toList = a.toList ++ ',' :: b.toList := by
    rw [String.toList_append, String.toList_append, List.append_assoc]
    rfl
  rw [parse, htext, pieces_append_sep, List.filterMap_append]
  rfl

/-- A list of facets is read back from its text just if every facet is one that a segment between commas
can say. Every list that is read from a text is of this kind, so it is read again from its own text;
and texts with a comma between them give the facets of the first and then those of the second. -/
theorem lists_read_back :
    (∀ facets, parse (listText facets) = facets ↔ ∀ f ∈ facets, IsListable f) ∧
      (∀ raw, ∀ f ∈ parse raw, IsListable f) ∧
      (∀ raw, parse (listText (parse raw)) = parse raw) ∧
      ∀ a b, parse (a ++ "," ++ b) = parse a ++ parse b := by
  refine ⟨?_, ?_, ?_, parse_append_comma⟩
  · intro facets
    constructor
    · intro h f hf
      rw [← h] at hf
      exact isListable_of_mem_parse hf
    · exact parse_listText
  · intro raw f hf
    exact isListable_of_mem_parse hf
  · intro raw
    exact parse_listText fun f hf => isListable_of_mem_parse hf

def trickyFacets : List Facet := [⟨"at", "10:30: x"⟩, ⟨"a-b.c_1", ":"⟩, ⟨"at", "\"id\" = 1"⟩]

theorem lists_read_back_for_trickyFacets :
    (∀ f ∈ trickyFacets, IsListable f) ∧
      listText trickyFacets = "at:10:30: x,a-b.c_1::,at:\"id\" = 1" ∧
      parse (listText trickyFacets) = trickyFacets ∧
      parse (listText (parse " at : x,, :y")) = parse " at : x,, :y" ∧
      parse ("at:1" ++ "," ++ "2") = parse "at:1" ++ parse "2" := by
  obtain ⟨hback, hkind, hagain, happend⟩ := lists_read_back
  have hparse : parse (listText trickyFacets) = trickyFacets := by decide +kernel
  have hlistable : ∀ f ∈ trickyFacets, IsListable f := by
    rw [← hparse]
    exact hkind (listText trickyFacets)
  exact ⟨hlistable, by decide +kernel, (hback trickyFacets).2 hlistable, hagain _, happend _ _⟩

end VariantSearch.Facet

import Mathlib.Data.List.Forall2
import VariantSearch.Request

namespace VariantSearch

namespace Facet.Filter

inductive Quotes : List Char → List Char → Prop
  | nil : Quotes [] []
  | plain {c : Char} {written value : List Char} (hbackslash : c ≠ '\\') (hquote : c ≠ '"')
      (rest : Quotes written value) : Quotes (c :: written) (c :: value)
  | escaped {c : Char} {written value : List Char} (hc : c = '\\' ∨ c = '"')
      (rest : Quotes written value) : Quotes ('\\' :: c :: written) (c :: value)

/-- The characters are one comparison of the grammar, and it says a facet. -/
def IsComparison (cs : List Char) (f : Facet) : Prop :=
  isName f.field.toList = true ∧
    ∃ written, cs = f.field.toList ++ " = \"".toList ++ written ++ ['"'] ∧
      Quotes written f.value.toList

def replaced (c : Char) (replacement cs : List Char) : List Char :=
  cs.flatMap fun x => if x = c then replacement else [x]

/-- Escaping is replacing the backslashes, and then the quotes. -/
theorem flatMap_escape (cs : List Char) :
    cs.flatMap escape = replaced '"' ['\\', '"'] (replaced '\\' ['\\', '\\'] cs) := by
  induction cs with
  | nil => rfl
  | cons c rest ih =>
    have hcons : replaced '"' ['\\', '"'] (replaced '\\' ['\\', '\\'] (c :: rest)) =
        replaced '"' ['\\', '"'] (if c = '\\' then ['\\', '\\'] else [c]) ++
          replaced '"' ['\\', '"'] (replaced '\\' ['\\', '\\'] rest) := by
      simp only [replaced, List.flatMap_cons, List.flatMap_append]
    rw [List.flatMap_cons, hcons, ih]
    congr 1
    -- The backslashes that the first pass adds are no quotes, so the second pass leaves them.
    by_cases hbackslash : c = '\\'
    · subst hbackslash
      rfl
    · by_cases hquote : c = '"'
      · subst hquote
        rfl
      · simp [replaced, escape, hbackslash, hquote]

-- Replacing the quotes first lets the second pass strip them of their protection.
example : replaced '\\' ['\\', '\\'] (replaced '"' ['\\', '"'] ['"']) = ['\\', '\\', '"'] := by
  decide

theorem quotes_flatMap_escape (value : List Char) : Quotes (value.flatMap escape) value := by
  induction value with
  | nil => exact .nil
  | cons c rest ih =>
    rw [List.flatMap_cons]
    by_cases hc : c = '\\' ∨ c = '"'
    · have hescape : escape c = ['\\', c] := if_pos hc
      rw [hescape]
      exact .escaped hc ih
    · have hescape : escape c = [c] := if_neg hc
      obtain ⟨hbackslash, hquote⟩ := not_or.1 hc
      rw [hescape]
      exact .plain hbackslash hquote ih

theorem isComparison_encode {f : Facet} (hf : isName f.field.toList = true) :
    IsComparison (encode f) f :=
  ⟨hf, f.value.toList.flatMap escape, rfl, quotes_flatMap_escape f.value.toList⟩

theorem readQuoted?_of_quotes {written value : List Char} (h : Quotes written value)
    (rest : List Char) : readQuoted? (written ++ '"' :: rest) = some (value, rest) := by
  -- Each step of the grammar is one step of the reader, so what follows the quote is never touched.
  induction h with
  | nil => rfl
  | plain hbackslash hquote _ ih => simp [readQuoted?, hbackslash, ih]
  | escaped hc _ ih => simp [readQuoted?, hc, ih]

theorem quotes_of_readQuoted? {cs value rest : List Char}
    (h : readQuoted? cs = some (value, rest)) :
    ∃ written, cs = written ++ '"' :: rest ∧ Quotes written value := by
  fun_induction readQuoted? cs generalizing value with
  | case1 => cases h
  | case2 after =>
    obtain ⟨rfl, rfl⟩ := Prod.mk.inj (Option.some.inj h)
    exact ⟨[], rfl, .nil⟩
  | case3 c after hc ih =>
    obtain ⟨⟨text, left⟩, hread, heq⟩ := Option.map_eq_some_iff.1 h
    obtain ⟨rfl, rfl⟩ := Prod.mk.inj heq
    obtain ⟨written, rfl, hwritten⟩ := ih hread
    exact ⟨'\\' :: c :: written, rfl, .escaped hc hwritten⟩
  | case4 => cases h
  | case5 => cases h
  | case6 c after hquote hpair hlone ih =>
    obtain ⟨⟨text, left⟩, hread, heq⟩ := Option.map_eq_some_iff.1 h
    obtain ⟨rfl, rfl⟩ := Prod.mk.inj heq
    obtain ⟨written, rfl, hwritten⟩ := ih hread
    -- A backslash would have been read with the character behind it, and there is one.
    have hbackslash : c ≠ '\\' := by
      rintro rfl
      cases written with
      | nil => exact hpair _ _ rfl rfl
      | cons x more => exact hpair _ _ rfl rfl
    exact ⟨c :: written, rfl, .plain hbackslash (fun hc => hquote hc) hwritten⟩

theorem isName_iff (cs : List Char) :
    isName cs = true ↔ cs ≠ [] ∧ ∀ c ∈ cs, isNameChar c = true := by
  simp only [isName, Bool.and_eq_true, List.all_eq_true, Bool.not_eq_true', List.isEmpty_eq_false_iff]

theorem isComparison_of_read? {cs : List Char} {f : Facet} (h : read? cs = some f) :
    IsComparison cs f := by
  unfold read? at h
  dsimp only at h
  split at h
  · next rest hdrop =>
    split at h
    · next value hread =>
      obtain ⟨hname, hf⟩ := Option.ite_none_left_eq_some.1 h
      obtain rfl := Option.some.inj hf
      -- The reader leaves nothing over, so the closing quote is the last character.
      obtain ⟨written, rfl, hwritten⟩ := quotes_of_readQuoted? hread
      have hall : (cs.takeWhile isNameChar).all isNameChar = true := List.all_takeWhile
      have hcs : cs = cs.takeWhile isNameChar ++ " = \"".toList ++ written ++ ['"'] := by
        calc cs = cs.takeWhile isNameChar ++ cs.dropWhile isNameChar :=
              List.takeWhile_append_dropWhile.symm
          _ = cs.takeWhile isNameChar ++ " = \"".toList ++ written ++ ['"'] := by
              rw [hdrop]
              simp
      simp only [IsComparison, String.toList_ofList, isName_iff]
      exact ⟨⟨by simpa using hname, List.all_eq_true.1 hall⟩, written, hcs, hwritten⟩
    · cases h
  · cases h

theorem read?_of_isComparison {cs : List Char} {f : Facet} (h : IsComparison cs f) :
    read? cs = some f := by
  obtain ⟨hname, written, rfl, hwritten⟩ := h
  obtain ⟨hne, hall⟩ := (isName_iff _).1 hname
  have hcs : f.field.toList ++ " = \"".toList ++ written ++ ['"'] =
      f.field.toList ++ ' ' :: '=' :: ' ' :: '"' :: (written ++ ['"']) := by simp
  -- A blank is no character of a name, so the name ends where the field does.
  have htake : (f.field.toList ++ ' ' :: '=' :: ' ' :: '"' :: (written ++ ['"'])).takeWhile
      isNameChar = f.field.toList := by
    rw [List.takeWhile_append_of_pos hall]
    exact List.append_nil _
  have hdrop : (f.field.toList ++ ' ' :: '=' :: ' ' :: '"' :: (written ++ ['"'])).dropWhile
      isNameChar = ' ' :: '=' :: ' ' :: '"' :: (written ++ ['"']) :=
    List.dropWhile_append_of_pos hall
  have hread := readQuoted?_of_quotes hwritten []
  have hnot : f.field.toList.isEmpty = false := List.isEmpty_eq_false_iff.2 hne
  simp only [read?, hcs, htake, hdrop, hread, hnot, Bool.false_eq_true, ↓reduceIte,
    String.ofList_toList]

/-- The reader reads a facet just if the whole expression is one comparison that says it. -/
theorem read?_eq_some_iff (cs : List Char) (f : Facet) : read? cs = some f ↔ IsComparison cs f :=
  ⟨isComparison_of_read?, read?_of_isComparison⟩

/-- An expression says one facet at most. -/
theorem IsComparison.unique {cs : List Char} {f g : Facet} (hf : IsComparison cs f)
    (hg : IsComparison cs g) : g = f := by
  have hread := (read?_eq_some_iff cs f).2 hf
  rw [(read?_eq_some_iff cs g).2 hg] at hread
  exact Option.some.inj hread

end Facet.Filter

namespace Facet

theorem isName_of_ofSegment? {segment : List Char} {f : Facet} (h : ofSegment? segment = some f) :
    isName f.field.toList = true := by
  unfold ofSegment? at h
  split at h
  · cases h
  · next before after _ =>
    dsimp only at h
    split at h
    · next hcondition =>
      obtain rfl := Option.some.inj h
      rw [String.toList_ofList]
      exact (Bool.and_eq_true_iff.1 hcondition).1
    · cases h

/-- The field of every facet that a client gets through is a name. -/
theorem isName_of_mem_ofParameter {raw : Option String} {f : Facet} (h : f ∈ ofParameter raw) :
    isName f.field.toList = true := by
  cases raw with
  | none => cases h
  | some text =>
    obtain ⟨segment, -, hsegment⟩ := List.mem_filterMap.1 h
    exact isName_of_ofSegment? hsegment

end Facet

namespace SearchRequest

open Facet.Filter

/-- The filters of a request are the facets of the client, one single comparison for each in their
order. The reader takes each of them whole and gives the field and the value of its facet, and no
other reading fits the grammar. The value that was escaped ends at its closing quote, whatever comes
after it, and different facets have different expressions. -/
theorem filters_read_back (raw : Option String) (request : SearchRequest) :
    let facets := Facet.ofParameter raw
    List.Forall₂
        (fun e f => read? e.toList = some f ∧ ∀ g, IsComparison e.toList g ↔ g = f)
        ({ request with filters := facets } : SearchRequest).toQuery.filter facets ∧
      (∀ f ∈ facets, ∃ written,
        written = replaced '"' ['\\', '"'] (replaced '\\' ['\\', '\\'] f.value.toList) ∧
          (expression f).toList = f.field.toList ++ " = \"".toList ++ written ++ ['"'] ∧
          ∀ rest, readQuoted? (written ++ '"' :: rest) = some (f.value.toList, rest)) ∧
      ∀ other, ∀ f ∈ facets, ∀ g ∈ Facet.ofParameter other, expression f = expression g → f = g := by
  intro facets
  have hcomparison (source : Option String) (f : Facet) (hf : f ∈ Facet.ofParameter source) :
      IsComparison (expression f).toList f := by
    rw [expression, String.toList_ofList]
    exact isComparison_encode (Facet.isName_of_mem_ofParameter hf)
  refine ⟨?_, ?_, ?_⟩
  · rw [toQuery, List.forall₂_map_left_iff, List.forall₂_same]
    intro f hf
    have hexpression := hcomparison raw f hf
    refine ⟨read?_of_isComparison hexpression, fun g => ⟨hexpression.unique, ?_⟩⟩
    rintro rfl
    exact hexpression
  · intro f _
    refine ⟨f.value.toList.flatMap escape, flatMap_escape f.value.toList, ?_, ?_⟩
    · rw [expression, String.toList_ofList, encode]
    · exact readQuoted?_of_quotes (quotes_flatMap_escape f.value.toList)
  · intro other f hf g hg heq
    -- One text that is a comparison for both facets says one facet only.
    have hfirst := hcomparison raw f hf
    rw [heq] at hfirst
    exact (hcomparison other g hg).unique hfirst

def breakout : String := "title:x\" OR id = \"1\\,id EXISTS OR state:Texas"

theorem filters_read_back_of_breakout :
    Facet.ofParameter (some breakout) = [⟨"title", "x\" OR id = \"1\\"⟩] ∧
      read? (expression ⟨"title", "x\" OR id = \"1\\"⟩).toList =
        some ⟨"title", "x\" OR id = \"1\\"⟩ := by
  have hone : Facet.ofParameter (some breakout) = [⟨"title", "x\" OR id = \"1\\"⟩] := by
    decide +kernel
  obtain ⟨hread, -, -⟩ := filters_read_back (some breakout) ⟨"hail", 0, 5, [], none⟩
  rw [hone, toQuery, List.map_singleton, List.forall₂_cons] at hread
  exact ⟨hone, hread.1.1⟩

end SearchRequest

end VariantSearch

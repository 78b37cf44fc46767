import Mathlib.Data.List.Induction
import VariantSearch.Proofs.MemoryRuns
import VariantSearch.Proofs.Upserts

/-!
For each value of the key an index holds the last document, at the place where the value came first.
-/

namespace VariantSearch

namespace MemoryIndex

def keyTexts (primaryKey : String) (documents : List Json) : List String :=
  (documents.filterMap (keyText? primaryKey)).eraseDups

def lastWith? (primaryKey text : String) (documents : List Json) : Option Json :=
  documents.reverse.find? fun d => keyText? primaryKey d = some text

/-- The index holds the latest of the documents that were put in. -/
structure HoldsLatest (index : MemoryIndex) (primaryKey : String) (documents : List Json) : Prop where
  key : index.primaryKey = primaryKey
  carried : AllHave primaryKey documents
  /-- The documents are those that come of putting them in one after another. -/
  upserted : index.documents = upsertAll (entriesOf primaryKey documents) []
  /-- For each value the last document with it is held, in the order in which the values came first. -/
  latest : index.documents.map (fun e => some e.2) =
    (keyTexts primaryKey documents).map fun text => lastWith? primaryKey text documents
  positions : ∀ text position, index.positions.get? text = some position ↔
    (keyTexts primaryKey documents)[position]? = some text
  inRange : ∀ text position, index.positions.get? text = some position →
    position < index.documents.length

section Upserted

variable {entries stored : List (String × Json)}

theorem eraseDups_concat (l : List String) (text : String) :
    (l ++ [text]).eraseDups = if text ∈ l then l.eraseDups else l.eraseDups ++ [text] := by
  rw [List.eraseDups_append]
  by_cases h : text ∈ l
  · simp [List.removeAll, h]
  · simp [List.removeAll, h, List.eraseDups_cons]

/-- Keys come in the order in which they were first put in. -/
theorem keys_upsertAll_nil (entries : List (String × Json)) :
    (upsertAll entries []).map (·.1) = (entries.map (·.1)).eraseDups := by
  -- From the end, since the last entry is put among all that were there before it.
  induction entries using List.reverseRecOn with
  | nil => rfl
  | append_singleton entries e ih =>
    have hlast : upsertAll (entries ++ [e]) [] = upsertInto e.1 e.2 (upsertAll entries []) :=
      upsertAll_append entries [e] []
    rw [hlast, keys_upsertInto, ih, List.map_append, List.map_singleton, eraseDups_concat]
    simp only [List.mem_eraseDups]

theorem lookup_of_nodup (h : (stored.map (·.1)).Nodup) {e : String × Json} (he : e ∈ stored) :
    TextMap.lookup e.1 stored = some e.2 := by
  induction stored with
  | nil => cases he
  | cons first rest ih =>
    obtain ⟨hnew, hrest⟩ := List.nodup_cons.1 h
    rcases List.mem_cons.1 he with rfl | he
    · exact if_pos rfl
    · have hne : first.1 ≠ e.1 := fun heq => hnew (List.mem_map.2 ⟨e, he, heq.symm⟩)
      rw [TextMap.lookup, if_neg hne, ih hrest he]

theorem keys_entriesOf (primaryKey : String) (documents : List Json) :
    (entriesOf primaryKey documents).map (·.1) = documents.filterMap (keyText? primaryKey) := by
  rw [entriesOf, List.map_filterMap]
  refine List.filterMap_congr fun d _ => ?_
  cases keyText? primaryKey d <;> rfl

theorem lookup_entriesOf (primaryKey text : String) (documents : List Json) :
    TextMap.lookup text (entriesOf primaryKey documents) =
      documents.find? fun d => keyText? primaryKey d = some text := by
  induction documents with
  | nil => rfl
  | cons d rest ih =>
    rw [entriesOf] at ih
    rw [entriesOf, List.filterMap_cons, List.find?_cons]
    cases hd : keyText? primaryKey d with
    | none => simpa [hd] using ih
    | some found =>
      by_cases hfound : found = text
      · simp [hfound, TextMap.lookup]
      · simpa [hfound, TextMap.lookup] using ih

/-- Under each value the last document is found that was put in with it. -/
theorem lookup_upserted (primaryKey text : String) (documents : List Json) :
    TextMap.lookup text (upsertAll (entriesOf primaryKey documents) []) =
      lastWith? primaryKey text documents := by
  rw [lookup_upsertAll, entriesOf, ← List.filterMap_reverse, TextMap.lookup, Option.or_none]
  exact lookup_entriesOf primaryKey text documents.reverse

theorem keys_upserted (primaryKey : String) (documents : List Json) :
    (upsertAll (entriesOf primaryKey documents) []).map (·.1) = keyTexts primaryKey documents := by
  rw [keys_upsertAll_nil, keys_entriesOf, keyTexts]

end Upserted

theorem Placed.holdsLatest {index : MemoryIndex} (h : index.Placed) {documents : List Json}
    (hcarried : AllHave index.primaryKey documents)
    (hupserted : index.documents = upsertAll (entriesOf index.primaryKey documents) []) :
    index.HoldsLatest index.primaryKey documents := by
  have hkeys : index.documents.map (·.1) = keyTexts index.primaryKey documents := by
    rw [hupserted, keys_upserted]
  refine ⟨rfl, hcarried, hupserted, ?_, fun text position => ?_, fun text position hposition => ?_⟩
  · rw [← hkeys, List.map_map]
    refine List.map_congr_left fun e he => ?_
    rw [Function.comp_apply, ← lookup_upserted, ← hupserted, lookup_of_nodup h.apart he]
  · rw [← hkeys]
    exact h.get?_positions text position
  · have hstands := (h.get?_positions text position).1 hposition
    obtain ⟨hlt, -⟩ := List.getElem?_eq_some_iff.1 hstands
    rwa [List.length_map] at hlt

end MemoryIndex

namespace Memory

def Step.madeWith? (indexUid : String) (m : Memory) : Step → Option String
  | .call (.createIndex other key) =>
    if other = indexUid ∧ (createIndex other key m).1.isOk then some key else none
  | _ => none

def Step.accepted (indexUid : String) (m : Memory) : Step → List (List Json)
  | .call (.addDocuments other offered documents) =>
    if other = indexUid ∧ (addDocuments other offered documents m).1.isOk then [documents] else []
  | _ => []

/-- The key with which an index is made, which is that of the first call for it that succeeds. -/
def madeWith? (indexUid : String) (m : Memory) : List Step → Option String
  | [] => none
  | step :: rest => (step.madeWith? indexUid m).or (madeWith? indexUid (m.perform step) rest)

def accepted (indexUid : String) (m : Memory) : List Step → List (List Json)
  | [] => []
  | step :: rest => step.accepted indexUid m ++ accepted indexUid (m.perform step) rest

def Tracks (indexUid primaryKey : String) (documents : List Json) (m : Memory) : Prop :=
  ∃ index, m.indexes.get? indexUid = some index ∧ index.WellKeyed ∧
    index.primaryKey = primaryKey ∧ MemoryIndex.AllHave primaryKey documents ∧
      index.documents = MemoryIndex.upsertAll (MemoryIndex.entriesOf primaryKey documents) []

/-- A step that has nothing to do with an index: it leaves the index as it is, makes none and brings it
no batch that is accepted. -/
structure Step.Misses (indexUid : String) (m : Memory) (step : Step) : Prop where
  index : (m.perform step).indexes.get? indexUid = m.indexes.get? indexUid
  made : step.madeWith? indexUid m = none
  accepted : step.accepted indexUid m = []

section Track

variable {m m' : Memory} {indexUid primaryKey : String} {documents : List Json}

theorem Step.misses_of_unavailable (hm : m.available = false) (step : Step) :
    step.Misses indexUid m := by
  have hfails {α : Type} (work : Attempt Memory α) := whenAvailable_of_false work hm
  have hkeeps {α : Type} (work : Attempt Memory α) :
      (whenAvailable work m).2.indexes.get? indexUid = m.indexes.get? indexUid := by
    rw [hfails work]
  have hnot {α : Type} (work : Attempt Memory α) (p : Prop) :
      ¬ (p ∧ (whenAvailable work m).1.isOk = true) := by
    rw [hfails work]
    exact fun h => Bool.false_ne_true h.2
  cases step with
  | call c =>
    cases c with
    | createIndex other key => exact ⟨hkeeps _, if_neg (hnot _ _), rfl⟩
    | updateSettings | search | health => exact ⟨hkeeps _, rfl, rfl⟩
    | addDocuments other offered batch => exact ⟨hkeeps _, rfl, if_neg (hnot _ _)⟩
  | setAvailable | settings | settingsUpdates | documentCount | indexUids | recordedSearches =>
    exact ⟨rfl, rfl, rfl⟩

/-- Only calls about the index that reach the engine have to do with it. -/
theorem Step.misses_or (indexUid : String) (m : Memory) (step : Step) :
    step.Misses indexUid m ∨ m.available = true ∧
      ((∃ key, step = .call (.createIndex indexUid key)) ∨
        (∃ settings, step = .call (.updateSettings indexUid settings)) ∨
          ∃ offered batch, step = .call (.addDocuments indexUid offered batch)) := by
  -- Nothing happens to an engine that is not there, and a call about another index misses this one.
  cases hm : m.available with
  | false => exact Or.inl (misses_of_unavailable hm step)
  | true =>
    cases step with
    | call c =>
      cases c with
      | createIndex other key =>
        by_cases hother : other = indexUid
        · exact Or.inr ⟨rfl, Or.inl ⟨key, hother ▸ rfl⟩⟩
        · exact Or.inl ⟨(sameAt_createIndex hother key m).index,
            if_neg fun hall => hother hall.1, rfl⟩
      | updateSettings other settings =>
        by_cases hother : other = indexUid
        · exact Or.inr ⟨rfl, Or.inr (Or.inl ⟨settings, hother ▸ rfl⟩)⟩
        · exact Or.inl ⟨(sameAt_updateSettings hother settings m).index, rfl, rfl⟩
      | addDocuments other offered batch =>
        by_cases hother : other = indexUid
        · exact Or.inr ⟨rfl, Or.inr (Or.inr ⟨offered, batch, hother ▸ rfl⟩)⟩
        · exact Or.inl ⟨(sameAt_addDocuments hother offered batch m).index, rfl,
            if_neg fun hall => hother hall.1⟩
      | search other query => exact Or.inl ⟨(sameAt_search other indexUid query m).index, rfl, rfl⟩
      | health => exact Or.inl ⟨(sameAt_health indexUid m).index, rfl, rfl⟩
    | setAvailable | settings | settingsUpdates | documentCount | indexUids | recordedSearches =>
      exact Or.inl ⟨rfl, rfl, rfl⟩

theorem Tracks.of_index (h : m.Tracks indexUid primaryKey documents)
    (hsame : m'.indexes.get? indexUid = m.indexes.get? indexUid) :
    m'.Tracks indexUid primaryKey documents := by
  obtain ⟨index, hindex, hrest⟩ := h
  exact ⟨index, hsame.trans hindex, hrest⟩

theorem tracks_putIndex_ofKey (hkey : primaryKey ≠ "") :
    (m.putIndex indexUid (.ofKey primaryKey)).Tracks indexUid primaryKey [] := by
  refine ⟨.ofKey primaryKey, ?_, MemoryIndex.wellKeyed_ofKey hkey, rfl, ?_, rfl⟩
  · rw [get?_putIndex, if_pos rfl]
  · exact fun d hd => absurd hd List.not_mem_nil

/-- An index that is there is not made again. -/
theorem Tracks.createIndex (h : m.Tracks indexUid primaryKey documents) (hm : m.available = true)
    (key : String) : (createIndex indexUid key m).2.Tracks indexUid primaryKey documents := by
  have hsame := h
  obtain ⟨index, hindex, -⟩ := h
  rw [createIndex_of_some key hm hindex]
  exact hsame

theorem Tracks.updateSettings (h : m.Tracks indexUid primaryKey documents)
    (hm : m.available = true) (settings : Settings) :
    (updateSettings indexUid settings m).2.Tracks indexUid primaryKey documents := by
  obtain ⟨index, hindex, hkeyed, hrest⟩ := h
  have hset := hkeyed.withSettings (some settings) (index.settingsUpdates + 1)
  rw [updateSettings_of_some settings hm hindex]
  refine ⟨_, ?_, hset, hrest⟩
  rw [get?_putIndex, if_pos rfl]

/-- What a call with documents for the index does: it takes all of them or none. -/
theorem Tracks.addDocuments_eq (h : m.Tracks indexUid primaryKey documents) (offered : String)
    (batch : List Json) :
    (m.available = true ∧ MemoryIndex.AllHave primaryKey batch ∧ ∃ m',
      addDocuments indexUid offered batch m = (.ok (), m') ∧
        m'.Tracks indexUid primaryKey (documents ++ batch)) ∨
      (¬ (m.available = true ∧ MemoryIndex.AllHave primaryKey batch) ∧ ∃ e,
        addDocuments indexUid offered batch m = (.error e, m)) := by
  obtain ⟨index, hindex, hkeyed, rfl, hcarried, hupserted⟩ := h
  cases hm : m.available with
  | false => exact Or.inr ⟨fun hall => Bool.false_ne_true hall.1, _, whenAvailable_of_false _ hm⟩
  | true =>
    by_cases hbatch : MemoryIndex.AllHave index.primaryKey batch
    · refine Or.inl ⟨rfl, hbatch, _, addDocuments_of_allHave hm hindex hkeyed hbatch offered, ?_⟩
      refine ⟨index.filledWith batch, ?_, hkeyed.filledWith batch, rfl, ?_, ?_⟩
      · rw [get?_putIndex, if_pos rfl]
      · intro d hd
        rcases List.mem_append.1 hd with hd | hd
        · exact hcarried d hd
        · exact hbatch d hd
      -- The batch is put in behind all that came before it.
      · change MemoryIndex.upsertAll (MemoryIndex.entriesOf index.primaryKey batch)
          index.documents = _
        rw [hupserted, MemoryIndex.entriesOf, MemoryIndex.entriesOf, MemoryIndex.entriesOf,
          List.filterMap_append, MemoryIndex.upsertAll_append]
    · exact Or.inr ⟨fun hall => hbatch hall.2, _,
        addDocuments_of_not_allHave hm hindex hkeyed hbatch offered⟩

/-- An index that is tracked stays so, with the documents that it accepts in the step. -/
theorem Tracks.step (h : m.Tracks indexUid primaryKey documents) (step : Step) :
    (m.perform step).Tracks indexUid primaryKey
      (documents ++ (step.accepted indexUid m).flatten) := by
  -- Only a call with documents has any that could be accepted.
  have hnone : ∀ {m' : Memory}, m'.Tracks indexUid primaryKey documents →
      m'.Tracks indexUid primaryKey (documents ++ List.flatten []) := by
    intro m' h'
    rwa [List.flatten_nil, List.append_nil]
  rcases step.misses_or indexUid m with
    hmisses | ⟨hm, ⟨key, rfl⟩ | ⟨settings, rfl⟩ | ⟨offered, batch, rfl⟩⟩
  · rw [hmisses.accepted]
    exact hnone (h.of_index hmisses.index)
  · exact hnone (h.createIndex hm key)
  · exact hnone (h.updateSettings hm settings)
  · change (addDocuments indexUid offered batch m).2.Tracks _ _ _
    rw [Step.accepted]
    rcases h.addDocuments_eq offered batch with ⟨-, -, m', htaken, h'⟩ | ⟨-, e, hrefused⟩
    · rw [htaken, if_pos ⟨rfl, rfl⟩, List.flatten_singleton]
      exact h'
    · rw [hrefused, if_neg (fun hok => Bool.false_ne_true hok.2)]
      exact hnone h

theorem Tracks.run (h : m.Tracks indexUid primaryKey documents) (steps : List Step) :
    (m.run steps).Tracks indexUid primaryKey
      (documents ++ (accepted indexUid m steps).flatten) := by
  -- The documents so far vary, since each step adds those that it accepts.
  induction steps generalizing m documents with
  | nil => rwa [accepted, List.flatten_nil, List.append_nil, run_nil]
  | cons step rest ih =>
    have hrest := ih (h.step step)
    rwa [List.append_assoc, ← List.flatten_append] at hrest

/-- A step makes the index with the key that it names, or there is none afterwards either. -/
theorem step_of_none (hnone : m.indexes.get? indexUid = none) (step : Step) :
    step.accepted indexUid m = [] ∧
      ((∃ key, step.madeWith? indexUid m = some key ∧
          m.perform step = m.putIndex indexUid (.ofKey key)) ∨
        (step.madeWith? indexUid m = none ∧
          (m.perform step).indexes.get? indexUid = none)) := by
  rcases step.misses_or indexUid m with
    hmisses | ⟨hm, ⟨key, rfl⟩ | ⟨settings, rfl⟩ | ⟨offered, batch, rfl⟩⟩
  · exact ⟨hmisses.accepted, Or.inr ⟨hmisses.made, hmisses.index.trans hnone⟩⟩
  · have hmade := createIndex_of_none key hm hnone
    refine ⟨rfl, Or.inl ⟨key, ?_, congrArg Prod.snd hmade⟩⟩
    rw [Step.madeWith?, hmade, if_pos ⟨rfl, rfl⟩]
  · have hfails := updateSettings_of_none settings hm hnone
    exact ⟨rfl, Or.inr ⟨rfl, (congrArg (·.2.indexes.get? indexUid) hfails).trans hnone⟩⟩
  · have hfails := addDocuments_of_none offered batch hm hnone
    refine ⟨?_, Or.inr ⟨rfl, (congrArg (·.2.indexes.get? indexUid) hfails).trans hnone⟩⟩
    rw [Step.accepted, hfails, if_neg (fun hok => Bool.false_ne_true hok.2)]

/-- From the step that makes it on, an index is tracked with all documents that it accepts. -/
theorem tracks_of_made (hkey : primaryKey ≠ "") (hnone : m.indexes.get? indexUid = none)
    (steps : List Step) (hmade : madeWith? indexUid m steps = some primaryKey) :
    (m.run steps).Tracks indexUid primaryKey (accepted indexUid m steps).flatten := by
  -- As long as there is no index, none is found made and no documents are accepted.
  induction steps generalizing m with
  | nil => cases hmade
  | cons step rest ih =>
    obtain ⟨haccepted, hstep⟩ := step_of_none hnone step
    rw [madeWith?] at hmade
    rw [accepted, haccepted, List.nil_append, run_cons]
    rcases hstep with ⟨key, hkey', hperform⟩ | ⟨hnokey, hnone'⟩
    · rw [hkey', Option.some_or] at hmade
      obtain rfl := Option.some.inj hmade
      have hmadeNow : (m.perform step).Tracks indexUid key [] := by
        rw [hperform]
        exact tracks_putIndex_ofKey hkey
      exact hmadeNow.run rest
    · rw [hnokey, Option.none_or] at hmade
      exact ih hnone' hmade

end Track

/-- After every run of a fresh engine, an index that was made with a key holds the latest of all
documents that it accepted, each value of the key at the place where it was first accepted. It
accepts a batch just if the engine is available and all documents of it have the key, and a batch
that it refuses changes nothing. -/
theorem stored_latest (capacity : Nat) (steps : List Step) (indexUid primaryKey : String)
    (hkey : primaryKey ≠ "")
    (hmade : madeWith? indexUid (fresh capacity) steps = some primaryKey) :
    ∃ index, ((fresh capacity).run steps).indexes.get? indexUid = some index ∧
      index.HoldsLatest primaryKey (accepted indexUid (fresh capacity) steps).flatten ∧
      ∀ offered batch,
        ((addDocuments indexUid offered batch ((fresh capacity).run steps)).1.isOk = true ↔
          ((fresh capacity).run steps).available = true ∧
            ∀ d ∈ batch, ∃ value, d.member? primaryKey = some value) ∧
        ((addDocuments indexUid offered batch ((fresh capacity).run steps)).1.isOk = false →
          (addDocuments indexUid offered batch ((fresh capacity).run steps)).2 =
            (fresh capacity).run steps) := by
  have htracks := tracks_of_made hkey rfl steps hmade
  have hbatches := htracks.addDocuments_eq
  obtain ⟨index, hindex, hkeyed, rfl, hcarried, hupserted⟩ := htracks
  refine ⟨index, hindex, hkeyed.holdsLatest hcarried hupserted, fun offered batch => ?_⟩
  rcases hbatches offered batch with ⟨hm, hhave, m', htaken, -⟩ | ⟨hnot, e, hrefused⟩
  · rw [htaken]
    exact ⟨iff_of_true rfl ⟨hm, hhave⟩, fun hok => Bool.noConfusion hok⟩
  · rw [hrefused]
    exact ⟨iff_of_false Bool.false_ne_true hnot, fun _ => rfl⟩

def titled (number : Nat) (title : String) : Json :=
  .ofMembers [("id", .nat number), ("title", .text title)]

def crowdedRun : List Step :=
  [.call (.createIndex "games" "id"),
    .call (.addDocuments "games" "sku" [titled 1 "hail", titled 2 "rain", titled 1 "snow"]),
    .call (.addDocuments "games" "id" [titled 3 "fog", .ofMembers [("sku", .nat 4)]]),
    .call (.addDocuments "games" "id" [titled 2 "dew", .text "id"]),
    .setAvailable false, .call (.addDocuments "games" "id" [titled 2 "wind"]), .setAvailable true,
    .call (.addDocuments "games" "id" [titled 4 "sleet", titled 2 "frost"])]

theorem stored_latest_after_crowdedRun :
    madeWith? "games" (fresh 1) crowdedRun = some "id" ∧
      ∃ index, ((fresh 1).run crowdedRun).indexes.get? "games" = some index ∧
        index.HoldsLatest "id" (accepted "games" (fresh 1) crowdedRun).flatten ∧
        index.documents.map (·.2) = [titled 1 "snow", titled 2 "frost", titled 4 "sleet"] := by
  have hmade : madeWith? "games" (fresh 1) crowdedRun = some "id" := by decide +kernel
  have hstored : (((fresh 1).run crowdedRun).indexes.get? "games").map
      (fun index => index.documents.map (·.2)) =
        some [titled 1 "snow", titled 2 "frost", titled 4 "sleet"] := rfl
  obtain ⟨index, hindex, hlatest, -⟩ :=
    stored_latest 1 crowdedRun "games" "id" (by decide) hmade
  rw [hindex] at hstored
  exact ⟨hmade, index, hindex, hlatest, Option.some.inj hstored⟩

end Memory

end VariantSearch

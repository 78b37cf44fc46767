import VariantSearch.Proofs.StoredDocuments
import VariantSearch.Proofs.ValueTexts

/-!
Which documents of an index are taken for one another.
-/

namespace VariantSearch

namespace MemoryIndex

def held (index : MemoryIndex) : List Json := index.documents.map (·.2)

def heldKeys (index : MemoryIndex) : List String := index.documents.map (·.1)

def heldAfter (start : MemoryIndex) (documents : List Json) (n : Nat) : List Json :=
  (start.filledWith (documents.take n)).held

/-- A document is put at a place, instead of the one that stands there or next to the last one. -/
structure PutAt (place : Nat) (document : Json) (before after : List Json) : Prop where
  within : place ≤ before.length
  eq : after = before.take place ++ document :: before.drop (place + 1)

/-- The document has this value under the key, one that can be read and has no binary64 numbers. -/
structure HasExactKey (primaryKey : String) (document value : Json) : Prop where
  member : document.member? primaryKey = some value
  sound : value.Sound
  exact : value.WithoutDoubles

/-- Each of some documents that an index takes one after another has a place, and those whose keys
have the same value share it. -/
structure Identifies (start : MemoryIndex) (documents : List Json) (places : List Nat) : Prop where
  length : places.length = documents.length
  put : ∀ (n : Nat) (document : Json) (place : Nat),
    documents[n]? = some document → places[n]? = some place →
      PutAt place document (start.heldAfter documents n) (start.heldAfter documents (n + 1))
  stands : ∀ (n m : Nat) (document : Json) (place : Nat),
    documents[n]? = some document → places[n]? = some place → n < m → m ≤ documents.length →
      (∀ i, n < i → i < m → places[i]? ≠ some place) →
        (start.heldAfter documents m)[place]? = some document
  /-- A later document is put there just if its key has the same value, which two values of different
  kinds never are. -/
  shared : ∀ (n m : Nat) (earlier later value value' : Json) (place place' : Nat), n < m →
    documents[n]? = some earlier → documents[m]? = some later →
    HasExactKey start.primaryKey earlier value → HasExactKey start.primaryKey later value' →
    places[n]? = some place → places[m]? = some place' →
      (place' = place ↔ value.Same value') ∧ (value.kind ≠ value'.kind → place' ≠ place)

section Places

variable {start : MemoryIndex} {documents before after : List Json} {document d : Json}
  {key text : String} {place n : Nat}

theorem PutAt.getElem?_self (h : PutAt place document before after) :
    after[place]? = some document := by
  have hlength : (before.take place).length = place := List.length_take_of_le h.within
  rw [h.eq, List.getElem?_append_right hlength.le, hlength, Nat.sub_self, List.getElem?_cons_zero]

/-- What stands at other places stays there. -/
theorem PutAt.getElem?_of_some (h : PutAt place document before after) {other : Nat}
    (hne : other ≠ place) (hother : before[other]? = some d) : after[other]? = some d := by
  have hlength : (before.take place).length = place := List.length_take_of_le h.within
  rw [h.eq]
  rcases Nat.lt_or_gt_of_ne hne with hlt | hgt
  · rwa [List.getElem?_append_left (by omega), List.getElem?_take_of_lt hlt]
  · obtain ⟨more, rfl⟩ := Nat.exists_eq_add_of_lt hgt
    have hsub : place + more + 1 - place = more + 1 := by omega
    have hadd : place + 1 + more = place + more + 1 := by omega
    rw [List.getElem?_append_right (by omega), hlength, hsub, List.getElem?_cons_succ,
      List.getElem?_drop, hadd, hother]

theorem keyText?_of_member? {value : Json} (h : document.member? key = some value) :
    keyText? key document = some value.toText := by
  rw [keyText?, h]
  rfl

/-- Of a document that is read nothing is asked but that no binary64 number stands in its key. -/
theorem hasExactKey_of_read {value : Json} (hread : Json.ofString? text = some document)
    (hmember : document.member? key = some value) (hexact : value.WithoutDoubles) :
    HasExactKey key document value :=
  ⟨hmember, (Json.sound_of_ofString? hread).member? hmember, hexact⟩

theorem HasExactKey.keyText? {value : Json} (h : HasExactKey key document value) :
    MemoryIndex.keyText? key document = some value.toText :=
  keyText?_of_member? h.member

/-- A document is put at the place of its key. -/
theorem putAt_upsertInto (key : String) (document : Json) (stored : List (String × Json)) :
    PutAt (((upsertInto key document stored).map (·.1)).idxOf key) document (stored.map (·.2))
      ((upsertInto key document stored).map (·.2)) := by
  -- The place is the index of the key among those that are left, counted from the front.
  induction stored with
  | nil =>
    show PutAt ([key].idxOf key) document [] [document]
    rw [List.idxOf_cons_self]
    exact ⟨le_rfl, rfl⟩
  | cons first rest ih =>
    obtain ⟨k, d⟩ := first
    rw [upsertInto]
    by_cases hk : k = key
    · subst hk
      rw [if_pos rfl, List.map_cons, List.idxOf_cons_self]
      exact ⟨Nat.zero_le _, rfl⟩
    · rw [if_neg hk, List.map_cons, List.idxOf_cons_ne _ hk]
      refine ⟨Nat.succ_le_succ ih.within, ?_⟩
      show d :: (upsertInto key document rest).map (·.2) = _
      rw [ih.eq]
      rfl

theorem documents_filledWith_concat (before : List Json)
    (hd : keyText? start.primaryKey d = some text) :
    (start.filledWith (before ++ [d])).documents =
      upsertInto text d (start.filledWith before).documents := by
  have hone : entriesOf start.primaryKey [d] = [(text, d)] := by
    rw [entriesOf, List.filterMap_cons, hd]
    rfl
  rw [filledWith_append]
  show upsertAll (entriesOf start.primaryKey [d]) (start.filledWith before).documents = _
  rw [hone]
  rfl

theorem keys_prefix_upsertAll (entries stored : List (String × Json)) :
    stored.map (·.1) <+: (upsertAll entries stored).map (·.1) := by
  induction entries generalizing stored with
  | nil => exact List.prefix_rfl
  | cons e rest ih =>
    have hfirst : stored.map (·.1) <+: (upsertInto e.1 e.2 stored).map (·.1) := by
      rw [keys_upsertInto]
      split
      · exact List.prefix_rfl
      · exact List.prefix_append _ _
    exact hfirst.trans (ih _)

theorem idxOf_eq_of_prefix {l l' : List String} (h : l <+: l') (hkey : key ∈ l) :
    l'.idxOf key = l.idxOf key := by
  obtain ⟨more, rfl⟩ := h
  exact List.idxOf_append_of_mem hkey

def placeOf (start : MemoryIndex) (documents : List Json) (d : Json) : Nat :=
  (start.filledWith documents).heldKeys.idxOf ((keyText? start.primaryKey d).getD "")

theorem take_succ_of_getElem? (hn : documents[n]? = some document) :
    documents.take (n + 1) = documents.take n ++ [document] := by
  rw [List.take_add_one, hn]
  rfl

/-- The key of a document stands among those that are held from its turn on. -/
theorem mem_heldKeys_of_getElem? (hn : documents[n]? = some document)
    (hkey : keyText? start.primaryKey document = some text) :
    text ∈ (start.filledWith (documents.take (n + 1))).heldKeys := by
  rw [take_succ_of_getElem? hn, heldKeys, documents_filledWith_concat _ hkey]
  exact mem_keys_upsertInto.2 (Or.inl rfl)

/-- Keys keep their places, whatever comes after them. -/
theorem heldKeys_prefix_of_take (start : MemoryIndex) (documents : List Json) (n : Nat) :
    (start.filledWith (documents.take n)).heldKeys <+: (start.filledWith documents).heldKeys := by
  have hkeys : (start.filledWith (documents.take n)).heldKeys <+:
      ((start.filledWith (documents.take n)).filledWith (documents.drop n)).heldKeys :=
    keys_prefix_upsertAll _ _
  rwa [← filledWith_append, List.take_append_drop] at hkeys

theorem putAt_placeOf (hn : documents[n]? = some document)
    (hkey : keyText? start.primaryKey document = some text) :
    PutAt (start.placeOf documents document) document (start.heldAfter documents n)
      (start.heldAfter documents (n + 1)) := by
  have hplace : start.placeOf documents document =
      (start.filledWith (documents.take (n + 1))).heldKeys.idxOf text := by
    rw [placeOf, hkey]
    exact idxOf_eq_of_prefix (heldKeys_prefix_of_take start documents _)
      (mem_heldKeys_of_getElem? hn hkey)
  have hdocuments := documents_filledWith_concat (documents.take n) hkey
  rw [hplace, heldAfter, heldAfter, take_succ_of_getElem? hn, held, held, heldKeys, hdocuments]
  exact putAt_upsertInto text document _

/-- A document stands at its place as long as no other is put there. -/
theorem stands_of_put {places : List Nat} {m : Nat} (hlength : places.length = documents.length)
    (hput : ∀ (n : Nat) (document : Json) (place : Nat),
      documents[n]? = some document → places[n]? = some place →
        PutAt place document (start.heldAfter documents n) (start.heldAfter documents (n + 1)))
    (hn : documents[n]? = some document) (hplace : places[n]? = some place) (hlt : n < m)
    (hm : m ≤ documents.length) (hnone : ∀ i, n < i → i < m → places[i]? ≠ some place) :
    (start.heldAfter documents m)[place]? = some document := by
  induction m with
  | zero => omega
  | succ m ih =>
    rcases Nat.lt_or_eq_of_le (Nat.le_of_lt_succ hlt) with hlt | rfl
    · -- The document before the last turn is put elsewhere, so what stood there stays.
      have hbefore := ih hlt (by omega) fun i hi him => hnone i hi (by omega)
      have hd : documents[m]? = some documents[m] := List.getElem?_eq_getElem (by omega)
      have hother : places[m]? = some places[m] := List.getElem?_eq_getElem (by omega)
      have hne : place ≠ places[m] := fun h => hnone m hlt (by omega) (h ▸ hother)
      exact (hput m _ _ hd hother).getElem?_of_some hne hbefore
    · exact (hput n document place hn hplace).getElem?_self

/-- Two documents have one place just if their keys have one text. -/
theorem placeOf_eq_iff {later : Json} {text' : String} (hn : documents[n]? = some document)
    (hkey : keyText? start.primaryKey document = some text)
    (hkey' : keyText? start.primaryKey later = some text') :
    start.placeOf documents later = start.placeOf documents document ↔ text = text' := by
  have hmem : text ∈ (start.filledWith documents).heldKeys :=
    (heldKeys_prefix_of_take start documents _).subset (mem_heldKeys_of_getElem? hn hkey)
  rw [placeOf, placeOf, hkey, hkey', eq_comm]
  exact List.idxOf_inj hmem

/-- Two documents have one place just if the values of their keys are the same. -/
theorem placeOf_eq_iff_same {later value value' : Json} (hn : documents[n]? = some document)
    (hvalue : HasExactKey start.primaryKey document value)
    (hvalue' : HasExactKey start.primaryKey later value') :
    start.placeOf documents later = start.placeOf documents document ↔ value.Same value' :=
  calc start.placeOf documents later = start.placeOf documents document
    _ ↔ value.toText = value'.toText := placeOf_eq_iff hn hvalue.keyText? hvalue'.keyText?
    _ ↔ value.Same value' :=
      Json.toText_eq_iff_same hvalue.sound hvalue'.sound hvalue.exact hvalue'.exact

/-- The documents that an index takes have places as long as all of them have its key. -/
theorem identifies_placeOf (hhave : AllHave start.primaryKey documents) :
    start.Identifies documents (documents.map (start.placeOf documents)) := by
  have hlength : (documents.map (start.placeOf documents)).length = documents.length :=
    List.length_map _
  -- What the list of places has for a document is the place of its key.
  have hplaces {n : Nat} {document : Json} {place : Nat} (hn : documents[n]? = some document)
      (hplace : (documents.map (start.placeOf documents))[n]? = some place) :
      place = start.placeOf documents document := by
    rw [List.getElem?_map, hn] at hplace
    exact (Option.some.inj hplace).symm
  have hput (n : Nat) (document : Json) (place : Nat) (hn : documents[n]? = some document)
      (hplace : (documents.map (start.placeOf documents))[n]? = some place) :
      PutAt place document (start.heldAfter documents n) (start.heldAfter documents (n + 1)) := by
    obtain ⟨value, hvalue⟩ := hhave document (List.mem_of_getElem? hn)
    obtain rfl := hplaces hn hplace
    exact putAt_placeOf hn (keyText?_of_member? hvalue)
  refine ⟨hlength, hput, ?_, ?_⟩
  · intro n m document place hn hplace hlt hm hnone
    exact stands_of_put hlength hput hn hplace hlt hm hnone
  · intro n m earlier later value value' place place' _ hn hm hvalue hvalue' hplace hplace'
    obtain rfl := hplaces hn hplace
    obtain rfl := hplaces hm hplace'
    have hsame := placeOf_eq_iff_same hn hvalue hvalue'
    exact ⟨hsame, fun hkinds heq => hkinds (hsame.1 heq).kind_eq⟩

end Places

theorem Placed.of_same {index index' : MemoryIndex} (h : index.Placed)
    (hdocuments : index'.documents = index.documents)
    (hpositions : index'.positions = index.positions) : index'.Placed := by
  constructor
  · rw [hdocuments]
    exact h.apart
  · rw [hdocuments, hpositions]
    exact h.placed

theorem positions_keyedBy (index : MemoryIndex) (offered : String) :
    (index.keyedBy offered).positions = index.positions := by
  unfold keyedBy
  split <;> rfl

theorem Placed.keyedBy {index : MemoryIndex} (h : index.Placed) (offered : String) :
    (index.keyedBy offered).Placed :=
  h.of_same (Memory.settings_keyedBy index offered).2.2 (positions_keyedBy index offered)

theorem Placed.filledWith {index : MemoryIndex} (h : index.Placed) (documents : List Json) :
    (index.filledWith documents).Placed :=
  placed_holding index (nodup_upsertAll h.apart)

end MemoryIndex

namespace Memory

def Reached (m : Memory) : Prop := ∃ capacity steps, m = (fresh capacity).run steps

structure Took (start : MemoryIndex) (documents : List Json) (index : MemoryIndex) : Prop where
  placed : index.Placed
  key : index.primaryKey = start.primaryKey
  carried : MemoryIndex.AllHave start.primaryKey documents
  documents : index.documents = (start.filledWith documents).documents

section Reach

variable {m : Memory} {indexUid : String} {index start : MemoryIndex} {documents : List Json}

/-- What a step does with an index that is there: it takes a batch, or it leaves the documents as they
are and the key, if there is one. -/
theorem perform_of_some (hindex : m.indexes.get? indexUid = some index) (hplaced : index.Placed)
    (step : Step) : ∃ index', (m.perform step).indexes.get? indexUid = some index' ∧
      ((step.accepted indexUid m = [] ∧ index'.documents = index.documents ∧
          index'.positions = index.positions ∧
          (index.primaryKey ≠ "" → index'.primaryKey = index.primaryKey)) ∨
        ∃ offered batch, step = .call (.addDocuments indexUid offered batch) ∧
          step.accepted indexUid m = [batch] ∧
          MemoryIndex.AllHave (index.keyedBy offered).primaryKey batch ∧
          index' = (index.keyedBy offered).filledWith batch) := by
  -- Only the calls about the index are left: it is made, gets settings, or gets documents.
  rcases step.misses_or indexUid m with
    hmisses | ⟨hm, ⟨key, rfl⟩ | ⟨settings, rfl⟩ | ⟨offered, batch, rfl⟩⟩
  · exact ⟨index, hmisses.index.trans hindex, Or.inl ⟨hmisses.accepted, rfl, rfl, fun _ => rfl⟩⟩
  · refine ⟨index, ?_, Or.inl ⟨rfl, rfl, rfl, fun _ => rfl⟩⟩
    show (createIndex indexUid key m).2.indexes.get? indexUid = some index
    rw [createIndex_of_some key hm hindex, hindex]
  · refine ⟨{ index with settings := some settings, settingsUpdates := index.settingsUpdates + 1 },
      ?_, Or.inl ⟨rfl, rfl, rfl, fun _ => rfl⟩⟩
    show (updateSettings indexUid settings m).2.indexes.get? indexUid = _
    rw [updateSettings_of_some settings hm hindex, get?_putIndex, if_pos rfl]
  · have hadd := addDocuments_of_some offered batch hm hindex
    by_cases hhave : MemoryIndex.AllHave (index.keyedBy offered).primaryKey batch
    · rw [(hplaced.keyedBy offered).add_of_allHave hhave] at hadd
      refine ⟨_, ?_, Or.inr ⟨offered, batch, rfl, ?_, hhave, rfl⟩⟩
      · show (addDocuments indexUid offered batch m).2.indexes.get? indexUid = _
        rw [hadd, get?_putIndex, if_pos rfl]
      · rw [Step.accepted, hadd, if_pos ⟨rfl, rfl⟩]
    · -- The batch is refused, but the index keeps the key that came with it.
      rw [MemoryIndex.add_of_not_allHave hhave] at hadd
      refine ⟨index.keyedBy offered, ?_, Or.inl ⟨?_, (settings_keyedBy index offered).2.2,
        MemoryIndex.positions_keyedBy index offered, ?_⟩⟩
      · show (addDocuments indexUid offered batch m).2.indexes.get? indexUid = _
        rw [hadd, get?_putIndex, if_pos rfl]
      · rw [Step.accepted, hadd, if_neg fun hok => Bool.false_ne_true hok.2]
      · intro hkey
        rw [MemoryIndex.keyedBy_of_ne hkey]

/-- A step leaves every index with its positions in place. -/
theorem placed_perform
    (h : ∀ index, m.indexes.get? indexUid = some index → index.Placed) (step : Step) :
    ∀ index, (m.perform step).indexes.get? indexUid = some index → index.Placed := by
  intro index' hindex'
  cases hindex : m.indexes.get? indexUid with
  | none =>
    rcases (step_of_none hindex step).2 with ⟨key, -, hmade⟩ | ⟨-, hnone⟩
    · rw [hmade, get?_putIndex, if_pos rfl] at hindex'
      obtain rfl := Option.some.inj hindex'
      exact MemoryIndex.placed_ofKey key
    · rw [hnone] at hindex'
      cases hindex'
  | some index =>
    have hplaced := h index hindex
    obtain ⟨found, hfound, hleft | htaken⟩ := perform_of_some hindex hplaced step
    · obtain rfl := Option.some.inj (hindex'.symm.trans hfound)
      exact hplaced.of_same hleft.2.1 hleft.2.2.1
    · obtain rfl := Option.some.inj (hindex'.symm.trans hfound)
      obtain ⟨offered, batch, -, -, -, rfl⟩ := htaken
      exact (hplaced.keyedBy offered).filledWith batch

theorem placed_run (steps : List Step)
    (h : ∀ index, m.indexes.get? indexUid = some index → index.Placed) :
    ∀ index, (m.run steps).indexes.get? indexUid = some index → index.Placed := by
  induction steps generalizing m with
  | nil => exact h
  | cons step rest ih => exact ih (placed_perform h step)

theorem Reached.placed (hm : m.Reached) (hindex : m.indexes.get? indexUid = some index) :
    index.Placed := by
  obtain ⟨capacity, steps, rfl⟩ := hm
  refine placed_run steps ?_ index hindex
  intro index hnone
  cases hnone

/-- An index that has a key takes the documents that it accepts in a step. -/
theorem Took.step (hkey : start.primaryKey ≠ "") (hindex : m.indexes.get? indexUid = some index)
    (h : Took start documents index) (step : Step) :
    ∃ index', (m.perform step).indexes.get? indexUid = some index' ∧
      Took start (documents ++ (step.accepted indexUid m).flatten) index' := by
  -- The index has a key already, so no batch brings another one.
  have hnamed : index.primaryKey ≠ "" := h.key ▸ hkey
  obtain ⟨index', hindex', hleft | htaken⟩ := perform_of_some hindex h.placed step
  · obtain ⟨hnone, hdocuments, hpositions, hkeeps⟩ := hleft
    refine ⟨index', hindex', ?_⟩
    rw [hnone, List.flatten_nil, List.append_nil]
    exact ⟨h.placed.of_same hdocuments hpositions, (hkeeps hnamed).trans h.key, h.carried,
      hdocuments.trans h.documents⟩
  · obtain ⟨offered, batch, -, haccepted, hhave, rfl⟩ := htaken
    rw [MemoryIndex.keyedBy_of_ne hnamed] at hindex' hhave
    refine ⟨_, hindex', h.placed.filledWith batch, h.key, ?_, ?_⟩
    · rw [haccepted, List.flatten_singleton]
      intro d hd
      rcases List.mem_append.1 hd with hd | hd
      · exact h.carried d hd
      · exact h.key ▸ hhave d hd
    · rw [haccepted, List.flatten_singleton, MemoryIndex.filledWith_append]
      show MemoryIndex.upsertAll (MemoryIndex.entriesOf index.primaryKey batch) index.documents = _
      rw [h.key, h.documents]
      rfl

theorem Took.run (hkey : start.primaryKey ≠ "") (hindex : m.indexes.get? indexUid = some index)
    (h : Took start documents index) (steps : List Step) :
    ∃ index', (m.run steps).indexes.get? indexUid = some index' ∧
      Took start (documents ++ (accepted indexUid m steps).flatten) index' := by
  -- The index and the documents so far vary, since each step may change both.
  induction steps generalizing m index documents with
  | nil =>
    refine ⟨index, hindex, ?_⟩
    rwa [accepted, List.flatten_nil, List.append_nil]
  | cons step rest ih =>
    obtain ⟨next, hnext, htook⟩ := h.step hkey hindex step
    have hrest := ih hnext htook
    rwa [List.append_assoc, ← List.flatten_append] at hrest

/-- The call with which an index accepts a batch, and all steps after it. -/
theorem took_of_accepts {offered : String} {batch : List Json}
    (hindex : m.indexes.get? indexUid = some index) (hplaced : index.Placed)
    (hkey : (index.keyedBy offered).primaryKey ≠ "")
    (haccepts : (addDocuments indexUid offered batch m).1.isOk = true) (steps : List Step) :
    ∃ index', (m.run (.call (.addDocuments indexUid offered batch) :: steps)).indexes.get? indexUid =
        some index' ∧
      Took (index.keyedBy offered)
        (accepted indexUid m (.call (.addDocuments indexUid offered batch) :: steps)).flatten
        index' := by
  have haccepted : Step.accepted indexUid m (.call (.addDocuments indexUid offered batch)) =
      [batch] := if_pos ⟨rfl, haccepts⟩
  obtain ⟨next, hnext, hleft | htaken⟩ :=
    perform_of_some hindex hplaced (.call (.addDocuments indexUid offered batch))
  · rw [haccepted] at hleft
    cases hleft.1
  · obtain ⟨_, _, heq, -, hhave, rfl⟩ := htaken
    cases heq
    have htook : Took (index.keyedBy offered)
        (Step.accepted indexUid m (.call (.addDocuments indexUid offered batch))).flatten
        ((index.keyedBy offered).filledWith batch) := by
      rw [haccepted, List.flatten_singleton]
      exact ⟨(hplaced.keyedBy offered).filledWith batch, rfl, hhave, rfl⟩
    have hrest := htook.run hkey hnext steps
    rwa [← List.flatten_append] at hrest

theorem accepted_append (m : Memory) (first rest : List Step) :
    accepted indexUid m (first ++ rest) =
      accepted indexUid m first ++ accepted indexUid (m.run first) rest := by
  induction first generalizing m with
  | nil => rfl
  | cons step more ih =>
    rw [List.cons_append, accepted, accepted, ih, run_cons, List.append_assoc]

end Reach

/-- From the batch on with which an index has a key, each document that it accepts is put at a place and
stands there until a later one is put at this place, which happens just if the values of the keys are
the same, members of objects in any order, as far as no binary64 number stands in them. -/
theorem accepted_documents_identified {m : Memory} (hm : m.Reached) {indexUid offered : String}
    {batch : List Json} {index : MemoryIndex} (hindex : m.indexes.get? indexUid = some index)
    (hkey : (index.keyedBy offered).primaryKey ≠ "")
    (haccepts : (addDocuments indexUid offered batch m).1.isOk = true) (more : List Step) :
    let steps := .call (.addDocuments indexUid offered batch) :: more
    let documents := (accepted indexUid m steps).flatten
    ∃ places, (index.keyedBy offered).Identifies documents places ∧
      ∀ n, ∃ index', (m.run (steps.take (n + 1))).indexes.get? indexUid = some index' ∧
        index'.primaryKey = (index.keyedBy offered).primaryKey ∧
        index'.held = (index.keyedBy offered).heldAfter documents
          (accepted indexUid m (steps.take (n + 1))).flatten.length := by
  intro steps documents
  have htook := took_of_accepts hindex (hm.placed hindex) hkey haccepts
  obtain ⟨_, -, hall⟩ := htook more
  refine ⟨_, MemoryIndex.identifies_placeOf hall.carried, fun n => ?_⟩
  obtain ⟨index', hindex', htaken⟩ := htook (more.take n)
  have hsplit : documents = (accepted indexUid m (steps.take (n + 1))).flatten ++
      (accepted indexUid (m.run (steps.take (n + 1))) (steps.drop (n + 1))).flatten := by
    rw [← List.flatten_append, ← accepted_append, List.take_append_drop]
  refine ⟨index', hindex', htaken.key, ?_⟩
  rw [MemoryIndex.heldAfter, hsplit, List.take_left, MemoryIndex.held, htaken.documents]
  rfl

def titledBy (value : Json) (title : String) : Json :=
  .ofMembers [("id", value), ("title", .text title)]

theorem ofString?_titledBy {value : Json} (h : Json.Plain 0 value) (title : String) :
    Json.ofString? (titledBy value title).toText = some (titledBy value title) := by
  have hplain : Json.Plain 1 (titledBy value title) := by
    refine .object (TextMap.ofList _).ascending fun e he => ?_
    have hmember := TextMap.mem_of_mem_ofList he
    simp only [List.mem_cons, List.not_mem_nil, or_false] at hmember
    rcases hmember with rfl | rfl
    · exact h
    · exact .text title
  exact Json.ofString?_toText (hplain.mono (by decide))

def variedBatch : List Json :=
  [titledBy (.nat 1) "number", titledBy (.text "1") "string", titledBy (.list [.nat 1]) "list",
    titledBy .null "null", titledBy (.text "null") "word",
    titledBy (.ofMembers [("a", .nat 1), ("b", .text "\"")]) "object"]

def laterBatch : List Json :=
  [titledBy (.ofMembers [("b", .text "\""), ("a", .nat 1)]) "other order",
    titledBy (.text "\\\"") "escaped", titledBy (.nat 1) "number again"]

def unkeyedIndex : Memory :=
  (fresh 1).run [.call (.createIndex "games" ""), .call (.updateSettings "games" .standard)]

def variedRun : List Step :=
  [.call (.addDocuments "games" "id" variedBatch), .setAvailable true,
    .call (.addDocuments "games" "sku" laterBatch)]

theorem accepted_documents_identified_in_variedRun :
    ∃ index, unkeyedIndex.indexes.get? "games" = some index ∧
      (index.keyedBy "id").primaryKey ≠ "" ∧
      (addDocuments "games" "id" variedBatch unkeyedIndex).1.isOk = true ∧
      (∃ places, (index.keyedBy "id").Identifies (variedBatch ++ laterBatch) places ∧
        places[0]? ≠ places[1]?) ∧
      ((unkeyedIndex.run variedRun).indexes.get? "games").map MemoryIndex.held =
        some [titledBy (.nat 1) "number again", titledBy (.text "1") "string",
          titledBy (.list [.nat 1]) "list", titledBy .null "null", titledBy (.text "null") "word",
          titledBy (.ofMembers [("b", .text "\""), ("a", .nat 1)]) "other order",
          titledBy (.text "\\\"") "escaped"] := by
  obtain ⟨index, hindex⟩ : ∃ index, unkeyedIndex.indexes.get? "games" = some index := ⟨_, rfl⟩
  have hkey : (index.keyedBy "id").primaryKey ≠ "" := by
    obtain rfl := Option.some.inj hindex
    decide
  have haccepts : (addDocuments "games" "id" variedBatch unkeyedIndex).1.isOk = true := by
    decide +kernel
  obtain ⟨places, hplaces, -⟩ := accepted_documents_identified ⟨1, _, rfl⟩ hindex hkey haccepts
    [.setAvailable true, .call (.addDocuments "games" "sku" laterBatch)]
  -- The number and the string are read from the texts of their documents.
  have hnumber : MemoryIndex.HasExactKey "id" (titledBy (.nat 1) "number") (.nat 1) :=
    MemoryIndex.hasExactKey_of_read (ofString?_titledBy (.integer ⟨by decide, by decide⟩) "number")
      rfl (.integer 1)
  have hstring : MemoryIndex.HasExactKey "id" (titledBy (.text "1") "string") (.text "1") :=
    MemoryIndex.hasExactKey_of_read (ofString?_titledBy (.text "1") "string") rfl (.text "1")
  have hid : (index.keyedBy "id").primaryKey = "id" := by
    obtain rfl := Option.some.inj hindex
    decide
  have hapart : places[0]? ≠ places[1]? := by
    have hlength : places.length = 9 := hplaces.length
    intro heq
    obtain ⟨place, hplace⟩ : ∃ place, places[0]? = some place :=
      ⟨_, List.getElem?_eq_getElem (by omega)⟩
    have hshared := hplaces.shared 0 1 _ _ _ _ place place Nat.zero_lt_one rfl rfl (hid ▸ hnumber)
      (hid ▸ hstring) hplace (heq ▸ hplace)
    exact hshared.2 (by decide) rfl
  exact ⟨index, hindex, hkey, haccepts, ⟨places, hplaces, hapart⟩, rfl⟩

end Memory

end VariantSearch

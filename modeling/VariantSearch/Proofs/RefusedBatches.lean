import VariantSearch.Proofs.KeyedDocuments
import VariantSearch.Proofs.MemoryRuns

/-!
What a refused batch of documents leaves behind: nothing, unless the index had no key yet.
-/

namespace VariantSearch

namespace MemoryIndex

variable {index : MemoryIndex} {primaryKey : String}

/-- An index that is offered the key that it has stays as it is. -/
theorem keyedBy_of_primaryKey {filled : MemoryIndex}
    (h : filled.primaryKey = (index.keyedBy primaryKey).primaryKey) :
    filled.keyedBy primaryKey = filled := by
  unfold keyedBy
  split
  · next hempty =>
    -- An index that is keyed and still has no key was offered none.
    have hoffered : primaryKey = "" := by
      rw [hempty] at h
      unfold keyedBy at h
      split at h
      · exact h.symm
      · next hnamed => exact absurd h.symm hnamed
    rw [hoffered, ← hempty]
  · rfl

theorem keyedBy_keyedBy (index : MemoryIndex) (primaryKey : String) :
    (index.keyedBy primaryKey).keyedBy primaryKey = index.keyedBy primaryKey :=
  keyedBy_of_primaryKey rfl

theorem keyedBy_eq_self_iff :
    index.keyedBy primaryKey = index ↔ ¬ (index.primaryKey = "" ∧ primaryKey ≠ "") := by
  constructor
  · rintro h ⟨hempty, hoffered⟩
    have hkey := congrArg MemoryIndex.primaryKey h
    rw [keyedBy, if_pos hempty, hempty] at hkey
    exact hoffered hkey
  · intro h
    unfold keyedBy
    split
    · next hempty =>
      have hoffered : primaryKey = "" := by_contra fun hne => h ⟨hempty, hne⟩
      rw [hoffered, ← hempty]
    · rfl

/-- Keying leaves the documents and the settings, so searches do not show it. -/
theorem answer_keyedBy (index : MemoryIndex) (primaryKey : String) (query : EngineQuery) :
    (index.keyedBy primaryKey).answer query = index.answer query := by
  unfold keyedBy
  split <;> rfl

theorem withSettings_keyedBy (index : MemoryIndex) (primaryKey : String) (settings : Option Settings)
    (updates : Nat) :
    { index.keyedBy primaryKey with settings := settings, settingsUpdates := updates } =
      { index with settings := settings, settingsUpdates := updates : MemoryIndex }.keyedBy
        primaryKey := by
  unfold keyedBy
  dsimp only
  split <;> rfl

end MemoryIndex

namespace Memory

/-- The second engine is the first one with one index keyed as if a key had been offered to it. -/
structure Rekeyed (indexUid primaryKey : String) (m m' : Memory) : Prop where
  index : ∃ index, m.indexes.get? indexUid = some index ∧
    m'.indexes.get? indexUid = some (index.keyedBy primaryKey)
  other : ∀ other, indexUid ≠ other → m'.indexes.get? other = m.indexes.get? other
  log : m'.log = m.log
  available : m'.available = m.available

def Step.Offers (indexUid primaryKey : String) : Step → Prop
  | .call (.addDocuments other offered _) => other = indexUid → offered = primaryKey
  | _ => True

section Rekeyed

variable {indexUid primaryKey : String} {m m' : Memory}

def Agree {α : Type} (indexUid primaryKey : String) (r r' : Except SearchFailure α × Memory) :
    Prop :=
  r'.1 = r.1 ∧ Rekeyed indexUid primaryKey r.2 r'.2

variable (h : Rekeyed indexUid primaryKey m m')
include h

theorem Rekeyed.putIndex_other {other : String} (hne : indexUid ≠ other) (index : MemoryIndex) :
    Rekeyed indexUid primaryKey (m.putIndex other index) (m'.putIndex other index) := by
  refine ⟨?_, fun u hu => ?_, h.log, h.available⟩
  · obtain ⟨old, hold, hold'⟩ := h.index
    refine ⟨old, ?_, ?_⟩
    · rw [get?_putIndex, if_neg (Ne.symm hne), hold]
    · rw [get?_putIndex, if_neg (Ne.symm hne), hold']
  · rw [get?_putIndex, get?_putIndex, h.other u hu]

theorem Rekeyed.putIndex_self (index : MemoryIndex) :
    Rekeyed indexUid primaryKey (m.putIndex indexUid index)
      (m'.putIndex indexUid (index.keyedBy primaryKey)) := by
  refine ⟨⟨index, ?_, ?_⟩, fun u hu => ?_, h.log, h.available⟩
  · rw [get?_putIndex, if_pos rfl]
  · rw [get?_putIndex, if_pos rfl]
  · rw [get?_putIndex, get?_putIndex, if_neg hu, if_neg hu, h.other u hu]

theorem Rekeyed.whenAvailable {α : Type} {work : Attempt Memory α}
    (hwork : Agree indexUid primaryKey (work m) (work m')) :
    Agree indexUid primaryKey (whenAvailable work m) (whenAvailable work m') := by
  unfold Memory.whenAvailable
  rw [h.available]
  split
  · exact hwork
  · exact ⟨rfl, h⟩

theorem Rekeyed.createIndex (other key : String) :
    Agree indexUid primaryKey (createIndex other key m) (createIndex other key m') := by
  refine h.whenAvailable ?_
  by_cases hother : indexUid = other
  · subst hother
    obtain ⟨index, hindex, hindex'⟩ := h.index
    simp only [hindex, hindex']
    exact ⟨rfl, h⟩
  · simp only [h.other other hother]
    split
    · exact ⟨rfl, h⟩
    · exact ⟨rfl, h.putIndex_other hother _⟩

theorem Rekeyed.updateSettings (other : String) (settings : Settings) :
    Agree indexUid primaryKey (updateSettings other settings m)
      (updateSettings other settings m') := by
  refine h.whenAvailable ?_
  by_cases hother : indexUid = other
  · subst hother
    obtain ⟨index, hindex, hindex'⟩ := h.index
    simp only [hindex, hindex']
    obtain ⟨-, hupdates, -⟩ := settings_keyedBy index primaryKey
    rw [hupdates, MemoryIndex.withSettings_keyedBy]
    exact ⟨rfl, h.putIndex_self _⟩
  · simp only [h.other other hother]
    split
    · exact ⟨rfl, h⟩
    · exact ⟨rfl, h.putIndex_other hother _⟩

/-- Under the same key a batch is taken or refused as before, and then nothing differs at all. -/
theorem Rekeyed.addDocuments {other offered : String}
    (hoffers : other = indexUid → offered = primaryKey) (documents : List Json) :
    Agree indexUid primaryKey (addDocuments other offered documents m)
      (addDocuments other offered documents m') := by
  refine h.whenAvailable ?_
  by_cases hother : indexUid = other
  · subst hother
    obtain rfl := hoffers rfl
    obtain ⟨index, hindex, hindex'⟩ := h.index
    -- The call keys the first index as the second one is keyed already, so both try the same.
    simp only [hindex, hindex', MemoryIndex.keyedBy_keyedBy]
    split
    · have hput := h.putIndex_self (index.keyedBy offered)
      rw [MemoryIndex.keyedBy_keyedBy] at hput
      exact ⟨rfl, hput⟩
    · next filled hfilled =>
      have hput := h.putIndex_self filled
      rw [MemoryIndex.keyedBy_of_primaryKey (MemoryIndex.primaryKey_add hfilled)] at hput
      exact ⟨rfl, hput⟩
  · simp only [h.other other hother]
    split
    · exact ⟨rfl, h⟩
    · split <;> exact ⟨rfl, h.putIndex_other hother _⟩

theorem Rekeyed.search (other : String) (query : EngineQuery) :
    Agree indexUid primaryKey (search other query m) (search other query m') := by
  refine h.whenAvailable ?_
  have hlogged : Rekeyed indexUid primaryKey { m with log := m.log.record ⟨other, query⟩ }
      { m' with log := m'.log.record ⟨other, query⟩ } :=
    ⟨h.index, h.other, by rw [h.log], h.available⟩
  dsimp only
  by_cases hother : indexUid = other
  · subst hother
    obtain ⟨index, hindex, hindex'⟩ := h.index
    simp only [hindex, hindex', MemoryIndex.answer_keyedBy]
    exact ⟨rfl, hlogged⟩
  · simp only [h.other other hother]
    split <;> exact ⟨rfl, hlogged⟩

theorem Rekeyed.health : Agree indexUid primaryKey (health m) (health m') :=
  h.whenAvailable ⟨rfl, h⟩

theorem Rekeyed.get? (other : String) :
    m'.indexes.get? other = m.indexes.get? other ∨
      ∃ index, m.indexes.get? other = some index ∧
        m'.indexes.get? other = some (index.keyedBy primaryKey) := by
  by_cases hother : indexUid = other
  · subst hother
    exact Or.inr h.index
  · exact Or.inl (h.other other hother)

theorem Rekeyed.keys : m'.indexes.keys = m.indexes.keys := by
  refine TextMap.keys_eq_of_get? fun other => ?_
  rcases h.get? other with hsame | ⟨index, hindex, hindex'⟩
  · rw [hsame]
  · rw [hindex, hindex', Option.isSome_some, Option.isSome_some]

/-- A look does not tell the engines apart. -/
theorem Rekeyed.looks (other : String) :
    m'.settings? other = m.settings? other ∧ m'.settingsUpdates other = m.settingsUpdates other ∧
      m'.documentCount other = m.documentCount other := by
  unfold settings? settingsUpdates documentCount
  rcases h.get? other with hsame | ⟨index, hindex, hindex'⟩
  · rw [hsame]
    exact ⟨rfl, rfl, rfl⟩
  · obtain ⟨hsettings, hupdates, hdocuments⟩ := settings_keyedBy index primaryKey
    simp only [hindex, hindex', Option.bind_eq_bind, Option.bind_some, hsettings, hupdates, hdocuments,
      and_self]

theorem Rekeyed.step {step : Step} (hoffers : step.Offers indexUid primaryKey) :
    m'.answer step = m.answer step ∧
      Rekeyed indexUid primaryKey (m.perform step) (m'.perform step) := by
  cases step with
  | call c =>
    cases c with
    | createIndex other key => exact (h.createIndex other key).imp (congrArg Answer.done) id
    | updateSettings other settings =>
      exact (h.updateSettings other settings).imp (congrArg Answer.done) id
    | addDocuments other offered documents =>
      exact (h.addDocuments hoffers documents).imp (congrArg Answer.done) id
    | search other query => exact (h.search other query).imp (congrArg Answer.page) id
    | health => exact h.health.imp (congrArg Answer.done) id
  | setAvailable available => exact ⟨rfl, h.index, h.other, h.log, rfl⟩
  | settings other => exact ⟨congrArg Answer.settings (h.looks other).1, h⟩
  | settingsUpdates other => exact ⟨congrArg Answer.count (h.looks other).2.1, h⟩
  | documentCount other => exact ⟨congrArg Answer.count (h.looks other).2.2, h⟩
  | indexUids => exact ⟨congrArg Answer.uids h.keys, h⟩
  | recordedSearches => exact ⟨by rw [answer, answer, h.log], h⟩

/-- No run tells the engines apart that offers the index no other key. -/
theorem Rekeyed.answers (steps : List Step)
    (hoffers : ∀ step ∈ steps, step.Offers indexUid primaryKey) :
    m'.answers steps = m.answers steps := by
  induction steps generalizing m m' with
  | nil => rfl
  | cons step rest ih =>
    obtain ⟨hanswer, hstep⟩ := h.step (hoffers step List.mem_cons_self)
    have hrest := ih hstep fun other hother => hoffers other (List.mem_cons_of_mem _ hother)
    rw [Memory.answers, Memory.answers, hanswer, hrest]

end Rekeyed

/-- An index without a key is there for the taking, and a key is offered. -/
def Adopts (m : Memory) (indexUid primaryKey : String) : Prop :=
  m.available = true ∧ primaryKey ≠ "" ∧
    ∃ index, m.indexes.get? indexUid = some index ∧ index.primaryKey = ""

section Refused

variable {m m' : Memory} {indexUid primaryKey : String} {documents : List Json} {e : SearchFailure}

theorem rekeyed_putIndex {index : MemoryIndex} (hindex : m.indexes.get? indexUid = some index) :
    Rekeyed indexUid primaryKey m (m.putIndex indexUid (index.keyedBy primaryKey)) := by
  refine ⟨⟨index, hindex, ?_⟩, fun other hother => ?_, rfl, rfl⟩
  · rw [get?_putIndex, if_pos rfl]
  · rw [get?_putIndex, if_neg hother]

theorem eq_of_not_adopts (h : addDocuments indexUid primaryKey documents m = (.error e, m'))
    (hadopts : ¬ m.Adopts indexUid primaryKey) : m' = m := by
  rcases addDocuments_eq_error h with hsame | ⟨hm, index, hindex, rfl⟩
  · exact hsame
  · have hkeyed : index.keyedBy primaryKey = index := by
      refine MemoryIndex.keyedBy_eq_self_iff.2 ?_
      rintro ⟨hempty, hoffered⟩
      exact hadopts ⟨hm, hoffered, index, hindex, hempty⟩
    rw [hkeyed, putIndex_self hindex]

theorem eq_putIndex_of_adopts (h : addDocuments indexUid primaryKey documents m = (.error e, m'))
    (hadopts : m.Adopts indexUid primaryKey) :
    ∃ index, m.indexes.get? indexUid = some index ∧
      m' = m.putIndex indexUid { index with primaryKey := primaryKey } := by
  obtain ⟨hm, -, index, hindex, hempty⟩ := hadopts
  have hkeyed : index.keyedBy primaryKey = { index with primaryKey := primaryKey } := if_pos hempty
  refine ⟨index, hindex, ?_⟩
  rw [← hkeyed]
  exact eq_putIndex_of_error hm hindex h

/-- A batch that is offered under another key tells the keyed index from the one without a key. -/
theorem exists_answers_ne {index : MemoryIndex} (hm : m.available = true)
    (hindex : m.indexes.get? indexUid = some index) (hempty : index.primaryKey = "")
    (hoffered : primaryKey ≠ "") :
    ∃ steps, (m.putIndex indexUid { index with primaryKey := primaryKey }).answers steps ≠
      m.answers steps := by
  have hlonger : (primaryKey ++ "x").toList = primaryKey.toList ++ ['x'] := String.toList_append
  have hne : primaryKey ++ "x" ≠ primaryKey := fun heq => by simp [heq] at hlonger
  have hnamed : primaryKey ++ "x" ≠ "" := fun heq => by simp [heq] at hlonger
  let document : Json := .object [(primaryKey ++ "x", .null)]
  refine ⟨[.call (.addDocuments indexUid (primaryKey ++ "x") [document])], fun hsame => ?_⟩
  -- Without a key the index takes the offered one, which the document has.
  have htaken : (addDocuments indexUid (primaryKey ++ "x") [document] m).1 = .ok () := by
    obtain ⟨filled, hfilled⟩ : ∃ filled,
        (index.keyedBy (primaryKey ++ "x")).add [document] = .ok filled := by
      refine MemoryIndex.exists_add_eq_ok fun d hd => ⟨.null, ?_⟩
      rw [List.mem_singleton.1 hd, MemoryIndex.keyedBy, if_pos hempty]
      exact if_pos rfl
    rw [addDocuments_of_some _ _ hm hindex, hfilled]
  -- The keyed index keeps its key, which the document lacks.
  have hrefused : (addDocuments indexUid (primaryKey ++ "x") [document]
      (m.putIndex indexUid { index with primaryKey := primaryKey })).1 =
        .error (MemoryIndex.missingKey primaryKey) := by
    have hfound : (m.putIndex indexUid { index with primaryKey := primaryKey }).indexes.get?
        indexUid = some { index with primaryKey := primaryKey } := by
      rw [get?_putIndex, if_pos rfl]
    have hlacks : MemoryIndex.keyText? primaryKey document = none := by
      rw [MemoryIndex.keyText?]
      simp only [document, Json.member?, TextMap.lookup, if_neg hne, Option.map_none]
    have hm' : (m.putIndex indexUid { index with primaryKey := primaryKey }).available = true := hm
    rw [addDocuments_of_some _ _ hm' hfound, MemoryIndex.keyedBy_of_ne hoffered]
    simp only [MemoryIndex.add, List.mapM_cons, hlacks, Option.map_none, Option.bind_eq_bind,
      Option.bind_none]
  have hanswers := List.head_eq_of_cons_eq hsame
  rw [answer, answer, htaken, hrefused] at hanswers
  cases hanswers

end Refused

/-- What a refused batch leaves behind, in every state of the engine. It leaves nothing, neither in the
state nor in any later answer, just if it did not come with a key to an index that had none. Otherwise
it leaves that key and nothing else, and later answers stay the same as long as the index is offered
no other key. -/
theorem refused_batch_unseen_iff {m m' : Memory} {indexUid primaryKey : String}
    {documents : List Json} {e : SearchFailure}
    (h : addDocuments indexUid primaryKey documents m = (.error e, m')) :
    (m' = m ↔ ¬ m.Adopts indexUid primaryKey) ∧
      ((∀ steps, m'.answers steps = m.answers steps) ↔ ¬ m.Adopts indexUid primaryKey) ∧
      (m.Adopts indexUid primaryKey → ∃ index, m.indexes.get? indexUid = some index ∧
        m' = m.putIndex indexUid { index with primaryKey := primaryKey }) ∧
      ∀ steps : List Step, (∀ step ∈ steps, step.Offers indexUid primaryKey) →
        m'.answers steps = m.answers steps := by
  -- The adopted key shows in what comes of a batch under another key.
  have hseen : m.Adopts indexUid primaryKey → ∃ steps, m'.answers steps ≠ m.answers steps := by
    intro hadopts
    obtain ⟨index, hindex, rfl⟩ := eq_putIndex_of_adopts h hadopts
    obtain ⟨hm, hoffered, index', hindex', hempty⟩ := hadopts
    obtain rfl := Option.some.inj (hindex'.symm.trans hindex)
    exact exists_answers_ne hm hindex hempty hoffered
  refine ⟨⟨?_, eq_of_not_adopts h⟩, ⟨?_, ?_⟩, eq_putIndex_of_adopts h, ?_⟩
  · rintro rfl hadopts
    obtain ⟨steps, hsteps⟩ := hseen hadopts
    exact hsteps rfl
  · intro hsame hadopts
    obtain ⟨steps, hsteps⟩ := hseen hadopts
    exact hsteps (hsame steps)
  · intro hadopts steps
    rw [eq_of_not_adopts h hadopts]
  · intro steps hoffers
    rcases addDocuments_eq_error h with rfl | ⟨-, index, hindex, rfl⟩
    · rfl
    · exact (rekeyed_putIndex hindex).answers steps hoffers

def unkeyed : Memory := (fresh 1).run [.call (.createIndex "games" "")]

def numbered (name : String) : Json := .ofMembers [(name, .nat 1)]

theorem refused_batch_unseen_iff_for_unkeyed :
    ∃ m', addDocuments "games" "id" [numbered "x"] unkeyed =
        (.error (MemoryIndex.missingKey "id"), m') ∧
      unkeyed.Adopts "games" "id" ∧ ¬ (∀ steps, m'.answers steps = unkeyed.answers steps) := by
  have h : addDocuments "games" "id" [numbered "x"] unkeyed =
      (.error (MemoryIndex.missingKey "id"),
        (addDocuments "games" "id" [numbered "x"] unkeyed).2) := rfl
  have hadopts : unkeyed.Adopts "games" "id" :=
    ⟨rfl, by decide, MemoryIndex.ofKey "", rfl, rfl⟩
  obtain ⟨-, hunseen, -⟩ := refused_batch_unseen_iff h
  exact ⟨_, h, hadopts, fun hsame => hunseen.1 hsame hadopts⟩

/-- A batch that is refused for want of the offered key keeps a later batch out that has another one,
and that would have been taken. -/
theorem refused_batch_seen_by_unkeyed :
    ∃ m', addDocuments "games" "id" [numbered "x"] unkeyed =
        (.error (MemoryIndex.missingKey "id"), m') ∧
      m' ≠ unkeyed ∧
      unkeyed.answers [.call (.addDocuments "games" "sku" [numbered "sku"])] = [.done (.ok ())] ∧
      m'.answers [.call (.addDocuments "games" "sku" [numbered "sku"])] =
        [.done (.error (MemoryIndex.missingKey "id"))] := by
  refine ⟨_, rfl, fun heq => ?_, rfl, rfl⟩
  have hkey := congrArg (fun m => m.keyOf? "games") heq
  exact absurd hkey (by decide +kernel)

end Memory

end VariantSearch

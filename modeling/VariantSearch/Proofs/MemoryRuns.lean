import VariantSearch.Proofs.MemoryCalls

namespace VariantSearch.Memory

inductive Step where
  | call (c : EngineCall)
  | setAvailable (available : Bool)
  | settings (indexUid : String)
  | settingsUpdates (indexUid : String)
  | documentCount (indexUid : String)
  | indexUids
  | recordedSearches

inductive Answer where
  | nothing
  | done (result : Except SearchFailure Unit)
  | page (result : Except SearchFailure Json)
  | settings (settings : Option Settings)
  | count (count : Nat)
  | uids (uids : List String)
  | searches (searches : List RecordedSearch)

def answer (m : Memory) : Step → Answer
  | .call (.createIndex indexUid primaryKey) => .done (createIndex indexUid primaryKey m).1
  | .call (.updateSettings indexUid settings) => .done (updateSettings indexUid settings m).1
  | .call (.addDocuments indexUid primaryKey documents) =>
    .done (addDocuments indexUid primaryKey documents m).1
  | .call (.search indexUid query) => .page (search indexUid query m).1
  | .call .health => .done (health m).1
  | .setAvailable _ => .nothing
  | .settings indexUid => .settings (m.settings? indexUid)
  | .settingsUpdates indexUid => .count (m.settingsUpdates indexUid)
  | .documentCount indexUid => .count (m.documentCount indexUid)
  | .indexUids => .uids m.indexes.keys
  | .recordedSearches => .searches m.log.entries

def perform (m : Memory) : Step → Memory
  | .call c => c.perform m
  | .setAvailable available => m.setAvailable available
  | .settings _ | .settingsUpdates _ | .documentCount _ | .indexUids | .recordedSearches => m

def run (m : Memory) (steps : List Step) : Memory := steps.foldl perform m

def answers (m : Memory) : List Step → List Answer
  | [] => []
  | step :: rest => m.answer step :: (m.perform step).answers rest

@[simp] theorem run_nil (m : Memory) : m.run [] = m := rfl

@[simp] theorem run_cons (m : Memory) (step : Step) (steps : List Step) :
    m.run (step :: steps) = (m.perform step).run steps := rfl

section Add

variable {m : Memory} {indexUid : String} (primaryKey : String) (documents : List Json)
  (hm : m.available = true)
include hm

theorem addDocuments_of_none (hindex : m.indexes.get? indexUid = none) :
    addDocuments indexUid primaryKey documents m = (.error (missing indexUid), m) := by
  simp only [addDocuments, whenAvailable, hm, if_true, hindex]

/-- The index takes the offered key if it has none, and then it takes the documents or refuses
them. -/
theorem addDocuments_of_some {index : MemoryIndex} (hindex : m.indexes.get? indexUid = some index) :
    addDocuments indexUid primaryKey documents m =
      match (index.keyedBy primaryKey).add documents with
      | .error e => (.error e, m.putIndex indexUid (index.keyedBy primaryKey))
      | .ok filled => (.ok (), m.putIndex indexUid filled) := by
  cases hadd : (index.keyedBy primaryKey).add documents
  all_goals simp only [addDocuments, whenAvailable, hm, if_true, hindex, hadd]

end Add

section Refused

variable {m m' : Memory} {indexUid primaryKey : String} {documents : List Json} {e : SearchFailure}

/-- An index that refuses documents takes the offered key if it has none. -/
theorem eq_putIndex_of_error {index : MemoryIndex} (hm : m.available = true)
    (hindex : m.indexes.get? indexUid = some index)
    (h : addDocuments indexUid primaryKey documents m = (.error e, m')) :
    m' = m.putIndex indexUid (index.keyedBy primaryKey) := by
  rw [addDocuments_of_some primaryKey documents hm hindex] at h
  cases hadd : (index.keyedBy primaryKey).add documents with
  | error e' =>
    rw [hadd] at h
    exact (Prod.ext_iff.1 h).2.symm
  | ok filled =>
    rw [hadd] at h
    cases (Prod.ext_iff.1 h).1

/-- The call fails without a trace unless there is an index to be keyed. -/
theorem addDocuments_eq_error (h : addDocuments indexUid primaryKey documents m = (.error e, m')) :
    m' = m ∨ m.available = true ∧ ∃ index, m.indexes.get? indexUid = some index ∧
      m' = m.putIndex indexUid (index.keyedBy primaryKey) := by
  cases hm : m.available with
  | false =>
    have hfails : addDocuments indexUid primaryKey documents m = (.error unavailable, m) :=
      whenAvailable_of_false _ hm
    rw [hfails] at h
    exact Or.inl (Prod.ext_iff.1 h).2.symm
  | true =>
    cases hindex : m.indexes.get? indexUid with
    | none =>
      rw [addDocuments_of_none primaryKey documents hm hindex] at h
      exact Or.inl (Prod.ext_iff.1 h).2.symm
    | some index => exact Or.inr ⟨rfl, index, rfl, eq_putIndex_of_error hm hindex h⟩

end Refused

end VariantSearch.Memory

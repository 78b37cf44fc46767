import VariantSearch.Proofs.MemoryRuns

/-!
The log of searches is the end of a list that only grows.
-/

namespace VariantSearch

namespace SearchLog

/-- A log with some room has the latest of some searches in their order, and as many of them as fit. -/
structure HasLatest (capacity : Nat) (searches : List RecordedSearch) (log : SearchLog) : Prop where
  capacity_eq : log.capacity = capacity
  suffix : log.entries <:+ searches
  length_eq : log.entries.length = min capacity searches.length

variable {capacity : Nat} {searches : List RecordedSearch} {log : SearchLog}

theorem hasLatest_nil (capacity : Nat) : HasLatest capacity [] ⟨capacity, []⟩ :=
  ⟨rfl, List.nil_suffix, (Nat.min_zero capacity).symm⟩

theorem HasLatest.record (h : HasLatest capacity searches log) (search : RecordedSearch) :
    HasLatest capacity (searches ++ [search]) (log.record search) := by
  have hlength := h.length_eq
  have happend (entries : List RecordedSearch) (hentries : entries <:+ searches) :
      entries ++ [search] <:+ searches ++ [search] := List.suffix_append_self_iff.2 hentries
  unfold SearchLog.record
  rw [h.capacity_eq]
  split_ifs with hzero hfull
  · -- A log without room stays empty.
    subst hzero
    rw [Nat.zero_min] at hlength
    refine ⟨h.capacity_eq, ?_, ?_⟩
    · rw [List.eq_nil_of_length_eq_zero hlength]
      exact List.nil_suffix
    · rw [hlength, Nat.zero_min]
  · -- A full log moves on by one place.
    refine ⟨rfl, happend _ ((List.drop_suffix 1 log.entries).trans h.suffix), ?_⟩
    simp only [List.length_append, List.length_drop, List.length_singleton]
    omega
  · refine ⟨rfl, happend _ h.suffix, ?_⟩
    simp only [List.length_append, List.length_singleton]
    omega

theorem HasLatest.foldl_record (h : HasLatest capacity searches log) (more : List RecordedSearch) :
    HasLatest capacity (searches ++ more) (more.foldl SearchLog.record log) := by
  induction more generalizing log searches with
  | nil => rwa [List.append_nil]
  | cons search more ih =>
    have hmore := ih (h.record search)
    rwa [List.append_assoc] at hmore

end SearchLog

namespace Memory

variable {m : Memory}

def Step.availableAfter (available : Bool) : Step → Bool
  | .setAvailable next => next
  | _ => available

def Step.search? : Step → Option RecordedSearch
  | .call (.search indexUid query) => some ⟨indexUid, query⟩
  | _ => none

def searchesMade (available : Bool) : List Step → List RecordedSearch
  | [] => []
  | step :: rest =>
    (if available then step.search?.toList else []) ++
      searchesMade (step.availableAfter available) rest

theorem searchesMade_append (available : Bool) (first rest : List Step) :
    searchesMade available (first ++ rest) =
      searchesMade available first ++
        searchesMade (first.foldl Step.availableAfter available) rest := by
  induction first generalizing available with
  | nil => rfl
  | cons step first ih =>
    rw [List.cons_append, searchesMade, searchesMade, ih, List.append_assoc, List.foldl_cons]

theorem Step.search?_eq_some {step : Step} {found : RecordedSearch} (h : step.search? = some found) :
    step = .call (.search found.indexUid found.query) := by
  unfold search? at h
  split at h
  · obtain rfl := Option.some.inj h
    rfl
  · cases h

structure SameLog (m m' : Memory) : Prop where
  log : m'.log = m.log
  available : m'.available = m.available

theorem kept_sameLog : Kept SameLog where
  refl _ := ⟨rfl, rfl⟩
  trans _ _ _ h h' := ⟨h'.log.trans h.log, h'.available.trans h.available⟩

theorem sameLog_call {c : EngineCall} (h : (Step.call c).search? = none) (m : Memory) :
    SameLog m (c.perform m) := by
  cases c with
  | createIndex indexUid primaryKey =>
    refine keeps_whenAvailable kept_sameLog (fun m => ?_) m
    split <;> exact ⟨rfl, rfl⟩
  | updateSettings indexUid settings =>
    refine keeps_whenAvailable kept_sameLog (fun m => ?_) m
    split <;> exact ⟨rfl, rfl⟩
  | addDocuments indexUid primaryKey documents =>
    refine keeps_whenAvailable kept_sameLog (fun m => ?_) m
    split
    · exact ⟨rfl, rfl⟩
    · dsimp only
      split <;> exact ⟨rfl, rfl⟩
  | search indexUid query => cases h
  | health => exact keeps_whenAvailable kept_sameLog (Attempt.keeps_pure kept_sameLog ()) m

/-- Steps that ask for no search leave the log as it is. -/
theorem log_perform_of_none {step : Step} (h : step.search? = none) (m : Memory) :
    (m.perform step).log = m.log := by
  cases step with
  | call c => exact (sameLog_call h m).log
  | setAvailable | settings | settingsUpdates | documentCount | indexUids | recordedSearches => rfl

section Search

variable (indexUid : String) (query : EngineQuery)

theorem search_of_unavailable (hm : m.available = false) :
    search indexUid query m = (.error unavailable, m) := whenAvailable_of_false _ hm

/-- A search is noted before its index is looked for. -/
theorem search_of_available (hm : m.available = true) :
    search indexUid query m =
      ((m.indexes.get? indexUid).elim (.error (missing indexUid)) fun index =>
          .ok (index.answer query),
        { m with log := m.log.record ⟨indexUid, query⟩ }) := by
  simp only [search, whenAvailable, hm, if_true]
  cases m.indexes.get? indexUid <;> rfl

end Search

theorem log_perform (m : Memory) (step : Step) :
    (m.perform step).log =
      (if m.available then step.search?.toList else []).foldl SearchLog.record m.log := by
  cases hsearch : step.search? with
  | none => rw [log_perform_of_none hsearch, Option.toList_none, ite_self, List.foldl_nil]
  | some found =>
    rw [Step.search?_eq_some hsearch]
    change (search found.indexUid found.query m).2.log = _
    cases hm : m.available with
    | true =>
      rw [search_of_available _ _ hm]
      rfl
    | false =>
      rw [search_of_unavailable _ _ hm]
      rfl

/-- Only a search that the engine is available for changes the log. -/
theorem search_of_log_perform_ne {step : Step} (h : (m.perform step).log ≠ m.log) :
    m.available = true ∧ ∃ indexUid query, step = .call (.search indexUid query) := by
  rw [log_perform] at h
  cases hm : m.available with
  | false =>
    rw [hm] at h
    exact absurd rfl h
  | true =>
    cases hsearch : step.search? with
    | none =>
      rw [hm, hsearch] at h
      exact absurd rfl h
    | some found => exact ⟨rfl, _, _, Step.search?_eq_some hsearch⟩

theorem available_perform (m : Memory) (step : Step) :
    (m.perform step).available = step.availableAfter m.available := by
  cases step with
  | call c =>
    cases c with
    | search indexUid query =>
      change (search indexUid query m).2.available = m.available
      cases hm : m.available with
      | true => rw [search_of_available indexUid query hm, hm]
      | false => rw [search_of_unavailable indexUid query hm, hm]
    | createIndex | updateSettings | addDocuments | health => exact (sameLog_call rfl m).available
  | setAvailable | settings | settingsUpdates | documentCount | indexUids | recordedSearches => rfl

theorem available_run (m : Memory) (steps : List Step) :
    (m.run steps).available = steps.foldl Step.availableAfter m.available := by
  induction steps generalizing m with
  | nil => rfl
  | cons step rest ih => rw [run_cons, ih, available_perform, List.foldl_cons]

/-- One more step adds its search if the engine is available after the run. -/
theorem searchesMade_concat (m : Memory) (steps : List Step) (step : Step) :
    searchesMade m.available (steps ++ [step]) =
      searchesMade m.available steps ++
        if (m.run steps).available then step.search?.toList else [] := by
  rw [searchesMade_append, ← available_run, searchesMade, searchesMade, List.append_nil]

/-- A log with the latest of some searches has after a run the latest of these and the ones that were
made in it. -/
theorem hasLatest_run {capacity : Nat} {past : List RecordedSearch}
    (h : m.log.HasLatest capacity past) (steps : List Step) :
    (m.run steps).log.HasLatest capacity (past ++ searchesMade m.available steps) := by
  induction steps generalizing m past with
  | nil => rwa [searchesMade, List.append_nil]
  | cons step rest ih =>
    have hstep : (m.perform step).log.HasLatest capacity
        (past ++ if m.available then step.search?.toList else []) := by
      rw [log_perform]
      exact h.foldl_record _
    have hrest := ih hstep
    rwa [available_perform, List.append_assoc] at hrest

/-- After every run of a fresh engine the log shows the latest of the searches that were made while the
engine was available, as many as there is room for and oldest first. One more search is one of them
if the engine is available, also if there is no such index; otherwise it fails and is none of them.
Only a search that the engine was available for changes the log. -/
theorem log_shows_latest (capacity : Nat) (steps : List Step) :
    let m := (fresh capacity).run steps
    let made := searchesMade true steps
    (∃ shown, m.answer .recordedSearches = .searches shown ∧ shown <:+ made ∧
        shown.length = min capacity made.length) ∧
      (∀ indexUid query, m.available = true →
        searchesMade true (steps ++ [.call (.search indexUid query)]) =
            made ++ [⟨indexUid, query⟩] ∧
          (m.indexes.get? indexUid = none →
            m.answer (.call (.search indexUid query)) = .page (.error (missing indexUid)))) ∧
      (∀ indexUid query, m.available = false →
        searchesMade true (steps ++ [.call (.search indexUid query)]) = made ∧
          m.answer (.call (.search indexUid query)) = .page (.error unavailable)) ∧
      ∀ step, (m.perform step).log ≠ m.log →
        m.available = true ∧ ∃ indexUid query, step = .call (.search indexUid query) := by
  intro m made
  have hfresh : (fresh capacity).log.HasLatest capacity [] := SearchLog.hasLatest_nil capacity
  have hlatest : m.log.HasLatest capacity made := hasLatest_run hfresh steps
  -- One search more is one entry more, if the engine is there to note it.
  have hnext (step : Step) : searchesMade true (steps ++ [step]) =
      made ++ if m.available then step.search?.toList else [] :=
    searchesMade_concat (fresh capacity) steps step
  refine ⟨⟨m.log.entries, rfl, hlatest.suffix, hlatest.length_eq⟩, ?_, ?_, ?_⟩
  · intro indexUid query hm
    refine ⟨?_, fun hindex => ?_⟩
    · rw [hnext, if_pos hm]
      rfl
    · rw [answer, search_of_available indexUid query hm, hindex]
      rfl
  · intro indexUid query hm
    refine ⟨?_, ?_⟩
    · rw [hnext, hm, if_neg Bool.false_ne_true, List.append_nil]
    · rw [answer, search_of_unavailable indexUid query hm]
  · intro step hchanged
    exact search_of_log_perform_ne hchanged

def plainQuery (text : String) : EngineQuery := ⟨text, 0, 20, [], []⟩

def eagerRun : List Step :=
  [.call (.search "games" (plainQuery "hail")), .call (.createIndex "games" "id"),
    .setAvailable false, .call (.search "games" (plainQuery "rain")), .setAvailable true,
    .call (.search "games" (plainQuery "snow")), .recordedSearches,
    .call (.search "toys" (plainQuery "fog"))]

theorem log_shows_latest_after_eagerRun :
    let m := (fresh 2).run eagerRun
    searchesMade true eagerRun =
        [⟨"games", plainQuery "hail"⟩, ⟨"games", plainQuery "snow"⟩, ⟨"toys", plainQuery "fog"⟩] ∧
      m.answer .recordedSearches =
        .searches [⟨"games", plainQuery "snow"⟩, ⟨"toys", plainQuery "fog"⟩] ∧
      m.available = true ∧ m.indexes.get? "toys" = none ∧
      m.answer (.call (.search "toys" (plainQuery "dew"))) = .page (.error (missing "toys")) := by
  intro m
  have hmade : searchesMade true eagerRun =
      [⟨"games", plainQuery "hail"⟩, ⟨"games", plainQuery "snow"⟩, ⟨"toys", plainQuery "fog"⟩] := rfl
  have hm : m.available = true := rfl
  have htoys : m.indexes.get? "toys" = none := rfl
  obtain ⟨⟨shown, hshown, hsuffix, hlength⟩, hnext, -⟩ := log_shows_latest 2 eagerRun
  rw [hmade] at hsuffix hlength
  rw [List.suffix_iff_eq_drop, hlength] at hsuffix
  subst hsuffix
  exact ⟨hmade, hshown, hm, htoys, (hnext "toys" (plainQuery "dew") hm).2 htoys⟩

end Memory

end VariantSearch

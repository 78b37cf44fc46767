import VariantSearch.Engine.Memory
import VariantSearch.Proofs.Operations
import VariantSearch.Proofs.TextMap

namespace VariantSearch.Memory

open Attempt

structure SameAt (indexUid : String) (m m' : Memory) : Prop where
  index : m'.indexes.get? indexUid = m.indexes.get? indexUid
  available : m'.available = m.available

def SettingsStay (m m' : Memory) : Prop :=
  ∀ indexUid settings, m.settings? indexUid = some settings → m'.settings? indexUid = some settings

theorem kept_sameAt (indexUid : String) : Kept (SameAt indexUid) where
  refl _ := ⟨rfl, rfl⟩
  trans _ _ _ h h' := ⟨h'.index.trans h.index, h'.available.trans h.available⟩

theorem kept_settingsStay : Kept SettingsStay where
  refl _ _ _ h := h
  trans _ _ _ h h' indexUid settings hs := h' indexUid settings (h indexUid settings hs)

theorem settings?_eq_some_iff (m : Memory) (indexUid : String) (settings : Settings) :
    m.settings? indexUid = some settings ↔
      ∃ index, m.indexes.get? indexUid = some index ∧ index.settings = some settings := by
  unfold settings?
  cases m.indexes.get? indexUid with
  | none => simp
  | some index => simp

theorem get?_putIndex (m : Memory) (indexUid other : String) (index : MemoryIndex) :
    (m.putIndex indexUid index).indexes.get? other =
      if indexUid = other then some index else m.indexes.get? other :=
  TextMap.get?_insert _ _ _ _

theorem putIndex_self {m : Memory} {indexUid : String} {index : MemoryIndex}
    (h : m.indexes.get? indexUid = some index) : m.putIndex indexUid index = m := by
  simp only [putIndex, TextMap.insert_of_get? m.indexes indexUid index h]

theorem putIndex_putIndex (m : Memory) (indexUid : String) (first second : MemoryIndex) :
    (m.putIndex indexUid first).putIndex indexUid second = m.putIndex indexUid second := by
  simp only [putIndex, TextMap.insert_insert]

theorem sameAt_putIndex {indexUid other : String} (hne : indexUid ≠ other) (m : Memory)
    (index : MemoryIndex) : SameAt other m (m.putIndex indexUid index) := by
  refine ⟨?_, rfl⟩
  rw [get?_putIndex, if_neg hne]

/-- Setting an index keeps the stored settings if the index keeps those that it had. -/
theorem settingsStay_putIndex (m : Memory) (indexUid : String) (index : MemoryIndex)
    (hindex : ∀ old, m.indexes.get? indexUid = some old → index.settings = old.settings) :
    SettingsStay m (m.putIndex indexUid index) := by
  intro other settings h
  obtain ⟨old, hold, hsettings⟩ := (settings?_eq_some_iff m other settings).1 h
  rw [settings?_eq_some_iff, get?_putIndex]
  by_cases hne : indexUid = other
  · subst hne
    exact ⟨index, if_pos rfl, (hindex old hold).trans hsettings⟩
  · exact ⟨old, by rw [if_neg hne]; exact hold, hsettings⟩

/-- An engine that is not available does nothing, so only the work itself has to keep a relation. -/
theorem keeps_whenAvailable {α : Type} {R : Memory → Memory → Prop} (hR : Kept R)
    {work : Attempt Memory α} (hwork : Keeps R work) : Keeps R (whenAvailable work) := by
  intro m
  unfold whenAvailable
  split
  · exact hwork m
  · exact hR.refl m

section Documents

/-- Adding documents changes nothing of an index but its documents and their positions. -/
theorem exists_foldl_upsert_eq (entries : List (String × Json)) (index : MemoryIndex) :
    ∃ stored positions, entries.foldl MemoryIndex.upsert index =
      { index with documents := stored, positions := positions } := by
  induction entries generalizing index with
  | nil => exact ⟨index.documents, index.positions, rfl⟩
  | cons e rest ih =>
    obtain ⟨stored, positions, hrest⟩ := ih (index.upsert e)
    refine ⟨stored, positions, hrest.trans ?_⟩
    unfold MemoryIndex.upsert
    split <;> rfl

theorem exists_documents_of_add {index filled : MemoryIndex} {documents : List Json}
    (h : index.add documents = .ok filled) :
    ∃ stored positions, filled = { index with documents := stored, positions := positions } := by
  unfold MemoryIndex.add at h
  split at h
  · cases h
  · next entries _ =>
    obtain rfl := Except.ok.inj h
    exact exists_foldl_upsert_eq entries index

/-- An index that is keyed keeps its settings and its documents. -/
theorem settings_keyedBy (index : MemoryIndex) (offered : String) :
    (index.keyedBy offered).settings = index.settings ∧
      (index.keyedBy offered).settingsUpdates = index.settingsUpdates ∧
        (index.keyedBy offered).documents = index.documents := by
  unfold MemoryIndex.keyedBy
  split <;> exact ⟨rfl, rfl, rfl⟩

end Documents

section Other

variable {indexUid other : String} (hne : indexUid ≠ other)
include hne

theorem sameAt_createIndex (primaryKey : String) :
    Keeps (SameAt other) (createIndex indexUid primaryKey) := by
  refine keeps_whenAvailable (kept_sameAt other) fun m => ?_
  split
  · exact (kept_sameAt other).refl m
  · exact sameAt_putIndex hne m _

theorem sameAt_updateSettings (settings : Settings) :
    Keeps (SameAt other) (updateSettings indexUid settings) := by
  refine keeps_whenAvailable (kept_sameAt other) fun m => ?_
  split
  · exact (kept_sameAt other).refl m
  · exact sameAt_putIndex hne m _

theorem sameAt_addDocuments (primaryKey : String) (documents : List Json) :
    Keeps (SameAt other) (addDocuments indexUid primaryKey documents) := by
  refine keeps_whenAvailable (kept_sameAt other) fun m => ?_
  split
  · exact (kept_sameAt other).refl m
  · dsimp only
    split
    · exact sameAt_putIndex hne m _
    · exact sameAt_putIndex hne m _

end Other

theorem sameAt_search (indexUid other : String) (query : EngineQuery) :
    Keeps (SameAt other) (search indexUid query) := by
  refine keeps_whenAvailable (kept_sameAt other) fun m => ?_
  dsimp only
  split <;> exact ⟨rfl, rfl⟩

theorem sameAt_health (other : String) : Keeps (SameAt other) health :=
  keeps_whenAvailable (kept_sameAt other) (keeps_pure (kept_sameAt other) ())

theorem settingsStay_createIndex (indexUid primaryKey : String) :
    Keeps SettingsStay (createIndex indexUid primaryKey) := by
  refine keeps_whenAvailable kept_settingsStay fun m => ?_
  split
  · exact kept_settingsStay.refl m
  · next h =>
    -- An index is made only where there is none, so it takes the place of no settings.
    refine settingsStay_putIndex m indexUid _ fun old hold => ?_
    rw [h] at hold
    cases hold

theorem settingsStay_addDocuments (indexUid primaryKey : String) (documents : List Json) :
    Keeps SettingsStay (addDocuments indexUid primaryKey documents) := by
  refine keeps_whenAvailable kept_settingsStay fun m => ?_
  split
  · exact kept_settingsStay.refl m
  · next index h =>
    dsimp only
    split
    · -- Documents that are refused leave the offered key behind.
      refine settingsStay_putIndex m indexUid _ fun old hold => ?_
      obtain rfl := Option.some.inj (h.symm.trans hold)
      exact (settings_keyedBy index primaryKey).1
    · next filled hfilled =>
      refine settingsStay_putIndex m indexUid _ fun old hold => ?_
      obtain rfl := Option.some.inj (h.symm.trans hold)
      obtain ⟨stored, positions, rfl⟩ := exists_documents_of_add hfilled
      exact (settings_keyedBy index primaryKey).1

theorem settings?_of_sameAt {indexUid : String} {m m' : Memory} (h : SameAt indexUid m m') :
    m'.settings? indexUid = m.settings? indexUid := by
  unfold settings?
  rw [h.index]

theorem settingsStay_of_sameAt {m m' : Memory} (h : ∀ indexUid, SameAt indexUid m m') :
    SettingsStay m m' := by
  intro indexUid settings hs
  rwa [settings?_of_sameAt (h indexUid)]

section Push

variable {m : Memory} {indexUid : String}

theorem whenAvailable_of_false {α : Type} (work : Attempt Memory α) (hm : m.available = false) :
    whenAvailable work m = (.error unavailable, m) := by
  simp only [whenAvailable, hm, Bool.false_eq_true, ↓reduceIte]

theorem createIndex_of_some {index : MemoryIndex} (primaryKey : String) (hm : m.available = true)
    (hindex : m.indexes.get? indexUid = some index) :
    createIndex indexUid primaryKey m = (.ok (), m) := by
  simp only [createIndex, whenAvailable, hm, ↓reduceIte, hindex]

theorem createIndex_of_none (primaryKey : String) (hm : m.available = true)
    (hindex : m.indexes.get? indexUid = none) :
    createIndex indexUid primaryKey m = (.ok (), m.putIndex indexUid (.ofKey primaryKey)) := by
  simp only [createIndex, whenAvailable, hm, ↓reduceIte, hindex]

theorem updateSettings_of_none (settings : Settings) (hm : m.available = true)
    (hindex : m.indexes.get? indexUid = none) :
    updateSettings indexUid settings m = (.error (missing indexUid), m) := by
  simp only [updateSettings, whenAvailable, hm, ↓reduceIte, hindex]

theorem updateSettings_of_some {index : MemoryIndex} (settings : Settings) (hm : m.available = true)
    (hindex : m.indexes.get? indexUid = some index) :
    updateSettings indexUid settings m =
      (.ok (), m.putIndex indexUid
        { index with settings := some settings, settingsUpdates := index.settingsUpdates + 1 }) := by
  simp only [updateSettings, whenAvailable, hm, ↓reduceIte, hindex]

def pushed (m : Memory) (v : Variant) : Memory :=
  let index := (m.indexes.get? v.indexUid).getD (.ofKey v.primaryKey)
  m.putIndex v.indexUid
    { index with settings := some v.settings, settingsUpdates := index.settingsUpdates + 1 }

theorem createIndex_then_updateSettings (v : Variant) (hm : m.available = true) :
    (createIndex v.indexUid v.primaryKey >>= fun _ => updateSettings v.indexUid v.settings) m =
      (.ok (), m.pushed v) := by
  cases hindex : m.indexes.get? v.indexUid with
  | some index =>
    have hcreate := createIndex_of_some v.primaryKey hm hindex
    have hupdate := updateSettings_of_some v.settings hm hindex
    refine (run_bind_of_ok hcreate).trans (hupdate.trans ?_)
    simp only [pushed, hindex, Option.getD_some]
  | none =>
    have hcreate := createIndex_of_none v.primaryKey hm hindex
    have hmade : (m.putIndex v.indexUid (.ofKey v.primaryKey)).indexes.get? v.indexUid =
        some (.ofKey v.primaryKey) := by
      rw [get?_putIndex, if_pos rfl]
    have hm' : (m.putIndex v.indexUid (.ofKey v.primaryKey)).available = true := hm
    have hupdate := updateSettings_of_some v.settings hm' hmade
    -- The index that was just made is replaced by the one that has the settings as well.
    refine (run_bind_of_ok hcreate).trans (hupdate.trans ?_)
    simp only [pushed, hindex, Option.getD_none, putIndex, TextMap.insert_insert]

/-- Pushing a variant that meets its conditions to an engine that is available stores the settings;
in every other case nothing changes. -/
theorem push_eq (v : Variant) (m : Memory) :
    Service.push v m =
      match v.check with
      | .error e => (.error e, m)
      | .ok () => if m.available then (.ok (), m.pushed v) else (.error unavailable, m) := by
  cases hcheck : v.check with
  | error e =>
    have hfirst : (ofExcept v.check : Attempt Memory Unit).run m = (.error e, m) := by
      rw [run_ofExcept, hcheck]
    exact run_bind_of_error hfirst
  | ok u =>
    have hfirst : (ofExcept v.check : Attempt Memory Unit).run m = (.ok (), m) := by
      rw [run_ofExcept, hcheck]
    refine (run_bind_of_ok hfirst).trans ?_
    cases hm : m.available with
    | true => exact createIndex_then_updateSettings v hm
    | false =>
      have hcreate : createIndex v.indexUid v.primaryKey m = (.error unavailable, m) :=
        whenAvailable_of_false _ hm
      exact run_bind_of_error hcreate

/-- A push that fails changes nothing. -/
theorem push_of_error {v : Variant} {e : SearchFailure} (h : (Service.push v m).1 = .error e) :
    (Service.push v m).2 = m := by
  rw [push_eq] at h ⊢
  split at h
  · rfl
  · split at h
    · cases h
    · next hm => rw [if_neg hm]

theorem push_of_ok {v : Variant} (h : (Service.push v m).1 = .ok ()) :
    (Service.push v m).2 = m.pushed v := by
  rw [push_eq] at h ⊢
  split at h
  · cases h
  · split at h
    · next hm => rw [if_pos hm]
    · cases h

theorem check_of_push_ok {v : Variant} (h : (Service.push v m).1 = .ok ()) : v.check = .ok () := by
  rw [push_eq] at h
  split at h
  · cases h
  · next hcheck => exact hcheck

theorem settings?_pushed (m : Memory) (v : Variant) :
    (m.pushed v).settings? v.indexUid = some v.settings := by
  rw [settings?_eq_some_iff, pushed, get?_putIndex, if_pos rfl]
  exact ⟨_, rfl, rfl⟩

/-- Pushing a variant leaves every index but its own. -/
theorem sameAt_push {v : Variant} {other : String} (hne : v.indexUid ≠ other) :
    Keeps (SameAt other) (Service.push v : Attempt Memory Unit) := by
  intro m
  rw [push_eq]
  split
  · exact (kept_sameAt other).refl m
  · split
    · exact sameAt_putIndex hne m _
    · exact (kept_sameAt other).refl m

end Push

end VariantSearch.Memory

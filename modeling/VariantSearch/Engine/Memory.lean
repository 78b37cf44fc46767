import VariantSearch.Engine
import VariantSearch.Json.Printer

/-!
An engine that keeps everything in memory and neither matches nor ranks.
-/

namespace VariantSearch

/-- One index: documents in the order in which their keys came first, each with the written form of
its key. -/
structure MemoryIndex where
  primaryKey : String
  settings : Option Settings
  settingsUpdates : Nat
  documents : List (String × Json)
  positions : TextMap Nat

namespace MemoryIndex

def ofKey (primaryKey : String) : MemoryIndex := ⟨primaryKey, none, 0, [], ∅⟩

/-- The index with one document more or replaced: a document goes to the position of its key, or to
the end if the key has no position yet. -/
def upsert (index : MemoryIndex) (entry : String × Json) : MemoryIndex :=
  match index.positions.get? entry.1 with
  -- A document keeps the place at which its key came first.
  | some position => { index with documents := index.documents.set position entry }
  | none =>
    { index with
      documents := index.documents ++ [entry]
      positions := index.positions.insert entry.1 index.documents.length }

def keyText? (primaryKey : String) (document : Json) : Option String :=
  (document.member? primaryKey).map Json.toText

def missingKey (primaryKey : String) : SearchFailure :=
  .engineRejected "missing_document_id" ("document is missing primary key `" ++ primaryKey ++ "`")

/-- The index keyed as it is, or by the offered key if it has none. -/
def keyedBy (index : MemoryIndex) (offered : String) : MemoryIndex :=
  if index.primaryKey = "" then { index with primaryKey := offered } else index

def add (index : MemoryIndex) (documents : List Json) : Except SearchFailure MemoryIndex :=
  match documents.mapM fun d => (keyText? index.primaryKey d).map (·, d) with
  | none => .error (missingKey index.primaryKey)
  | some entries => .ok (entries.foldl upsert index)

def reachable (index : MemoryIndex) : Nat :=
  match index.settings with
  | none => index.documents.length
  | some s => min index.documents.length s.maxTotalHits.toNat

def page (index : MemoryIndex) (offset limit : Nat) : List Json :=
  (((index.documents.map (·.2)).take index.reachable).drop offset).take limit

def answer (index : MemoryIndex) (query : EngineQuery) : Json :=
  .ofMembers
    [("hits", .list (index.page query.offset query.limit)), ("query", .text query.text),
      ("processingTimeMs", .nat 0), ("limit", .nat query.limit), ("offset", .nat query.offset),
      ("estimatedTotalHits", .nat index.reachable)]

end MemoryIndex

structure RecordedSearch where
  indexUid : String
  query : EngineQuery
deriving DecidableEq

structure SearchLog where
  /-- How many searches are kept; none if it is zero. -/
  capacity : Nat
  entries : List RecordedSearch

/-- The log with one search more and, if it was full, without its oldest one. -/
def SearchLog.record (log : SearchLog) (search : RecordedSearch) : SearchLog :=
  if log.capacity = 0 then log
  else if log.entries.length = log.capacity then
    { log with entries := log.entries.drop 1 ++ [search] }
  else { log with entries := log.entries ++ [search] }

structure Memory where
  indexes : TextMap MemoryIndex
  log : SearchLog
  available : Bool

namespace Memory

def standardCapacity : Nat := 1024

def fresh (capacity : Nat) : Memory := ⟨∅, ⟨capacity, []⟩, true⟩

def unavailable : SearchFailure := .engineUnavailable "in-memory engine is marked unavailable"

def missing (indexUid : String) : SearchFailure :=
  .indexNotFound ("Index `" ++ indexUid ++ "` not found.")

def whenAvailable {α : Type} (work : Attempt Memory α) : Attempt Memory α := fun m =>
  if m.available then work m else (.error unavailable, m)

def putIndex (m : Memory) (indexUid : String) (index : MemoryIndex) : Memory :=
  { m with indexes := m.indexes.insert indexUid index }

def createIndex (indexUid primaryKey : String) : Attempt Memory Unit :=
  whenAvailable fun m =>
    match m.indexes.get? indexUid with
    | some _ => (.ok (), m)
    | none => (.ok (), m.putIndex indexUid (.ofKey primaryKey))

def updateSettings (indexUid : String) (settings : Settings) : Attempt Memory Unit :=
  whenAvailable fun m =>
    match m.indexes.get? indexUid with
    | none => (.error (missing indexUid), m)
    | some index =>
      (.ok (), m.putIndex indexUid
        { index with settings := some settings, settingsUpdates := index.settingsUpdates + 1 })

def addDocuments (indexUid primaryKey : String) (documents : List Json) : Attempt Memory Unit :=
  whenAvailable fun m =>
    match m.indexes.get? indexUid with
    | none => (.error (missing indexUid), m)
    | some index =>
      let keyed := index.keyedBy primaryKey
      match keyed.add documents with
      -- The index keeps the offered key even if the documents are refused.
      | .error e => (.error e, m.putIndex indexUid keyed)
      | .ok filled => (.ok (), m.putIndex indexUid filled)

def search (indexUid : String) (query : EngineQuery) : Attempt Memory Json :=
  whenAvailable fun m =>
    let m := { m with log := m.log.record ⟨indexUid, query⟩ }
    match m.indexes.get? indexUid with
    | none => (.error (missing indexUid), m)
    | some index => (.ok (index.answer query), m)

def health : Attempt Memory Unit := whenAvailable (pure ())

def setAvailable (m : Memory) (available : Bool) : Memory := { m with available }

def documentCount (m : Memory) (indexUid : String) : Nat :=
  match m.indexes.get? indexUid with
  | none => 0
  | some index => index.documents.length

def settingsUpdates (m : Memory) (indexUid : String) : Nat :=
  match m.indexes.get? indexUid with
  | none => 0
  | some index => index.settingsUpdates

def settings? (m : Memory) (indexUid : String) : Option Settings := do
  (← m.indexes.get? indexUid).settings

instance : SearchEngine Memory where
  backend _ := "in_memory"
  createIndex := createIndex
  updateSettings := updateSettings
  addDocuments := addDocuments
  search := search
  health := health

end Memory

end VariantSearch

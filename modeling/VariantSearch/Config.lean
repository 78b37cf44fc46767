import VariantSearch.Config.Tree
import VariantSearch.Json.Basic

namespace VariantSearch

inductive Backend where
  | remote
  | memory
deriving DecidableEq

namespace Backend

def toText : Backend → String
  | remote => "meilisearch"
  | memory => "in_memory"

def ofText? : String → Option Backend
  | "meilisearch" => some remote
  | "in_memory" => some memory
  | _ => none

end Backend

structure ServerConfig where
  host : String
  portNumber : Nat
deriving DecidableEq

structure EngineConfig where
  backend : Backend
  url : String
  /-- The variable of the environment that holds the key of the engine. -/
  apiKeyVariable : Option String
  timeoutSeconds : Nat
  pollMillis : Nat
  taskSeconds : Nat
  /-- Whether the service gives up if the engine cannot be reached at the start. -/
  failFast : Bool
deriving DecidableEq

structure IndexConfig where
  stem : String
  primaryKey : String
deriving DecidableEq

structure CorpusConfig where
  path : Option String
  batchSize : Nat
deriving DecidableEq

structure ObservabilityConfig where
  logLevel : String
  jsonLogs : Bool
  metrics : Bool
deriving DecidableEq

structure Config where
  server : ServerConfig
  engine : EngineConfig
  indexes : IndexConfig
  corpus : CorpusConfig
  observability : ObservabilityConfig
deriving DecidableEq

def ServerConfig.standard : ServerConfig := ⟨"0.0.0.0", 8000⟩

def EngineConfig.standard : EngineConfig :=
  ⟨.remote, "http://127.0.0.1:7700", some "MEILI_MASTER_KEY", 10, 100, 60, true⟩

def IndexConfig.standard : IndexConfig := ⟨"general_index", "id"⟩

def CorpusConfig.standard : CorpusConfig := ⟨none, 1000⟩

def ObservabilityConfig.standard : ObservabilityConfig := ⟨"info", false, true⟩

namespace Config

def standard : Config := ⟨.standard, .standard, .standard, .standard, .standard⟩

def toJson (c : Config) : Json :=
  .ofMembers
    [("server", .ofMembers [("host", .text c.server.host), ("http_port", .nat c.server.portNumber)]),
      ("engine",
        .ofMembers
          [("backend", .text c.engine.backend.toText), ("url", .text c.engine.url),
            ("api_key_env", .orNull .text c.engine.apiKeyVariable),
            ("timeout_secs", .nat c.engine.timeoutSeconds),
            ("task_poll_interval_ms", .nat c.engine.pollMillis),
            ("task_timeout_secs", .nat c.engine.taskSeconds),
            ("fail_fast", .bool c.engine.failFast)]),
      ("indexes",
        .ofMembers [("prefix", .text c.indexes.stem), ("primary_key", .text c.indexes.primaryKey)]),
      ("corpus",
        .ofMembers
          [("path", .orNull .text c.corpus.path), ("batch_size", .nat c.corpus.batchSize)]),
      ("observability",
        .ofMembers
          [("log_level", .text c.observability.logLevel),
            ("json_logs", .bool c.observability.jsonLogs),
            ("prometheus_enabled", .bool c.observability.metrics)])]

def readOr? {α β : Type} (standard : β) (read? : α → Option β) : Option α → Option β
  | none => some standard
  | some a => read? a

/-- A text that may be missing from a table; a list has to hold it. -/
def textIfPresent? (t : Tree) : Option Tree → Option (Option String)
  | some v => v.asText?.map some
  | none =>
    match t with
    | .list _ => none
    | _ => some none

def serverOf? (t : Tree) : Option ServerConfig := do
  match ← t.record? ["host", "http_port"] with
  | [host, number] =>
    return ⟨← readOr? ServerConfig.standard.host Tree.asText? host,
      ← readOr? ServerConfig.standard.portNumber (Tree.asNatBelow? UInt16.size) number⟩
  | _ => none

def backendOf? (t : Tree) : Option Backend := do Backend.ofText? (Tree.lowered (← t.asAlternative?))

def engineNames : List String :=
  ["backend", "url", "api_key_env", "timeout_secs", "task_poll_interval_ms", "task_timeout_secs",
    "fail_fast"]

def engineOf? (t : Tree) : Option EngineConfig := do
  match ← t.record? engineNames with
  | [backend, url, key, timeout, poll, task, failFast] =>
    let s := EngineConfig.standard
    let seconds := Tree.asNatBelow? UInt64.size
    return ⟨← readOr? s.backend backendOf? backend, ← readOr? s.url Tree.asText? url,
      ← textIfPresent? t key, ← readOr? s.timeoutSeconds seconds timeout,
      ← readOr? s.pollMillis seconds poll, ← readOr? s.taskSeconds seconds task,
      ← readOr? s.failFast Tree.asBool? failFast⟩
  | _ => none

def indexesOf? (t : Tree) : Option IndexConfig := do
  match ← t.record? ["prefix", "primary_key"] with
  | [stem, key] =>
    return ⟨← readOr? IndexConfig.standard.stem Tree.asText? stem,
      ← readOr? IndexConfig.standard.primaryKey Tree.asText? key⟩
  | _ => none

def corpusOf? (t : Tree) : Option CorpusConfig := do
  match ← t.record? ["path", "batch_size"] with
  | [path, size] =>
    return ⟨← textIfPresent? t path,
      ← readOr? CorpusConfig.standard.batchSize (Tree.asNatBelow? UInt64.size) size⟩
  | _ => none

def observabilityOf? (t : Tree) : Option ObservabilityConfig := do
  match ← t.record? ["log_level", "json_logs", "prometheus_enabled"] with
  | [level, json, metrics] =>
    let s := ObservabilityConfig.standard
    return ⟨← readOr? s.logLevel Tree.asText? level, ← readOr? s.jsonLogs Tree.asBool? json,
      ← readOr? s.metrics Tree.asBool? metrics⟩
  | _ => none

def ofTree? (t : Tree) : Option Config := do
  match ← t.record? ["server", "engine", "indexes", "corpus", "observability"] with
  | [some server, some engine, indexes, corpus, some observability] =>
    return ⟨← serverOf? server, ← engineOf? engine, ← readOr? .standard indexesOf? indexes,
      ← readOr? .standard corpusOf? corpus, ← observabilityOf? observability⟩
  | _ => none

def defaults : List (String × Tree) :=
  [("server", .table [("host", .text "0.0.0.0"), ("http_port", .integer 8000)]),
    ("engine",
      .table
        [("backend", .text "meilisearch"), ("url", .text "http://127.0.0.1:7700"),
          ("api_key_env", .text "MEILI_MASTER_KEY"), ("timeout_secs", .integer 10),
          ("task_poll_interval_ms", .integer 100), ("task_timeout_secs", .integer 60),
          ("fail_fast", .bool true)]),
    ("indexes", .table [("prefix", .text "general_index"), ("primary_key", .text "id")]),
    ("corpus",
      .table
        [("path", .text "data/all_documents_without_Document__doc.json"),
          ("batch_size", .integer 1000)]),
    ("observability",
      .table
        [("log_level", .text "info"), ("json_logs", .bool false),
          ("prometheus_enabled", .bool true)])]

end Config

namespace EngineConfig

def textOrNull? (j : Json) : Option Json → Option (Option String)
  | some .null => some none
  | some v => v.asText?.map some
  | none => if j.isObject then some none else none

def ofJson? (j : Json) : Option EngineConfig := do
  match ← j.record? Config.engineNames with
  | [backend, url, key, timeout, poll, task, failFast] =>
    let s := standard
    let seconds := Json.asNatBelow? UInt64.size
    return ⟨← Config.readOr? s.backend (fun b => b.asAlternative?.bind Backend.ofText?) backend,
      ← Config.readOr? s.url Json.asText? url, ← textOrNull? j key,
      ← Config.readOr? s.timeoutSeconds seconds timeout, ← Config.readOr? s.pollMillis seconds poll,
      ← Config.readOr? s.taskSeconds seconds task, ← Config.readOr? s.failFast Json.asBool? failFast⟩
  | _ => none

end EngineConfig

end VariantSearch

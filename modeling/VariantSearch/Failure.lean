namespace VariantSearch

inductive SearchFailure where
  /-- The parameters of the request are unusable, which is found before the engine is asked. -/
  | invalidRequest (detail : String)
  | invalidConfiguration (detail : String)
  | engineUnavailable (detail : String)
  | indexNotFound (detail : String)
  | engineRejected (code detail : String)
deriving DecidableEq

namespace SearchFailure

def label : SearchFailure → String
  | invalidRequest _ => "validation"
  | invalidConfiguration _ => "configuration"
  | engineUnavailable _ => "engine_unavailable"
  | indexNotFound _ => "index_not_found"
  | engineRejected _ _ => "engine_rejected"

def detail : SearchFailure → String
  | invalidRequest d | invalidConfiguration d | engineUnavailable d | indexNotFound d
  | engineRejected _ d => d

def toText : SearchFailure → String
  | invalidRequest d => "Invalid search request: " ++ d
  | invalidConfiguration d => "Invalid index configuration: " ++ d
  | engineUnavailable d => "Search engine unavailable: " ++ d
  | indexNotFound d => "Index not found: " ++ d
  | engineRejected code d => "Search engine rejected request (" ++ code ++ "): " ++ d

end SearchFailure

def outcomeLabel {α : Type} : Except SearchFailure α → String
  | .ok _ => "ok"
  | .error e => e.label

inductive ServiceFailure where
  | notFound (detail : String)
  | invalid (detail : String)
  | configuration (detail : String)
  | io (detail : String)
  | serialization (detail : String)
  | engine (detail : String)
deriving DecidableEq

namespace ServiceFailure

def status : ServiceFailure → Nat
  | notFound _ => 404
  | invalid _ => 400
  | configuration _ | io _ | serialization _ => 500
  | engine _ => 502

def code : ServiceFailure → String
  | notFound _ => "NOT_FOUND"
  | invalid _ => "VALIDATION_ERROR"
  | configuration _ => "CONFIGURATION_ERROR"
  | io _ => "IO_ERROR"
  | serialization _ => "SERIALIZATION_ERROR"
  | engine _ => "ENGINE_UNAVAILABLE"

def toText : ServiceFailure → String
  | notFound d => "Not found: " ++ d
  | invalid d => "Validation error: " ++ d
  | configuration d => "Configuration error: " ++ d
  | io d => "IO error: " ++ d
  | serialization d => "Serialization error: " ++ d
  | engine d => "Upstream engine error: " ++ d

end ServiceFailure

/-- How the service reports a search failure. A refusal by the engine counts as an invalid request
and keeps its full text. -/
def SearchFailure.toService : SearchFailure → ServiceFailure
  | invalidRequest d => .invalid d
  | engineRejected code d => .invalid (toText (.engineRejected code d))
  | indexNotFound d => .notFound d
  | invalidConfiguration d => .configuration d
  | engineUnavailable d => .engine d

end VariantSearch

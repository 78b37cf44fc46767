import VariantSearch.Config.Environment
import VariantSearch.Corpus
import VariantSearch.Engine.Either
import VariantSearch.Engine.Memory
import VariantSearch.Engine.Remote
import VariantSearch.Router

namespace VariantSearch

inductive StartupFault where
  | apply (failure : SearchFailure)
  | corpus (failure : ServiceFailure)
  | seed (failure : SearchFailure)
  | routes (fault : Router.PatternFault)
deriving DecidableEq

namespace Startup

/-- The ways to reach an engine over HTTP that a configuration and an environment describe. A tenth
redirect is not followed. -/
def remoteConfig (c : EngineConfig) (apiKey : Option String) : RemoteConfig :=
  ⟨c.url, apiKey, c.pollMillis, c.taskSeconds, c.timeoutSeconds, 9⟩

/-- The engine of a configuration. For one over HTTP, the replies to come are given, and whether
anything listens at its address. -/
def engineOf (c : EngineConfig) (apiKey : Option String) (listening : Bool)
    (replies : List Web.Reply) : Memory ⊕ Remote :=
  match c.backend with
  | .memory => .inl (.fresh Memory.standardCapacity)
  | .remote => .inr (.fresh (remoteConfig c apiKey) listening replies)

section Engine

variable {σ : Type} [SearchEngine σ]

def tolerable (failFast : Bool) : SearchFailure → Bool
  | .engineUnavailable _ => !failFast
  | _ => false

def applyVariants (failFast : Bool) (s : Service σ) : Except StartupFault Unit × Service σ :=
  match Service.applyAll s with
  | (.ok (), s') => (.ok (), s')
  | (.error e, s') => (if tolerable failFast e then .ok () else .error (.apply e), s')

def seedCorpus (c : CorpusConfig) (read : String → Corpus.Source) (s : Service σ) :
    Except StartupFault Unit × Service σ :=
  match c.path with
  | none => (.ok (), s)
  | some path =>
    match Corpus.load path (read path) with
    | .error e => (.error (.corpus e), s)
    -- Without documents nothing is sent, so no index has to take them.
    | .ok [] => (.ok (), s)
    | .ok documents =>
      match Service.seed documents c.batchSize s with
      | (.ok _, s') => (.ok (), s')
      | (.error e, s') => (.error (.seed e), s')

def routerOf (metrics : Bool) (s : Service σ) : Except StartupFault Router :=
  match Router.make s.registry s.chains metrics with
  | .ok router => .ok router
  | .error fault => .error (.routes fault)

def run (c : Config) (read : String → Corpus.Source) (engine : σ) :
    Except StartupFault Router × Service σ :=
  let installed :=
    (Service.start engine).install (Catalog.entries c.indexes.stem c.indexes.primaryKey)
  match applyVariants c.engine.failFast installed with
  | (.error fault, s) => (.error fault, s)
  | (.ok (), s) =>
    match seedCorpus c.corpus read s with
    | (.error fault, s) => (.error fault, s)
    -- The router is made last and knows the names that are registered now.
    | (.ok (), s) => (routerOf c.observability.metrics s, s)

end Engine

end Startup

end VariantSearch

import VariantSearch.Router.Pattern
import VariantSearch.Service
import VariantSearch.Text.Integer
import VariantSearch.Web.Form
import VariantSearch.Web.Target

namespace VariantSearch

inductive Page where
  | health
  | search
  | searchNamed (name : String)
  | configurations
  | configuration
  | metrics
deriving DecidableEq

inductive Body where
  | json (value : Json)
  | text (content : String)

structure Answer where
  status : Nat
  contentType : Option String
  allow : Option String
  body : Body

namespace Answer

def ofJson (status : Nat) (value : Json) : Answer := ⟨status, some "application/json", none, .json value⟩

def blank (status : Nat) : Answer := ⟨status, none, none, .text ""⟩

def ofFailure (f : ServiceFailure) : Answer :=
  ofJson f.status (.ofMembers
    [("error",
      .ofMembers
        [("code", .text f.code), ("message", .text f.toText), ("status", .nat f.status)])])

def invalidPath (parameter : String) : Answer :=
  ⟨400, some "text/plain; charset=utf-8", none,
    .text ("Invalid URL: Invalid UTF-8 in `" ++ parameter ++ "`")⟩

def allowed : String := "GET,HEAD"

def withoutBody (a : Answer) : Answer := { a with body := .text "" }

end Answer

namespace SearchParameters

inductive QueryFault where
  | integer (fault : Text.Integer.Fault)
  | duplicate (field : String)
deriving DecidableEq

def QueryFault.message : QueryFault → String
  | integer fault => fault.message
  | duplicate field => "duplicate field `" ++ field ++ "`"

structure Partly where
  query : Option String
  facets : Option String
  sort : Option String
  page : Option Int
  limit : Option Int

def fillOnce {α : Type} (field : String) (old : Option α) (new : Except QueryFault α)
    (put : α → Partly) : Except QueryFault Partly :=
  match old with
  | some _ => .error (.duplicate field)
  | none => new.map put

def integerOf (value : String) : Except QueryFault Int :=
  (Text.Integer.parse value.toList).mapError .integer

def readPair (p : Partly) : String × String → Except QueryFault Partly
  | ("q", value) => fillOnce "q" p.query (.ok value) fun v => { p with query := some v }
  | ("facets", value) => fillOnce "facets" p.facets (.ok value) fun v => { p with facets := some v }
  | ("sort", value) => fillOnce "sort" p.sort (.ok value) fun v => { p with sort := some v }
  | ("page", value) => fillOnce "page" p.page (integerOf value) fun v => { p with page := some v }
  | ("limit", value) => fillOnce "limit" p.limit (integerOf value) fun v => { p with limit := some v }
  -- Names that are not known are passed over.
  | _ => .ok p

def Partly.complete (p : Partly) : SearchParameters where
  query := p.query.getD standard.query
  facets := p.facets
  sort := p.sort
  page := p.page.getD standard.page
  limit := p.limit.getD standard.limit

def ofPairs (pairs : List (String × String)) : Except QueryFault SearchParameters :=
  (pairs.foldlM readPair ⟨none, none, none, none, none⟩).map Partly.complete

def ofQuery (query : List Char) : Except QueryFault SearchParameters :=
  ofPairs (Web.Form.decodePairs query)

def QueryFault.toService (f : QueryFault) : ServiceFailure :=
  .invalid ("Failed to deserialize query string: " ++ f.message)

end SearchParameters

/-- The routes and the chains of the time when the router was made. -/
structure Router where
  routes : List (Router.Pattern × Page)
  chains : Chains

namespace Router

def fixedRoutes : List (String × Page) :=
  [("/health", .health), ("/search/:config", .search), ("/configurations", .configurations),
    ("/configurations/:name", .configuration)]

def namedRoute (name : String) : String × Page := ("/search_" ++ name, .searchNamed name)

def routeTexts (names : List String) (metrics : Bool) : List (String × Page) :=
  fixedRoutes ++ names.map namedRoute ++ if metrics then [("/metrics", .metrics)] else []

def addRoute (routes : List (Pattern × Page)) (route : String × Page) :
    Except PatternFault (List (Pattern × Page)) := do
  let pattern ← Pattern.parse route.1
  if routes.any fun other => pattern.conflicts other.1 then .error .conflict
  else .ok (routes ++ [(pattern, route.2)])

def make (registry : Registry) (chains : Chains) (metrics : Bool) :
    Except PatternFault Router := do
  let routes ← (routeTexts registry.names metrics).foldlM addRoute []
  return ⟨routes, chains⟩

def find? (r : Router) (path : List Char) : Option (Page × List Char) :=
  (choose false (r.routes.map fun route => ⟨route.1, [], route.2⟩) path).map fun k =>
    (k.leadsTo, k.captured)

def version : String := "0.3.0"

section Engine

variable {σ : Type} [SearchEngine σ]

def answerOf : Except SearchFailure Json → Answer
  | .ok value => .ofJson 200 value
  | .error e => .ofFailure e.toService

def search (r : Router) (name : String) (query : Option (List Char)) (s : Service σ) :
    Answer × Service σ :=
  match SearchParameters.ofQuery (query.getD []) with
  | .error f => (.ofFailure f.toService, s)
  | .ok p =>
    -- Chains that were bound since the router was made have no effect.
    match Service.search name p { s with chains := r.chains } with
    | (result, s') => (answerOf result, { s' with chains := s.chains })

/-- The health report. The library keeps no time, so the service is as old as its report. -/
def healthReport (s : Service σ) : Json × Service σ :=
  match Service.health s with
  | (result, s') =>
    (.ofMembers
      [("status", .text (match result with | .ok _ => "healthy" | .error _ => "degraded")),
        ("version", .text version), ("engine", .text (SearchEngine.backend s.engine)),
        -- How long the service has been up is not measured.
        ("uptime_seconds", .nat 0)], s')

def variantPage (registry : Registry) (name : String) : Answer :=
  match registry.find? name with
  | none => .ofFailure (.notFound ("Configuration " ++ name ++ " not found"))
  | some reg =>
    .ofJson 200 (reg.variant.toJson.setMember "state" (.text reg.state.toText))

def parameterText? (captured : List Char) : Option String :=
  (Text.Utf8.decode? (Web.Percent.decodeText captured)).map String.ofList

def visit (r : Router) (page : Page) (captured : List Char) (query : Option (List Char))
    (s : Service σ) : Answer × Service σ :=
  match page with
  | .health =>
    match healthReport s with
    | (report, s') => (.ofJson 200 report, s')
  | .search =>
    match parameterText? captured with
    | none => (.invalidPath "config", s)
    | some name => r.search name query s
  | .searchNamed name => r.search name query s
  | .configurations => (.ofJson 200 s.registry.summaries, s)
  | .configuration =>
    match parameterText? captured with
    | none => (.invalidPath "name", s)
    | some name => (variantPage s.registry name, s)
  | .metrics => (⟨200, some "text/plain; version=0.0.4", none, .text s.metrics.toText⟩, s)

/-- Answers a request. `HEAD` is answered like `GET`, without the body; `OPTIONS` is always allowed
and leads nowhere; routes know no other method. -/
def handle (r : Router) (method : String) (target : Web.Target) (s : Service σ) :
    Answer × Service σ :=
  match r.find? target.path with
  -- The method that asks for options is answered at every path.
  | none => (.blank (if method = "OPTIONS" then 200 else 404), s)
  | some (page, captured) =>
    if method = "GET" then r.visit page captured target.query s
    else if method = "HEAD" then
      match r.visit page captured target.query s with
      | (answer, s') => (answer.withoutBody, s')
    else if method = "OPTIONS" then ({ Answer.blank 200 with allow := some Answer.allowed }, s)
    else ({ Answer.blank 405 with allow := some Answer.allowed }, s)

end Engine

end Router

end VariantSearch

import VariantSearch.Engine
import VariantSearch.Json.Parser
import VariantSearch.Text.Marked
import VariantSearch.Web.Exchange
import VariantSearch.Web.Url

/-!
An engine that is asked over HTTP. Its state holds what the other side is going to do.
-/

namespace VariantSearch

structure RemoteConfig where
  baseUrl : String
  apiKey : Option String
  /-- The time between two polls of a task in milliseconds. -/
  pollMillis : Nat
  /-- The time after which a task is given up in seconds. -/
  taskSeconds : Nat
  /-- The time for a request with all its redirects in seconds. -/
  timeoutSeconds : Nat
  /-- How many redirects of a request are followed. -/
  redirects : Nat
deriving DecidableEq

structure Remote where
  config : RemoteConfig
  /-- Whether anything listens at the address. -/
  listening : Bool
  replies : List Web.Reply
  transcript : List Web.Exchange
  /-- The time in milliseconds. -/
  clock : Nat
  /-- Whether the program has ended itself, since the clock does not reach to a time it asked for. -/
  panicked : Bool

namespace Remote

def fresh (config : RemoteConfig) (listening : Bool) (replies : List Web.Reply) : Remote :=
  ⟨config, listening, replies, [], 0, false⟩

/-- The particulars of failures inside a connection, which are not told. -/
def withheld : String := "*"

/-- The failure of a connection that breaks, of a reply that cannot be read, and of a request that
cannot be made. -/
def broken : SearchFailure := .engineUnavailable withheld

def refused : SearchFailure := .engineUnavailable ("connection failed: " ++ withheld)

def timedOut : SearchFailure := .engineUnavailable ("request timed out: " ++ withheld)

structure ErrorBody where
  message : String
  code : String
deriving DecidableEq

namespace ErrorBody

def textOrEmpty? : Option Json.SyntaxTree → Option String
  | none => some ""
  | some tree => tree.asText?

def ofTree? (tree : Json.SyntaxTree) : Option ErrorBody :=
  match tree.record? ["message", "code"] with
  | some [message, code] => do return ⟨← textOrEmpty? message, ← textOrEmpty? code⟩
  | _ => none

end ErrorBody

def blamesEngine (status : Nat) : Bool :=
  status == 401 || status == 403 || status == 408 || status == 429

def unavailableText (status : Nat) (e : ErrorBody) : String :=
  "engine returned " ++ Web.Status.toText status ++
    (if e.code = "" then "" else " (" ++ e.code ++ ")") ++ ": " ++
    (if e.message = "" then "No response body" else e.message)

def classify (status : Nat) (e : ErrorBody) : SearchFailure :=
  -- This code is believed whatever the status.
  if e.code = "index_not_found" then .indexNotFound e.message
  else if Web.Status.isClientError status && !blamesEngine status then
    .engineRejected (if e.code = "" then toString status else e.code) e.message
  else .engineUnavailable (unavailableText status e)

/-- The error object of a body. A body that is none is a message without a code. -/
def errorOf (body : List UInt8) : ErrorBody :=
  let text := Text.Marked.decode body
  match (Json.SyntaxTree.parse? (text.map some)).bind ErrorBody.ofTree? with
  | some e => e
  | none => ⟨String.ofList text, ""⟩

def isFinal (status : Nat) : Bool := status == 101 || (200 ≤ status && status < 1000)

/-- What comes back for a request: the body of an answer that reports success, or the failure. -/
def accept : Web.Outcome → Except SearchFailure Web.Body
  | .answer status sent =>
    if Web.Status.isSuccess status then .ok (sent.after status)
    -- An answer that only announces another one is never followed by it.
    else if isFinal status then .error (classify status (errorOf (sent.after status).bytes))
    else .error broken
  | .closed => .error broken
  | .silent => .error timedOut
  | .unreachable => .error refused

def readBody : Web.Body → Except SearchFailure (List UInt8)
  | .whole bytes => .ok bytes
  | .cut => .error broken
  | .stalled => .error timedOut

def content (outcome : Web.Outcome) : Except SearchFailure (List UInt8) :=
  accept outcome >>= readBody

def userAgent : String := "search-ab-gateway/0.3.0"

def fitsHeader (s : String) : Bool := s.toList.all fun c => c == '\t' || (' ' ≤ c && c.toNat ≠ 0x7F)

def addressOf (baseUrl path : String) : String :=
  String.ofList (baseUrl.toList.reverse.dropWhile (· == '/')).reverse ++ path

def request? (c : RemoteConfig) (method path : String) (pairs : List (String × String))
    (body : Option Json) : Option Web.Request :=
  match Web.Url.parse (addressOf c.baseUrl path) with
  | .error _ => none
  | .ok url =>
    -- The key may hold what no header can hold, and then no request can be made.
    let authorization := c.apiKey.map ("Bearer " ++ ·)
    if authorization.all fitsHeader then
      some ⟨method, String.ofList (url.withPairs pairs).target, authorization, userAgent, body⟩
    else none

/-- The replies to come, each as far as the engine goes along with it. -/
def heard (r : Remote) : List Web.Reply :=
  r.replies.map (Web.Reply.taken r.config.redirects (r.config.timeoutSeconds * 1000))

def nextReply (r : Remote) : Web.Reply := r.heard.headD .closed

def after (r : Remote) (made : List Web.Exchange) : Remote :=
  { r with
    replies := r.replies.drop made.length
    transcript := r.transcript ++ made
    clock := r.clock + Web.Reply.totalDelay (made.map (·.reply)) }

def slept (r : Remote) (millis : Nat) : Remote := { r with clock := r.clock + millis }

def send (method path : String) (pairs : List (String × String)) (body : Option Json) :
    Attempt Remote Web.Body := fun r =>
  match request? r.config method path pairs body with
  | none => (.error broken, r)
  | some request =>
    if r.listening then (accept r.nextReply.outcome, r.after [⟨request, r.nextReply⟩])
    else (.error refused, r)

def fetch (method path : String) (pairs : List (String × String)) (body : Option Json) :
    Attempt Remote (List UInt8) := do
  let sent ← send method path pairs body
  .ofExcept (readBody sent)

def taskOf? (body : List UInt8) : Option Nat := do
  match (← Json.SyntaxTree.ofBytes? body).record? ["taskUid"] with
  | some [some uid] => uid.asNatBelow? UInt64.size
  | _ => none

structure TaskView where
  status : String
  error : Option ErrorBody

def taskError? : Option Json.SyntaxTree → Option (Option ErrorBody)
  | none | some .null => some none
  | some tree => (ErrorBody.ofTree? tree).map some

def TaskView.ofBytes? (body : List UInt8) : Option TaskView := do
  match ← Json.SyntaxTree.ofBytes? body with
  -- As a list a task has to have both items.
  | .list [_] => none
  | tree =>
    match tree.record? ["status", "error"] with
    | some [some status, error] => return ⟨← status.asText?, ← taskError? error⟩
    | _ => none

inductive TaskReport where
  | ended (result : Except SearchFailure Unit)
  | pending

def taskFailure (uid : Nat) (view : TaskView) : SearchFailure :=
  match view.error with
  | some e => .engineRejected e.code e.message
  | none => .engineRejected view.status ("task " ++ toString uid ++ " was " ++ view.status)

def TaskReport.ofOutcome (uid : Nat) (outcome : Web.Outcome) : TaskReport :=
  match content outcome with
  | .error e => .ended (.error e)
  | .ok body =>
    match TaskView.ofBytes? body with
    | none => .ended (.error broken)
    | some view =>
      if view.status = "succeeded" then .ended (.ok ())
      else if view.status = "failed" ∨ view.status = "canceled" then
        .ended (.error (taskFailure uid view))
      -- Words that are not known count as a task that goes on.
      else .pending

def durationText (seconds : Nat) : String :=
  if seconds = 0 then "0ns" else toString seconds ++ "s"

def overdue (c : RemoteConfig) (uid : Nat) : SearchFailure :=
  .engineUnavailable
    ("task " ++ toString uid ++ " did not finish within " ++ durationText c.taskSeconds)

def pause (c : RemoteConfig) : Nat := max c.pollMillis 1

/-- The polls of a task after some time, with the replies that they get. -/
def followTask (c : RemoteConfig) (uid : Nat) (poll : Web.Request) :
    Nat → List Web.Reply → Except SearchFailure Unit × List Web.Exchange
  | _, [] => (.error broken, [⟨poll, .closed⟩])
  | waited, reply :: rest =>
    match TaskReport.ofOutcome uid reply.outcome with
    | .ended result => (result, [⟨poll, reply⟩])
    | .pending =>
      -- The time is looked at after a poll, so there is always one.
      if c.taskSeconds * 1000 ≤ waited + reply.delay then (.error (overdue c uid), [⟨poll, reply⟩])
      else
        let (result, made) := followTask c uid poll (waited + reply.delay + pause c) rest
        (result, ⟨poll, reply⟩ :: made)

/-- The first time that the clock does not have: its seconds are signed and have 64 bits. -/
def clockEnd : Nat := 9223372036854775808 * 1000

def deadlineFits (r : Remote) : Bool := r.clock + r.config.taskSeconds * 1000 < clockEnd

/-- What is left of a program that has ended itself. -/
def overflow : SearchFailure := .invalidConfiguration "overflow when adding duration to instant"

def awaitTask (uid : Nat) : Attempt Remote Unit := fun r =>
  -- The deadline comes before the first poll.
  if r.deadlineFits then
    match request? r.config "GET" ("/tasks/" ++ toString uid) [] none with
    | none => (.error broken, r)
    | some poll =>
      if r.listening then
        let (result, made) := followTask r.config uid poll 0 r.heard
        (result, (r.after made).slept ((made.length - 1) * pause r.config))
      else (.error refused, r)
  else (.error overflow, { r with panicked := true })

def change (method path : String) (pairs : List (String × String)) (body : Json) :
    Attempt Remote Unit := do
  match taskOf? (← fetch method path pairs (some body)) with
  | some uid => awaitTask uid
  | none => .fail broken

/-- What was left of a failure to make an index: none if the index was there already. -/
def unlessPresent : Except SearchFailure Unit → Except SearchFailure Unit
  | .error (.engineRejected code detail) =>
    if code = "index_already_exists" then .ok () else .error (.engineRejected code detail)
  | result => result

def createIndex (indexUid primaryKey : String) : Attempt Remote Unit := fun r =>
  match send "GET" ("/indexes/" ++ indexUid) [] none r with
  | (.ok _, r') => (.ok (), r')
  -- The code alone says that the index is missing, whatever the status.
  | (.error (.indexNotFound _), r') =>
    match change "POST" "/indexes" []
        (.ofMembers [("uid", .text indexUid), ("primaryKey", .text primaryKey)]) r' with
    | (result, r'') => (unlessPresent result, r'')
  | (.error e, r') => (.error e, r')

def updateSettings (indexUid : String) (settings : Settings) : Attempt Remote Unit :=
  change "PATCH" ("/indexes/" ++ indexUid ++ "/settings") [] settings.toJson

def addDocuments (indexUid primaryKey : String) (documents : List Json) : Attempt Remote Unit :=
  change "POST" ("/indexes/" ++ indexUid ++ "/documents") [("primaryKey", primaryKey)]
    (.list documents)

def search (indexUid : String) (query : EngineQuery) : Attempt Remote Json := do
  match Json.ofBytes? (← fetch "POST" ("/indexes/" ++ indexUid ++ "/search") [] (some query.toJson)) with
  | some answer => pure answer
  | none => .fail broken

def health : Attempt Remote Unit := do
  let _ ← send "GET" "/health" [] none
  pure ()

instance : SearchEngine Remote where
  backend _ := "meilisearch"
  createIndex := createIndex
  updateSettings := updateSettings
  addDocuments := addDocuments
  search := search
  health := health

end Remote

end VariantSearch

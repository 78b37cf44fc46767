import VariantSearch.Json.Printer
import VariantSearch.Web.Status

namespace VariantSearch.Web

structure Request where
  method : String
  target : String
  authorization : Option String
  userAgent : String
  body : Option Json

def Request.contentType (r : Request) : Option String := r.body.map fun _ => "application/json"

structure Redirect where
  /-- Whether the request is to be repeated there (307, 308), or the address to be asked for (301,
  302, 303). -/
  repeats : Bool
  target : String
  /-- Whether the host or the port is another one. -/
  leaves : Bool

/-- The request that follows a redirect. Credentials are not shown to another host. -/
def Request.redirected (r : Request) (redirect : Redirect) : Request :=
  { r with
    method := if redirect.repeats || r.method == "HEAD" then r.method else "GET"
    target := redirect.target
    authorization := if redirect.leaves then none else r.authorization
    body := if redirect.repeats then r.body else none }

inductive Body where
  | whole (bytes : List UInt8)
  | cut
  | stalled

namespace Body

def bytes : Body → List UInt8
  | whole bytes => bytes
  | cut | stalled => []

/-- The body behind a status. Some of them have none, whatever is sent. -/
def after (status : Nat) (sent : Body) : Body :=
  if status = 101 ∨ status = 204 ∨ status = 304 then whole [] else sent

end Body

inductive Outcome where
  | answer (status : Nat) (body : Body)
  | closed
  | silent
  | unreachable

inductive Reply where
  | ends (outcome : Outcome)
  /-- A redirect, with what is done with the request that follows it. -/
  | redirect (way : Redirect) (next : Reply)
  | late (millis : Nat) (reply : Reply)

namespace Reply

@[match_pattern] abbrev answer (status : Nat) (bytes : List UInt8) : Reply :=
  ends (.answer status (.whole bytes))

@[match_pattern] abbrev closed : Reply := ends .closed

@[match_pattern] abbrev silent : Reply := ends .silent

def outcome : Reply → Outcome
  | ends outcome => outcome
  | redirect _ next => next.outcome
  | late _ reply => reply.outcome

def redirects : Reply → List Redirect
  | ends _ => []
  | redirect way next => way :: next.redirects
  | late _ reply => reply.redirects

def delay : Reply → Nat
  | ends _ => 0
  | redirect _ next => next.delay
  | late millis reply => millis + reply.delay

def totalDelay : List Reply → Nat
  | [] => 0
  | reply :: replies => reply.delay + totalDelay replies

/-- The reply as far as a client goes along with it that follows some redirects and waits for some time.
One redirect more is as good as no answer. -/
def taken : Nat → Nat → Reply → Reply
  | _, _, ends outcome => ends outcome
  | 0, _, redirect _ _ => closed
  | hops + 1, patience, redirect way next => redirect way (next.taken hops patience)
  | hops, patience, late millis reply =>
    -- The client gives up when its time is over, wherever the reply stands then.
    if patience ≤ millis then late patience silent
    else late millis (reply.taken hops (patience - millis))

end Reply

structure Exchange where
  request : Request
  reply : Reply

def Request.followed (r : Request) : List Redirect → List Request
  | [] => [r]
  | redirect :: more => r :: (r.redirected redirect).followed more

def Exchange.requests (e : Exchange) : List Request := e.request.followed e.reply.redirects

end VariantSearch.Web

import VariantSearch.Engine.Remote
import VariantSearch.Proofs.Operations

namespace VariantSearch.Remote

open Attempt

theorem heard_after (r : Remote) (made : List Web.Exchange) :
    (r.after made).heard = r.heard.drop made.length := by
  simp only [heard, after, List.map_drop]

/-- The replies of some exchanges are the first ones to come, and after the last of those the
connection was closed. -/
def AnsweredFrom (replies : List Web.Reply) (made : List Web.Exchange) : Prop :=
  ∀ i e, made[i]? = some e → e.reply = replies.getD i .closed

/-- Of the redirects of a reply only the first ones are followed. -/
theorem redirects_taken (reply : Web.Reply) (hops patience : Nat) :
    (reply.taken hops patience).redirects <+: reply.redirects := by
  induction reply generalizing hops patience with
  | ends outcome => simp [Web.Reply.taken]
  | redirect way next ih =>
    cases hops with
    | zero => exact List.nil_prefix
    | succ hops => exact (List.prefix_cons_inj way).2 (ih hops patience)
  | late millis reply ih =>
    rw [Web.Reply.taken.eq_4]
    split
    · exact List.nil_prefix
    · exact ih hops (patience - millis)

/-- Without redirects every exchange is one request and its answer. -/
theorem requests_of_answeredFrom {r : Remote} {made : List Web.Exchange}
    (hplain : ∀ reply ∈ r.replies, reply.redirects = []) (h : AnsweredFrom r.heard made) :
    ∀ e ∈ made, e.requests = [e.request] := by
  intro e he
  obtain ⟨i, hi⟩ := List.mem_iff_getElem?.1 he
  have hreply := h i e hi
  rw [List.getD_eq_getElem?_getD, heard, List.getElem?_map] at hreply
  have hnone : e.reply.redirects = [] := by
    cases hfound : r.replies[i]? with
    | none =>
      rw [hreply, hfound]
      rfl
    | some reply =>
      rw [hreply, hfound, Option.map_some, Option.getD_some]
      have htaken := redirects_taken reply r.config.redirects (r.config.timeoutSeconds * 1000)
      rw [hplain reply (List.mem_of_getElem? hfound)] at htaken
      exact List.prefix_nil.1 htaken
  rw [Web.Exchange.requests, hnone]
  rfl

theorem AnsweredFrom.append {replies : List Web.Reply} {made more : List Web.Exchange}
    (h : AnsweredFrom replies made) (h' : AnsweredFrom (replies.drop made.length) more) :
    AnsweredFrom replies (made ++ more) := by
  intro i e he
  rcases Nat.lt_or_ge i made.length with hi | hi
  · rw [List.getElem?_append_left hi] at he
    exact h i e he
  · rw [List.getElem?_append_right hi] at he
    have hreply := h' (i - made.length) e he
    rwa [List.getD_eq_getElem?_getD, List.getElem?_drop, Nat.add_sub_cancel' hi,
      ← List.getD_eq_getElem?_getD] at hreply

theorem answeredFrom_singleton (request : Web.Request) (replies : List Web.Reply) :
    AnsweredFrom replies [⟨request, replies.headD .closed⟩] := by
  intro i e he
  obtain ⟨rfl, rfl⟩ : i = 0 ∧ ⟨request, replies.headD .closed⟩ = e := by
    simpa [List.getElem?_singleton] using he
  rw [List.headD_eq_head?_getD, List.head?_eq_getElem?, List.getD_eq_getElem?_getD]

/-- The answer has this status and a body that comes to its end. -/
def Carries (outcome : Web.Outcome) (status : Nat) (body : List UInt8) : Prop :=
  ∃ sent, outcome = .answer status sent ∧ sent.after status = .whole body

/-- The request, with the redirects that were followed, is answered with success, and the body
acknowledges a change with the number of a task. -/
def Acknowledges (task : Nat) (reply : Web.Reply) : Prop :=
  ∃ status body, Carries reply.outcome status body ∧ Web.Status.isSuccess status = true ∧
    taskOf? body = some task

/-- The request, with the redirects that were followed, is answered with success, and the body shows a
task with this status. -/
def Shows (taskStatus : String) (reply : Web.Reply) : Prop :=
  ∃ status body view, Carries reply.outcome status body ∧ Web.Status.isSuccess status = true ∧
    TaskView.ofBytes? body = some view ∧ view.status = taskStatus

def ShowsUnfinished (reply : Web.Reply) : Prop :=
  ∃ taskStatus, Shows taskStatus reply ∧ taskStatus ∉ ["succeeded", "failed", "canceled"]

/-- The exchanges of a change that was carried out: the request, which is acknowledged with a task,
and the polls of that task, of which the last one shows that it succeeded. -/
def CarriedOut (c : RemoteConfig) (method path : String) (pairs : List (String × String))
    (body : Json) (made : List Web.Exchange) : Prop :=
  ∃ (request poll : Web.Request) (task : Nat) (first : Web.Reply) (between : List Web.Reply)
    (last : Web.Reply),
    request? c method path pairs (some body) = some request ∧
      request? c "GET" ("/tasks/" ++ toString task) [] none = some poll ∧
      Acknowledges task first ∧ (∀ reply ∈ between, ShowsUnfinished reply) ∧
      Shows "succeeded" last ∧
      made = ⟨request, first⟩ :: between.map (Web.Exchange.mk poll) ++ [⟨poll, last⟩]

theorem accept_eq_ok {outcome : Web.Outcome} {sent : Web.Body} (h : accept outcome = .ok sent) :
    ∃ status sent', outcome = .answer status sent' ∧ sent = sent'.after status ∧
      Web.Status.isSuccess status = true := by
  cases outcome with
  | answer status sent' =>
    rw [accept] at h
    by_cases hstatus : Web.Status.isSuccess status = true
    · rw [if_pos hstatus] at h
      exact ⟨status, sent', rfl, (Except.ok.inj h).symm, hstatus⟩
    · rw [if_neg hstatus] at h
      split at h <;> cases h
  | closed => cases h
  | silent => cases h
  | unreachable => cases h

theorem readBody_eq_ok {sent : Web.Body} {body : List UInt8} (h : readBody sent = .ok body) :
    sent = .whole body := by
  cases sent with
  | whole bytes => rw [Except.ok.inj h]
  | cut => cases h
  | stalled => cases h

theorem content_eq_ok {outcome : Web.Outcome} {body : List UInt8} (h : content outcome = .ok body) :
    ∃ status, Carries outcome status body ∧ Web.Status.isSuccess status = true := by
  cases haccept : accept outcome with
  | error e =>
    rw [content, haccept] at h
    cases h
  | ok sent =>
    obtain ⟨status, sent', houtcome, hsent, hstatus⟩ := accept_eq_ok haccept
    have hread : readBody sent = .ok body := by
      rw [content, haccept] at h
      exact h
    exact ⟨status, ⟨sent', houtcome, hsent ▸ readBody_eq_ok hread⟩, hstatus⟩

/-- A request that can be made and taken gets the next reply. -/
theorem send_of_sent {r : Remote} {method path : String} {pairs : List (String × String)}
    {body : Option Json} {request : Web.Request}
    (hrequest : request? r.config method path pairs body = some request)
    (hlistening : r.listening = true) :
    send method path pairs body r =
      (accept r.nextReply.outcome, r.after [⟨request, r.nextReply⟩]) := by
  simp only [send, hrequest, hlistening, if_true]

/-- Without a request that can be made and taken nothing is sent. -/
theorem send_of_unsent {r : Remote} {method path : String} {pairs : List (String × String)}
    {body : Option Json}
    (h : request? r.config method path pairs body = none ∨ r.listening = false) :
    ∃ detail, send method path pairs body r = (.error (.engineUnavailable detail), r) := by
  unfold send
  split
  · exact ⟨_, rfl⟩
  · next request hrequest =>
    rcases h with h | h
    · rw [hrequest] at h
      cases h
    · rw [h]
      exact ⟨_, rfl⟩

theorem fetch_eq (r : Remote) (method path : String) (pairs : List (String × String))
    (body : Option Json) :
    fetch method path pairs body r =
      match send method path pairs body r with
      | (.ok sent, r') => (readBody sent, r')
      | (.error e, r') => (.error e, r') := by
  unfold fetch
  -- The request is of no account here.
  generalize send method path pairs body = sending
  cases h : sending r with
  | mk result r' =>
    cases result with
    | error e => exact run_bind_of_error h
    | ok sent => exact (run_bind_of_ok h).trans (run_ofExcept (readBody sent) r')

/-- A request that is sent and read gives what its reply holds. -/
theorem fetch_of_sent {r : Remote} {method path : String} {pairs : List (String × String)}
    {body : Option Json} {request : Web.Request}
    (hrequest : request? r.config method path pairs body = some request)
    (hlistening : r.listening = true) :
    fetch method path pairs body r =
      (content r.nextReply.outcome, r.after [⟨request, r.nextReply⟩]) := by
  rw [fetch_eq, send_of_sent hrequest hlistening, content]
  cases accept r.nextReply.outcome <;> rfl

theorem fetch_of_unsent {r : Remote} {method path : String} {pairs : List (String × String)}
    {body : Option Json}
    (h : request? r.config method path pairs body = none ∨ r.listening = false) :
    ∃ detail, fetch method path pairs body r = (.error (.engineUnavailable detail), r) := by
  obtain ⟨detail, hsend⟩ := send_of_unsent h
  refine ⟨detail, ?_⟩
  rw [fetch_eq, hsend]

theorem totalDelay_append (replies more : List Web.Reply) :
    Web.Reply.totalDelay (replies ++ more) =
      Web.Reply.totalDelay replies + Web.Reply.totalDelay more := by
  induction replies with
  | nil => simp [Web.Reply.totalDelay]
  | cons reply replies ih =>
    rw [List.cons_append, Web.Reply.totalDelay, Web.Reply.totalDelay, ih, Nat.add_assoc]

theorem after_after (r : Remote) (made more : List Web.Exchange) :
    (r.after made).after more = r.after (made ++ more) := by
  simp only [after, List.drop_drop, List.length_append, List.append_assoc, List.map_append,
    totalDelay_append, Nat.add_assoc]

def searchRequest? (c : RemoteConfig) (indexUid : String) (query : EngineQuery) :
    Option Web.Request :=
  request? c "POST" ("/indexes/" ++ indexUid ++ "/search") [] (some query.toJson)

def resultOf (outcome : Web.Outcome) : Except SearchFailure Json :=
  match content outcome with
  | .error e => .error e
  | .ok body =>
    match Json.ofBytes? body with
    | some value => .ok value
    | none => .error broken

variable {r : Remote} {indexUid : String} {query : EngineQuery}

theorem search_eq (r : Remote) (indexUid : String) (query : EngineQuery) :
    SearchEngine.search indexUid query r =
      match fetch "POST" ("/indexes/" ++ indexUid ++ "/search") [] (some query.toJson) r with
      | (.ok body, r') =>
        (match Json.ofBytes? body with
          | some value => .ok value
          | none => .error broken, r')
      | (.error e, r') => (.error e, r') := by
  change search indexUid query r = _
  unfold search
  -- The request is of no account here.
  generalize fetch "POST" ("/indexes/" ++ indexUid ++ "/search") [] (some query.toJson) = fetching
  cases h : fetching r with
  | mk result r' =>
    cases result with
    | error e => exact Attempt.run_bind_of_error h
    | ok body =>
      refine (Attempt.run_bind_of_ok h).trans ?_
      dsimp only
      cases Json.ofBytes? body <;> rfl

/-- A search that is sent takes one reply, which decides its result. -/
theorem search_of_sent {request : Web.Request}
    (hrequest : searchRequest? r.config indexUid query = some request)
    (hlistening : r.listening = true) :
    SearchEngine.search indexUid query r =
      (resultOf r.nextReply.outcome, r.after [⟨request, r.nextReply⟩]) := by
  rw [search_eq, fetch_of_sent hrequest hlistening, resultOf]
  cases content r.nextReply.outcome <;> rfl

/-- A search that cannot be sent leaves everything as it is. -/
theorem search_of_unsent
    (h : searchRequest? r.config indexUid query = none ∨ r.listening = false) :
    ∃ detail, SearchEngine.search indexUid query r = (.error (.engineUnavailable detail), r) := by
  obtain ⟨detail, hfetch⟩ := fetch_of_unsent h
  refine ⟨detail, ?_⟩
  rw [search_eq, hfetch]

end VariantSearch.Remote

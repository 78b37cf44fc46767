import VariantSearch.Proofs.SiblingPaths
import VariantSearch.Proofs.TaskReplies

/-!
Changes that the other side makes in its own time, and the polls of their tasks.
-/

namespace VariantSearch.Remote

variable {c : RemoteConfig} {task : Nat} {poll : Web.Request} {late : Nat → Prop}
  {result : Except SearchFailure Unit} {made : List Web.Exchange} {reply : Web.Reply}
  {replies rest : List Web.Reply}

/-- The time that has gone by after the poll with this number, counted from nought: the replies take
theirs, and between two polls there is a pause. -/
def spent (c : RemoteConfig) (replies : List Web.Reply) (i : Nat) : Nat :=
  Web.Reply.totalDelay (replies.take (i + 1)) + i * pause c

def Late (c : RemoteConfig) (replies : List Web.Reply) (i : Nat) : Prop :=
  c.taskSeconds * 1000 ≤ spent c replies i

theorem spent_cons_zero : spent c (reply :: rest) 0 = reply.delay := by
  simp [spent, Web.Reply.totalDelay]

theorem spent_cons_succ (i : Nat) :
    spent c (reply :: rest) (i + 1) = reply.delay + pause c + spent c rest i := by
  rw [spent, spent, List.take_succ_cons, Web.Reply.totalDelay, Nat.succ_mul]
  omega

/-- A task is polled up to the poll with the number `last`, where `late` says after which polls the
time is over. -/
structure Polled (late : Nat → Prop) (c : RemoteConfig) (task : Nat) (poll : Web.Request)
    (replies : List Web.Reply) (last : Nat) (result : Except SearchFailure Unit)
    (made : List Web.Exchange) : Prop where
  exchanges : made = (List.range (last + 1)).map fun i => ⟨poll, replies.getD i .closed⟩
  last_le : last ≤ replies.length
  waits : ∀ i < last, TaskNews task (replies.getD i .closed).outcome .pending ∧ ¬ late i
  ends : TaskNews task (replies.getD last .closed).outcome (.ended result) ∨
    (TaskNews task (replies.getD last .closed).outcome .pending ∧ late last ∧
      result = .error (overdue c task))

theorem polled_once (h : TaskNews task (replies.headD .closed).outcome (.ended result) ∨
      (TaskNews task (replies.headD .closed).outcome .pending ∧ late 0 ∧
        result = .error (overdue c task))) :
    Polled late c task poll replies 0 result [⟨poll, replies.headD .closed⟩] := by
  have hfirst : replies.getD 0 .closed = replies.headD .closed := by
    cases replies <;> rfl
  refine ⟨?_, Nat.zero_le _, nofun, ?_⟩
  · rw [← hfirst]
    rfl
  · rwa [hfirst]

/-- A poll that shows the task under way comes before the others. -/
theorem Polled.cons {last : Nat}
    (h : Polled (fun i => late (i + 1)) c task poll rest last result made)
    (hnews : TaskNews task reply.outcome .pending) (hlate : ¬ late 0) :
    Polled late c task poll (reply :: rest) (last + 1) result (⟨poll, reply⟩ :: made) where
  exchanges := by
    rw [List.range_succ_eq_map, List.map_cons, List.map_map, h.exchanges]
    rfl
  last_le := Nat.succ_le_succ h.last_le
  waits := by
    intro i hi
    cases i with
    | zero => exact ⟨hnews, hlate⟩
    | succ i => exact h.waits i (Nat.lt_of_succ_lt_succ hi)
  ends := h.ends

/-- Following a task polls it. What was waited before counts for the deadline. -/
theorem polled_followTask (c : RemoteConfig) (task : Nat) (poll : Web.Request) (waited : Nat)
    (replies : List Web.Reply) :
    ∃ last, Polled (fun i => c.taskSeconds * 1000 ≤ waited + spent c replies i) c task poll replies
      last (followTask c task poll waited replies).1 (followTask c task poll waited replies).2 := by
  -- The time that has gone by is generalized, since every poll adds to it.
  induction replies generalizing waited with
  | nil => exact ⟨0, polled_once (Or.inl (.failed (.failed .closed)))⟩
  | cons reply rest ih =>
    rw [followTask]
    cases hreport : TaskReport.ofOutcome task reply.outcome with
    | ended result => exact ⟨0, polled_once (Or.inl (ofOutcome_eq_iff.1 hreport))⟩
    | pending =>
      have hnews : TaskNews task reply.outcome .pending := ofOutcome_eq_iff.1 hreport
      dsimp only
      split
      · next hlate =>
        rw [← @spent_cons_zero c reply rest] at hlate
        exact ⟨0, polled_once (Or.inr ⟨hnews, hlate, rfl⟩)⟩
      · next hlate =>
        obtain ⟨last, hlast⟩ := ih (waited + reply.delay + pause c)
        -- Seen from the next poll, the replies so far are part of the time that has gone by.
        have hnext : (fun i => c.taskSeconds * 1000 ≤ waited + reply.delay + pause c + spent c rest i) =
            fun i => c.taskSeconds * 1000 ≤ waited + spent c (reply :: rest) (i + 1) := by
          funext i
          rw [spent_cons_succ, Nat.add_assoc waited, Nat.add_assoc waited]
        rw [hnext] at hlast
        refine ⟨last + 1, hlast.cons hnews ?_⟩
        rwa [spent_cons_zero]

/-- How a change goes whose request is sent: nothing is given for the request, or what is given names
no task, or the task is polled. -/
inductive Course (c : RemoteConfig) (request : Web.Request) (replies : List Web.Reply) :
    Except SearchFailure Unit → List Web.Exchange → Prop
  | refused {e : SearchFailure} (hfirst : GivesNothing (replies.headD .closed).outcome e) :
      Course c request replies (.error e) [⟨request, replies.headD .closed⟩]
  | unnamed (hbody : GivesBody (replies.headD .closed).outcome)
      (htask : ∀ task, ¬ AcknowledgedAs (replies.headD .closed).outcome task) :
      Course c request replies (.error broken) [⟨request, replies.headD .closed⟩]
  | followed {task : Nat} {poll : Web.Request} {last : Nat} {result : Except SearchFailure Unit}
      {polls : List Web.Exchange} (htask : AcknowledgedAs (replies.headD .closed).outcome task)
      (hpoll : AsksForTask c task poll)
      (hpolls : Polled (Late c (replies.drop 1)) c task poll (replies.drop 1) last result polls) :
      Course c request replies result (⟨request, replies.headD .closed⟩ :: polls)

/-- The clock reaches to the deadline of a task that is awaited after some replies more. -/
def FitsAfter (n : Nat) (r : Remote) : Prop :=
  r.clock + Web.Reply.totalDelay (r.heard.take n) + r.config.taskSeconds * 1000 < clockEnd

theorem deadlineFits_iff {r : Remote} : r.deadlineFits = true ↔ FitsAfter 0 r := by
  simp [deadlineFits, FitsAfter, Web.Reply.totalDelay]

theorem fitsAfter_succ_iff {n : Nat} {r : Remote} (request : Web.Request) :
    FitsAfter n (r.after [⟨request, r.nextReply⟩]) ↔ FitsAfter (n + 1) r := by
  have hclock : (r.after [⟨request, r.nextReply⟩]).clock = r.clock + r.nextReply.delay := by
    simp [after, Web.Reply.totalDelay]
  have hsum : Web.Reply.totalDelay (r.heard.take (n + 1)) =
      r.nextReply.delay + Web.Reply.totalDelay ((r.heard.drop 1).take n) := by
    rw [nextReply]
    cases r.heard with
    | nil => simp [Web.Reply.totalDelay, Web.Reply.delay]
    | cons reply rest => simp [Web.Reply.totalDelay]
  rw [FitsAfter, FitsAfter, hclock, heard_after, hsum, Nat.add_assoc r.clock]
  exact Iff.rfl

section Change

variable {r : Remote} {method path : String} {pairs : List (String × String)} {body : Json}
  {request : Web.Request}

/-- A change is sent, and then the task is awaited that the answer names. -/
theorem change_eq (r : Remote) (method path : String) (pairs : List (String × String))
    (body : Json) :
    change method path pairs body r =
      match fetch method path pairs (some body) r with
      | (.ok text, r') => ((taskOf? text).elim (Attempt.fail broken) awaitTask).run r'
      | (.error e, r') => (.error e, r') := by
  unfold change
  -- What is sent and how a task is awaited is of no account here.
  generalize fetch method path pairs (some body) = fetching
  generalize awaitTask = waiting
  cases h : fetching r with
  | mk result r' =>
    cases result with
    | error e => exact Attempt.run_bind_of_error h
    | ok text =>
      refine (Attempt.run_bind_of_ok h).trans ?_
      dsimp only
      cases taskOf? text <;> rfl

/-- A task that can be asked for is polled. -/
theorem awaitTask_of_sent
    (hpoll : request? r.config "GET" ("/tasks/" ++ toString task) [] none = some poll)
    (hlistening : r.listening = true) (hfits : r.deadlineFits = true) :
    ∃ last result polls,
      awaitTask task r = (result, (r.after polls).slept ((polls.length - 1) * pause r.config)) ∧
      Polled (Late r.config r.heard) r.config task poll r.heard last result polls := by
  obtain ⟨last, hpolled⟩ := polled_followTask r.config task poll 0 r.heard
  simp only [Nat.zero_add] at hpolled
  refine ⟨last, _, _, ?_, hpolled⟩
  simp only [awaitTask, hpoll, hlistening, hfits, if_true]

theorem slept_zero (r : Remote) : r.slept 0 = r := rfl

/-- A change whose request is sent goes its course, if its deadline is a time of the clock. -/
theorem change_of_sent (hrequest : request? r.config method path pairs (some body) = some request)
    (hlistening : r.listening = true) (hpath : path.toList.head? = some '/')
    (hfits : (∃ task, AcknowledgedAs r.nextReply.outcome task) → FitsAfter 1 r) :
    ∃ result made, change method path pairs body r =
        (result, (r.after made).slept ((made.length - 2) * pause r.config)) ∧
      Course r.config request r.heard result made := by
  have hfetch := fetch_of_sent hrequest hlistening
  -- Alone the request is followed by no pause.
  have halone : (r.after [⟨request, r.nextReply⟩]).slept
      ((([⟨request, r.nextReply⟩] : List Web.Exchange).length - 2) * pause r.config) =
        r.after [⟨request, r.nextReply⟩] := by
    rw [List.length_singleton, Nat.zero_mul, slept_zero]
  rw [change_eq, hfetch]
  cases hcontent : content r.nextReply.outcome with
  | error e =>
    have hcourse : Course r.config request r.heard (.error e) [⟨request, r.nextReply⟩] :=
      .refused (content_eq_error_iff.1 hcontent)
    exact ⟨_, _, by rw [halone], hcourse⟩
  | ok text =>
    obtain ⟨status, hcarries, hstatus⟩ := content_eq_ok_iff.1 hcontent
    dsimp only
    cases htask : taskOf? text with
    | none =>
      have hunnamed : ∀ task, ¬ AcknowledgedAs r.nextReply.outcome task := by
        intro task h
        obtain ⟨text', hcontent', htask'⟩ := acknowledgedAs_iff.1 h
        obtain rfl := Except.ok.inj (hcontent.symm.trans hcontent')
        rw [htask] at htask'
        cases htask'
      have hcourse : Course r.config request r.heard (.error broken) [⟨request, r.nextReply⟩] :=
        .unnamed ⟨status, text, hcarries, hstatus⟩ hunnamed
      exact ⟨_, _, by rw [halone]; rfl, hcourse⟩
    | some task =>
      have hnamed : AcknowledgedAs r.nextReply.outcome task :=
        acknowledgedAs_iff.2 ⟨text, hcontent, htask⟩
      have hdeadline : (r.after [⟨request, r.nextReply⟩]).deadlineFits = true :=
        deadlineFits_iff.2 ((fitsAfter_succ_iff request).2 (hfits ⟨task, hnamed⟩))
      obtain ⟨poll, hpoll⟩ := exists_asksForTask hrequest hpath task
      obtain ⟨last, result, polls, hawait, hpolled⟩ :=
        @awaitTask_of_sent task poll (r.after [⟨request, r.nextReply⟩]) hpoll.made hlistening
          hdeadline
      rw [after_after] at hawait
      rw [heard_after] at hpolled
      rw [Option.elim_some, Attempt.run, hawait]
      exact ⟨_, _, rfl, .followed hnamed hpoll hpolled⟩

theorem change_of_unsent
    (h : request? r.config method path pairs (some body) = none ∨ r.listening = false) :
    ∃ detail, change method path pairs body r = (.error (.engineUnavailable detail), r) := by
  obtain ⟨detail, hfetch⟩ := fetch_of_unsent h
  exact ⟨detail, by rw [change_eq, hfetch]⟩

end Change

inductive Change where
  | settings (indexUid : String) (document : Settings)
  | documents (indexUid primaryKey : String) (batch : List Json)

namespace Change

def perform : Change → Attempt Remote Unit
  | .settings indexUid document => SearchEngine.updateSettings indexUid document
  | .documents indexUid primaryKey batch => SearchEngine.addDocuments indexUid primaryKey batch

def method : Change → String
  | .settings _ _ => "PATCH"
  | .documents _ _ _ => "POST"

def path : Change → String
  | .settings indexUid _ => "/indexes/" ++ indexUid ++ "/settings"
  | .documents indexUid _ _ => "/indexes/" ++ indexUid ++ "/documents"

def pairs : Change → List (String × String)
  | .settings _ _ => []
  | .documents _ primaryKey _ => [("primaryKey", primaryKey)]

def body : Change → Json
  | .settings _ document => document.toJson
  | .documents _ _ batch => .list batch

def request? (c : RemoteConfig) (change : Change) : Option Web.Request :=
  Remote.request? c change.method change.path change.pairs (some change.body)

theorem perform_eq (change : Change) :
    change.perform = Remote.change change.method change.path change.pairs change.body := by
  cases change <;> rfl

theorem head?_path (change : Change) : change.path.toList.head? = some '/' := by
  cases change with
  | settings indexUid document =>
    rw [path, String.toList_append, String.toList_append]
    rfl
  | documents indexUid primaryKey batch =>
    rw [path, String.toList_append, String.toList_append]
    rfl

end Change

section Length

variable {request : Web.Request}

theorem Polled.length_eq {last : Nat} (h : Polled late c task poll replies last result made) :
    made.length = last + 1 := by
  rw [h.exchanges, List.length_map, List.length_range]

/-- A reply is taken for each exchange, and at most one more exchange finds the connection closed. -/
theorem Course.length_le (h : Course c request replies result made) :
    made.length ≤ replies.length + 1 := by
  cases h with
  | refused hfirst => exact Nat.le_add_left 1 _
  | unnamed hbody htask => exact Nat.le_add_left 1 _
  | followed htask hpoll hpolls =>
    have hlast := hpolls.last_le
    have hlength := hpolls.length_eq
    cases replies with
    | nil =>
      -- A closed connection names no task.
      obtain ⟨_, _, _, ⟨_, hclosed, -⟩, -⟩ := htask
      cases hclosed
    | cons first rest =>
      rw [List.drop_one, List.tail_cons] at hlast
      rw [List.length_cons, List.length_cons, hlength]
      omega

/-- There is no poll behind one after which the time is over. -/
theorem Course.length_le_of_late {i : Nat} (h : Course c request replies result made)
    (hlate : Late c (replies.drop 1) i) : made.length ≤ i + 2 := by
  cases h with
  | refused hfirst => exact Nat.le_add_left 1 _
  | unnamed hbody htask => exact Nat.le_add_left 1 _
  | @followed _ _ last _ _ htask hpoll hpolls =>
    have hlast : last ≤ i := by
      by_contra hlt
      exact (hpolls.waits i (Nat.lt_of_not_le hlt)).2 hlate
    rw [List.length_cons, hpolls.length_eq]
    exact Nat.add_le_add_right hlast 2

/-- The exchanges of a change get the replies in their order. -/
theorem Course.answeredFrom (h : Course c request replies result made) :
    AnsweredFrom replies made := by
  cases h with
  | refused hfirst => exact answeredFrom_singleton request replies
  | unnamed hbody htask => exact answeredFrom_singleton request replies
  | @followed _ poll last _ polls htask hpoll hpolls =>
    have hrest : AnsweredFrom (replies.drop 1) polls := by
      intro i e he
      rw [hpolls.exchanges, List.getElem?_map, Option.map_eq_some_iff] at he
      obtain ⟨j, hj, rfl⟩ := he
      obtain ⟨hlt, rfl⟩ := List.getElem?_eq_some_iff.1 hj
      rw [List.getElem_range]
    exact (answeredFrom_singleton request replies).append hrest

end Length

/-- A change of settings or documents whose request can be made and taken is sent once and goes its
course, unless it has a deadline that the clock does not reach: only an answer that names a task is
followed by more requests, which are polls of this task. The polls end with the replies at the latest,
and with the first one after which the time is over. Nothing else is sent, but what redirects ask for.
A change that cannot be sent leaves everything as it is. -/
theorem change_runs_course (change : Change) (r : Remote) :
    (∀ request, change.request? r.config = some request → r.listening = true →
      ((∃ task, AcknowledgedAs r.nextReply.outcome task) → FitsAfter 1 r) →
      ∃ result made, change.perform r =
          (result, (r.after made).slept ((made.length - 2) * pause r.config)) ∧
        Course r.config request r.heard result made ∧ made.length ≤ r.replies.length + 1 ∧
        (∀ i, Late r.config (r.heard.drop 1) i → made.length ≤ i + 2) ∧
        ((∀ reply ∈ r.replies, reply.redirects = []) → ∀ e ∈ made, e.requests = [e.request])) ∧
    (change.request? r.config = none ∨ r.listening = false →
      ∃ detail, change.perform r = (.error (.engineUnavailable detail), r)) := by
  rw [change.perform_eq]
  constructor
  · intro request hrequest hlistening hfits
    obtain ⟨result, made, hperform, hcourse⟩ :=
      change_of_sent hrequest hlistening change.head?_path hfits
    have hlength : made.length ≤ r.replies.length + 1 := by
      have hle := hcourse.length_le
      rwa [heard, List.length_map] at hle
    exact ⟨result, made, hperform, hcourse, hlength, fun i => hcourse.length_le_of_late,
      fun hplain => requests_of_answeredFrom hplain hcourse.answeredFrom⟩
  · exact change_of_unsent

def failingTask : Remote :=
  .fresh Service.overSlash true
    [.answer 202 (Text.Utf8.ofString "\x7b\"taskUid\":3\x7d"),
      .answer 200 (Text.Utf8.ofString "\x7b\"status\":\"processing\"\x7d"),
      .answer 200 (Text.Utf8.ofString ("\x7b\"status\":\"failed\",\"error\":\x7b\"message\":" ++
        "\"bad ranking rule\",\"code\":\"invalid_settings_ranking_rules\"\x7d\x7d")),
      .closed]

theorem change_runs_course_for_failingTask :
    ∃ request made, (Change.settings "idx_v1" .standard).request? failingTask.config = some request ∧
      (Change.settings "idx_v1" .standard).perform failingTask =
        (.error (.engineRejected "invalid_settings_ranking_rules" "bad ranking rule"),
          (failingTask.after made).slept (pause failingTask.config)) ∧
      Course failingTask.config request failingTask.heard
        (.error (.engineRejected "invalid_settings_ranking_rules" "bad ranking rule")) made ∧
      made.length = 3 := by
  have hsome : ((Change.settings "idx_v1" .standard).request? failingTask.config).isSome = true := by
    decide +kernel
  have hfits : FitsAfter 1 failingTask := by
    unfold FitsAfter
    decide +kernel
  obtain ⟨hfailure, hlength⟩ :
      ((Change.settings "idx_v1" .standard).perform failingTask).1 =
          .error (.engineRejected "invalid_settings_ranking_rules" "bad ranking rule") ∧
        ((Change.settings "idx_v1" .standard).perform failingTask).2.transcript.length = 3 := by
    decide +kernel
  obtain ⟨request, hrequest⟩ := Option.isSome_iff_exists.1 hsome
  obtain ⟨hsent, -⟩ := change_runs_course (.settings "idx_v1" .standard) failingTask
  obtain ⟨result, made, hperform, hcourse, -⟩ := hsent request hrequest rfl fun _ => hfits
  rw [hperform] at hfailure hlength
  obtain rfl : result = _ := hfailure
  have hmade : made.length = 3 := hlength
  rw [hmade, Nat.one_mul] at hperform
  exact ⟨request, made, hrequest, hperform, hcourse, hmade⟩

def firstTask : Web.Outcome := .answer 202 (.whole (Text.Utf8.ofString "\x7b\"taskUid\":1\x7d"))

def doneReply : Web.Reply := .answer 200 (Text.Utf8.ofString "\x7b\"status\":\"succeeded\"\x7d")

def endlessTask : Remote :=
  .fresh { Service.overSlash with taskSeconds := UInt64.size - 1 } true [.ends firstTask, doneReply]

def movedTask : Remote :=
  .fresh Service.overSlash true
    [.redirect ⟨false, "/moved", false⟩ (.ends firstTask), doneReply]

/-- A task is named and never asked for, and of a change that succeeds more is sent than its own
request and the polls of its task. -/
theorem change_strays_from_course :
    AcknowledgedAs endlessTask.nextReply.outcome 1 ∧
      ((Change.settings "idx_v1" .standard).perform endlessTask).2.panicked = true ∧
      ((Change.settings "idx_v1" .standard).perform endlessTask).2.transcript.length = 1 ∧
      ((Change.settings "idx_v1" .standard).perform movedTask).1 = .ok () ∧
      (((Change.settings "idx_v1" .standard).perform movedTask).2.transcript.flatMap
          (·.requests)).map (fun sent => (sent.method, sent.target)) =
        [("PATCH", "/indexes/idx_v1/settings"), ("GET", "/moved"), ("GET", "/tasks/1")] := by
  have hnamed : AcknowledgedAs endlessTask.nextReply.outcome 1 :=
    acknowledgedAs_iff.2 ⟨Text.Utf8.ofString "\x7b\"taskUid\":1\x7d", by decide +kernel,
      by decide +kernel⟩
  exact ⟨hnamed, by decide +kernel, by decide +kernel, by decide +kernel, by decide +kernel⟩

end VariantSearch.Remote

import VariantSearch.Proofs.TaskPolls

/-!
Making an index over HTTP: it is looked up first, and made just if it is missing.
-/

namespace VariantSearch.Remote

variable {c : RemoteConfig} {task : Nat} {request : Web.Request} {replies : List Web.Reply}
  {result : Except SearchFailure Unit} {made : List Web.Exchange} {reply : Web.Reply}
  {outcome : Web.Outcome}

def SaysMissing (outcome : Web.Outcome) : Prop :=
  ∃ status sent e, outcome = .answer status sent ∧ Ends status ∧ ¬ Succeeds status ∧
    IsErrorBody (sent.after status).bytes e ∧ e.code = "index_not_found"

def RefusesAsPresent (outcome : Web.Outcome) : Prop :=
  ∃ status sent e, outcome = .answer status sent ∧ BlamesRequest status ∧
    IsErrorBody (sent.after status).bytes e ∧ e.code = "index_already_exists"

def StoppedAsPresent (outcome : Web.Outcome) : Prop :=
  ∃ view e, ShowsTask outcome view ∧ (view.status = "failed" ∨ view.status = "canceled") ∧
    view.error = some e ∧ e.code = "index_already_exists"

/-- The last reply of a creation says that the index is there: it refuses the request or a poll, or
it shows a task that ended so. -/
def LostRace (made : List Web.Exchange) : Prop :=
  ∃ before last, made = before ++ [last] ∧
    (RefusesAsPresent last.reply.outcome ∨ (before ≠ [] ∧ StoppedAsPresent last.reply.outcome))

theorem failsWith_indexNotFound_iff :
    (∃ message, FailsWith outcome (.indexNotFound message)) ↔ SaysMissing outcome := by
  constructor
  · rintro ⟨message, h⟩
    cases h with
    | missing hends hstatus hbody hcode => exact ⟨_, _, _, rfl, hends, hstatus, hbody, hcode⟩
  · rintro ⟨status, sent, e, rfl, hends, hstatus, hbody, hcode⟩
    exact ⟨_, .missing hends hstatus hbody hcode⟩

theorem givesNothing_present_iff :
    (∃ message, GivesNothing outcome (.engineRejected "index_already_exists" message)) ↔
      RefusesAsPresent outcome := by
  -- A status that stands for a code is no such code.
  have hstatus (status : Nat) : toString status ≠ "index_already_exists" :=
    toString_ne (c := 'i') (by decide) (by decide) status
  constructor
  · rintro ⟨message, h⟩
    generalize hcode : "index_already_exists" = code at h
    -- A body that cannot be read makes the other side unavailable.
    obtain ⟨hfails⟩ := h
    cases hfails with
    | @refused status body e hblames hbody hmissing =>
      split at hcode
      · exact absurd hcode.symm (hstatus status)
      · exact ⟨_, _, _, rfl, hblames, hbody, hcode.symm⟩
    | @refusedInPlainText status body hblames hbody => exact absurd hcode.symm (hstatus status)
  · rintro ⟨status, sent, e, rfl, hblames, hbody, hcode⟩
    have hmissing : e.code ≠ "index_not_found" := by
      rw [hcode]
      decide
    have hrefused := FailsWith.refused hblames hbody hmissing
    rw [if_neg (by rw [hcode]; decide), hcode] at hrefused
    exact ⟨_, .failed hrefused⟩

theorem taskNews_present_iff :
    (∃ message, TaskNews task outcome
        (.ended (.error (.engineRejected "index_already_exists" message)))) ↔
      RefusesAsPresent outcome ∨ StoppedAsPresent outcome := by
  constructor
  · rintro ⟨message, h⟩
    -- The code is set apart, so that the cases can be told by what they report.
    generalize hcode : "index_already_exists" = code at h
    cases h with
    | stopped hview hstatus herror => exact Or.inr ⟨_, _, hview, hstatus, herror, hcode.symm⟩
    | stoppedSilently hview hstatus herror =>
      rw [← hcode] at hstatus
      exact absurd hstatus (by decide)
    | failed hnothing =>
      rw [← hcode] at hnothing
      exact Or.inl (givesNothing_present_iff.1 ⟨_, hnothing⟩)
  · rintro (hrefuses | ⟨view, e, hview, hstatus, herror, hcode⟩)
    · obtain ⟨message, hnothing⟩ := givesNothing_present_iff.2 hrefuses
      exact ⟨message, .failed hnothing⟩
    · have hstopped : TaskNews task outcome _ := .stopped hview hstatus herror
      rw [hcode] at hstopped
      exact ⟨_, hstopped⟩

theorem lostRace_concat_iff {before : List Web.Exchange} :
    LostRace (before ++ [⟨request, reply⟩]) ↔
      RefusesAsPresent reply.outcome ∨ (before ≠ [] ∧ StoppedAsPresent reply.outcome) := by
  constructor
  · rintro ⟨before', last, hmade, hlast⟩
    obtain ⟨rfl, hsame⟩ := List.append_inj' hmade rfl
    cases hsame
    exact hlast
  · intro h
    exact ⟨before, _, rfl, h⟩

/-- Of one exchange only a refusal counts. -/
theorem lostRace_singleton_iff : LostRace [⟨request, reply⟩] ↔ RefusesAsPresent reply.outcome := by
  have h : LostRace ([] ++ [⟨request, reply⟩]) ↔ _ := lostRace_concat_iff
  simpa using h

theorem Polled.exchanges_eq {late : Nat → Prop} {last : Nat} {poll : Web.Request}
    (h : Polled late c task poll replies last result made) :
    ∃ before, made = before ++ [⟨poll, replies.getD last .closed⟩] := by
  rw [h.exchanges, List.range_succ, List.map_append]
  exact ⟨_, rfl⟩

/-- A change fails as one of an index that is there just if its last reply says so. -/
theorem Course.present_iff (h : Course c request replies result made) :
    (∃ message, result = .error (.engineRejected "index_already_exists" message)) ↔
      LostRace made := by
  cases h with
  | @refused e hfirst =>
    rw [lostRace_singleton_iff, ← givesNothing_present_iff]
    constructor
    · rintro ⟨message, heq⟩
      exact ⟨message, Except.error.inj heq ▸ hfirst⟩
    · rintro ⟨message, hnothing⟩
      exact ⟨message, congrArg Except.error (hfirst.unique hnothing)⟩
  | unnamed hbody htask =>
    rw [lostRace_singleton_iff, ← givesNothing_present_iff]
    refine iff_of_false ?_ ?_
    · rintro ⟨message, heq⟩
      cases heq
    · rintro ⟨message, hnothing⟩
      exact hnothing.not_givesBody hbody
  | @followed task poll last result polls htask hpoll hpolls =>
    obtain ⟨before, hbefore⟩ := hpolls.exchanges_eq
    -- With polls, the last exchange is the last poll.
    have hlast : LostRace (⟨request, replies.headD .closed⟩ :: polls) ↔
        RefusesAsPresent ((replies.drop 1).getD last .closed).outcome ∨
          StoppedAsPresent ((replies.drop 1).getD last .closed).outcome := by
      rw [hbefore, ← List.cons_append, lostRace_concat_iff]
      simp
    rw [hlast, ← @taskNews_present_iff task]
    rcases hpolls.ends with hended | ⟨hpending, -, rfl⟩
    · constructor
      · rintro ⟨message, rfl⟩
        exact ⟨message, hended⟩
      · rintro ⟨message, hnews⟩
        exact ⟨message, TaskReport.ended.inj (hended.unique hnews)⟩
    · refine iff_of_false ?_ ?_
      · rintro ⟨message, heq⟩
        cases heq
      · rintro ⟨message, hnews⟩
        cases hpending.unique hnews

/-- A change that is made ends with a reply that shows its task. -/
theorem Course.exists_showsTask (h : Course c request replies (.ok ()) made) :
    ∃ before last view, made = before ++ [last] ∧ ShowsTask last.reply.outcome view := by
  cases h with
  | @followed task poll last _ polls htask hpoll hpolls =>
    obtain ⟨before, hbefore⟩ := hpolls.exchanges_eq
    rcases hpolls.ends with hended | ⟨-, -, hresult⟩
    · cases hended with
      | @succeeded view hview hstatus =>
        exact ⟨_ :: before, _, view, congrArg (List.cons _) hbefore, hview⟩
    · cases hresult

theorem unlessPresent_eq_ok_iff :
    unlessPresent result = .ok () ↔ result = .ok () ∨
      ∃ message, result = .error (.engineRejected "index_already_exists" message) := by
  cases result with
  | ok value => simp [unlessPresent]
  | error e =>
    cases e with
    | engineRejected code message =>
      unfold unlessPresent
      by_cases hcode : code = "index_already_exists"
      · simp [hcode]
      · simp [hcode]
    | _ => simp [unlessPresent]

theorem eq_of_unlessPresent_eq_error {e : SearchFailure} (h : unlessPresent result = .error e) :
    result = .error e := by
  unfold unlessPresent at h
  split at h
  · split at h
    · cases h
    · exact h
  · exact h

/-- How an index is looked up and made, with the exchanges behind the look-up. -/
structure Creation (c : RemoteConfig) (indexUid primaryKey : String) (replies : List Web.Reply)
    (result : Except SearchFailure Unit) (more : List Web.Exchange) : Prop where
  more_iff : more ≠ [] ↔ SaysMissing (replies.headD .closed).outcome
  present : ReportsSuccess (replies.headD .closed).outcome → result = .ok ()
  refused : ∀ e, FailsWith (replies.headD .closed).outcome e →
    ¬ SaysMissing (replies.headD .closed).outcome → result = .error e
  /-- The index is then made by one change, whose failure is passed over if the index is there. -/
  missing : SaysMissing (replies.headD .closed).outcome →
    ∃ create made, AsksToCreate c indexUid primaryKey create ∧
      Course c create (replies.drop 1) made more ∧
      (result = .ok () ↔ made = .ok () ∨ LostRace more) ∧
      ∀ e, result = .error e → made = .error e
  /-- No code makes a success of a status that blames the other side. -/
  unavailable : ∀ before last status sent, more = before ++ [last] →
    last.reply.outcome = .answer status sent → ¬ Succeeds status → ¬ BlamesRequest status →
      result ≠ .ok ()

theorem not_saysMissing_of_reportsSuccess (h : ReportsSuccess outcome) : ¬ SaysMissing outcome := by
  rintro ⟨status, sent, e, rfl, -, hstatus, -⟩
  exact hstatus h

theorem creation_of_present {indexUid primaryKey : String}
    (h : ReportsSuccess (replies.headD .closed).outcome) :
    Creation c indexUid primaryKey replies (.ok ()) [] := by
  have hmissing := not_saysMissing_of_reportsSuccess h
  refine ⟨⟨fun hne => absurd rfl hne, fun h' => absurd h' hmissing⟩, fun _ => rfl, ?_, ?_, ?_⟩
  · intro e hfails
    exact absurd h hfails.not_reportsSuccess
  · intro h'
    exact absurd h' hmissing
  · intro before last status sent hmore
    exact absurd hmore (by simp)

theorem creation_of_refused {indexUid primaryKey : String} {e : SearchFailure}
    (h : FailsWith (replies.headD .closed).outcome e)
    (hmissing : ¬ SaysMissing (replies.headD .closed).outcome) :
    Creation c indexUid primaryKey replies (.error e) [] := by
  refine ⟨⟨fun hne => absurd rfl hne, fun h' => absurd h' hmissing⟩, ?_, ?_, ?_, ?_⟩
  · intro hsuccess
    exact absurd hsuccess h.not_reportsSuccess
  · intro e' hfails _
    rw [h.unique hfails]
  · intro h'
    exact absurd h' hmissing
  · intro before last status sent hmore
    exact absurd hmore (by simp)

theorem Course.ne_nil (h : Course c request replies result made) : made ≠ [] := by
  cases h <;> exact List.cons_ne_nil _ _

theorem creation_of_missing {indexUid primaryKey : String} {create : Web.Request}
    (hmissing : SaysMissing (replies.headD .closed).outcome)
    (hcreate : AsksToCreate c indexUid primaryKey create)
    (hcourse : Course c create (replies.drop 1) result made) :
    Creation c indexUid primaryKey replies (unlessPresent result) made := by
  have hok : unlessPresent result = .ok () ↔ result = .ok () ∨ LostRace made := by
    rw [unlessPresent_eq_ok_iff, hcourse.present_iff]
  refine ⟨⟨fun _ => hmissing, fun _ => hcourse.ne_nil⟩, ?_, ?_, ?_, ?_⟩
  · intro hsuccess
    exact absurd hmissing (not_saysMissing_of_reportsSuccess hsuccess)
  · intro e _ h'
    exact absurd hmissing h'
  · intro _
    exact ⟨create, result, hcreate, hcourse, hok, fun e => eq_of_unlessPresent_eq_error⟩
  · intro before last status sent hmade houtcome hstatus hblames hresult
    subst hmade
    -- Behind a success stands a task that was shown, or a race that was lost in the last exchange.
    rcases hok.1 hresult with rfl | hlost
    · obtain ⟨before', last', view, hlast, hview⟩ := hcourse.exists_showsTask
      obtain ⟨-, hsame⟩ := List.append_inj' hlast rfl
      obtain rfl := List.singleton_inj.1 hsame
      rw [houtcome] at hview
      exact hstatus (succeeds_of_showsTask hview)
    · rw [lostRace_concat_iff, houtcome] at hlost
      rcases hlost with ⟨_, _, _, heq, hrefuses, -⟩ | ⟨-, _, _, hview, -⟩
      · cases heq
        exact hblames hrefuses
      · exact hstatus (succeeds_of_showsTask hview)

section Call

variable {r : Remote} {indexUid primaryKey : String} {lookup : Web.Request}

theorem createIndex_of_present {sent : Web.Body} {r' : Remote}
    (h : send "GET" ("/indexes/" ++ indexUid) [] none r = (.ok sent, r')) :
    createIndex indexUid primaryKey r = (.ok (), r') := by
  simp only [createIndex, h]

theorem createIndex_of_refused {e : SearchFailure} {r' : Remote}
    (h : send "GET" ("/indexes/" ++ indexUid) [] none r = (.error e, r'))
    (hmissing : ∀ message, e ≠ .indexNotFound message) :
    createIndex indexUid primaryKey r = (.error e, r') := by
  cases e with
  | indexNotFound message => exact absurd rfl (hmissing message)
  | _ => simp only [createIndex, h]

theorem createIndex_of_missing {message : String} {r' : Remote}
    (h : send "GET" ("/indexes/" ++ indexUid) [] none r = (.error (.indexNotFound message), r')) :
    createIndex indexUid primaryKey r =
      (unlessPresent (change "POST" "/indexes" []
          (.ofMembers [("uid", .text indexUid), ("primaryKey", .text primaryKey)]) r').1,
        (change "POST" "/indexes" []
          (.ofMembers [("uid", .text indexUid), ("primaryKey", .text primaryKey)]) r').2) := by
  simp only [createIndex, h]

/-- An index whose look-up can be sent is looked up and made. -/
theorem createIndex_of_sent (primaryKey : String)
    (hlookup : request? r.config "GET" ("/indexes/" ++ indexUid) [] none = some lookup)
    (hlistening : r.listening = true)
    (hfits : (∃ task, AcknowledgedAs ((r.heard.drop 1).headD .closed).outcome task) →
      FitsAfter 2 r) :
    ∃ result more, createIndex indexUid primaryKey r =
        (result, (r.after (⟨lookup, r.nextReply⟩ :: more)).slept
          ((more.length - 2) * pause r.config)) ∧
      Creation r.config indexUid primaryKey r.heard result more := by
  have hsend := send_of_sent hlookup hlistening
  cases haccept : accept r.nextReply.outcome with
  | ok sent =>
    rw [haccept] at hsend
    refine ⟨_, [], ?_, creation_of_present (reportsSuccess_of_accept haccept)⟩
    rw [createIndex_of_present hsend, List.length_nil, Nat.zero_mul, slept_zero]
  | error e =>
    rw [haccept] at hsend
    have hfails : FailsWith r.nextReply.outcome e := accept_eq_error_iff.1 haccept
    by_cases hmissing : SaysMissing r.nextReply.outcome
    · obtain ⟨message, hnotFound⟩ := failsWith_indexNotFound_iff.2 hmissing
      obtain rfl := hfails.unique hnotFound
      have hpath : ("/indexes/" ++ indexUid).toList.head? = some '/' := by
        rw [String.toList_append]
        rfl
      -- The request to make the index can be made as the look-up could.
      obtain ⟨create, hcreate⟩ := exists_asksToCreate hlookup hpath indexUid primaryKey
      have hnext : (r.after [⟨lookup, r.nextReply⟩]).nextReply = (r.heard.drop 1).headD .closed := by
        rw [nextReply, heard_after, List.length_singleton]
      have hdeadline : (∃ task, AcknowledgedAs
            (r.after [⟨lookup, r.nextReply⟩]).nextReply.outcome task) →
          FitsAfter 1 (r.after [⟨lookup, r.nextReply⟩]) := by
        intro hnamed
        rw [hnext] at hnamed
        exact (fitsAfter_succ_iff lookup).2 (hfits hnamed)
      have hsent := @change_of_sent (r.after [⟨lookup, r.nextReply⟩]) "POST" "/indexes" [] _ create
        hcreate.made hlistening rfl hdeadline
      obtain ⟨result, made, hchange, hcourse⟩ := hsent
      rw [heard_after, List.length_singleton] at hcourse
      refine ⟨unlessPresent result, made, ?_, creation_of_missing hmissing hcreate hcourse⟩
      rw [createIndex_of_missing hsend, hchange, after_after]
      rfl
    · refine ⟨_, [], ?_, creation_of_refused hfails hmissing⟩
      rw [createIndex_of_refused hsend, List.length_nil, Nat.zero_mul, slept_zero]
      rintro message rfl
      exact hmissing (failsWith_indexNotFound_iff.1 ⟨message, hfails⟩)

/-- The exchanges of a creation get the replies in their order. -/
theorem Creation.answeredFrom {result : Except SearchFailure Unit} {more : List Web.Exchange}
    (h : Creation r.config indexUid primaryKey r.heard result more) (lookup : Web.Request) :
    AnsweredFrom r.heard (⟨lookup, r.nextReply⟩ :: more) := by
  have hmore : AnsweredFrom (r.heard.drop 1) more := by
    by_cases hmissing : SaysMissing r.nextReply.outcome
    · obtain ⟨create, made, -, hcourse, -⟩ := h.missing hmissing
      exact hcourse.answeredFrom
    · have hnone : more = [] := by
        by_contra hne
        exact hmissing (h.more_iff.1 hne)
      simp [hnone, AnsweredFrom]
  exact (answeredFrom_singleton lookup r.heard).append hmore

/-- An index is looked up with one request, and then it is there, or the look-up fails, or the index
is missing and is made by one change. In the last case the call succeeds just if the change does or
the last answer says that the index is there already. Nothing else is sent, but what redirects ask
for. The change is taken to have a deadline that the clock reaches. Without a request that can be made
and taken everything stays as it is. -/
theorem createIndex_decided (indexUid primaryKey : String) (r : Remote) :
    (∀ lookup, request? r.config "GET" ("/indexes/" ++ indexUid) [] none = some lookup →
      r.listening = true →
      ((∃ task, AcknowledgedAs ((r.heard.drop 1).headD .closed).outcome task) → FitsAfter 2 r) →
        LooksUp r.config indexUid lookup ∧
          ∃ result more, SearchEngine.createIndex indexUid primaryKey r =
              (result, (r.after (⟨lookup, r.nextReply⟩ :: more)).slept
                ((more.length - 2) * pause r.config)) ∧
            Creation r.config indexUid primaryKey r.heard result more ∧
            ((∀ reply ∈ r.replies, reply.redirects = []) →
              ∀ e ∈ (⟨lookup, r.nextReply⟩ :: more : List Web.Exchange), e.requests = [e.request])) ∧
    (request? r.config "GET" ("/indexes/" ++ indexUid) [] none = none ∨ r.listening = false →
      ∃ detail, SearchEngine.createIndex indexUid primaryKey r =
        (.error (.engineUnavailable detail), r)) := by
  constructor
  · intro lookup hlookup hlistening hfits
    obtain ⟨result, more, hcreate, hcreation⟩ :=
      createIndex_of_sent primaryKey hlookup hlistening hfits
    exact ⟨looksUp_of_request? hlookup, result, more, hcreate, hcreation, fun hplain =>
      requests_of_answeredFrom hplain (hcreation.answeredFrom lookup)⟩
  · intro hunsent
    obtain ⟨detail, hsend⟩ := send_of_unsent hunsent
    exact ⟨detail, createIndex_of_refused hsend nofun⟩

end Call

def missingReply : Web.Reply :=
  .answer 404 (Text.Utf8.ofString "\x7b\"code\":\"index_not_found\"\x7d")

def namingReply : Web.Reply := .answer 202 (Text.Utf8.ofString "\x7b\"taskUid\":7\x7d")

def racedTask : Remote :=
  .fresh Service.overSlash true
    [missingReply, namingReply,
      .answer 200 (Text.Utf8.ofString
        "\x7b\"status\":\"failed\",\"error\":\x7b\"code\":\"index_already_exists\"\x7d\x7d")]

theorem createIndex_decided_for_racedTask :
    ∃ lookup more, request? racedTask.config "GET" "/indexes/games" [] none = some lookup ∧
      SearchEngine.createIndex "games" "id" racedTask =
        (.ok (), racedTask.after (⟨lookup, missingReply⟩ :: more)) ∧
      Creation racedTask.config "games" "id" racedTask.heard (.ok ()) more ∧ more.length = 2 := by
  have hsome : (request? racedTask.config "GET" "/indexes/games" [] none).isSome = true := by
    decide +kernel
  have hfits : FitsAfter 2 racedTask := by
    unfold FitsAfter
    decide +kernel
  obtain ⟨hresult, hlength⟩ :
      (SearchEngine.createIndex "games" "id" racedTask).1 = .ok () ∧
        (SearchEngine.createIndex "games" "id" racedTask).2.transcript.length = 3 := by
    decide +kernel
  obtain ⟨lookup, hlookup⟩ := Option.isSome_iff_exists.1 hsome
  obtain ⟨hsent, -⟩ := createIndex_decided "games" "id" racedTask
  obtain ⟨-, result, more, hcreate, hcreation, -⟩ := hsent lookup hlookup rfl fun _ => hfits
  rw [hcreate] at hresult hlength
  obtain rfl : result = _ := hresult
  have hmore : more.length = 2 := Nat.succ.inj hlength
  rw [hmore, Nat.zero_mul, slept_zero] at hcreate
  exact ⟨lookup, more, hlookup, hcreate, hcreation, hmore⟩

def refusedPoll : Web.Reply :=
  .answer 409
    (Text.Utf8.ofString "\x7b\"code\":\"index_already_exists\",\"message\":\"there\"\x7d")

def racedPoll : Remote := .fresh Service.overSlash true [missingReply, namingReply, refusedPoll]

def movedCreation : Remote :=
  .fresh Service.overSlash true
    [missingReply, .redirect ⟨true, "/moved", false⟩ namingReply, doneReply]

def endlessCreation : Remote :=
  .fresh { Service.overSlash with taskSeconds := UInt64.size - 1 } true
    [missingReply, namingReply, doneReply]

/-- The request to make the index was taken, and nothing shows its task, but the call succeeds; where
it is moved, it is sent a second time; and where its task has a deadline that the clock does not reach,
the task is never asked for. -/
theorem creation_excused_by_refusedPoll :
    (SearchEngine.createIndex "games" "id" racedPoll).1 = .ok () ∧
      (SearchEngine.createIndex "games" "id" racedPoll).2.transcript.length = 3 ∧
      AcknowledgedAs namingReply.outcome 7 ∧ (∀ view, ¬ ShowsTask refusedPoll.outcome view) ∧
      ((SearchEngine.createIndex "games" "id" movedCreation).2.transcript.flatMap
          (·.requests)).map (fun sent => (sent.method, sent.target)) =
        [("GET", "/indexes/games"), ("POST", "/indexes"), ("POST", "/moved"), ("GET", "/tasks/7")] ∧
      (SearchEngine.createIndex "games" "id" endlessCreation).2.panicked = true ∧
      (SearchEngine.createIndex "games" "id" endlessCreation).2.transcript.length = 2 := by
  have hnaming : AcknowledgedAs namingReply.outcome 7 :=
    acknowledgedAs_iff.2 ⟨Text.Utf8.ofString "\x7b\"taskUid\":7\x7d", by decide +kernel,
      by decide +kernel⟩
  have hunseen : ∀ view, ¬ ShowsTask refusedPoll.outcome view := by
    intro view hview
    have hlt : (409 : Nat) < 300 := (succeeds_of_showsTask hview).2
    omega
  exact ⟨by decide +kernel, by decide +kernel, hnaming, hunseen, by decide +kernel,
    by decide +kernel, by decide +kernel⟩

end VariantSearch.Remote

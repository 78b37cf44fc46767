import VariantSearch.Proofs.RemoteCalls
import VariantSearch.Proofs.SearchPage

/-!
What a client is told for the end of its search, as one table.
-/

namespace VariantSearch

namespace Remote

/-- The members of an object say a text under a name: the one member of that name is the text, or
there is none and the text is empty. -/
def SaysText (members : List (Option (List Char) × Json.SyntaxTree)) (name text : String) : Prop :=
  (members.filter (·.1 = some name.toList) = [] ∧ text = "") ∨
    ∃ key cs, members.filter (·.1 = some name.toList) = [(key, .string (some cs))] ∧
      text = String.ofList cs

/-- The tree is an error object: an object with names that are texts, in which a message and a code
are texts if they are there, or a list of at most these two texts. -/
inductive IsErrorObject : Json.SyntaxTree → ErrorBody → Prop
  | object {members : List (Option (List Char) × Json.SyntaxTree)} {message code : String}
      (hnames : ∀ m ∈ members, m.1 ≠ none) (hmessage : SaysText members "message" message)
      (hcode : SaysText members "code" code) : IsErrorObject (.object members) ⟨message, code⟩
  | noItem : IsErrorObject (.list []) ⟨"", ""⟩
  | oneItem (message : List Char) :
      IsErrorObject (.list [.string (some message)]) ⟨String.ofList message, ""⟩
  | twoItems (message code : List Char) :
      IsErrorObject (.list [.string (some message), .string (some code)])
        ⟨String.ofList message, String.ofList code⟩

def memberNamed? (members : List (Option (List Char) × Json.SyntaxTree)) (name : String) :
    Option (Option Json.SyntaxTree) :=
  match members.filter (·.1 = some name.toList) with
  | [] => some none
  | [(_, tree)] => some (some tree)
  | _ => none

theorem asText?_eq_some_iff {tree : Json.SyntaxTree} {text : String} :
    tree.asText? = some text ↔ ∃ cs, tree = .string (some cs) ∧ text = String.ofList cs := by
  cases tree with
  | string content => cases content <;> simp [Json.SyntaxTree.asText?, eq_comm]
  | _ => simp [Json.SyntaxTree.asText?]

theorem memberNamed?_bind_eq_some_iff {members : List (Option (List Char) × Json.SyntaxTree)}
    {name text : String} :
    (memberNamed? members name).bind ErrorBody.textOrEmpty? = some text ↔
      SaysText members name text := by
  unfold memberNamed? SaysText
  generalize members.filter (·.1 = some name.toList) = found
  match found with
  | [] => simp [ErrorBody.textOrEmpty?, eq_comm]
  | [(key, tree)] => simp [ErrorBody.textOrEmpty?, asText?_eq_some_iff]
  | _ :: _ :: _ => simp

theorem record?_object {members : List (Option (List Char) × Json.SyntaxTree)}
    (h : ∀ m ∈ members, m.1 ≠ none) (names : List String) :
    (Json.SyntaxTree.object members).record? names = names.mapM (memberNamed? members) := by
  have hnames : ¬ members.any (·.1.isNone) = true := by
    rw [List.any_eq_true]
    rintro ⟨m, hm, hnone⟩
    exact h m hm (Option.isNone_iff_eq_none.1 hnone)
  rw [Json.SyntaxTree.record?, if_neg hnames]
  rfl

/-- A name that is no text spoils an object. -/
theorem record?_eq_none {members : List (Option (List Char) × Json.SyntaxTree)}
    (h : ¬ ∀ m ∈ members, m.1 ≠ none) (names : List String) :
    (Json.SyntaxTree.object members).record? names = none := by
  have hany : members.any (·.1.isNone) = true := by simpa using h
  rw [Json.SyntaxTree.record?, if_pos hany]

theorem ofTree?_object {members : List (Option (List Char) × Json.SyntaxTree)}
    (h : ∀ m ∈ members, m.1 ≠ none) {e : ErrorBody} :
    ErrorBody.ofTree? (.object members) = some e ↔
      SaysText members "message" e.message ∧ SaysText members "code" e.code := by
  rw [← memberNamed?_bind_eq_some_iff, ← memberNamed?_bind_eq_some_iff, ErrorBody.ofTree?,
    record?_object h, List.mapM_cons, List.mapM_cons, List.mapM_nil]
  cases memberNamed? members "message" with
  | none => simp
  | some message =>
    cases memberNamed? members "code" with
    | none => simp
    | some code =>
      obtain ⟨m, c⟩ := e
      simp [Option.bind_eq_some_iff]

/-- What is read as an error object is just what is one. -/
theorem ofTree?_eq_some_iff {tree : Json.SyntaxTree} {e : ErrorBody} :
    ErrorBody.ofTree? tree = some e ↔ IsErrorObject tree e := by
  constructor
  · intro h
    cases tree with
    | object members =>
      by_cases hnames : ∀ m ∈ members, m.1 ≠ none
      · obtain ⟨hmessage, hcode⟩ := (ofTree?_object hnames).1 h
        exact .object hnames hmessage hcode
      · rw [ErrorBody.ofTree?, record?_eq_none hnames] at h
        cases h
    | list items =>
      -- A list may leave out the code, or both, but has no third item.
      match items with
      | [] =>
        cases h
        exact .noItem
      | [message] =>
        obtain ⟨m, hm, h⟩ := Option.bind_eq_some_iff.1 h
        obtain ⟨cs, rfl, rfl⟩ := asText?_eq_some_iff.1 hm
        cases h
        exact .oneItem cs
      | [message, code] =>
        obtain ⟨m, hm, h⟩ := Option.bind_eq_some_iff.1 h
        obtain ⟨c, hc, h⟩ := Option.bind_eq_some_iff.1 h
        obtain ⟨cs, rfl, rfl⟩ := asText?_eq_some_iff.1 hm
        obtain ⟨cs', rfl, rfl⟩ := asText?_eq_some_iff.1 hc
        cases h
        exact .twoItems cs cs'
      | _ :: _ :: _ :: _ => cases h
    | _ => cases h
  · intro h
    cases h with
    | object hnames hmessage hcode => exact (ofTree?_object hnames).2 ⟨hmessage, hcode⟩
    | _ => rfl

def IsErrorBody (body : List UInt8) (e : ErrorBody) : Prop :=
  ∃ tree, Json.SyntaxTree.parse? ((Text.Marked.decode body).map some) = some tree ∧
    IsErrorObject tree e

theorem errorOf_of_isErrorBody {body : List UInt8} {e : ErrorBody} (h : IsErrorBody body e) :
    errorOf body = e := by
  obtain ⟨tree, htree, he⟩ := h
  have hread : (Json.SyntaxTree.parse? ((Text.Marked.decode body).map some)).bind
      ErrorBody.ofTree? = some e := by
    rw [htree, Option.bind_some]
    exact ofTree?_eq_some_iff.2 he
  simp only [errorOf, hread]

/-- A body that is no error object is the message itself. -/
theorem errorOf_of_not {body : List UInt8} (h : ∀ e, ¬ IsErrorBody body e) :
    errorOf body = ⟨String.ofList (Text.Marked.decode body), ""⟩ := by
  have hread : (Json.SyntaxTree.parse? ((Text.Marked.decode body).map some)).bind
      ErrorBody.ofTree? = none := by
    refine Option.eq_none_iff_forall_not_mem.2 fun e he => ?_
    obtain ⟨tree, htree, htext⟩ := Option.bind_eq_some_iff.1 he
    exact h e ⟨tree, htree, ofTree?_eq_some_iff.1 htext⟩
  simp only [errorOf, hread]

def Succeeds (status : Nat) : Prop := 200 ≤ status ∧ status < 300

/-- A status with which an exchange ends: the one that changes the protocol, and all that do not only
announce an answer. -/
def Ends (status : Nat) : Prop := status = 101 ∨ (200 ≤ status ∧ status < 1000)

/-- A status that blames the request: those that say so, without the four that concern credentials,
time and throttling. -/
def BlamesRequest (status : Nat) : Prop :=
  400 ≤ status ∧ status < 500 ∧ status ∉ [401, 403, 408, 429]

def refusal (code message : String) : Answer :=
  .ofFailure (.invalid (SearchFailure.engineRejected code message).toText)

/-- What a client is told for the end of a request, and with which status. Of the body of an error
only what can be read of it counts. -/
inductive Told : Web.Outcome → Nat → Answer → Prop
  | found {status : Nat} {sent : Web.Body} {body : List UInt8} {value : Json}
      (hstatus : Succeeds status) (hsent : sent.after status = .whole body)
      (hbody : Json.ofBytes? body = some value) :
      Told (.answer status sent) 200 (.ofJson 200 value)
  | unreadable {status : Nat} {sent : Web.Body} {detail : String} (hstatus : Succeeds status)
      (hbody : ∀ body, sent.after status = .whole body → Json.ofBytes? body = none) :
      Told (.answer status sent) 502 (.ofFailure (.engine detail))
  /-- The code of a missing index is believed whatever the status. -/
  | missing {status : Nat} {sent : Web.Body} {e : ErrorBody} (hends : Ends status)
      (hstatus : ¬ Succeeds status) (hbody : IsErrorBody (sent.after status).bytes e)
      (hcode : e.code = "index_not_found") :
      Told (.answer status sent) 404 (.ofFailure (.notFound e.message))
  | refused {status : Nat} {sent : Web.Body} {e : ErrorBody} (hstatus : BlamesRequest status)
      (hbody : IsErrorBody (sent.after status).bytes e) (hcode : e.code ≠ "index_not_found") :
      Told (.answer status sent) 400
        (refusal (if e.code = "" then toString status else e.code) e.message)
  | refusedInPlainText {status : Nat} {sent : Web.Body} (hstatus : BlamesRequest status)
      (hbody : ∀ e, ¬ IsErrorBody (sent.after status).bytes e) :
      Told (.answer status sent) 400
        (refusal (toString status)
          (String.ofList (Text.Marked.decode (sent.after status).bytes)))
  | failed {status : Nat} {sent : Web.Body} {detail : String} (hstatus : ¬ Succeeds status)
      (hblames : ¬ BlamesRequest status)
      (hbody : ∀ e, IsErrorBody (sent.after status).bytes e → e.code ≠ "index_not_found") :
      Told (.answer status sent) 502 (.ofFailure (.engine detail))
  /-- A status that only announces an answer is never followed by one. -/
  | announced {status : Nat} {sent : Web.Body} {detail : String} (hends : ¬ Ends status) :
      Told (.answer status sent) 502 (.ofFailure (.engine detail))
  | closed {detail : String} : Told .closed 502 (.ofFailure (.engine detail))
  | silent {detail : String} : Told .silent 502 (.ofFailure (.engine detail))
  | unreachable {detail : String} : Told .unreachable 502 (.ofFailure (.engine detail))

def FromEngine : SearchFailure → Prop
  | .engineUnavailable _ | .indexNotFound _ | .engineRejected _ _ => True
  | .invalidRequest _ | .invalidConfiguration _ => False

def ReportsSuccess : Web.Outcome → Prop
  | .answer status _ => Succeeds status
  | .closed | .silent | .unreachable => False

theorem isSuccess_iff {status : Nat} : Web.Status.isSuccess status = true ↔ Succeeds status := by
  simp [Web.Status.isSuccess, Succeeds]

theorem isFinal_iff {status : Nat} : isFinal status = true ↔ Ends status := by
  simp [isFinal, Ends]

theorem blamesRequest_iff {status : Nat} :
    (Web.Status.isClientError status && !blamesEngine status) = true ↔ BlamesRequest status := by
  simp only [Web.Status.isClientError, blamesEngine, BlamesRequest, Bool.not_or, Bool.and_eq_true,
    Bool.not_eq_eq_eq_not, Bool.not_true, decide_eq_true_eq, beq_eq_false_iff_ne, ne_eq,
    List.mem_cons, List.not_mem_nil, or_false, not_or]
  omega

section Outcome

variable {outcome : Web.Outcome} {status : Nat} {sent : Web.Body} {body : List UInt8}

theorem accept_of_succeeds (h : Succeeds status) :
    accept (.answer status sent) = .ok (sent.after status) := by
  rw [accept, if_pos (isSuccess_iff.2 h)]

theorem accept_of_ends (h : Ends status) (hstatus : ¬ Succeeds status) :
    accept (.answer status sent) =
      .error (classify status (errorOf (sent.after status).bytes)) := by
  rw [accept, if_neg (mt isSuccess_iff.1 hstatus), if_pos (isFinal_iff.2 h)]

theorem succeeds_ends (h : Succeeds status) : Ends status :=
  Or.inr ⟨h.1, by have := h.2; omega⟩

theorem accept_of_not_ends (h : ¬ Ends status) : accept (.answer status sent) = .error broken := by
  rw [accept, if_neg (mt isSuccess_iff.1 (mt succeeds_ends h)), if_neg (mt isFinal_iff.1 h)]

theorem classify_of_code {e : ErrorBody} (h : e.code = "index_not_found") :
    classify status e = .indexNotFound e.message := by
  rw [classify, if_pos h]

theorem classify_of_blamesRequest {e : ErrorBody} (h : e.code ≠ "index_not_found")
    (hstatus : BlamesRequest status) :
    classify status e =
      .engineRejected (if e.code = "" then toString status else e.code) e.message := by
  rw [classify, if_neg h, if_pos (blamesRequest_iff.2 hstatus)]

theorem classify_of_not_blamesRequest {e : ErrorBody} (h : e.code ≠ "index_not_found") (hstatus : ¬ BlamesRequest status) :
    classify status e = .engineUnavailable (unavailableText status e) := by
  rw [classify, if_neg h, if_neg (mt blamesRequest_iff.1 hstatus)]

inductive FailsWith : Web.Outcome → SearchFailure → Prop
  /-- The code of a missing index is believed whatever the status. -/
  | missing {status : Nat} {sent : Web.Body} {e : ErrorBody} (hends : Ends status)
      (hstatus : ¬ Succeeds status) (hbody : IsErrorBody (sent.after status).bytes e)
      (hcode : e.code = "index_not_found") :
      FailsWith (.answer status sent) (.indexNotFound e.message)
  | refused {status : Nat} {sent : Web.Body} {e : ErrorBody} (hstatus : BlamesRequest status)
      (hbody : IsErrorBody (sent.after status).bytes e) (hcode : e.code ≠ "index_not_found") :
      FailsWith (.answer status sent)
        (.engineRejected (if e.code = "" then toString status else e.code) e.message)
  | refusedInPlainText {status : Nat} {sent : Web.Body} (hstatus : BlamesRequest status)
      (hbody : ∀ e, ¬ IsErrorBody (sent.after status).bytes e) :
      FailsWith (.answer status sent)
        (.engineRejected (toString status)
          (String.ofList (Text.Marked.decode (sent.after status).bytes)))
  | failed {status : Nat} {sent : Web.Body} {e : ErrorBody} (hends : Ends status)
      (hstatus : ¬ Succeeds status) (hblames : ¬ BlamesRequest status)
      (hbody : IsErrorBody (sent.after status).bytes e) (hcode : e.code ≠ "index_not_found") :
      FailsWith (.answer status sent) (.engineUnavailable (unavailableText status e))
  | failedInPlainText {status : Nat} {sent : Web.Body} (hends : Ends status)
      (hstatus : ¬ Succeeds status) (hblames : ¬ BlamesRequest status)
      (hbody : ∀ e, ¬ IsErrorBody (sent.after status).bytes e) :
      FailsWith (.answer status sent)
        (.engineUnavailable (unavailableText status
          ⟨String.ofList (Text.Marked.decode (sent.after status).bytes), ""⟩))
  /-- A status that only announces an answer is never followed by one. -/
  | announced {status : Nat} {sent : Web.Body} (hends : ¬ Ends status) :
      FailsWith (.answer status sent) broken
  | closed : FailsWith .closed broken
  | silent : FailsWith .silent timedOut
  | unreachable : FailsWith .unreachable refused

theorem not_succeeds_of_blamesRequest (h : BlamesRequest status) : ¬ Succeeds status := by
  rintro ⟨-, hlt⟩
  have hle := h.1
  omega

theorem ends_of_blamesRequest (h : BlamesRequest status) : Ends status := by
  obtain ⟨hle, hlt, -⟩ := h
  refine Or.inr ⟨?_, ?_⟩
  · omega
  · omega

theorem ne_missing_of_empty : "" ≠ "index_not_found" := by decide

/-- The kind of a failure is the one of the table. -/
theorem FailsWith.accept_eq {e : SearchFailure} (h : FailsWith outcome e) :
    accept outcome = .error e := by
  cases h with
  | missing hends hstatus hbody hcode =>
    rw [accept_of_ends hends hstatus, errorOf_of_isErrorBody hbody, classify_of_code hcode]
  | refused hstatus hbody hcode =>
    rw [accept_of_ends (ends_of_blamesRequest hstatus) (not_succeeds_of_blamesRequest hstatus),
      errorOf_of_isErrorBody hbody, classify_of_blamesRequest hcode hstatus]
  | refusedInPlainText hstatus hbody =>
    rw [accept_of_ends (ends_of_blamesRequest hstatus) (not_succeeds_of_blamesRequest hstatus),
      errorOf_of_not hbody, classify_of_blamesRequest ne_missing_of_empty hstatus]
    rfl
  | failed hends hstatus hblames hbody hcode =>
    rw [accept_of_ends hends hstatus, errorOf_of_isErrorBody hbody,
      classify_of_not_blamesRequest hcode hblames]
  | failedInPlainText hends hstatus hblames hbody =>
    rw [accept_of_ends hends hstatus, errorOf_of_not hbody,
      classify_of_not_blamesRequest ne_missing_of_empty hblames]
  | announced hends => exact accept_of_not_ends hends
  | closed => rfl
  | silent => rfl
  | unreachable => rfl

/-- What does not report success is in the table. -/
theorem exists_failsWith (h : ¬ ReportsSuccess outcome) : ∃ e, FailsWith outcome e := by
  cases outcome with
  | closed => exact ⟨_, .closed⟩
  | silent => exact ⟨_, .silent⟩
  | unreachable => exact ⟨_, .unreachable⟩
  | answer status sent =>
    by_cases hends : Ends status
    swap
    · exact ⟨_, .announced hends⟩
    -- The code is read before the status is judged, so the error object comes first.
    by_cases hobject : ∃ e, IsErrorBody (sent.after status).bytes e
    · obtain ⟨e, he⟩ := hobject
      by_cases hcode : e.code = "index_not_found"
      · exact ⟨_, .missing hends h he hcode⟩
      · by_cases hblames : BlamesRequest status
        · exact ⟨_, .refused hblames he hcode⟩
        · exact ⟨_, .failed hends h hblames he hcode⟩
    · have hnone : ∀ e, ¬ IsErrorBody (sent.after status).bytes e := fun e he => hobject ⟨e, he⟩
      by_cases hblames : BlamesRequest status
      · exact ⟨_, .refusedInPlainText hblames hnone⟩
      · exact ⟨_, .failedInPlainText hends h hblames hnone⟩

theorem exists_answer_of_reportsSuccess (h : ReportsSuccess outcome) :
    ∃ status sent, outcome = .answer status sent ∧ Succeeds status := by
  cases outcome with
  | answer status sent => exact ⟨status, sent, rfl, h⟩
  | closed => cases h
  | silent => cases h
  | unreachable => cases h

theorem FailsWith.not_reportsSuccess {e : SearchFailure} (h : FailsWith outcome e) :
    ¬ ReportsSuccess outcome := by
  intro hsuccess
  obtain ⟨status, sent, rfl, hstatus⟩ := exists_answer_of_reportsSuccess hsuccess
  have haccept := h.accept_eq
  rw [accept_of_succeeds hstatus] at haccept
  cases haccept

theorem FailsWith.unique {e e' : SearchFailure} (h : FailsWith outcome e)
    (h' : FailsWith outcome e') : e = e' :=
  Except.error.inj (h.accept_eq.symm.trans h'.accept_eq)

theorem accept_eq_error_iff {e : SearchFailure} :
    accept outcome = .error e ↔ FailsWith outcome e := by
  refine ⟨fun h => ?_, FailsWith.accept_eq⟩
  by_cases hsuccess : ReportsSuccess outcome
  · obtain ⟨status, sent, rfl, hstatus⟩ := exists_answer_of_reportsSuccess hsuccess
    rw [accept_of_succeeds hstatus] at h
    cases h
  · obtain ⟨e', he'⟩ := exists_failsWith hsuccess
    obtain rfl := Except.error.inj (he'.accept_eq.symm.trans h)
    exact he'

theorem reportsSuccess_of_accept (h : accept outcome = .ok sent) : ReportsSuccess outcome := by
  obtain ⟨status, sent', rfl, -, hstatus⟩ := accept_eq_ok h
  exact isSuccess_iff.1 hstatus

theorem fromEngine_of_accept {e : SearchFailure} (h : accept outcome = .error e) :
    FromEngine e := by
  cases accept_eq_error_iff.1 h <;> trivial

theorem content_of_accept_error {e : SearchFailure} (h : accept outcome = .error e) :
    content outcome = .error e := by
  rw [content, h]
  rfl

theorem content_of_accept (h : accept outcome = .ok sent) : content outcome = readBody sent := by
  rw [content, h]
  rfl

theorem content_eq_ok_iff :
    content outcome = .ok body ↔ ∃ status, Carries outcome status body ∧ Succeeds status := by
  constructor
  · intro h
    obtain ⟨status, hcarries, hstatus⟩ := content_eq_ok h
    exact ⟨status, hcarries, isSuccess_iff.1 hstatus⟩
  · rintro ⟨status, ⟨sent, rfl, hsent⟩, hstatus⟩
    rw [content_of_accept (accept_of_succeeds hstatus), hsent]
    rfl

/-- What reports no success is a failure of the other side. -/
theorem resultOf_of_not_reportsSuccess (h : ¬ ReportsSuccess outcome) :
    ∃ e, resultOf outcome = .error e ∧ FromEngine e := by
  obtain ⟨e, he⟩ := exists_failsWith h
  have hcontent := content_of_accept_error he.accept_eq
  exact ⟨e, by simp only [resultOf, hcontent], fromEngine_of_accept he.accept_eq⟩

end Outcome

/-- A search whose success cannot be read to its end, or not as JSON, fails. -/
theorem told_of_succeeds {status : Nat} (sent : Web.Body) (h : Succeeds status) :
    ∃ code, Told (.answer status sent) code (Router.answerOf (resultOf (.answer status sent))) := by
  have haccept : accept (.answer status sent) = .ok (sent.after status) := accept_of_succeeds h
  have hcontent := content_of_accept haccept
  cases hsent : sent.after status with
  | whole body =>
    rw [hsent, readBody] at hcontent
    simp only [resultOf, hcontent]
    cases hbody : Json.ofBytes? body with
    | some value => exact ⟨200, .found h hsent hbody⟩
    | none =>
      refine ⟨502, .unreadable h fun body' hbody' => ?_⟩
      obtain rfl : body = body' := by rwa [hsent, Web.Body.whole.injEq] at hbody'
      exact hbody
  | cut | stalled =>
    rw [hsent, readBody] at hcontent
    simp only [resultOf, hcontent]
    exact ⟨502, .unreadable h fun body' hbody' => by rw [hsent] at hbody'; cases hbody'⟩

/-- Every end of a request is answered by the table. -/
theorem exists_told (outcome : Web.Outcome) :
    ∃ status, Told outcome status (Router.answerOf (resultOf outcome)) := by
  by_cases hsuccess : ReportsSuccess outcome
  · obtain ⟨status, sent, rfl, hstatus⟩ := exists_answer_of_reportsSuccess hsuccess
    exact told_of_succeeds sent hstatus
  obtain ⟨e, he⟩ := exists_failsWith hsuccess
  simp only [resultOf, content_of_accept_error he.accept_eq]
  cases he with
  | missing hends hstatus hbody hcode => exact ⟨404, .missing hends hstatus hbody hcode⟩
  | refused hblames hbody hcode => exact ⟨400, .refused hblames hbody hcode⟩
  | refusedInPlainText hblames hbody => exact ⟨400, .refusedInPlainText hblames hbody⟩
  -- Two error objects that are read from one body are the same.
  | failed hends hstatus hblames hbody hcode =>
    refine ⟨502, .failed hstatus hblames fun e' he' => ?_⟩
    rwa [← errorOf_of_isErrorBody he', errorOf_of_isErrorBody hbody]
  | failedInPlainText hends hstatus hblames hbody =>
    exact ⟨502, .failed hstatus hblames fun e he => absurd he (hbody e)⟩
  | announced hends => exact ⟨502, .announced hends⟩
  | closed => exact ⟨502, .closed⟩
  | silent => exact ⟨502, .silent⟩
  | unreachable => exact ⟨502, .unreachable⟩

variable {outcome : Web.Outcome} {status : Nat} {a : Answer}

theorem Told.status_eq (h : Told outcome status a) : a.status = status := by
  cases h <;> rfl

/-- Only a success is told with the status of one. -/
theorem Told.ne_of_not_reportsSuccess (h : Told outcome status a)
    (houtcome : ¬ ReportsSuccess outcome) : status ≠ 200 := by
  cases h with
  | found hstatus hsent hbody => exact absurd hstatus houtcome
  | _ => decide

end Remote

namespace Router

/-- A search that passes all checks is answered by its reply, with the redirects that are followed, as
the table says. If there is no reply, because no request can be made or nobody listens, the engine
counts as unavailable. A reply that does not report success is always a failure of the engine. -/
theorem search_reply_told {r : Router} {s : Service Remote} {name : String}
    {query : Option (List Char)} {p : SearchParameters} {request : SearchRequest}
    {fired : List String} {indexUid : String}
    (hread : SearchParameters.ofQuery (query.getD []) = .ok p)
    (hbuild : SearchRequest.build s.registry r.chains name p = .ok (request, fired))
    (hindex : s.registry.appliedIndex? name = some indexUid) :
    (∀ sent, Remote.searchRequest? s.engine.config indexUid request.toQuery = some sent →
        s.engine.listening = true →
        (r.search name query s).2.engine = s.engine.after [⟨sent, s.engine.nextReply⟩] ∧
          Remote.Told s.engine.nextReply.outcome (r.search name query s).1.status
            (r.search name query s).1 ∧
          (¬ Remote.ReportsSuccess s.engine.nextReply.outcome →
            (r.search name query s).1.status ≠ 200 ∧
              ∃ e, (Service.search name p { s with chains := r.chains }).1 = .error e ∧
                Remote.FromEngine e)) ∧
      (Remote.searchRequest? s.engine.config indexUid request.toQuery = none ∨
          s.engine.listening = false →
        (r.search name query s).1.status = 502 ∧ (r.search name query s).2.engine = s.engine) := by
  let t : Service Remote := { s with chains := r.chains }
  have ht : SearchRequest.build t.registry t.chains name p = .ok (request, fired) := hbuild
  have hsearch := Service.search_of_some ht hindex
  have hout : r.search name query s =
      (answerOf (Service.search name p t).1, { (Service.search name p t).2 with chains := s.chains }) :=
    search_of_readable hread
  rw [hsearch] at hout
  -- The answer and the engine are those of the one call, and so is the result inside the service.
  have hanswer : (r.search name query s).1 =
      answerOf (SearchEngine.search indexUid request.toQuery s.engine).1 := by rw [hout]
  have hengine : (r.search name query s).2.engine =
      (SearchEngine.search indexUid request.toQuery s.engine).2 := by rw [hout]
  have hresult : (Service.search name p t).1 =
      (SearchEngine.search indexUid request.toQuery s.engine).1 := by rw [hsearch]
  rw [hanswer, hengine, hresult]
  constructor
  · intro sent hsent hlistening
    rw [Remote.search_of_sent hsent hlistening]
    obtain ⟨status, htold⟩ := Remote.exists_told s.engine.nextReply.outcome
    rw [htold.status_eq]
    refine ⟨rfl, htold, fun hreply => ⟨htold.ne_of_not_reportsSuccess hreply, ?_⟩⟩
    exact Remote.resultOf_of_not_reportsSuccess hreply
  · intro hunsent
    obtain ⟨detail, heq⟩ := Remote.search_of_unsent hunsent
    rw [heq]
    exact ⟨rfl, rfl⟩

def refusingService : Service Remote where
  engine := .fresh ⟨"http://engine", none, 1, 1, 1, 9⟩ true
    [.answer 403 (Text.Utf8.ofString "[\"gone\",\"index_not_found\"]")]
  registry := (Registry.empty.register (.plain "v1")).markConfigured "v1"
  chains := .empty
  metrics := .empty

theorem search_reply_told_for_refusingService :
    ∃ request fired sent,
      SearchRequest.build refusingService.registry .empty "v1" .standard = .ok (request, fired) ∧
        refusingService.registry.appliedIndex? "v1" = some "idx_v1" ∧
        Remote.searchRequest? refusingService.engine.config "idx_v1" request.toQuery = some sent ∧
        Remote.Told refusingService.engine.nextReply.outcome
          (earlyRouter.search "v1" none refusingService).1.status
          (earlyRouter.search "v1" none refusingService).1 ∧
        (earlyRouter.search "v1" none refusingService).1.status = 404 := by
  have hread : SearchParameters.ofQuery [] = .ok .standard := rfl
  have hbuild : SearchRequest.build refusingService.registry .empty "v1" .standard =
      .ok (⟨"", 0, 20, [], none⟩, []) := by decide +kernel
  have hindex : refusingService.registry.appliedIndex? "v1" = some "idx_v1" := by decide +kernel
  have hsome : (Remote.searchRequest? refusingService.engine.config "idx_v1"
      (SearchRequest.toQuery ⟨"", 0, 20, [], none⟩)).isSome = true := by decide +kernel
  obtain ⟨sent, hsent⟩ := Option.isSome_iff_exists.1 hsome
  obtain ⟨hreplied, -⟩ :=
    @search_reply_told earlyRouter refusingService "v1" none _ _ _ _ hread hbuild hindex
  obtain ⟨-, htold, -⟩ := hreplied sent hsent rfl
  exact ⟨_, _, sent, hbuild, hindex, hsent, htold, by decide +kernel⟩

end Router

end VariantSearch

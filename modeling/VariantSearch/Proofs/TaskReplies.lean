import VariantSearch.Proofs.SearchReplies

namespace VariantSearch.Remote

open Json (SyntaxTree NumberLiteral)

variable {outcome : Web.Outcome} {body : List UInt8} {task : Nat}

def HasMember (members : List (Option (List Char) × SyntaxTree)) (name : String)
    (tree : SyntaxTree) : Prop :=
  ∃ key, members.filter (·.1 = some name.toList) = [(key, tree)]

def IsTaskNumber (tree : SyntaxTree) (task : Nat) : Prop :=
  ∃ l : NumberLiteral, tree = .number l ∧ l.isWhole = true ∧ l.negative = false ∧
    Json.digitsValue l.whole = task ∧ task < UInt64.size

/-- The tree names a task, as a member of an object or as the only item of a list. -/
inductive NamesTask : SyntaxTree → Nat → Prop
  | object {members : List (Option (List Char) × SyntaxTree)} {tree : SyntaxTree} {task : Nat}
      (hnames : ∀ m ∈ members, m.1 ≠ none) (hmember : HasMember members "taskUid" tree)
      (htask : IsTaskNumber tree task) : NamesTask (.object members) task
  | item {tree : SyntaxTree} {task : Nat} (htask : IsTaskNumber tree task) :
      NamesTask (.list [tree]) task

def IsTaskError (tree : SyntaxTree) (error : Option ErrorBody) : Prop :=
  (tree = .null ∧ error = none) ∨ ∃ e, IsErrorObject tree e ∧ error = some e

inductive IsTaskView : SyntaxTree → TaskView → Prop
  | object {members : List (Option (List Char) × SyntaxTree)} {status : List Char}
      {error : Option ErrorBody} (hnames : ∀ m ∈ members, m.1 ≠ none)
      (hstatus : HasMember members "status" (.string (some status)))
      (herror : (members.filter (·.1 = some "error".toList) = [] ∧ error = none) ∨
        ∃ tree, HasMember members "error" tree ∧ IsTaskError tree error) :
      IsTaskView (.object members) ⟨String.ofList status, error⟩
  | items {tree : SyntaxTree} {status : List Char} {error : Option ErrorBody}
      (herror : IsTaskError tree error) :
      IsTaskView (.list [.string (some status), tree]) ⟨String.ofList status, error⟩

theorem memberNamed?_eq_some_some_iff {members : List (Option (List Char) × SyntaxTree)}
    {name : String} {tree : SyntaxTree} :
    memberNamed? members name = some (some tree) ↔ HasMember members name tree := by
  unfold memberNamed? HasMember
  generalize members.filter (·.1 = some name.toList) = found
  match found with
  | [] => simp
  | [(key, found)] => simp
  | _ :: _ :: _ => simp

theorem memberNamed?_eq_some_none_iff {members : List (Option (List Char) × SyntaxTree)}
    {name : String} :
    memberNamed? members name = some none ↔ members.filter (·.1 = some name.toList) = [] := by
  unfold memberNamed?
  generalize members.filter (·.1 = some name.toList) = found
  match found with
  | [] => simp
  | [(key, found)] => simp
  | _ :: _ :: _ => simp

/-- Of the values of literals only the integers without a sign are numbers of 64 bits. -/
theorem asNatBelow?_toJson?_iff {l : NumberLiteral} :
    l.toJson?.bind (·.asNatBelow? UInt64.size) = some task ↔
      l.isWhole = true ∧ l.negative = false ∧ Json.digitsValue l.whole = task ∧
        task < UInt64.size := by
  unfold NumberLiteral.toJson?
  dsimp only
  split
  · next h =>
    simp only [Bool.and_eq_true, Bool.not_eq_true', decide_eq_true_eq] at h
    obtain ⟨⟨hwhole, hsign⟩, hlt⟩ := h
    have hvalue : (Json.integer (Json.digitsValue l.whole : Int)).asNatBelow? UInt64.size =
        some (Json.digitsValue l.whole) := by
      rw [Json.asNatBelow?, if_pos ⟨Int.natCast_nonneg _, Int.ofNat_lt.2 hlt⟩, Int.toNat_natCast]
    rw [Option.bind_some, hvalue, Option.some_inj]
    constructor
    · rintro rfl
      exact ⟨hwhole, hsign, rfl, hlt⟩
    · exact fun h => h.2.2.1
  · next h =>
    -- Every other literal is a negative number or no integer.
    have hnone : ¬ (l.isWhole = true ∧ l.negative = false ∧ Json.digitsValue l.whole = task ∧
        task < UInt64.size) := by
      rintro ⟨hwhole, hsign, rfl, hlt⟩
      apply h
      simp only [hwhole, hsign, Bool.not_false, Bool.and_self, Bool.true_and, decide_eq_true_eq]
      exact hlt
    refine iff_of_false (fun hsome => ?_) hnone
    split at hsome
    · next hsigned =>
      simp only [Bool.and_eq_true, decide_eq_true_eq] at hsigned
      have hpos := hsigned.1.2
      rw [Option.bind_some, Json.asNatBelow?, if_neg (by omega)] at hsome
      cases hsome
    · cases hdouble : l.toDouble? with
      | none =>
        rw [hdouble] at hsome
        cases hsome
      | some d =>
        rw [hdouble] at hsome
        cases hsome

theorem asNatBelow?_eq_some_iff {tree : SyntaxTree} :
    tree.asNatBelow? UInt64.size = some task ↔ IsTaskNumber tree task := by
  cases tree with
  | number l =>
    have hbind : (SyntaxTree.number l).asNatBelow? UInt64.size =
        l.toJson?.bind (·.asNatBelow? UInt64.size) := by
      rw [SyntaxTree.asNatBelow?]
      cases l.toJson? <;> rfl
    rw [hbind, asNatBelow?_toJson?_iff]
    simp [IsTaskNumber]
  | _ => simp [SyntaxTree.asNatBelow?, IsTaskNumber]

theorem taskError?_eq_some_iff {tree : SyntaxTree} {error : Option ErrorBody} :
    taskError? (some tree) = some error ↔ IsTaskError tree error := by
  have hnull (e : ErrorBody) : ¬ IsErrorObject .null e := nofun
  have hread (h : tree ≠ .null) : taskError? (some tree) = (ErrorBody.ofTree? tree).map some := by
    cases tree with
    | null => exact absurd rfl h
    | _ => rfl
  by_cases h : tree = .null
  · subst h
    simp [taskError?, IsTaskError, hnull, eq_comm]
  · rw [hread h, Option.map_eq_some_iff]
    simp only [ofTree?_eq_some_iff, IsTaskError, h, false_and, false_or]
    exact exists_congr fun e => and_congr_right fun _ => eq_comm

def taskIn? (tree : SyntaxTree) : Option Nat :=
  match tree.record? ["taskUid"] with
  | some [some uid] => uid.asNatBelow? UInt64.size
  | _ => none

theorem taskIn?_eq_some_iff {tree : SyntaxTree} :
    taskIn? tree = some task ↔ NamesTask tree task := by
  constructor
  · intro h
    cases tree with
    | object members =>
      -- A name that is no text is not read as one, and then nothing is.
      by_cases hnames : ∀ m ∈ members, m.1 ≠ none
      · rw [taskIn?, record?_object hnames, List.mapM_cons, List.mapM_nil] at h
        cases hmember : memberNamed? members "taskUid" with
        | none =>
          rw [hmember] at h
          cases h
        | some found =>
          rw [hmember] at h
          cases found with
          | none => cases h
          | some uid =>
            exact .object hnames (memberNamed?_eq_some_some_iff.1 hmember)
              (asNatBelow?_eq_some_iff.1 h)
      · rw [taskIn?, record?_eq_none hnames] at h
        cases h
    | list items =>
      match items with
      | [] => cases h
      | [uid] => exact .item (asNatBelow?_eq_some_iff.1 h)
      | _ :: _ :: _ => cases h
    | _ => cases h
  · intro h
    cases h with
    | object hnames hmember htask =>
      rw [taskIn?, record?_object hnames, List.mapM_cons, List.mapM_nil,
        memberNamed?_eq_some_some_iff.2 hmember]
      exact asNatBelow?_eq_some_iff.2 htask
    | item htask => exact asNatBelow?_eq_some_iff.2 htask

def viewOf? (status : SyntaxTree) (error : Option SyntaxTree) : Option TaskView := do
  return ⟨← status.asText?, ← taskError? error⟩

def viewIn? (tree : SyntaxTree) : Option TaskView :=
  match tree with
  | .list [_] => none
  | tree =>
    match tree.record? ["status", "error"] with
    | some [some status, error] => viewOf? status error
    | _ => none

theorem viewOf?_eq_some_iff {status : SyntaxTree} {error : Option SyntaxTree} {view : TaskView} :
    viewOf? status error = some view ↔
      ∃ cs, status = .string (some cs) ∧ view.status = String.ofList cs ∧
        taskError? error = some view.error := by
  obtain ⟨text, e⟩ := view
  constructor
  · intro h
    obtain ⟨said, hsaid, h⟩ := Option.bind_eq_some_iff.1 h
    obtain ⟨told, htold, h⟩ := Option.bind_eq_some_iff.1 h
    obtain ⟨cs, rfl, rfl⟩ := asText?_eq_some_iff.1 hsaid
    cases h
    exact ⟨cs, rfl, rfl, htold⟩
  · rintro ⟨cs, rfl, rfl, herror⟩
    simp only [viewOf?, SyntaxTree.asText?, herror]
    rfl

/-- What the members of an object say of the error of a task: nothing if none has that name. -/
theorem taskError?_bind_iff {members : List (Option (List Char) × SyntaxTree)}
    {error : Option ErrorBody} :
    (memberNamed? members "error").bind taskError? = some error ↔
      (members.filter (·.1 = some "error".toList) = [] ∧ error = none) ∨
        ∃ tree, HasMember members "error" tree ∧ IsTaskError tree error := by
  rw [Option.bind_eq_some_iff]
  constructor
  · rintro ⟨found, hfound, htold⟩
    cases found with
    | none =>
      left
      exact ⟨memberNamed?_eq_some_none_iff.1 hfound, (Option.some.inj htold).symm⟩
    | some tree =>
      right
      exact ⟨tree, memberNamed?_eq_some_some_iff.1 hfound, taskError?_eq_some_iff.1 htold⟩
  · rintro (⟨hnone, rfl⟩ | ⟨tree, htree, herror⟩)
    · exact ⟨none, memberNamed?_eq_some_none_iff.2 hnone, rfl⟩
    · exact ⟨some tree, memberNamed?_eq_some_some_iff.2 htree, taskError?_eq_some_iff.2 herror⟩

theorem viewIn?_object {members : List (Option (List Char) × SyntaxTree)}
    (hnames : ∀ m ∈ members, m.1 ≠ none) (view : TaskView) :
    viewIn? (.object members) = some view ↔
      ∃ cs, memberNamed? members "status" = some (some (.string (some cs))) ∧
        view.status = String.ofList cs ∧
        (memberNamed? members "error").bind taskError? = some view.error := by
  simp only [viewIn?, record?_object hnames, List.mapM_cons, List.mapM_nil]
  cases memberNamed? members "status" with
  | none => simp
  | some status =>
    cases memberNamed? members "error" with
    | none => simp
    | some error =>
      cases status with
      | none => simp
      | some status =>
        have hview : viewOf? status error = some view ↔ _ := viewOf?_eq_some_iff
        simpa using hview

theorem viewIn?_eq_some_iff {tree : SyntaxTree} {view : TaskView} :
    viewIn? tree = some view ↔ IsTaskView tree view := by
  constructor
  · intro h
    obtain ⟨status, error⟩ := view
    cases tree with
    | object members =>
      by_cases hnames : ∀ m ∈ members, m.1 ≠ none
      · obtain ⟨cs, hstatus, rfl, herror⟩ := (viewIn?_object hnames _).1 h
        exact .object hnames (memberNamed?_eq_some_some_iff.1 hstatus) (taskError?_bind_iff.1 herror)
      · simp only [viewIn?, record?_eq_none hnames] at h
        cases h
    | list items =>
      -- Both items have to be there.
      match items with
      | [] => cases h
      | [_] => cases h
      | [status, tree] =>
        obtain ⟨cs, rfl, rfl, htold⟩ := viewOf?_eq_some_iff.1 h
        exact .items (taskError?_eq_some_iff.1 htold)
      | _ :: _ :: _ :: _ => cases h
    | _ => cases h
  · intro h
    cases h with
    | object hnames hstatus herror =>
      refine (viewIn?_object hnames _).2 ⟨_, memberNamed?_eq_some_some_iff.2 hstatus, rfl, ?_⟩
      exact taskError?_bind_iff.2 herror
    | items herror => exact viewOf?_eq_some_iff.2 ⟨_, rfl, rfl, taskError?_eq_some_iff.2 herror⟩

/-- What is read as the number of a task is just what names one. -/
theorem taskOf?_eq_some_iff :
    taskOf? body = some task ↔
      ∃ tree, SyntaxTree.ofBytes? body = some tree ∧ NamesTask tree task := by
  have hread : taskOf? body = (SyntaxTree.ofBytes? body).bind taskIn? := rfl
  rw [hread, Option.bind_eq_some_iff]
  simp only [taskIn?_eq_some_iff]

theorem taskViewOf?_eq_some_iff {view : TaskView} :
    TaskView.ofBytes? body = some view ↔
      ∃ tree, SyntaxTree.ofBytes? body = some tree ∧ IsTaskView tree view := by
  have hread : TaskView.ofBytes? body = (SyntaxTree.ofBytes? body).bind viewIn? := rfl
  rw [hread, Option.bind_eq_some_iff]
  simp only [viewIn?_eq_some_iff]

def GivesBody (outcome : Web.Outcome) : Prop :=
  ∃ status body, Carries outcome status body ∧ Succeeds status

/-- The request gives no body: it ends without a success, or the body behind the success is broken off
or never comes to its end. -/
inductive GivesNothing : Web.Outcome → SearchFailure → Prop
  | failed {outcome : Web.Outcome} {e : SearchFailure} (hfails : FailsWith outcome e) :
      GivesNothing outcome e
  | cut {status : Nat} {sent : Web.Body} (hstatus : Succeeds status)
      (hsent : sent.after status = .cut) : GivesNothing (.answer status sent) broken
  | stalled {status : Nat} {sent : Web.Body} (hstatus : Succeeds status)
      (hsent : sent.after status = .stalled) : GivesNothing (.answer status sent) timedOut

theorem GivesNothing.content_eq {e : SearchFailure} (h : GivesNothing outcome e) :
    content outcome = .error e := by
  cases h with
  | failed hfails => exact content_of_accept_error hfails.accept_eq
  | cut hstatus hsent =>
    rw [content_of_accept (accept_of_succeeds hstatus), hsent]
    rfl
  | stalled hstatus hsent =>
    rw [content_of_accept (accept_of_succeeds hstatus), hsent]
    rfl

theorem exists_givesNothing (h : ¬ GivesBody outcome) : ∃ e, GivesNothing outcome e := by
  by_cases hsuccess : ReportsSuccess outcome
  · obtain ⟨status, sent, rfl, hstatus⟩ := exists_answer_of_reportsSuccess hsuccess
    cases hsent : sent.after status with
    | whole body => exact absurd ⟨status, body, ⟨sent, rfl, hsent⟩, hstatus⟩ h
    | cut => exact ⟨_, .cut hstatus hsent⟩
    | stalled => exact ⟨_, .stalled hstatus hsent⟩
  · obtain ⟨e, he⟩ := exists_failsWith hsuccess
    exact ⟨e, .failed he⟩

theorem content_eq_error_iff {e : SearchFailure} :
    content outcome = .error e ↔ GivesNothing outcome e := by
  refine ⟨fun h => ?_, GivesNothing.content_eq⟩
  by_cases hbody : GivesBody outcome
  · obtain ⟨status, body, hcarries, hstatus⟩ := hbody
    rw [content_eq_ok_iff.2 ⟨status, hcarries, hstatus⟩] at h
    cases h
  · obtain ⟨e', he'⟩ := exists_givesNothing hbody
    obtain rfl := Except.error.inj (he'.content_eq.symm.trans h)
    exact he'

theorem GivesNothing.unique {e e' : SearchFailure} (h : GivesNothing outcome e)
    (h' : GivesNothing outcome e') : e = e' :=
  Except.error.inj (h.content_eq.symm.trans h'.content_eq)

theorem GivesNothing.not_givesBody {e : SearchFailure} (h : GivesNothing outcome e) :
    ¬ GivesBody outcome := by
  rintro ⟨status, body, hcarries, hstatus⟩
  have hcontent := content_eq_ok_iff.2 ⟨status, hcarries, hstatus⟩
  rw [h.content_eq] at hcontent
  cases hcontent

def AcknowledgedAs (outcome : Web.Outcome) (task : Nat) : Prop :=
  ∃ status body tree, Carries outcome status body ∧ Succeeds status ∧
    SyntaxTree.ofBytes? body = some tree ∧ NamesTask tree task

def ShowsTask (outcome : Web.Outcome) (view : TaskView) : Prop :=
  ∃ status body tree, Carries outcome status body ∧ Succeeds status ∧
    SyntaxTree.ofBytes? body = some tree ∧ IsTaskView tree view

inductive TaskNews (task : Nat) : Web.Outcome → TaskReport → Prop
  | succeeded {outcome : Web.Outcome} {view : TaskView} (hview : ShowsTask outcome view)
      (hstatus : view.status = "succeeded") : TaskNews task outcome (.ended (.ok ()))
  | stopped {outcome : Web.Outcome} {view : TaskView} {e : ErrorBody} (hview : ShowsTask outcome view)
      (hstatus : view.status = "failed" ∨ view.status = "canceled") (herror : view.error = some e) :
      TaskNews task outcome (.ended (.error (.engineRejected e.code e.message)))
  | stoppedSilently {outcome : Web.Outcome} {view : TaskView} (hview : ShowsTask outcome view)
      (hstatus : view.status = "failed" ∨ view.status = "canceled") (herror : view.error = none) :
      TaskNews task outcome (.ended (.error
        (.engineRejected view.status ("task " ++ toString task ++ " was " ++ view.status))))
  /-- Any other status, known or not, means that the task has not ended. -/
  | underWay {outcome : Web.Outcome} {view : TaskView} (hview : ShowsTask outcome view)
      (hstatus : view.status ∉ ["succeeded", "failed", "canceled"]) : TaskNews task outcome .pending
  | unreadable {outcome : Web.Outcome} (hbody : GivesBody outcome)
      (hview : ∀ view, ¬ ShowsTask outcome view) : TaskNews task outcome (.ended (.error broken))
  | failed {outcome : Web.Outcome} {e : SearchFailure} (hnothing : GivesNothing outcome e) :
      TaskNews task outcome (.ended (.error e))

/-- Of an answer only its bytes say something about a task. -/
theorem acknowledgedAs_iff :
    AcknowledgedAs outcome task ↔ ∃ text, content outcome = .ok text ∧ taskOf? text = some task := by
  constructor
  · rintro ⟨status, text, tree, hcarries, hstatus, htree, htask⟩
    exact ⟨text, content_eq_ok_iff.2 ⟨status, hcarries, hstatus⟩,
      taskOf?_eq_some_iff.2 ⟨tree, htree, htask⟩⟩
  · rintro ⟨text, hcontent, htask⟩
    obtain ⟨status, hcarries, hstatus⟩ := content_eq_ok_iff.1 hcontent
    obtain ⟨tree, htree, hnames⟩ := taskOf?_eq_some_iff.1 htask
    exact ⟨status, text, tree, hcarries, hstatus, htree, hnames⟩

theorem showsTask_iff {view : TaskView} :
    ShowsTask outcome view ↔
      ∃ text, content outcome = .ok text ∧ TaskView.ofBytes? text = some view := by
  constructor
  · rintro ⟨status, text, tree, hcarries, hstatus, htree, hview⟩
    exact ⟨text, content_eq_ok_iff.2 ⟨status, hcarries, hstatus⟩,
      taskViewOf?_eq_some_iff.2 ⟨tree, htree, hview⟩⟩
  · rintro ⟨text, hcontent, hview⟩
    obtain ⟨status, hcarries, hstatus⟩ := content_eq_ok_iff.1 hcontent
    obtain ⟨tree, htree, hshows⟩ := taskViewOf?_eq_some_iff.1 hview
    exact ⟨status, text, tree, hcarries, hstatus, htree, hshows⟩

theorem succeeds_of_showsTask {status : Nat} {sent : Web.Body} {view : TaskView}
    (h : ShowsTask (.answer status sent) view) : Succeeds status := by
  obtain ⟨_, _, _, ⟨_, heq, -⟩, hstatus, -⟩ := h
  cases heq
  exact hstatus

/-- An answer that shows a task is read as this task. -/
theorem ofOutcome_of_showsTask {view : TaskView} (h : ShowsTask outcome view) :
    TaskReport.ofOutcome task outcome =
      if view.status = "succeeded" then .ended (.ok ())
      else if view.status = "failed" ∨ view.status = "canceled" then
        .ended (.error (taskFailure task view))
      else .pending := by
  obtain ⟨text, hcontent, hview⟩ := showsTask_iff.1 h
  simp only [TaskReport.ofOutcome, hcontent, hview]

theorem TaskNews.ofOutcome_eq {report : TaskReport} (h : TaskNews task outcome report) :
    TaskReport.ofOutcome task outcome = report := by
  -- The three words for an end are told apart.
  have hended : ∀ s : String, s = "failed" ∨ s = "canceled" → s ≠ "succeeded" := by
    rintro s (rfl | rfl) <;> decide
  cases h with
  | succeeded hview hstatus => rw [ofOutcome_of_showsTask hview, if_pos hstatus]
  | stopped hview hstatus herror =>
    rw [ofOutcome_of_showsTask hview, if_neg (hended _ hstatus), if_pos hstatus, taskFailure,
      herror]
  | stoppedSilently hview hstatus herror =>
    rw [ofOutcome_of_showsTask hview, if_neg (hended _ hstatus), if_pos hstatus, taskFailure,
      herror]
  | underWay hview hstatus =>
    simp only [List.mem_cons, List.not_mem_nil, or_false, not_or] at hstatus
    rw [ofOutcome_of_showsTask hview, if_neg hstatus.1, if_neg (not_or.2 hstatus.2)]
  | unreadable hbody hview =>
    obtain ⟨status, text, hcarries, hstatus⟩ := hbody
    have hcontent := content_eq_ok_iff.2 ⟨status, hcarries, hstatus⟩
    have hnone : TaskView.ofBytes? text = none :=
      Option.eq_none_iff_forall_ne_some.2 fun view h =>
        hview view (showsTask_iff.2 ⟨text, hcontent, h⟩)
    simp only [TaskReport.ofOutcome, hcontent, hnone]
  | failed hnothing => simp only [TaskReport.ofOutcome, hnothing.content_eq]

/-- Every end of a poll is news of the table. -/
theorem exists_taskNews (task : Nat) (outcome : Web.Outcome) :
    ∃ report, TaskNews task outcome report := by
  by_cases hbody : GivesBody outcome
  swap
  · obtain ⟨e, he⟩ := exists_givesNothing hbody
    exact ⟨_, .failed he⟩
  by_cases hview : ∃ view, ShowsTask outcome view
  swap
  · exact ⟨_, .unreadable hbody fun view h => hview ⟨view, h⟩⟩
  obtain ⟨view, hview⟩ := hview
  -- Of the two ends without success, each may come with an error or without one.
  by_cases hstatus : view.status = "failed" ∨ view.status = "canceled"
  · cases herror : view.error with
    | none => exact ⟨_, .stoppedSilently hview hstatus herror⟩
    | some e => exact ⟨_, .stopped hview hstatus herror⟩
  · by_cases hsucceeded : view.status = "succeeded"
    · exact ⟨_, .succeeded hview hsucceeded⟩
    · refine ⟨_, .underWay hview ?_⟩
      simp only [List.mem_cons, List.not_mem_nil, or_false, not_or]
      exact ⟨hsucceeded, not_or.1 hstatus⟩

theorem TaskNews.unique {report report' : TaskReport} (h : TaskNews task outcome report)
    (h' : TaskNews task outcome report') : report = report' :=
  h.ofOutcome_eq.symm.trans h'.ofOutcome_eq

/-- The end of a poll is read as just what it says of the task. -/
theorem ofOutcome_eq_iff {report : TaskReport} :
    TaskReport.ofOutcome task outcome = report ↔ TaskNews task outcome report := by
  refine ⟨fun h => ?_, TaskNews.ofOutcome_eq⟩
  obtain ⟨news, hnews⟩ := exists_taskNews task outcome
  rwa [hnews.ofOutcome_eq.symm.trans h] at hnews

end VariantSearch.Remote

import VariantSearch.Engine.Memory
import VariantSearch.Proofs.Tallies
import VariantSearch.Proofs.WatchedEngine

namespace VariantSearch

variable {σ : Type}

section Calls

variable [SearchEngine σ]

namespace EngineCall

def result (c : EngineCall) (engine : σ) : Except SearchFailure Unit :=
  match c with
  | createIndex indexUid primaryKey => (SearchEngine.createIndex indexUid primaryKey engine).1
  | updateSettings indexUid settings => (SearchEngine.updateSettings indexUid settings engine).1
  | addDocuments indexUid primaryKey documents =>
    (SearchEngine.addDocuments indexUid primaryKey documents engine).1
  | search indexUid query => (SearchEngine.search indexUid query engine).1.map fun _ => ()
  | health => (SearchEngine.health engine).1

def send (c : EngineCall) : Attempt σ Unit := fun engine => (c.result engine, c.perform engine)

def sendEach : List EngineCall → Attempt σ Unit
  | [] => pure ()
  | c :: more => do
    c.send
    sendEach more

/-- After a call that fails no other one is sent. -/
theorem sendEach_cons (c : EngineCall) (more : List EngineCall) (engine : σ) :
    sendEach (c :: more) engine =
      match c.result engine with
      | .ok () => sendEach more (c.perform engine)
      | .error e => (.error e, c.perform engine) := by
  change Attempt.andThen c.send (fun _ => sendEach more) engine = _
  unfold Attempt.andThen send
  cases c.result engine <;> rfl

/-- An engine with a plan of calls gets some of them: all that come before the first one that fails,
and this one, with whose failure the work ends. -/
inductive SentUpTo : σ → List EngineCall → List EngineCall → Except SearchFailure Unit → Prop where
  | done (engine : σ) : SentUpTo engine [] [] (.ok ())
  | failed {engine : σ} {c : EngineCall} {e : SearchFailure} (more : List EngineCall)
      (h : c.result engine = .error e) : SentUpTo engine (c :: more) [c] (.error e)
  | next {engine : σ} {c : EngineCall} {more made : List EngineCall}
      {result : Except SearchFailure Unit} (h : c.result engine = .ok ())
      (hmore : SentUpTo (c.perform engine) more made result) :
      SentUpTo engine (c :: more) (c :: made) result

namespace SentUpTo

variable {engine : σ} {planned made : List EngineCall} {result : Except SearchFailure Unit}

theorem isPrefix (h : SentUpTo engine planned made result) : made <+: planned := by
  induction h with
  | done engine => exact List.prefix_rfl
  | failed more h => exact ⟨more, rfl⟩
  | next h hmore ih => exact List.cons_prefix_cons.2 ⟨rfl, ih⟩

end SentUpTo

end EngineCall

namespace Variant

def pushCalls (v : Variant) : List EngineCall :=
  [.createIndex v.indexUid v.primaryKey, .updateSettings v.indexUid v.settings]

/-- The calls that an engine gets when a variant is pushed to it, with the result of the push. -/
inductive CallsFor (v : Variant) (engine : σ) :
    List EngineCall → Except SearchFailure Unit → Prop where
  | refused {e : SearchFailure} (h : v.check = .error e) : CallsFor v engine [] (.error e)
  | sent {made : List EngineCall} {result : Except SearchFailure Unit} (h : v.check = .ok ())
      (hsent : EngineCall.SentUpTo engine v.pushCalls made result) : CallsFor v engine made result

theorem CallsFor.isPrefix {v : Variant} {engine : σ} {made : List EngineCall}
    {result : Except SearchFailure Unit} (h : v.CallsFor engine made result) :
    made <+: v.pushCalls := by
  cases h with
  | refused h => exact List.nil_prefix
  | sent h hsent => exact hsent.isPrefix

end Variant

namespace Watched

theorem result_eq (c : EngineCall) (w : Watched σ) : c.result w = c.result w.engine := by
  cases c <;> rfl

def after (w : Watched σ) (made : List EngineCall) : Watched σ :=
  ⟨made.foldl EngineCall.perform w.engine, w.calls ++ made⟩

theorem after_nil (w : Watched σ) : w.after [] = w := by
  rw [after, List.append_nil]
  rfl

theorem after_cons (w : Watched σ) (c : EngineCall) (made : List EngineCall) :
    w.after (c :: made) = Watched.after ⟨c.perform w.engine, w.calls ++ [c]⟩ made := by
  simp only [after, List.foldl_cons, List.append_assoc, List.singleton_append]

/-- The calls that are noted are those that the plan and the answers ask for. -/
theorem exists_sentUpTo (planned : List EngineCall) (w : Watched σ) :
    ∃ made, EngineCall.SentUpTo w.engine planned made (EngineCall.sendEach planned w).1 ∧
      (EngineCall.sendEach planned w).2 = w.after made := by
  induction planned generalizing w with
  | nil => exact ⟨[], .done w.engine, w.after_nil.symm⟩
  | cons c more ih =>
    rw [EngineCall.sendEach_cons, result_eq, perform_eq]
    cases hc : c.result w.engine with
    | error e => exact ⟨[c], .failed more hc, rfl⟩
    | ok u =>
      obtain ⟨made, hmade, hafter⟩ := ih ⟨c.perform w.engine, w.calls ++ [c]⟩
      exact ⟨c :: made, .next hc hmade, by rw [hafter, after_cons]⟩

/-- Calls end as they do when the engine is not watched, and leave the same engine. -/
theorem sendEach_unwatched (planned : List EngineCall) (w : Watched σ) :
    (EngineCall.sendEach planned w).1 = (EngineCall.sendEach planned w.engine).1 ∧
      (EngineCall.sendEach planned w).2.engine = (EngineCall.sendEach planned w.engine).2 := by
  induction planned generalizing w with
  | nil => exact ⟨rfl, rfl⟩
  | cons c more ih =>
    rw [EngineCall.sendEach_cons, EngineCall.sendEach_cons, result_eq, perform_eq]
    cases c.result w.engine with
    | error e => exact ⟨rfl, rfl⟩
    | ok u => exact ih ⟨c.perform w.engine, w.calls ++ [c]⟩

end Watched

namespace Service

open Attempt

omit [SearchEngine σ] in
theorem bind_done (work : Attempt σ Unit) : (work >>= fun _ => pure ()) = work := by
  funext engine
  cases h : work engine with
  | mk result engine' =>
    cases result with
    | ok u => exact run_bind_of_ok h
    | error e => exact run_bind_of_error h

theorem push_of_refused {v : Variant} {e : SearchFailure} (h : v.check = .error e) (engine : σ) :
    push v engine = (.error e, engine) := by
  have hcheck : (ofExcept v.check : Attempt σ Unit).run engine = (.error e, engine) := by
    rw [run_ofExcept, h]
  exact run_bind_of_error hcheck

/-- A variant that meets its conditions is pushed by its calls. -/
theorem push_of_sound {v : Variant} (h : v.check = .ok ()) (engine : σ) :
    push v engine = EngineCall.sendEach v.pushCalls engine := by
  have hcheck : (ofExcept v.check : Attempt σ Unit).run engine = (.ok (), engine) := by
    rw [run_ofExcept, h]
  -- The plan ends with the empty one, which a push does not have behind its second call.
  have hlast : EngineCall.sendEach [.updateSettings v.indexUid v.settings] =
      (SearchEngine.updateSettings v.indexUid v.settings : Attempt σ Unit) := bind_done _
  have hcalls : EngineCall.sendEach v.pushCalls = (SearchEngine.createIndex v.indexUid v.primaryKey >>=
      fun _ => SearchEngine.updateSettings v.indexUid v.settings : Attempt σ Unit) := by
    rw [← hlast]
    rfl
  rw [hcalls]
  exact run_bind_of_ok hcheck

theorem exists_callsFor (v : Variant) (w : Watched σ) :
    ∃ made, v.CallsFor w.engine made (push v w).1 ∧ (push v w).2 = w.after made := by
  cases h : v.check with
  | error e =>
    rw [push_of_refused h]
    exact ⟨[], .refused h, w.after_nil.symm⟩
  | ok u =>
    obtain ⟨made, hmade, hafter⟩ := Watched.exists_sentUpTo v.pushCalls w
    rw [push_of_sound h]
    exact ⟨made, .sent h hmade, hafter⟩

theorem push_unwatched (v : Variant) (w : Watched σ) :
    (push v w).1 = (push v w.engine).1 ∧ (push v w).2.engine = (push v w.engine).2 := by
  cases h : v.check with
  | error e =>
    rw [push_of_refused h, push_of_refused h]
    exact ⟨rfl, rfl⟩
  | ok u =>
    rw [push_of_sound h, push_of_sound h]
    exact Watched.sendEach_unwatched v.pushCalls w

def unwatched (s : Service (Watched σ)) : Service σ :=
  ⟨s.engine.engine, s.registry, s.chains, s.metrics⟩

/-- Whether the engine is watched makes no difference to the rest of the service. -/
theorem apply_unwatched (name : String) (s : Service (Watched σ)) :
    apply name s.unwatched = ((apply name s).1, (apply name s).2.unwatched) := by
  cases h : s.registry.variant? name with
  | none =>
    have hunwatched : s.unwatched.registry.variant? name = none := h
    rw [apply_of_none h, apply_of_none hunwatched]
  | some v =>
    have hunwatched : s.unwatched.registry.variant? name = some v := h
    obtain ⟨hresult, hengine⟩ := push_unwatched v s.engine
    rw [apply_of_some h, apply_of_some hunwatched, hresult]
    simp only [noteApply, unwatched, hengine]

/-- What an attempt to push the variant of a name does to a service whose engine is watched. -/
structure Attempted (name : String) (v : Variant) (s : Service (Watched σ))
    (result : Except SearchFailure Unit) (s' : Service (Watched σ)) : Prop where
  /-- The calls are some of the planned ones from the first on, and they decide the result. -/
  calls : ∃ made, made <+: v.pushCalls ∧ v.CallsFor s.engine.engine made result ∧
    s'.engine = s.engine.after made
  registry_of_error : ∀ e, result = .error e → s'.registry = s.registry
  registry_of_ok : result = .ok () → s'.registry = s.registry.markConfigured name
  chains : s'.chains = s.chains
  applies : s'.metrics.applies.count [name, outcomeLabel result] =
    s.metrics.applies.count [name, outcomeLabel result] + 1
  otherApplies : ∀ labels, labelHash labels ≠ labelHash [name, outcomeLabel result] →
    s'.metrics.applies.count labels = s.metrics.applies.count labels
  counters : s'.metrics.firings = s.metrics.firings ∧ s'.metrics.timings = s.metrics.timings ∧
    s'.metrics.searches = s.metrics.searches

theorem attempted_apply {name : String} {v : Variant} {s : Service (Watched σ)}
    (h : s.registry.variant? name = some v) :
    Attempted name v s (apply name s).1 (apply name s).2 := by
  have happly := apply_of_some h
  refine ⟨?_, ?_, ?_, ?_, ?_, ?_, ?_⟩
  · rw [happly]
    obtain ⟨made, hcalls, hafter⟩ := exists_callsFor v s.engine
    exact ⟨made, hcalls.isPrefix, hcalls, hafter⟩
  · intro e herror
    rw [registry_apply, herror]
  · intro hok
    rw [registry_apply, hok]
  · rw [happly]
    rfl
  · have hcount := SampleFamily.count_increment s.metrics.applies
      [name, outcomeLabel (push v s.engine).1] [name, outcomeLabel (push v s.engine).1]
    rw [if_pos rfl] at hcount
    rwa [happly]
  · intro labels hne
    have hcount := SampleFamily.count_increment s.metrics.applies
      [name, outcomeLabel (apply name s).1] labels
    rw [if_neg hne.symm, Nat.add_zero] at hcount
    rw [happly] at hcount ⊢
    exact hcount
  · rw [happly]
    exact ⟨rfl, rfl, rfl⟩

/-- Over every engine a name that is not registered fails without a trace. An attempt to push any other
name makes calls as planned up to the first that fails, none if the check fails, ends with the failure
of the check or of the last call, changes the registry only if there is none, and is counted once. All
this is so whether or not the engine is watched. -/
theorem apply_makes_planned_calls (name : String) (s : Service (Watched σ)) :
    (s.registry.variant? name = none → apply name s = (.error (unknownVariant name), s)) ∧
      (∀ v, s.registry.variant? name = some v →
        Attempted name v s (apply name s).1 (apply name s).2) ∧
      apply name s.unwatched = ((apply name s).1, (apply name s).2.unwatched) := by
  refine ⟨apply_of_none, ?_, apply_unwatched name s⟩
  intro v hv
  exact attempted_apply hv

def afterLoss : Service (Watched Memory) :=
  (start ⟨Memory.fresh 1, []⟩).run
    [.register (.plain "v1"), .apply "v1",
      .incident fun w => ⟨w.engine.setAvailable false, w.calls⟩]

theorem apply_makes_planned_calls_afterLoss :
    afterLoss.registry.find? "v1" = some ⟨.plain "v1", .configured⟩ ∧
      Attempted "v1" (.plain "v1") afterLoss (.error Memory.unavailable)
        (apply "v1" afterLoss).2 ∧
      (apply "v1" afterLoss).2.engine.calls =
        (Variant.plain "v1").pushCalls ++ (Variant.plain "v1").pushCalls.take 1 ∧
      apply "v2" afterLoss = (.error (unknownVariant "v2"), afterLoss) := by
  have h := apply_makes_planned_calls "v1" afterLoss
  have hresult : (apply "v1" afterLoss).1 = .error Memory.unavailable := by decide +kernel
  refine ⟨by decide +kernel, ?_, by rfl, ?_⟩
  · rw [← hresult]
    exact h.2.1 (.plain "v1") (by decide +kernel)
  · exact (apply_makes_planned_calls "v2" afterLoss).1 (by decide +kernel)

end Service

end Calls

end VariantSearch

import VariantSearch.Failure

/-!
Work on a state that may fail. What was done before a failure stays done.
-/

namespace VariantSearch

def Attempt (σ α : Type) : Type := σ → Except SearchFailure α × σ

namespace Attempt

variable {σ τ α β : Type}

def run (work : Attempt σ α) (s : σ) : Except SearchFailure α × σ := work s

def andThen (first : Attempt σ α) (next : α → Attempt σ β) : Attempt σ β := fun s =>
  match first s with
  | (.ok a, s') => next a s'
  | (.error e, s') => (.error e, s')

instance : Monad (Attempt σ) where
  pure a := fun s => (.ok a, s)
  bind := andThen

def fail (e : SearchFailure) : Attempt σ α := fun s => (.error e, s)

def ofExcept : Except SearchFailure α → Attempt σ α
  | .ok a => pure a
  | .error e => fail e

def noting (work : Attempt σ α) (note : Except SearchFailure α → σ → σ) : Attempt σ α := fun s =>
  match work s with
  | (result, s') => (result, note result s')

def on (part : τ → σ) (put : σ → τ → τ) (work : Attempt σ α) : Attempt τ α := fun t =>
  match work (part t) with
  | (result, s) => (result, put s t)

theorem run_ofExcept (result : Except SearchFailure α) (s : σ) :
    (ofExcept result).run s = (result, s) := by
  cases result <;> rfl

/-- After a success the next work starts from the state that was reached. -/
theorem run_bind_of_ok {first : Attempt σ α} {next : α → Attempt σ β} {s s' : σ} {a : α}
    (h : first.run s = (.ok a, s')) : (first >>= next).run s = (next a).run s' := by
  show first.andThen next s = next a s'
  simp only [run] at h
  simp [andThen, h]

/-- After a failure there is no next work. -/
theorem run_bind_of_error {first : Attempt σ α} {next : α → Attempt σ β} {s s' : σ}
    {e : SearchFailure} (h : first.run s = (.error e, s')) :
    (first >>= next).run s = (.error e, s') := by
  show first.andThen next s = (.error e, s')
  simp only [run] at h
  simp [andThen, h]

end Attempt

end VariantSearch

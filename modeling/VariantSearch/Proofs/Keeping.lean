import VariantSearch.Attempt

namespace VariantSearch

/-- A relation on states that may be put together from the relations of single steps. -/
structure Kept {σ : Type} (R : σ → σ → Prop) : Prop where
  refl : ∀ s, R s s
  trans : ∀ s t u, R s t → R t u → R s u

theorem kept_forall {σ ι : Type} (Has : ι → σ → Prop) :
    Kept fun s s' => ∀ i, Has i s → Has i s' where
  refl _ _ h := h
  trans _ _ _ h h' i hi := h' i (h i hi)

namespace Attempt

variable {σ α β : Type} {R : σ → σ → Prop}

def Keeps (R : σ → σ → Prop) (work : Attempt σ α) : Prop := ∀ s, R s (work s).2

theorem keeps_pure (hR : Kept R) (a : α) : Keeps R (pure a : Attempt σ α) := fun s => hR.refl s

theorem keeps_ofExcept (hR : Kept R) (result : Except SearchFailure α) :
    Keeps R (ofExcept result : Attempt σ α) := by
  intro s
  cases result with
  | ok a => exact hR.refl s
  | error e => exact hR.refl s

/-- What both parts keep is kept by the whole, which may end after the first part. -/
theorem Keeps.bind (hR : Kept R) {first : Attempt σ α} {next : α → Attempt σ β}
    (hfirst : Keeps R first) (hnext : ∀ a, Keeps R (next a)) : Keeps R (first >>= next) := by
  intro s
  have hs := hfirst s
  change R s (first.andThen next s).2
  unfold andThen
  split
  · next a t ht =>
    rw [ht] at hs
    have hrest := hnext a t
    exact hR.trans s t _ hs hrest
  · next e t ht =>
    -- The state in which the first part failed is the last one.
    rwa [ht] at hs

end Attempt

end VariantSearch

/-!
Sets and maps of code points, given by ascending ranges.
-/

namespace VariantSearch.Text

def inRanges (c : Nat) : List (Nat × Nat) → Bool
  | [] => false
  | (lo, hi) :: rest => if c < lo then false else if c ≤ hi then true else inRanges c rest

/-- The code points `first, first + step, …, last`, moved to `target, target + step, …`. -/
structure ShiftRun where
  first : Nat
  last : Nat
  step : Nat
  target : Nat

/-- The image of a code point under ascending disjoint runs; a code point in no run stays. -/
def shift (c : Nat) : List ShiftRun → Nat
  | [] => c
  | run :: rest =>
    -- The runs ascend, so none of the later ones moves it.
    if c < run.first then c
    else if run.last < c then shift c rest
    else if (c - run.first) % run.step = 0 then run.target + (c - run.first)
    else c

end VariantSearch.Text

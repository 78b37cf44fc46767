/-!
Patterns of paths. The pattern that is literal for longest is taken; a tail comes last.
-/

namespace VariantSearch.Router

inductive Mark where
  | char (c : Char)
  | parameter
  | tail
deriving DecidableEq

abbrev Pattern := List Mark

inductive PatternFault where
  | unnamed
  | twoInOneSegment
  | misplacedTail
  | conflict
deriving DecidableEq

inductive Reading where
  | literal (before : Char)
  | parameterName (empty : Bool)
  | tailName (empty : Bool)

def readMarks : Reading → List Char → Except PatternFault Pattern
  | .literal _, [] => .ok []
  | .literal before, c :: rest =>
    if c = ':' then (readMarks (.parameterName true) rest).map (.parameter :: ·)
    else if c = '*' then
      -- A tail starts a segment.
      if before = '/' then (readMarks (.tailName true) rest).map (.tail :: ·)
      else .error .misplacedTail
    else (readMarks (.literal c) rest).map (.char c :: ·)
  | .parameterName empty, [] => if empty then .error .unnamed else .ok []
  | .parameterName empty, c :: rest =>
    -- A segment holds one parameter at most.
    if c = ':' ∨ c = '*' then .error .twoInOneSegment
    else if c = '/' then
      if empty then .error .unnamed else (readMarks (.literal '/') rest).map (.char '/' :: ·)
    else readMarks (.parameterName false) rest
  | .tailName empty, [] => if empty then .error .unnamed else .ok []
  | .tailName _, c :: rest =>
    if c = ':' ∨ c = '*' then .error .twoInOneSegment
    else if c = '/' then .error .misplacedTail
    else readMarks (.tailName false) rest

def Pattern.parse (s : String) : Except PatternFault Pattern := readMarks (.literal ' ') s.toList

def Pattern.conflicts : Pattern → Pattern → Bool
  | [], [] => true
  | a :: as, b :: bs =>
    -- Where they part, a literal character decides, but not a parameter against a tail.
    if a = b then Pattern.conflicts as bs
    else decide ((a = .parameter ∧ b = .tail) ∨ (a = .tail ∧ b = .parameter))
  | _, _ => false

structure Candidate (α : Type) where
  left : Pattern
  captured : List Char
  leadsTo : α

namespace Candidate

variable {α : Type}

def advance? (c : Char) (k : Candidate α) : Option (Candidate α) :=
  match k.left with
  | .char d :: left => if d = c then some { k with left } else none
  | _ => none

def enter? (c : Char) (k : Candidate α) : Option (Candidate α) :=
  match k.left with
  | .parameter :: left => some { k with left, captured := [c] }
  | _ => none

def isDone (k : Candidate α) : Bool := k.left.isEmpty

def isTail (k : Candidate α) : Bool := k.left == [.tail]

def capture (c : Char) (k : Candidate α) : Candidate α := { k with captured := k.captured ++ [c] }

end Candidate

/-- The candidate that a path leads to; the flag says whether the path is inside a parameter. -/
def choose {α : Type} : Bool → List (Candidate α) → List Char → Option (Candidate α)
  | _, candidates, [] => candidates.find? Candidate.isDone
  | true, candidates, c :: rest =>
    if c = '/' then choose false (candidates.filterMap (Candidate.advance? c)) rest
    else choose true (candidates.map (Candidate.capture c)) rest
  | false, candidates, c :: rest =>
    -- Literal text goes before a parameter, and a parameter before a tail.
    match choose false (candidates.filterMap (Candidate.advance? c)) rest with
    | some k => some k
    | none =>
      match if c = '/' then none
        else choose true (candidates.filterMap (Candidate.enter? c)) rest with
      | some k => some k
      | none => candidates.find? Candidate.isTail

end VariantSearch.Router

import VariantSearch.Failure
import VariantSearch.Text.Blank
import VariantSearch.Text.LowerCase
import VariantSearch.Text.Numeric
import VariantSearch.Text.Search
import VariantSearch.TextMap

/-!
Expansion of queries by chains of rules, each of which works on what the ones before it have left.
-/

namespace VariantSearch

inductive MatchMode where
  | substring
  | wholeWord
deriving DecidableEq

def isWordEdge (c : Char) : Bool := Text.isAlphanumeric c || c == '_'

def hasWordEdges (cs : List Char) : Bool := cs.head?.any isWordEdge && cs.getLast?.any isWordEdge

structure Expansion where
  name : String
  /-- What is looked for, in lower case and without blanks at its ends. -/
  trigger : List Char
  expansion : String
  mode : MatchMode
  trigger_ne : trigger ≠ []
  expansion_ne : expansion ≠ ""
  edges : mode = .wholeWord → hasWordEdges trigger = true

inductive RuleFault where
  | empty (name : String)
  | noWordEdges (name trigger : String)
deriving DecidableEq

def RuleFault.message : RuleFault → String
  | empty name => "rewrite rule `" ++ name ++ "` needs a non-empty trigger and expansion"
  | noWordEdges name trigger =>
    "rewrite rule `" ++ name ++ "`: token trigger `" ++ trigger ++
      "` must start and end with a word character"

def RuleFault.toFailure (f : RuleFault) : SearchFailure := .invalidConfiguration f.message

namespace Expansion

def normalizeTrigger (trigger : String) : List Char := Text.lower (Text.trim trigger.toList)

def make (name trigger expansion : String) (mode : MatchMode) : Except RuleFault Expansion :=
  let lowered := normalizeTrigger trigger
  let appended := Text.trimmed expansion
  if h : lowered ≠ [] ∧ appended ≠ "" then
    -- A trigger that starts or ends with no letter or digit is never a whole word.
    if he : mode = .wholeWord → hasWordEdges lowered = true then
      .ok ⟨name, lowered, appended, mode, h.1, h.2, he⟩
    else .error (.noWordEdges name (String.ofList lowered))
  else .error (.empty name)

def fires (rule : Expansion) (query : String) : Bool :=
  match rule.mode with
  | .substring => Text.occursIn rule.trigger (Text.lower query.toList)
  | .wholeWord => Text.wordIn rule.trigger query.toList

def apply (rule : Expansion) (query : String) : String := query ++ " " ++ rule.expansion

end Expansion

structure Expanded where
  text : String
  fired : List String
deriving DecidableEq

abbrev Chain := List Expansion

namespace Chain

def run : Chain → String → Expanded
  | [], text => ⟨text, []⟩
  | rule :: rest, text =>
    if rule.fires text then
      -- Later rules see what was appended.
      let expanded := run rest (rule.apply text)
      ⟨expanded.text, rule.name :: expanded.fired⟩
    else run rest text

end Chain

structure Chains where
  bound : TextMap Chain

namespace Chains

def empty : Chains := ⟨∅⟩

def bind (c : Chains) (name : String) (chain : Chain) : Chains := ⟨c.bound.insert name chain⟩

def chain? (c : Chains) (name : String) : Option Chain := c.bound.get? name

def expand (c : Chains) (name query : String) : Expanded := ((c.chain? name).getD []).run query

end Chains

end VariantSearch

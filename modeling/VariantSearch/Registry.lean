import VariantSearch.Variant

namespace VariantSearch

inductive VariantState where
  | unconfigured
  | configured
deriving DecidableEq

def VariantState.toText : VariantState → String
  | unconfigured => "unconfigured"
  | configured => "configured"

structure Registration where
  variant : Variant
  state : VariantState
deriving DecidableEq

structure Registry where
  entries : TextMap Registration
deriving DecidableEq

namespace Registry

def empty : Registry := ⟨∅⟩

def find? (r : Registry) (name : String) : Option Registration := r.entries.get? name

def variant? (r : Registry) (name : String) : Option Variant := (r.find? name).map (·.variant)

def state? (r : Registry) (name : String) : Option VariantState := (r.find? name).map (·.state)

/-- The state of a variant that takes the place of a registration: the old one if it is the same
variant. -/
def stateFor (old : Option Registration) (v : Variant) : VariantState :=
  match old with
  | some reg => if reg.variant = v then reg.state else .unconfigured
  | none => .unconfigured

def register (r : Registry) (v : Variant) : Registry :=
  ⟨r.entries.insert v.name ⟨v, stateFor (r.find? v.name) v⟩⟩

def markConfigured (r : Registry) (name : String) : Registry :=
  match r.find? name with
  | none => r
  | some reg => ⟨r.entries.insert name { reg with state := .configured }⟩

def names (r : Registry) : List String := r.entries.keys

def registrations (r : Registry) : List Registration := r.entries.values

def size (r : Registry) : Nat := r.entries.size

def configured (r : Registry) : List Variant :=
  (r.registrations.filter (·.state = .configured)).map (·.variant)

def appliedIndex? (r : Registry) (name : String) : Option String :=
  match r.find? name with
  | some ⟨v, .configured⟩ => some v.indexUid
  | _ => none

def isConfigured (r : Registry) (name : String) : Bool := r.state? name = some .configured

def summaries (r : Registry) : Json :=
  .list (r.entries.entries.map fun (name, reg) =>
    .ofMembers
      [("index_uid", .text reg.variant.indexUid), ("name", .text name),
        ("state", .text reg.state.toText)])

/-- Registering changes the registration of one name. -/
theorem find?_register (r : Registry) (v : Variant) (name : String) :
    (r.register v).find? name =
      if v.name = name then some ⟨v, stateFor (r.find? v.name) v⟩ else r.find? name :=
  TextMap.get?_insert _ _ _ _

/-- Marking a name changes the state of that name, if it is registered. -/
theorem find?_markConfigured (r : Registry) (name other : String) :
    (r.markConfigured name).find? other =
      if name = other then (r.find? other).map ({ · with state := .configured }) else r.find? other := by
  unfold markConfigured
  split
  · next h => by_cases hn : name = other <;> simp_all
  · next reg h =>
    simp only [find?, TextMap.get?_insert]
    by_cases hn : name = other
    · subst hn; simp only [find?] at h; simp [h]
    · simp [hn]

end Registry

end VariantSearch

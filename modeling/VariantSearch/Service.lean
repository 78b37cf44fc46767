import VariantSearch.Catalog
import VariantSearch.Metrics
import VariantSearch.Request
import VariantSearch.Variant.Check

namespace VariantSearch

structure Service (σ : Type) where
  engine : σ
  registry : Registry
  chains : Chains
  metrics : Metrics

namespace Service

variable {σ : Type}

def start (engine : σ) : Service σ := ⟨engine, .empty, .empty, .empty⟩

def asking {α : Type} (work : Attempt σ α) : Attempt (Service σ) α :=
  work.on Service.engine fun engine s => { s with engine }

def register (s : Service σ) (v : Variant) : Service σ := { s with registry := s.registry.register v }

def bind (s : Service σ) (name : String) (chain : Chain) : Service σ :=
  { s with chains := s.chains.bind name chain }

/-- Registers the variants of a catalog, and binds their chains in place of all that were bound. -/
def install (s : Service σ) (entries : List Catalog.Entry) : Service σ :=
  entries.foldl (fun s e => (s.register e.variant).bind e.variant.name e.chain)
    { s with chains := .empty }

def notApplied (name : String) : SearchFailure :=
  .indexNotFound ("configuration `" ++ name ++ "` has no applied index")

section Engine

variable [SearchEngine σ]

/-- Pushes the settings of a variant to its index, which is made if it does not exist. A variant that
breaks a condition is not sent. -/
def push (v : Variant) : Attempt σ Unit := do
  .ofExcept v.check
  SearchEngine.createIndex v.indexUid v.primaryKey
  SearchEngine.updateSettings v.indexUid v.settings

def noteApply (name : String) (result : Except SearchFailure Unit) (s : Service σ) : Service σ :=
  { s with
    metrics := s.metrics.countApply name (outcomeLabel result)
    registry :=
      match result with
      | .ok () => s.registry.markConfigured name
      -- A push that fails leaves the state of the name as it was.
      | .error _ => s.registry }

def apply (name : String) : Attempt (Service σ) Unit := fun s =>
  match s.registry.variant? name with
  | none => (.error (unknownVariant name), s)
  | some v => (asking (push v)).noting (noteApply name) s

def applyEach : List String → Attempt (Service σ) Unit
  | [] => pure ()
  | name :: more => do
    apply name
    applyEach more

def applyAll : Attempt (Service σ) Unit := fun s => applyEach s.registry.names s

def build (name : String) (p : SearchParameters) : Attempt (Service σ) SearchRequest := fun s =>
  match SearchRequest.build s.registry s.chains name p with
  | .error e => (.error e, s)
  | .ok (request, fired) => (.ok request, { s with metrics := s.metrics.countFirings name fired })

def dispatch (name : String) (request : SearchRequest) : Attempt (Service σ) Json := fun s =>
  match s.registry.appliedIndex? name with
  | none => (.error (notApplied name), s)
  | some indexUid =>
    -- Only searches that reach the engine are timed.
    (asking (SearchEngine.search indexUid request.toQuery)).noting
      (fun _ s => { s with metrics := s.metrics.countTiming name }) s

def execute (name : String) (request : SearchRequest) : Attempt (Service σ) Json :=
  (dispatch name request).noting fun result s =>
    { s with metrics := s.metrics.countSearch name (outcomeLabel result) }

def search (name : String) (p : SearchParameters) : Attempt (Service σ) Json := do
  execute name (← build name p)

def health : Attempt (Service σ) Unit := asking SearchEngine.health

def addBatches (indexUid primaryKey : String) : List (List Json) → Attempt σ Unit
  | [] => pure ()
  | batch :: more => do
    SearchEngine.addDocuments indexUid primaryKey batch
    addBatches indexUid primaryKey more

def fill {α : Type} (size : Nat) : Nat → List α → List α × List (List α)
  | _, [] => ([], [])
  | room + 1, a :: rest =>
    let (piece, more) := fill size room rest
    (a :: piece, more)
  -- The piece is full and the next one starts.
  | 0, a :: rest =>
    let (piece, more) := fill size (size - 1) rest
    ([], (a :: piece) :: more)

/-- The items in order, cut into pieces of a given size, of which only the last may be shorter. A
size of zero counts as one. -/
def chunks {α : Type} (size : Nat) : List α → List (List α)
  | [] => []
  | a :: rest =>
    let (piece, more) := fill size (size - 1) rest
    (a :: piece) :: more

theorem flatten_fill {α : Type} (size room : Nat) (l : List α) :
    (fill size room l).1 ++ (fill size room l).2.flatten = l := by
  induction l generalizing room with
  | nil => cases room <;> rfl
  | cons a rest ih => cases room <;> simp [fill, ih]

/-- Cutting loses nothing. -/
theorem flatten_chunks {α : Type} (size : Nat) (l : List α) : (chunks size l).flatten = l := by
  cases l with
  | nil => rfl
  | cons a rest => simp [chunks, flatten_fill]

def seedEach (documents : List Json) (batchSize : Nat) : List Variant → Attempt σ (TextMap Nat)
  | [] => pure ∅
  | v :: more => do
    addBatches v.indexUid v.primaryKey (chunks batchSize documents)
    let rest ← seedEach documents batchSize more
    -- Two names with one index count once.
    pure (rest.insert v.indexUid documents.length)

/-- Gives the documents to the index of every configured variant in ascending order of the names, and
says how many were given to each index. -/
def seed (documents : List Json) (batchSize : Nat) : Attempt (Service σ) (TextMap Nat) := fun s =>
  asking (seedEach documents batchSize s.registry.configured) s

end Engine

end Service

end VariantSearch

import VariantSearch.Text.Integer
import VariantSearch.Text.Split

/-!
Arguments, with options by a long name or a letter.
-/

namespace VariantSearch.CommandLine

inductive Command where
  | search (variant query : String) (facets sort : Option String) (page limit : Int)
  | compare (query : String) (facets : Option String) (limit : Int) (variants : List String)
  | configurations
  | health
  | version
deriving DecidableEq

structure OptionName where
  letter : Char
  long : String
deriving DecidableEq

def isValue (argument : String) : Bool := argument == "-" || argument.toList.head? != some '-'

inductive Reading where
  | complete (option : OptionName) (value : String)
  | awaiting (option : OptionName)
  | unknown
  | other

def Reading.ofOption : Option OptionName → Option (List Char) → Reading
  | some option, some value => .complete option (String.ofList value)
  | some option, none => .awaiting option
  | none, _ => .unknown

def Reading.ofArgument (names : List OptionName) (argument : String) : Reading :=
  match argument.toList with
  -- A single dash is a value, and two of them end the options.
  | ['-'] | ['-', '-'] => .other
  | '-' :: '-' :: name =>
    match Text.cutFirst? '=' name with
    | some (long, value) => .ofOption (names.find? (·.long.toList == long)) (some value)
    | none => .ofOption (names.find? (·.long.toList == name)) none
  | '-' :: letter :: attached =>
    -- The equals sign behind a letter is left out of the value.
    let value := match attached with
      | [] => none
      | '=' :: value => some value
      | value => some value
    .ofOption (names.find? (·.letter == letter)) value
  | _ => .other

/-- The options of a command in their order, each with its value, and the arguments from the first
that is none. There is no result if an option is unknown or has no value. The first argument may be
the value of an option that waits for it. -/
def readOptions? (names : List OptionName) :
    Option OptionName → List String → Option (List (OptionName × String) × List String)
  | none, [] => some ([], [])
  | some _, [] => none
  | some option, value :: rest =>
    -- What looks like an option is no value, not even a negative number.
    if isValue value then
      (readOptions? names none rest).map fun (more, left) => ((option, value) :: more, left)
    else none
  | none, argument :: rest =>
    match Reading.ofArgument names argument with
    | .complete option value =>
      (readOptions? names none rest).map fun (more, left) => ((option, value) :: more, left)
    | .awaiting option => readOptions? names (some option) rest
    | .unknown => none
    | .other => some ([], argument :: rest)

def single? (options : List (OptionName × String)) (letter : Char) : Option (Option String) :=
  match options.filter (·.1.letter == letter) with
  | [] => some none
  | [(_, value)] => some (some value)
  | _ => none

def integerOr? (standard : Int) : Option String → Option Int
  | none => some standard
  | some value => (Text.Integer.parse value.toList).toOption

def allOptions? (names : List OptionName) (arguments : List String) :
    Option (List (OptionName × String)) :=
  match readOptions? names none arguments with
  | some (options, []) | some (options, ["--"]) => some options
  | _ => none

def queryOption : OptionName := ⟨'q', "q"⟩

def facetsOption : OptionName := ⟨'f', "facets"⟩

def limitOption : OptionName := ⟨'l', "limit"⟩

def searchCommand? (arguments : List String) : Option Command := do
  let options ← allOptions?
    [⟨'c', "config"⟩, queryOption, facetsOption, ⟨'s', "sort"⟩, ⟨'p', "page"⟩, limitOption] arguments
  return .search ((← single? options 'c').getD "v1") ((← single? options 'q').getD "")
    (← single? options 'f') (← single? options 's') (← integerOr? 1 (← single? options 'p'))
    (← integerOr? 20 (← single? options 'l'))

def namesOf (value : String) : List String := (Text.pieces ',' value.toList).map String.ofList

def compareCommand? (arguments : List String) : Option Command := do
  let options ← allOptions? [queryOption, facetsOption, limitOption, ⟨'c', "configs"⟩] arguments
  let given := (options.filter (·.1.letter == 'c')).flatMap fun (_, value) => namesOf value
  return .compare ((← single? options 'q').getD "") (← single? options 'f')
    (← integerOr? 10 (← single? options 'l')) (if given.isEmpty then ["v1", "v2"] else given)

def plainCommand? (command : Command) (arguments : List String) : Option Command :=
  (allOptions? [] arguments).map fun _ => command

def command? : List String → Option Command
  | "search" :: rest => searchCommand? rest
  | "compare" :: rest => compareCommand? rest
  | "configs" :: rest => plainCommand? .configurations rest
  | "health" :: rest => plainCommand? .health rest
  | _ => none

def asksVersion (argument : String) : Bool :=
  argument == "--version" || "-V".toList.isPrefixOf argument.toList

/-- The arguments before the first that asks for the version, if there is one before the command. -/
def beforeVersion? : List String → Option (List String)
  | [] => none
  | argument :: rest =>
    if asksVersion argument then some []
    else if argument = "-e" ∨ argument = "--endpoint" then
      match rest with
      | [] => none
      | value :: rest => (beforeVersion? rest).map fun before => argument :: value :: before
    else if argument.toList.head? = some '-' then (beforeVersion? rest).map (argument :: ·)
    else none

def parse? (arguments : List String) : Option (Option String × Command) := do
  let names := [OptionName.mk 'e' "endpoint"]
  match beforeVersion? arguments with
  | some before =>
    let options ← allOptions? names before
    return (← single? options 'e', .version)
  | none =>
    let (options, rest) ← readOptions? names none arguments
    return (← single? options 'e', ← command? rest)

end VariantSearch.CommandLine

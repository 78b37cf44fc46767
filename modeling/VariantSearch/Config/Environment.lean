import VariantSearch.Config
import VariantSearch.Text.Integer
import VariantSearch.Toml.Document

namespace VariantSearch

abbrev Environment := List (String × String)

namespace Environment

def marker : String := "search_ab__"

def dotted : List Char → List Char
  | '_' :: '_' :: rest => '.' :: dotted rest
  | c :: rest => c :: dotted rest
  | [] => []

def keyOf? (name : String) : Option String :=
  let cs := Text.lower name.toList
  if marker.toList.isPrefixOf cs then some (String.ofList (dotted (cs.drop marker.length))) else none

def valueOf (s : String) : Config.Tree :=
  match Config.Tree.lowered s with
  | "true" => .bool true
  | "false" => .bool false
  | _ =>
    -- A number is taken for an integer if it can be one.
    match Text.Integer.parse s.toList with
    | .ok n => .integer n
    | .error _ =>
      match Extended64.parse? s.toList with
      | some x => .float x
      | none => .text s

def source (env : Environment) : List (String × Config.Tree) :=
  env.filterMap fun (name, value) => (keyOf? name).map (·, valueOf value)

def find? (env : Environment) (name : String) : Option String := env.lookup name

end Environment

namespace Config

def load? (file : Option String) (env : Environment) : Option Config := do
  let fromFile ← match file with
    | none => some []
    | some s => Toml.parse? s
  ofTree? (.table (Tree.layer (Tree.layer (Tree.layer [] defaults) fromFile) env.source))

end Config

def EngineConfig.apiKey? (c : EngineConfig) (env : Environment) : Option String :=
  match c.apiKeyVariable.bind env.find? with
  | some "" => none
  | key => key

end VariantSearch

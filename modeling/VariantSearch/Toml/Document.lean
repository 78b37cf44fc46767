import VariantSearch.Toml.Scalar

/-!
TOML documents: lines that assign values to keys, under headers that name tables.
-/

namespace VariantSearch.Toml

open Config (Tree)

inductive Item where
  | value (tree : Tree)
  /-- A table, with whether it was only named so far, and whether dots in a key made it. -/
  | table (implied dotted : Bool) (entries : List (String × Item))
  | tables (latest : List (String × Item)) (earlier : List (List (String × Item)))

abbrev Entries := List (String × Item)

def Entries.put (key : String) (item : Item) : Entries → Entries
  | [] => [(key, item)]
  | (k, i) :: rest => if k = key then (k, item) :: rest else (k, i) :: Entries.put key item rest

/-- Changes the table at a path, of which missing parts are made. With dots, tables that were defined
by a header cannot be entered. -/
def changeAt (dotted : Bool) (change : Bool → Entries → Option Entries) :
    List String → Bool → Entries → Option Entries
  | [], isDotted, entries => change isDotted entries
  | key :: more, _, entries =>
    match TextMap.lookup key entries with
    | none =>
      (changeAt dotted change more dotted []).map fun es => Entries.put key (.table true dotted es) entries
    | some (.table implied isDotted es) =>
      -- Keys with dots do not reach into a table that a header defined.
      if dotted && !implied then none
      else
        (changeAt dotted change more isDotted es).map fun es =>
          Entries.put key (.table implied isDotted es) entries
    | some (.tables latest earlier) =>
      (changeAt dotted change more false latest).map fun es =>
        Entries.put key (.tables es earlier) entries
    | some (.value _) => none

def addNew (key : String) (item : Item) (entries : Entries) : Option Entries :=
  match TextMap.lookup key entries with
  | some _ => none
  | none => some (entries ++ [(key, item)])

def assign (path : List String) (tree : Tree) (entries : Entries) : Option Entries :=
  match path.getLast? with
  | none => none
  | some key =>
    let parents := path.dropLast
    -- A table that dots made grows by keys with dots only, and every other table by plain keys.
    changeAt true
      (fun isDotted es =>
        if isDotted == parents.isEmpty then none else addNew key (.value tree) es)
      parents false entries

def openTable (key : String) (entries : Entries) : Option Entries :=
  match TextMap.lookup key entries with
  | none => some (Entries.put key (.table false false []) entries)
  | some (.table true false es) => some (Entries.put key (.table false false es) entries)
  | some _ => none

def pushTable (key : String) (entries : Entries) : Option Entries :=
  match TextMap.lookup key entries with
  | none => some (Entries.put key (.tables [] []) entries)
  | some (.tables latest earlier) => some (Entries.put key (.tables [] (latest :: earlier)) entries)
  | some _ => none

def underHeader (header : List String) (change : Entries → Option Entries) (entries : Entries) :
    Option Entries :=
  changeAt false (fun _ es => change es) header false entries

mutual

def Item.toTree : Item → Tree
  | .value tree => tree
  | .table _ _ entries => .table (entriesToTrees entries)
  | .tables latest earlier => .list ((earlierToTrees earlier).reverse ++ [.table (entriesToTrees latest)])

def entriesToTrees : List (String × Item) → List (String × Tree)
  | [] => []
  | (key, item) :: more => (key, item.toTree) :: entriesToTrees more

def earlierToTrees : List (List (String × Item)) → List Tree
  | [] => []
  | entries :: more => .table (entriesToTrees entries) :: earlierToTrees more

end

mutual

def value? : Nat → List Char → Option (Tree × List Char)
  | 0, _ => none
  | bound + 1, cs =>
    match cs with
    | '[' :: rest => (items? bound (skipFiller rest)).map fun (items, rest) => (.list items, rest)
    | '\x7b' :: rest =>
      match skipBlanks rest with
      | '\x7d' :: rest => some (.table [], rest)
      | rest => (inline? bound [] rest).map fun (es, rest) => (.table (entriesToTrees es), rest)
    | _ => scalar? cs

def items? : Nat → List Char → Option (List Tree × List Char)
  | 0, _ => none
  | bound + 1, cs =>
    match cs with
    | ']' :: rest => some ([], rest)
    | _ => do
      let (item, rest) ← value? bound cs
      match skipFiller rest with
      | ']' :: rest => return ([item], rest)
      | ',' :: rest => (items? bound (skipFiller rest)).map fun (more, rest) => (item :: more, rest)
      | _ => none

def inline? : Nat → Entries → List Char → Option (Entries × List Char)
  | 0, _, _ => none
  | bound + 1, entries, cs => do
    let (path, rest) ← key? cs
    match rest with
    | '=' :: rest =>
      let (tree, rest) ← value? bound (skipBlanks rest)
      -- A key that was given before is refused.
      let entries ← assign path tree entries
      match skipBlanks rest with
      | '\x7d' :: rest => return (entries, rest)
      | ',' :: rest => inline? bound entries rest
      | _ => none
    | _ => none

end

structure Draft where
  entries : Entries
  header : List String

def header? (list : Bool) (doc : Draft) (cs : List Char) : Option (Draft × List Char) := do
  let (path, rest) ← key? cs
  let rest ← match list, rest with
    | false, ']' :: rest => some rest
    | true, ']' :: ']' :: rest => some rest
    | _, _ => none
  let key ← path.getLast?
  let change := if list then pushTable key else openTable key
  -- The tables on the way are made if they are missing.
  let entries ← underHeader path.dropLast change doc.entries
  return (⟨entries, path⟩, ← lineEnd? rest)

def assignment? (doc : Draft) (cs : List Char) : Option (Draft × List Char) := do
  let (path, rest) ← key? cs
  match rest with
  | '=' :: rest =>
    -- The bound is never reached, since every level takes a character.
    let (tree, rest) ← value? (2 * rest.length + 2) (skipBlanks rest)
    let entries ← underHeader doc.header (assign path tree) doc.entries
    return ({ doc with entries }, ← lineEnd? rest)
  | _ => none

def lines? : Nat → Draft → List Char → Option Draft
  | 0, doc, cs => if (skipFiller cs).isEmpty then some doc else none
  | bound + 1, doc, cs =>
    match skipFiller cs with
    | [] => some doc
    | '[' :: '[' :: rest => do
      let (doc, rest) ← header? true doc rest
      lines? bound doc rest
    | '[' :: rest => do
      let (doc, rest) ← header? false doc rest
      lines? bound doc rest
    | cs => do
      let (doc, rest) ← assignment? doc cs
      lines? bound doc rest

def parse? (s : String) : Option (List (String × Tree)) :=
  let cs := match s.toList with
    | '\uFEFF' :: rest => rest
    | cs => cs
  (lines? cs.length ⟨[], []⟩ cs).map fun doc => entriesToTrees doc.entries

end VariantSearch.Toml

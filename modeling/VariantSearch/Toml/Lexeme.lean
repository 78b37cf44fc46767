import VariantSearch.Json.Parser

namespace VariantSearch.Toml

def isBlank (c : Char) : Bool := c == ' ' || c == '\t'

def skipBlanks (cs : List Char) : List Char := cs.dropWhile isBlank

def isPlain (c : Char) : Bool := c == '\t' || (0x20 ≤ c.toNat && c.toNat != 0x7F)

def lineBreak? : List Char → Option (List Char)
  | '\n' :: rest => some rest
  | '\r' :: '\n' :: rest => some rest
  | _ => none

def skipComment : List Char → List Char
  | '#' :: rest => rest.dropWhile isPlain
  | cs => cs

def lineEnd? (cs : List Char) : Option (List Char) :=
  match skipComment (skipBlanks cs) with
  | [] => some []
  | rest => lineBreak? rest

/-- The text without leading blanks, comments and line breaks, of which there are at most as many as
the bound says. -/
def skipLines : Nat → List Char → List Char
  | 0, cs => cs
  | bound + 1, cs =>
    let rest := skipComment (skipBlanks cs)
    match lineBreak? rest with
    | some rest => skipLines bound rest
    | none => rest

def skipFiller (cs : List Char) : List Char := skipLines cs.length cs

def hexValue? (cs : List Char) : Option Nat :=
  cs.foldlM (fun n c => (Json.hexValue? (some c)).map (n * 16 + ·)) 0

def codePoint? (digits : List Char) : Option Char := do
  let n ← hexValue? digits
  if n < 0xD800 ∨ (0xDFFF < n ∧ n < 0x110000) then some (Char.ofNat n) else none

def escape? : List Char → Option (Char × List Char)
  | 'b' :: rest => some ('\x08', rest)
  | 't' :: rest => some ('\t', rest)
  | 'n' :: rest => some ('\n', rest)
  | 'f' :: rest => some ('\x0c', rest)
  | 'r' :: rest => some ('\r', rest)
  | '"' :: rest => some ('"', rest)
  | '\\' :: rest => some ('\\', rest)
  | 'u' :: rest =>
    if rest.length < 4 then none else (codePoint? (rest.take 4)).map (·, rest.drop 4)
  | 'U' :: rest =>
    if rest.length < 8 then none else (codePoint? (rest.take 8)).map (·, rest.drop 8)
  | _ => none

def skipSpace : List Char → List Char
  | [] => []
  | '\r' :: '\n' :: rest => skipSpace rest
  | c :: rest => if isBlank c || c == '\n' then skipSpace rest else c :: rest

def continuation? (cs : List Char) : Option (List Char) :=
  (lineBreak? (skipBlanks cs)).map skipSpace

def basic? : Nat → List Char → Option (List Char × List Char)
  | 0, _ => none
  | bound + 1, cs =>
    match cs with
    | [] => none
    | '"' :: rest => some ([], rest)
    | '\\' :: rest => do
      let (c, rest) ← escape? rest
      let (more, rest) ← basic? bound rest
      return (c :: more, rest)
    | c :: rest =>
      if isPlain c then (basic? bound rest).map fun (more, rest) => (c :: more, rest) else none

def literal? (cs : List Char) : Option (List Char × List Char) :=
  let content := cs.takeWhile fun c => c != '\'' && isPlain c
  match cs.drop content.length with
  | '\'' :: rest => some (content, rest)
  | _ => none

/-- The quotes at the front of a text of several lines, which may end with one or two quotes before
the three that close it: the quotes that belong to the text, and the rest if it is closed. -/
def closing (quote : Char) (cs : List Char) : List Char × Option (List Char) :=
  let run := (cs.takeWhile (· == quote)).length
  if run < 3 then (List.replicate run quote, none)
  else if run ≤ 5 then (List.replicate (run - 3) quote, some (cs.drop run))
  else ([quote, quote], some (cs.drop 5))

def multiline? (quote : Char) : Nat → List Char → Option (List Char × List Char)
  | 0, _ => none
  | bound + 1, cs =>
    match cs with
    | [] => none
    | c :: rest =>
      if c = quote then
        -- Fewer than three quotes are part of the text, and so are up to two in front of the last
        -- three.
        match closing quote cs with
        | (content, some rest) => some (content, rest)
        | (content, none) =>
          (multiline? quote bound (cs.drop content.length)).map fun (more, rest) =>
            (content ++ more, rest)
      -- Only between double quotes are there escapes.
      else if c = '\\' ∧ quote = '"' then
        match continuation? rest with
        | some rest => multiline? quote bound rest
        | none => do
          let (e, rest) ← escape? rest
          let (more, rest) ← multiline? quote bound rest
          return (e :: more, rest)
      else
        match lineBreak? cs with
        | some rest => (multiline? quote bound rest).map fun (more, rest) => ('\n' :: more, rest)
        | none =>
          if isPlain c then
            (multiline? quote bound rest).map fun (more, rest) => (c :: more, rest)
          else none

def afterOpening (cs : List Char) : List Char := (lineBreak? cs).getD cs

def string? (cs : List Char) : Option (String × List Char) :=
  let asString := fun (p : List Char × List Char) => (String.ofList p.1, p.2)
  match cs with
  | '"' :: '"' :: '"' :: rest => (multiline? '"' (rest.length + 1) (afterOpening rest)).map asString
  | '\'' :: '\'' :: '\'' :: rest =>
    (multiline? '\'' (rest.length + 1) (afterOpening rest)).map asString
  | '"' :: rest => (basic? (rest.length + 1) rest).map asString
  | '\'' :: rest => (literal? rest).map asString
  | _ => none

def isKeyChar (c : Char) : Bool := c.isAlphanum || c == '_' || c == '-'

def keyPart? (cs : List Char) : Option (String × List Char) :=
  match cs with
  | '"' :: rest => (basic? (rest.length + 1) rest).map fun p => (String.ofList p.1, p.2)
  | '\'' :: rest => (literal? rest).map fun p => (String.ofList p.1, p.2)
  | _ =>
    let name := cs.takeWhile isKeyChar
    if name.isEmpty then none else some (String.ofList name, cs.drop name.length)

def keyWithin? : Nat → List Char → Option (List String × List Char)
  | 0, _ => none
  | bound + 1, cs => do
    let (part, rest) ← keyPart? (skipBlanks cs)
    match skipBlanks rest with
    | '.' :: rest => (keyWithin? bound rest).map fun (more, rest) => (part :: more, rest)
    | rest => return ([part], rest)

def key? (cs : List Char) : Option (List String × List Char) := keyWithin? (cs.length + 1) cs

end VariantSearch.Toml

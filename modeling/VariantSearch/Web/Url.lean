import VariantSearch.Text.LowerCase
import VariantSearch.Web.Form

/-!
Addresses of the schemes `http` and `https`.
-/

namespace VariantSearch.Web

structure Url where
  /-- Whether the scheme is `https`. -/
  secure : Bool
  host : List Char
  portNumber : Nat
  path : List Char
  query : Option (List Char)
deriving DecidableEq

namespace Url

def isControlOrSpace (c : Char) : Bool := c.toNat ≤ 0x20

def clean (cs : List Char) : List Char :=
  let trimmed := ((cs.dropWhile isControlOrSpace).reverse.dropWhile isControlOrSpace).reverse
  trimmed.filter fun c => c != '\t' && c != '\n' && c != '\r'

def isVisible (c : Char) : Bool := 0x20 < c.toNat && c.toNat < 0x7F

def keepInPath (c : Char) : Bool := isVisible c && !"\"#<>?`\x7b\x7d".toList.contains c

def keepInQuery (c : Char) : Bool := isVisible c && !"\"#<>'".toList.contains c

def isSlash (c : Char) : Bool := c == '/' || c == '\\'

def segments : List Char → List (List Char) := fun cs =>
  Text.pieces '/' (cs.map fun c => if c = '\\' then '/' else c)

def plainDots : List Char → List Char
  | '%' :: '2' :: c :: rest =>
    if c = 'e' ∨ c = 'E' then '.' :: plainDots rest else '%' :: '2' :: c :: plainDots rest
  | c :: rest => c :: plainDots rest
  | [] => []

/-- Puts a segment after the ones before it, which stand in reverse. A single dot stands for no
segment and a double dot takes one back; at the end of a path they leave an empty segment. -/
def place (before : List (List Char)) (segment : List Char) (isLast : Bool) : List (List Char) :=
  let dots := plainDots segment
  if dots = ['.', '.'] then if isLast then [] :: before.drop 1 else before.drop 1
  else if dots = ['.'] then if isLast then [] :: before else before
  else segment :: before

def resolve (before : List (List Char)) : List (List Char) → List (List Char)
  | [] => before.reverse
  | [last] => (place before last true).reverse
  | segment :: more => resolve (place before segment false) more

def pathOf (cs : List Char) : List Char :=
  let cs := if cs.head?.any isSlash then cs.drop 1 else cs
  '/' :: Text.joined '/' (resolve [] ((segments cs).map (Percent.encode keepInPath)))

def tailOf (cs : List Char) : List Char × Option (List Char) :=
  let sent := cs.takeWhile (· != '#')
  match Text.cutFirst? '?' sent with
  | none => (pathOf sent, none)
  | some (path, query) => (pathOf path, some (Percent.encode keepInQuery query))

def standardNumber (secure : Bool) : Nat := if secure then 443 else 80

def portNumber? (cs : List Char) : Option Nat :=
  if cs.all Char.isDigit then
    let n := cs.foldl (fun n c => n * 10 + (c.toNat - '0'.toNat)) 0
    if n < UInt16.size then some n else none
  else none

def isForbiddenInHost (c : Char) : Bool :=
  isControlOrSpace c || c.toNat == 0x7F || "#/:<>?@[\\]^|%".toList.contains c

def isNumberText (cs : List Char) : Bool :=
  (!cs.isEmpty && cs.all Char.isDigit) ||
    match cs with
    -- Hexadecimal parts count as numbers as well.
    | '0' :: x :: rest =>
      (x == 'x' || x == 'X') && rest.all fun c => c.isDigit || ('a' ≤ c.toLower && c.toLower ≤ 'f')
    | _ => false

def numberValue? (cs : List Char) : Option Nat :=
  let read (base : Nat) (digits : List Char) : Option Nat :=
    digits.foldlM (fun n c =>
      let d := if c.isDigit then c.toNat - 48 else c.toLower.toNat - 87
      if d < base then some (n * base + d) else none) 0
  match cs with
  | '0' :: x :: rest => if x = 'x' ∨ x = 'X' then read 16 rest else read 8 (x :: rest)
  | digits => read 10 digits

/-- Whether the parts of a host that ends in a number form a network address. -/
def isNetworkAddress (parts : List (List Char)) : Bool :=
  parts.length ≤ 4 &&
    match parts.mapM numberValue? with
    | none => false
    | some ns =>
      -- The last part fills all bytes that are left.
      ns.dropLast.all (· < 256) && ns.getLast?.all (· < Nat.pow 256 (5 - parts.length))

inductive Fault where
  | relative
  | scheme
  | emptyHost
  | bracketed
  | networkAddress
  /-- The name of the host holds a character that it may not hold. -/
  | hostName
  | portNumber
deriving DecidableEq

def Fault.message : Fault → String
  | relative => "relative URL without a base"
  | scheme => "URL scheme is not allowed"
  | emptyHost => "empty host"
  | bracketed => "invalid IPv6 address"
  | networkAddress => "invalid IPv4 address"
  | hostName => "invalid international domain name"
  | portNumber => "invalid port number"

def isBracketed (rest : List Char) : Bool :=
  rest.getLast? == some ']' && rest.contains ':' &&
    rest.dropLast.all fun c => c.isDigit || c == ':' || c == '.' || ('a' ≤ c && c ≤ 'f')

def hostParts (host : List Char) : List (List Char) :=
  let parts := Text.pieces '.' host
  if parts.getLast? = some [] ∧ 1 < parts.length then parts.dropLast else parts

def hostFault? (host : List Char) : Option Fault :=
  match host with
  | [] => some .emptyHost
  | '[' :: rest => if isBracketed rest then none else some .bracketed
  | _ =>
    let parts := hostParts host
    if host.any isForbiddenInHost then some .hostName
    else if parts.getLast?.any isNumberText && !isNetworkAddress parts then some .networkAddress
    else none

def hostAndNumber (cs : List Char) : List Char × List Char :=
  match cs with
  | '[' :: _ =>
    let host := cs.takeWhile (· != ']')
    match cs.dropWhile (· != ']') with
    | ']' :: ':' :: number => (host ++ [']'], number)
    | rest => (host ++ rest, [])
  | _ =>
    match Text.cutFirst? ':' cs with
    | some (host, number) => (host, number)
    | none => (cs, [])

def afterScheme (secure : Bool) (cs : List Char) : Except Fault Url :=
  let rest := cs.dropWhile isSlash
  let isEnd (c : Char) : Bool := isSlash c || c == '?' || c == '#'
  let authority := rest.takeWhile (!isEnd ·)
  -- A name and a password may stand before the host.
  let authority :=
    match Text.cutLast? '@' authority with
    | some (_, after) => after
    | none => authority
  let (rawHost, rawNumber) := hostAndNumber authority
  let host := Text.lower (Text.Utf8.decodeLossy (Percent.decodeText rawHost))
  let (path, query) := tailOf (rest.dropWhile (!isEnd ·))
  match hostFault? host with
  | some fault => .error fault
  | none =>
    if rawNumber.isEmpty then .ok ⟨secure, host, standardNumber secure, path, query⟩
    else
      match portNumber? rawNumber with
      | some number => .ok ⟨secure, host, number, path, query⟩
      | none => .error .portNumber

def isScheme : List Char → Bool
  | [] => false
  | c :: rest => c.isAlpha && rest.all fun c => c.isAlphanum || c == '+' || c == '-' || c == '.'

def parse (s : String) : Except Fault Url :=
  match Text.cutFirst? ':' (clean s.toList) with
  | none => .error .relative
  | some (scheme, rest) =>
    if !isScheme scheme then .error .relative
    else if scheme.map Char.toLower = "http".toList then afterScheme false rest
    else if scheme.map Char.toLower = "https".toList then afterScheme true rest
    else .error .scheme

def withPairs (u : Url) (pairs : List (String × String)) : Url :=
  if pairs.isEmpty then u
  else
    match u.query with
    -- An empty query takes no separator.
    | some [] | none => { u with query := some (Form.encodePairs pairs) }
    | some q => { u with query := some (q ++ '&' :: Form.encodePairs pairs) }

def target (u : Url) : List Char :=
  match u.query with
  | none => u.path
  | some q => u.path ++ '?' :: q

def toText (u : Url) : String :=
  let number :=
    if u.portNumber = standardNumber u.secure then [] else ':' :: (toString u.portNumber).toList
  String.ofList
    ((if u.secure then "https://" else "http://").toList ++ u.host ++ number ++ u.target)

end Url

end VariantSearch.Web

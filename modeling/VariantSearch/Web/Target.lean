import VariantSearch.Text.Split

namespace VariantSearch.Web

structure Target where
  path : List Char
  query : Option (List Char)
deriving DecidableEq

namespace Target

def isPathChar (c : Char) : Bool := 0x20 < c.toNat && !"#<>?`".toList.contains c

def isQueryChar (c : Char) : Bool := 0x20 < c.toNat && !"\"#<>".toList.contains c

/-- The target of a path with its query. An empty path counts as the root. -/
def ofPath? (cs : List Char) : Option Target :=
  let sent := cs.takeWhile (· != '#')
  let (path, query) :=
    match Text.cutFirst? '?' sent with
    | some (path, query) => (path, some query)
    | none => (sent, none)
  if path.all isPathChar && query.all (·.all isQueryChar) then
    some ⟨if path.isEmpty then ['/'] else path, query⟩
  else none

def isAuthorityChar (c : Char) : Bool :=
  c.isAlphanum || "!$%&'()*+,-.:;=@[]_~".toList.contains c

def isAuthority (cs : List Char) : Bool :=
  let host := (Text.pieces '@' cs).getLast?.getD []
  let outside := if host.contains ']' then (host.dropWhile (· != ']')).drop 1 else host
  cs.all isAuthorityChar && (cs.isEmpty || !host.isEmpty) && !outside.contains '%' &&
    outside.count ':' ≤ 1 && host.count '[' ≤ 1 && host.count '[' == host.count ']'

def afterScheme? : List Char → Option (List Char)
  | ':' :: '/' :: '/' :: rest => some rest
  | c :: rest =>
    if c.isAlphanum || c == '+' || c == '-' || c == '.' then afterScheme? rest else none
  | [] => none

def parse? (s : String) : Option Target :=
  match s.toList with
  | [] => none
  | ['*'] => some ⟨['*'], none⟩
  | '/' :: rest => ofPath? ('/' :: rest)
  | cs =>
    match afterScheme? cs with
    | some rest =>
      -- Of a whole address only what follows the host counts.
      let isEnd (c : Char) : Bool := c == '/' || c == '?' || c == '#'
      let authority := rest.takeWhile (!isEnd ·)
      if isAuthority authority && !authority.isEmpty then ofPath? (rest.dropWhile (!isEnd ·))
      else none
    | none => if isAuthority cs then some ⟨[], none⟩ else none

end Target

end VariantSearch.Web

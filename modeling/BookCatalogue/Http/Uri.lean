/-! # Request targets

The target of a request is a path with an optional query, an absolute address, or an authority
alone. Only path and query matter for routing; a fragment is dropped. -/

namespace BookCatalogue.Http

/-- Why a text is no target. -/
inductive UriFault where
  | empty
  | tooLong
  | character
  | authority
  | format
  | schemeTooLong
deriving DecidableEq, Repr

def UriFault.message : UriFault → String
  | .empty => "empty string"
  | .tooLong => "uri too long"
  | .character => "invalid uri character"
  | .authority => "invalid authority"
  | .format => "invalid format"
  | .schemeTooLong => "scheme too long"

/-- A target, reduced to its path and query. -/
structure Uri where
  path : String
  query : Option String
deriving DecidableEq, Repr

def isAuthorityChar (c : Char) : Bool :=
  c.isAlphanum || "!#$&'()*+,-./:;=?@[]_~".toList.contains c

def isPathChar (c : Char) : Bool :=
  0x7F ≤ c.toNat || c = '!' || c = '"' || (0x24 ≤ c.toNat && c.toNat ≤ 0x3B) || c = '=' ||
    (0x40 ≤ c.toNat && c.toNat ≤ 0x5F) || (0x61 ≤ c.toNat && c.toNat ≤ 0x7E)

def isQueryChar (c : Char) : Bool :=
  c = '!' || (0x24 ≤ c.toNat && c.toNat ≤ 0x3B) || c = '=' || 0x3F ≤ c.toNat

/-- What has been seen of an authority. -/
structure AuthorityScan where
  colons : Nat
  opened : Bool
  closed : Bool
  percent : Bool
  /-- The last character was the end of the user information. -/
  atUser : Bool

def AuthorityScan.step (s : AuthorityScan) (c : Char) : Except UriFault AuthorityScan :=
  let s := { s with atUser := false }
  if c = ':' then
    if 8 ≤ s.colons then .error .authority else .ok { s with colons := s.colons + 1 }
  else if c = '[' then
    if s.percent || s.opened then .error .authority else .ok { s with opened := true }
  else if c = ']' then
    if !s.opened || s.closed then .error .authority
    else .ok { s with closed := true, colons := 0, percent := false }
  else if c = '@' then .ok { s with colons := 0, percent := false, atUser := true }
  else if c = '%' then .ok { s with percent := true }
  else if isAuthorityChar c then .ok s
  else .error .character

/-- An authority may end here. -/
def AuthorityScan.finish (s : AuthorityScan) : Except UriFault Unit :=
  if s.opened != s.closed || 1 < s.colons || s.atUser || s.percent then .error .authority
  else .ok ()

/-- The authority at the start of a text, and the text from the `/`, `?` or `#` that ends it. -/
def splitAuthority (cs : List Char) : Except UriFault (List Char × List Char) := do
  let isEnd (c : Char) := c = '/' || c = '?' || c = '#'
  let authority := cs.takeWhile (!isEnd ·)
  let scan ← authority.foldlM AuthorityScan.step ⟨0, false, false, false, false⟩
  scan.finish
  return (authority, cs.dropWhile (!isEnd ·))

/-- Reads a path with an optional query and fragment. -/
def readPath (cs : List Char) : Except UriFault Uri :=
  let path := cs.takeWhile fun c => c != '?' && c != '#'
  let rest := cs.dropWhile fun c => c != '?' && c != '#'
  if !path.all isPathChar then .error .character
  else
    let named : String := if path.isEmpty then "/" else String.ofList path
    match rest with
    | '?' :: rest =>
      let query := rest.takeWhile (· != '#')
      if query.all isQueryChar then .ok ⟨named, some (String.ofList query)⟩ else .error .character
    | _ => .ok ⟨named, none⟩

def isSchemeChar (c : Char) : Bool := c.isAlphanum || c = '+' || c = '-' || c = '.'

/-- The text after a scheme and its `://`, if there is a scheme. -/
def afterScheme? (cs : List Char) : Except UriFault (Option (List Char)) :=
  let scheme := cs.takeWhile isSchemeChar
  match cs.dropWhile isSchemeChar with
  | ':' :: '/' :: '/' :: rest =>
    if cs.length ≤ 3 then .ok none
    else if 64 < scheme.length then .error .schemeTooLong
    else .ok (some rest)
  | _ => .ok none

def Uri.parse (s : String) : Except UriFault Uri := do
  if 65534 < s.utf8ByteSize then throw .tooLong
  match s.toList with
  | [] => throw .empty
  | ['*'] => return ⟨"*", none⟩
  | '/' :: rest => readPath ('/' :: rest)
  | cs =>
    match ← afterScheme? cs with
    | some rest =>
      let (authority, rest) ← splitAuthority rest
      if authority.isEmpty then throw .format
      readPath rest
    | none =>
      let (_, rest) ← splitAuthority cs
      if rest.isEmpty then return ⟨"", none⟩
      throw (if cs.length = 1 then .character else .format)

end BookCatalogue.Http

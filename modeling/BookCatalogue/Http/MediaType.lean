/-! # Media types

The type of a body as the header `content-type` gives it: a type, a subtype with an optional suffix,
and parameters, which have to be well-formed. -/

namespace BookCatalogue.Http

def isMediaChar (c : Char) : Bool := c.isAlphanum || "!#$%&'+-.^_`|~".toList.contains c

/-- Where reading stands in the parameters. -/
inductive ParamPlace where
  | start
  | name
  | valueStart
  | value
  | quoteStart
  | quoted
  | afterQuote
deriving DecidableEq, Repr

def ParamPlace.step? (place : ParamPlace) (c : Char) : Option ParamPlace :=
  let shown := 0x20 ≤ c.toNat && c.toNat ≠ 0x7F
  match place with
  | .start => if c = ' ' then some .start else if isMediaChar c then some .name else none
  | .name => if isMediaChar c then some .name else if c = '=' then some .valueStart else none
  | .valueStart => if c = '"' then some .quoteStart else if isMediaChar c then some .value else none
  | .value => if isMediaChar c then some .value else if c = ';' then some .start else none
  | .quoteStart => if shown then some .quoted else none
  | .quoted => if c = '"' then some .afterQuote else if shown then some .quoted else none
  | .afterQuote => if c = ';' then some .start else if c = ' ' then some .afterQuote else none

/-- The parameters may end here. -/
def ParamPlace.mayEnd : ParamPlace → Bool
  | .name | .quoteStart | .quoted => false
  | _ => true

def paramsWellFormed (cs : List Char) : Bool :=
  match cs.foldlM ParamPlace.step? .start with
  | some place => place.mayEnd
  | none => false

/-- A media type without its parameters, in lower case. -/
structure MediaType where
  type : List Char
  subtype : List Char
  suffix : Option (List Char)
deriving DecidableEq, Repr

namespace MediaType

/-- Cuts a subtype before its last plus sign, unless it starts with that sign. -/
def cutSuffix (cs : List Char) : List Char × Option (List Char) :=
  let suffix := (cs.reverse.takeWhile (· ≠ '+')).reverse
  match cs.reverse.dropWhile (· ≠ '+') with
  | '+' :: before@(_ :: _) => (before.reverse, some suffix)
  | _ => (cs, none)

def parse? (s : String) : Option MediaType :=
  let cs := s.toList.map Char.toLower
  let type := cs.takeWhile isMediaChar
  match cs.dropWhile isMediaChar with
  | '/' :: rest =>
    let (subtype, suffix) := cutSuffix (rest.takeWhile isMediaChar)
    if type.isEmpty then none
    else
      match rest.dropWhile isMediaChar with
      | [] => some ⟨type, subtype, suffix⟩
      | ';' :: params =>
        if subtype.isEmpty || !paramsWellFormed params then none
        else some ⟨type, subtype, suffix⟩
      | _ => none
  | _ => none

def isJson (m : MediaType) : Bool :=
  let json := ['j', 's', 'o', 'n']
  m.type == "application".toList && (m.subtype == json || m.suffix == some json)

end MediaType

end BookCatalogue.Http

import BookCatalogue.Json.Token

/-! # JSON values as far as they are written

A draft is the value that a text writes, up to the first place where the text is no JSON. There it
is cut: a cut value ends the array or the members in which it stands, and every draft around it. A
reader of drafts that goes from left to right therefore meets problems in the order of the text. -/

namespace BookCatalogue.Json

/-- A value, possibly cut off. Members keep their order and their repetitions; a key has no content
if it is not a text. -/
inductive Draft where
  | null
  | bool (b : Bool)
  | number (n : Numeral)
  | string (content : Option String)
  | array (items : List Draft)
  | object (members : List (Option String × Draft))
  | cut

/-- A container whose end has not been read, with what it holds so far, last first. -/
inductive Frame where
  | array (items : List Draft)
  | object (members : List (Option String × Draft))
  /-- An object in which the value of a key is being read. -/
  | member (members : List (Option String × Draft)) (key : Option String)

/-- What may follow. -/
inductive Place where
  | value
  /-- The first item of an array or its end. -/
  | firstItem
  /-- The first key of an object or its end. -/
  | firstKey
  | key
  | colon
  /-- A comma, or the end of the container. -/
  | next
deriving DecidableEq, Repr

/-- The container as it is when the value in it is cut off. -/
def Frame.abandon (inner : Draft) : Frame → Draft
  | .array items => .array (items.reverse ++ [inner])
  | .object members => .object (members.reverse ++ [(none, inner)])
  | .member members key => .object (members.reverse ++ [(key, inner)])

/-- The outermost value when reading stops inside these containers. -/
def abandon (frames : List Frame) : Draft := frames.foldl Frame.abandon .cut

/-- What a token leads to. -/
inductive Progress where
  | more (frames : List Frame) (place : Place)
  | complete (value : Draft)
  | broken

/-- A complete value inside these containers. -/
def put (value : Draft) : List Frame → Progress
  | [] => .complete value
  | .array items :: frames => .more (.array (value :: items) :: frames) .next
  | .member members key :: frames => .more (.object ((key, value) :: members) :: frames) .next
  | .object _ :: _ => .broken

/-- Reads a token that begins a value. -/
def beginValue (frames : List Frame) : Token → Progress
  | .null => put .null frames
  | .bool b => put (.bool b) frames
  | .number n => put (.number n) frames
  | .string content => put (.string content) frames
  | .openBracket => .more (.array [] :: frames) .firstItem
  | .openBrace => .more (.object [] :: frames) .firstKey
  | _ => .broken

def advance (frames : List Frame) (place : Place) (token : Token) : Progress :=
  match place, token, frames with
  | .value, _, _ => beginValue frames token
  | .firstItem, .closeBracket, .array _ :: frames => put (.array []) frames
  | .firstItem, _, _ => beginValue frames token
  | .firstKey, .closeBrace, .object _ :: frames => put (.object []) frames
  | .firstKey, .string key, .object members :: frames =>
    .more (.member members key :: frames) .colon
  | .key, .string key, .object members :: frames => .more (.member members key :: frames) .colon
  | .colon, .colon, _ => .more frames .value
  | .next, .comma, .array _ :: _ => .more frames .value
  | .next, .comma, .object _ :: _ => .more frames .key
  | .next, .closeBracket, .array items :: frames => put (.array items.reverse) frames
  | .next, .closeBrace, .object members :: frames => put (.object members.reverse) frames
  | _, _, _ => .broken

/-- A draft, and whether the text ends after it. -/
structure Document where
  value : Draft
  ends : Bool

/-- Reads tokens inside these containers. -/
def readTokens (frames : List Frame) (place : Place) : List Token → Document
  | [] => ⟨abandon frames, true⟩
  | token :: rest =>
    match advance frames place token with
    | .more frames place => readTokens frames place rest
    | .complete value => ⟨value, rest.isEmpty⟩
    | .broken => ⟨abandon frames, true⟩

def Document.ofChars (cs : List (Option Char)) : Document := readTokens [] .value (tokens cs)

def Document.ofString (s : String) : Document := .ofChars (s.toList.map some)

mutual

/-- No value in the draft is cut off. -/
def Draft.isWhole : Draft → Bool
  | .array items => itemsWhole items
  | .object members => membersWhole members
  | .cut => false
  | _ => true

def itemsWhole : List Draft → Bool
  | [] => true
  | item :: items => item.isWhole && itemsWhole items

def membersWhole : List (Option String × Draft) → Bool
  | [] => true
  | (_, value) :: members => value.isWhole && membersWhole members

end

end BookCatalogue.Json

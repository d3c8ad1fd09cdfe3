import BookCatalogue.Book.Basic
import BookCatalogue.Json.Draft
import BookCatalogue.Json.Value

/-! # Books in JSON

A book is written as an object with its seven attributes. It is read from an object, whose unknown
members are skipped, or from an array of the attributes in order. Author, edition, description and
genre may be missing. The draft is read from left to right and the first problem decides. -/

namespace BookCatalogue.Book

open Json (Draft Number Value)

/-- Why a text does not give a book. -/
inductive Fault where
  /-- The text is no JSON, at least from some place on. -/
  | malformed
  /-- The JSON is no book: what is wrong, and with which attribute if its value is wrong. -/
  | unsuitable (place : Option String) (message : String)
deriving DecidableEq, Repr

/-- What is wrong, after the attribute it is wrong with. -/
def Fault.located (place : Option String) (message : String) : String :=
  (place.elim "" (· ++ ": ")) ++ message

/-- What a draft is, in words; nothing if that cannot be told before the text goes wrong. -/
def describe? : Draft → Option String
  | .null => some "null"
  | .bool b => some ("boolean " ++ (if b then "`true`" else "`false`"))
  | .number n =>
    n.value?.map fun
      | .natural n => "integer `" ++ toString n ++ "`"
      | .negative n => "integer `-" ++ toString n ++ "`"
      | .real minus x => "floating point `" ++ Json.realText minus x ++ "`"
  | .string content => content.map fun s => "string " ++ Text.quote s
  | .array _ => some "sequence"
  | .object _ => some "map"
  | .cut => none

/-- The fault of a draft of the wrong type. -/
def mistyped (place : Option String) (draft : Draft) (expected : String) : Fault :=
  match describe? draft with
  | some found => .unsuitable place ("invalid type: " ++ found ++ ", expected " ++ expected)
  | none => .malformed

def readText (place : Option String) : Draft → Except Fault String
  | .string (some s) => .ok s
  | draft => .error (mistyped place draft "a string")

def readDate (place : Option String) (draft : Draft) : Except Fault Date := do
  match Date.parse (← readText place draft) with
  | .ok date => return date
  | .error message => throw (.unsuitable place message)

def readEdition (place : Option String) (draft : Draft) : Except Fault UInt8 :=
  let refused (n : String) : Except Fault UInt8 :=
    .error (.unsuitable place ("invalid value: integer `" ++ n ++ "`, expected u8"))
  match draft with
  | .number n =>
    match n.value? with
    | some (.natural n) => if n < 256 then .ok (UInt8.ofNat n) else refused (toString n)
    | some (.negative n) => refused ("-" ++ toString n)
    | _ => .error (mistyped place draft "u8")
  | _ => .error (mistyped place draft "u8")

/-- The attributes that have been read. -/
structure Attributes where
  title : Option String
  author : Option String
  isbn : Option String
  publishedDate : Option Date
  edition : Option UInt8
  description : Option String
  genre : Option String
deriving DecidableEq, Repr

namespace Attributes

def none : Attributes := ⟨.none, .none, .none, .none, .none, .none, .none⟩

/-- The value of a member that may not have been read before. -/
def once {α : Type} (seen : Option α) (key : String)
    (read : Option String → Draft → Except Fault α) (value : Draft) : Except Fault (Option α) :=
  match seen with
  | some _ => .error (.unsuitable .none ("duplicate field `" ++ key ++ "`"))
  | .none => (read (some key) value).map some

def readMember (a : Attributes) (key : String) (value : Draft) : Except Fault Attributes :=
  if key = "title" then do return { a with title := ← once a.title key readText value }
  else if key = "author" then do return { a with author := ← once a.author key readText value }
  else if key = "isbn" then do return { a with isbn := ← once a.isbn key readText value }
  else if key = "published_date" then do
    return { a with publishedDate := ← once a.publishedDate key readDate value }
  else if key = "edition" then do
    return { a with edition := ← once a.edition key readEdition value }
  else if key = "description" then do
    return { a with description := ← once a.description key readText value }
  else if key = "genre" then do return { a with genre := ← once a.genre key readText value }
  else if value.isWhole then .ok a
  else .error .malformed

def readMembers (a : Attributes) : List (Option String × Draft) → Except Fault Attributes
  | [] => .ok a
  | (some key, value) :: members => do readMembers (← a.readMember key value) members
  | (.none, _) :: _ => .error .malformed

/-- An attribute without which there is no book. -/
def need {α : Type} (key : String) : Option α → Except Fault α
  | some x => .ok x
  | .none => .error (.unsuitable .none ("missing field `" ++ key ++ "`"))

def toBook (a : Attributes) : Except Fault Book := do
  let title ← need "title" a.title
  let isbn ← need "isbn" a.isbn
  let publishedDate ← need "published_date" a.publishedDate
  return ⟨title, a.author.getD "", isbn, publishedDate, a.edition.getD 0, a.description.getD "",
    a.genre.getD ""⟩

end Attributes

/-- Reads the item of an array at an index. -/
def item? {α : Type} (items : List Draft) (index : Nat)
    (read : Option String → Draft → Except Fault α) : Except Fault (Option α) :=
  match items[index]? with
  | some item => (read (some ("[" ++ toString index ++ "]")) item).map some
  | none => .ok none

/-- Reads the item of an array at an index, without which there is no book. -/
def item {α : Type} (items : List Draft) (index : Nat)
    (read : Option String → Draft → Except Fault α) : Except Fault α := do
  match ← item? items index read with
  | some x => return x
  | none =>
    throw (.unsuitable none
      ("invalid length " ++ toString index ++ ", expected struct Book with 7 elements"))

def ofItems (items : List Draft) : Except Fault Book := do
  let title ← item items 0 readText
  let author ← item? items 1 readText
  let isbn ← item items 2 readText
  let publishedDate ← item items 3 readDate
  let edition ← item? items 4 readEdition
  let description ← item? items 5 readText
  let genre ← item? items 6 readText
  if 7 < items.length then throw .malformed
  return ⟨title, author.getD "", isbn, publishedDate, edition.getD 0, description.getD "",
    genre.getD ""⟩

def ofDraft : Draft → Except Fault Book
  | .object members => do (← Attributes.none.readMembers members).toBook
  | .array items => ofItems items
  | draft => .error (mistyped none draft "struct Book")

/-- The book of a document, after which the text has to end. -/
def ofDocument (d : Json.Document) : Except Fault Book := do
  let book ← ofDraft d.value
  if d.ends then return book else throw .malformed

/-- The book that a JSON text writes. -/
def ofJson (text : String) : Except Fault Book := ofDocument (.ofString text)

def toJson (b : Book) : Value :=
  .object [("title", .string b.title), ("author", .string b.author), ("isbn", .string b.isbn),
    ("published_date", .string b.publishedDate.render), ("edition", .number b.edition.toNat),
    ("description", .string b.description), ("genre", .string b.genre)]

end BookCatalogue.Book

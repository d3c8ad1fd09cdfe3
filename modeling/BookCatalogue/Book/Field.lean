import BookCatalogue.Book.Basic
import BookCatalogue.Filter.Chain
import BookCatalogue.Filter.Reader

/-! # Fields of books in filters -/

namespace BookCatalogue.Book

/-- What values of a field look like. -/
inductive FieldKind where
  | text
  /-- A number from 0 to 255. -/
  | smallNumber
  | date
deriving DecidableEq, Repr

/-- The fields of a book by their camel-case names. -/
def fields : List (String × FieldKind) :=
  [("Title", .text), ("Author", .text), ("Isbn", .text), ("PublishedDate", .date),
   ("Edition", .smallNumber), ("Description", .text), ("Genre", .text)]

def fieldKind? (name : String) : Option FieldKind := fields.lookup name

/-- The number from 0 to 255 that a text of digits denotes; a plus sign may stand in front. -/
def smallNumber? (s : String) : Option UInt8 :=
  let digits :=
    match s.toList with
    | '+' :: rest => rest
    | cs => cs
  if Text.areDigits digits ∧ Text.decimalValue digits < 256 then
    some (UInt8.ofNat (Text.decimalValue digits))
  else none

def hasField (name : String) : Bool := (fieldKind? name).isSome

def acceptsValue (name value : String) : Bool :=
  match fieldKind? name with
  | some .text => true
  | some .smallNumber => (smallNumber? value).isSome
  | some .date => (Date.parse? value).isSome
  | none => false

/-- What filters on books may speak of. -/
def schema : Filter.Schema := ⟨hasField, acceptsValue⟩

def parseFilter (raw : String) : Except Filter.Error Filter.Chain := Filter.parse schema raw

def explainFilter (raw : String) : Except Filter.Error String :=
  (parseFilter raw).map Filter.Chain.explain

end BookCatalogue.Book

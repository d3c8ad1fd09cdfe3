import BookCatalogue.Catalogue.NumberText
import BookCatalogue.Catalogue.Row
import BookCatalogue.Filter.Operator
import BookCatalogue.Text.Separated

/-! # Columns in conditions

What the names in a condition denote, and when what they denote equals a text. Texts are compared
without case except for dates and what the clock shows; the edition, the number of a row and the
seconds of its times are compared as numbers. -/

namespace BookCatalogue.Catalogue

open BookCatalogue.Filter (Operator)

/-! ## Times -/

/-- What the clock shows. -/
structure Reading where
  second : Int
  date : String
  timeOfDay : String
deriving DecidableEq, Repr

def Reading.timestamp (r : Reading) : String := r.date ++ " " ++ r.timeOfDay

/-- The seconds at which a row was added and last replaced. -/
structure Stamp where
  created : Int
  updated : Int
deriving DecidableEq, Repr

/-- The times that a condition may ask for, as far as they are known: the stamps of rows by their
keys, and what the clock shows. A time that is not known equals no text. -/
structure Times where
  stamp? : Text.FoldedKey → Option Stamp
  reading? : Option Reading

def Times.unknown : Times := ⟨fun _ => none, none⟩

/-! ## Names -/

/-- What a name in a condition denotes. -/
inductive Column where
  | title
  | author
  | isbn
  | description
  | genre
  | publishedDate
  | edition
  /-- The number of the row in order of its arrival, from one. -/
  | arrival
  | createdAt
  | updatedAt
  | currentDate
  | currentTime
  | currentTimestamp
  /-- A number, which never equals a text. -/
  | number
  /-- No value at all. -/
  | nothing
deriving DecidableEq, Repr

def namedColumns : List (String × Column) :=
  [("title", .title), ("author", .author), ("isbn", .isbn), ("description", .description),
   ("genre", .genre), ("published_date", .publishedDate), ("edition", .edition),
   ("rowid", .arrival), ("oid", .arrival), ("created_at", .createdAt), ("updated_at", .updatedAt),
   ("current_date", .currentDate), ("current_time", .currentTime),
   ("current_timestamp", .currentTimestamp), ("true", .number), ("false", .number), ("null", .nothing)]

/-- Digits with single underscores between them. -/
def isDigitGroups (isDigit : Char → Bool) (cs : List Char) : Bool :=
  (Text.splitOn ['_'] cs).all fun group => !group.isEmpty && group.all isDigit

/-- A number without sign and point: decimal, perhaps with an exponent, or hexadecimal of 64 bits. -/
def isNumeral : List Char → Bool
  | '0' :: 'x' :: digits =>
    isDigitGroups (fun c => c.isDigit || ('a' ≤ c && c ≤ 'f')) digits &&
      ((digits.filter (· ≠ '_')).dropWhile (· = '0')).length ≤ 16
  | cs =>
    let parts := Text.splitOn ['e'] cs
    parts.length ≤ 2 && parts.all (isDigitGroups Char.isDigit)

/-- What a name denotes. -/
def Column.named? (name : String) : Option Column :=
  if isNumeral name.toList then some .number else namedColumns.lookup name

/-- Whether the column of a row equals a text; unknown where there is no value. -/
def Column.equals? (column : Column) (times : Times) (number : Nat) (row : Row) (text : String) :
    Option Bool :=
  let folded (s : String) : Option Bool := some (Text.FoldedKey.of s == Text.FoldedKey.of text)
  let stamped (second : Stamp → Int) : Option Bool :=
    some ((times.stamp? row.key).any fun stamp => textEqualsInteger text (second stamp))
  let shown (face : Reading → String) : Option Bool :=
    some (times.reading?.any fun reading => face reading == text)
  match column with
  | .title => folded row.title
  | .author => folded row.author
  | .isbn => folded row.isbn
  | .description => folded row.description
  | .genre => folded row.genre
  | .publishedDate => some (row.publishedDate == text)
  | .edition => some (textEqualsInteger text row.edition)
  | .arrival => some (textEqualsInteger text number)
  | .createdAt => stamped Stamp.created
  | .updatedAt => stamped Stamp.updated
  | .currentDate => shown Reading.date
  | .currentTime => shown Reading.timeOfDay
  | .currentTimestamp => shown Reading.timestamp
  | .number => some false
  | .nothing => none

/-- The outcome of a comparison; an unknown one fails either way. -/
def holds (operator : Operator) : Option Bool → Bool
  | some equal => (operator == .equals) == equal
  | none => false

end BookCatalogue.Catalogue

import BookCatalogue.Book.Basic
import BookCatalogue.Text.Case

/-! # Rows of the catalogue

A book as it is stored: the date is a text and the edition any integer, so that a row may hold what
no book can. Storing checks the ranges below; reading a row as a book may find it corrupt. The times of
a row are kept beside it. -/

namespace BookCatalogue

structure Row where
  title : String
  author : String
  isbn : String
  publishedDate : String
  edition : Int
  description : String
  genre : String
deriving DecidableEq, Repr

namespace Row

def ofBook (b : Book) : Row :=
  ⟨b.title, b.author, b.isbn, b.publishedDate.render, b.edition.toNat, b.description, b.genre⟩

/-- What identifies a row: its ISBN without case. -/
def key (r : Row) : Text.FoldedKey := .of r.isbn

/-- The length of a stored text, up to its first NUL. -/
def storedLength (s : String) : Nat := (Text.beforeNul s).length

def titleFits (r : Row) : Bool := 1 ≤ storedLength r.title

/-- The row may be added: ISBN, title and edition are within their ranges. -/
def fits (r : Row) : Bool :=
  (1 ≤ storedLength r.isbn && storedLength r.isbn ≤ 32) && r.titleFits &&
    (0 ≤ r.edition && r.edition ≤ 255)

def withIsbn (r : Row) (isbn : String) : Row := { r with isbn := isbn }

/-- Why a row is no book. -/
inductive Corruption where
  | date (isbn text : String)
  | edition (isbn : String) (n : Int)
deriving DecidableEq, Repr

def Corruption.message : Corruption → String
  | .date isbn text =>
    "book " ++ isbn ++ " has invalid published_date " ++ Text.quote text ++ ": " ++
      Date.refusal text
  | .edition isbn n => "book " ++ isbn ++ " has out of range edition " ++ toString n

def toBook (r : Row) : Except Corruption Book :=
  match Date.parse? r.publishedDate with
  | none => .error (.date r.isbn r.publishedDate)
  | some date =>
    if 0 ≤ r.edition ∧ r.edition ≤ 255 then
      .ok ⟨r.title, r.author, r.isbn, date, UInt8.ofNat r.edition.toNat, r.description, r.genre⟩
    else .error (.edition r.isbn r.edition)

/-- The order of listings: by title, then by ISBN, both without case. -/
def ordering (a b : Row) : Ordering :=
  (compare (Text.FoldedKey.of a.title) (Text.FoldedKey.of b.title)).then (compare a.key b.key)

end Row

end BookCatalogue

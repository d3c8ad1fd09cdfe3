import BookCatalogue.Catalogue.Condition
import BookCatalogue.Filter.Chain

/-! # The catalogue

Rows in the order of their arrival, no two with the same ISBN. A catalogue can be closed; then every
use of it fails. A failing use leaves the rows as they were. -/

namespace BookCatalogue

/-- The stored rows, and whether the catalogue is open. -/
structure Catalogue where
  rows : List Row
  isOpen : Bool
deriving DecidableEq, Repr

namespace Catalogue

/-- Why a use of the catalogue fails. -/
inductive Error where
  /-- The catalogue is closed, a value is out of its range, or a condition makes no sense. -/
  | engine
  | conflict (isbn : String)
  | notFound (isbn : String)
  | corrupt (corruption : Row.Corruption)
deriving DecidableEq, Repr

namespace Error

/-- What went wrong, without the kind of the error. -/
def detail : Error → String
  | engine => "the database engine refused the operation"
  | conflict isbn => "Book with ISBN " ++ isbn ++ " already exists"
  | notFound isbn => "Book with ISBN " ++ isbn ++ " does not exist"
  | corrupt corruption => corruption.message

def message (e : Error) : String :=
  match e with
  | engine => "SQLite error: " ++ e.detail
  | conflict _ => "Conflict: " ++ e.detail
  | notFound _ => "Not found: " ++ e.detail
  | corrupt _ => "Corrupt row: " ++ e.detail

end Error

/-- The open catalogue without rows. -/
def empty : Catalogue := ⟨[], true⟩

def row? (c : Catalogue) (key : Text.FoldedKey) : Option Row := c.rows.find? fun r => r.key == key

/-- Adds a book with a new ISBN. -/
def create (c : Catalogue) (b : Book) : Except Error Catalogue :=
  let row := Row.ofBook b
  if !c.isOpen || !row.fits then .error .engine
  else if (c.row? row.key).isSome then .error (.conflict b.isbn)
  else .ok { c with rows := c.rows ++ [row] }

/-- Replaces everything but the spelling of the ISBN in the row of this ISBN. -/
def update (c : Catalogue) (b : Book) : Except Error Catalogue :=
  let row := Row.ofBook b
  if !c.isOpen then .error .engine
  else if (c.row? row.key).isNone then .error (.notFound b.isbn)
  else if !row.titleFits then .error .engine
  else
    .ok { c with rows := c.rows.map fun r => if r.key = row.key then row.withIsbn r.isbn else r }

/-- The book of a row, or the failure to read it. -/
def readRow (row : Row) : Except Error Book :=
  row.toBook.mapError .corrupt

def get? (c : Catalogue) (isbn : String) : Except Error (Option Book) :=
  if !c.isOpen then .error .engine
  else
    match c.row? (.of isbn) with
    | some row => (readRow row).map some
    | none => .ok none

/-- The rows that pass all tests, in order of arrival. -/
def select (c : Catalogue) (times : Times) (tests : List Test) : List Row :=
  (c.rows.zipIdx 1).filterMap fun (row, number) =>
    if tests.all (Test.passes times number row) then some row else none

/-- The books that meet the condition of a chain at these times, by title and ISBN. One corrupt row
among them fails the whole. -/
def findAt (c : Catalogue) (times : Times) (chain : Filter.Chain) : Except Error (List Book) :=
  if !c.isOpen then .error .engine
  else
    match tests? chain.fragment chain.params with
    | none => .error .engine
    | some tests => ((c.select times tests).mergeSort fun a b => (a.ordering b).isLE).mapM readRow

/-- What is found where no times are known: the same as ever unless the chain asks for times. -/
def find (c : Catalogue) (chain : Filter.Chain) : Except Error (List Book) :=
  c.findAt .unknown chain

/-- Stores a row whatever its values, unless its ISBN is taken or the catalogue closed. -/
def store? (c : Catalogue) (row : Row) : Option Catalogue :=
  if !c.isOpen || (c.row? row.key).isSome then none else some { c with rows := c.rows ++ [row] }

def close (c : Catalogue) : Catalogue := { c with isOpen := false }

end Catalogue

end BookCatalogue

import BookCatalogue.Book.Date
import BookCatalogue.Violation

/-! # Books

The record of a book, its one-line summary, and the rules that a book sent by a client has to
meet. -/

namespace BookCatalogue

/-- A book. The edition is zero where none is given. -/
structure Book where
  title : String
  author : String
  isbn : String
  publishedDate : Date
  edition : UInt8
  description : String
  genre : String
deriving DecidableEq, Repr

namespace Book

/-- The book on one line, as confirmations name it. -/
def summary (b : Book) : String :=
  b.title ++ " written by " ++ b.author ++ " with ISBN: " ++ b.isbn

/-- The broken rules of a book. Lengths count characters. -/
def violations (b : Book) : List Violation :=
  (if 1 ≤ b.title.length ∧ b.title.length ≤ 255 then []
    else [⟨"title", some "Title must be 1-255 characters"⟩]) ++
  (if b.author.length ≤ 255 then []
    else [⟨"author", some "Author must be at most 255 characters"⟩]) ++
  (if 1 ≤ b.isbn.length ∧ b.isbn.length ≤ 32 then []
    else [⟨"isbn", some "ISBN must be 1-32 characters"⟩])

def isValid (b : Book) : Bool := b.violations.isEmpty

theorem isValid_iff (b : Book) : b.isValid = true ↔
    (1 ≤ b.title.length ∧ b.title.length ≤ 255) ∧ b.author.length ≤ 255 ∧
      (1 ≤ b.isbn.length ∧ b.isbn.length ≤ 32) := by
  unfold isValid violations
  by_cases title : 1 ≤ b.title.length ∧ b.title.length ≤ 255 <;>
    by_cases author : b.author.length ≤ 255 <;>
      by_cases isbn : 1 ≤ b.isbn.length ∧ b.isbn.length ≤ 32 <;>
        simp [title, author, isbn]

end Book

end BookCatalogue

import Mathlib
import BookCatalogue.Book.Json
import BookCatalogue.Proofs.Book.Date
import BookCatalogue.Proofs.Json.Value

/-! # Books survive JSON

The text of a book is read as that book, whatever characters its texts consist of, in whatever year it was
published, and whatever its edition. -/

namespace BookCatalogue.Book

open Json (Draft)

/-! ## Attributes -/

section Attributes

variable (place : Option String)

@[simp] theorem readText_string (s : String) : readText place (.string (some s)) = .ok s := rfl

theorem readDate_render (date : Date) : readDate place (.string (some date.render)) = .ok date := by
  have parsed : Date.parse date.render = .ok date := by
    rw [Date.parse, Date.parse?_eq_some_iff.mpr rfl]
  simp [readDate, parsed, bind, Except.bind, pure, Except.pure]

theorem readEdition_toNat (edition : UInt8) :
    readEdition place (.number ⟨false, Nat.toDigits 10 edition.toNat, [], none⟩) = .ok edition := by
  have small := edition.toNat_lt
  have value := Json.value?_toDigits (n := edition.toNat) (by omega)
  rw [readEdition, value]
  simp [small]

end Attributes

/-! ## Members -/

namespace Attributes

/-- All attributes of a book. -/
def ofBook (b : Book) : Attributes :=
  ⟨some b.title, some b.author, some b.isbn, some b.publishedDate, some b.edition, some b.description, some b.genre⟩

theorem toBook_ofBook (b : Book) : (ofBook b).toBook = .ok b := rfl

section Members

variable {a after : Attributes} {value : Draft}

theorem readMember_publishedDate (unread : a.publishedDate = .none) {date : Date}
    (reads : readDate (some "published_date") value = .ok date) :
    a.readMember "published_date" value = .ok { a with publishedDate := some date } := by
  simp [readMember, once, unread, reads, Except.map]

theorem readMember_edition (unread : a.edition = .none) {edition : UInt8}
    (reads : readEdition (some "edition") value = .ok edition) :
    a.readMember "edition" value = .ok { a with edition := some edition } := by
  simp [readMember, once, unread, reads, Except.map]

theorem readMembers_cons {key : String} (reads : a.readMember key value = .ok after)
    (members : List (Option String × Draft)) :
    a.readMembers ((some key, value) :: members) = after.readMembers members := by
  rw [readMembers, reads]
  rfl

end Members

/-- The members of a book are read one after another. -/
theorem readMembers_toJson (b : Book) :
    none.readMembers [(some "title", .string (some b.title)), (some "author", .string (some b.author)),
        (some "isbn", .string (some b.isbn)),
        (some "published_date", .string (some b.publishedDate.render)),
        (some "edition", .number ⟨false, Nat.toDigits 10 b.edition.toNat, [], .none⟩),
        (some "description", .string (some b.description)), (some "genre", .string (some b.genre))] =
      .ok (ofBook b) := by
  -- The texts are read by evaluation; a date and an edition are not, as they are read from their digits.
  have date := readDate_render (some "published_date") b.publishedDate
  have edition := readEdition_toNat (some "edition") b.edition
  rw [readMembers_cons rfl, readMembers_cons rfl, readMembers_cons rfl,
    readMembers_cons (readMember_publishedDate rfl date), readMembers_cons (readMember_edition rfl edition),
    readMembers_cons rfl, readMembers_cons rfl]
  rfl

end Attributes

/-! ## Books -/

/-- The draft of a book is read as the book. -/
theorem ofDraft_toJson (b : Book) : ofDraft b.toJson.draft = .ok b := by
  have read := Attributes.readMembers_toJson b
  simp only [toJson, Json.Value.draft, Json.memberDrafts, ofDraft, read]
  exact Attributes.toBook_ofBook b

/-- So is its text. -/
theorem ofJson_print (b : Book) : ofJson b.toJson.print = .ok b := by
  rw [ofJson, Json.ofString_print, ofDocument, ofDraft_toJson]
  rfl

end BookCatalogue.Book

import Mathlib
import BookCatalogue.Catalogue.Row
import BookCatalogue.Proofs.Book.Date

/-! # Rows of books

A book survives its storage: the row of a book is read back as that book. The ranges that storing
checks are conditions on the ISBN and the title alone, since an edition is never out of range. -/

namespace BookCatalogue

/-- What the table asks of the texts of a new book. -/
@[mk_iff]
structure Book.IsStorable (b : Book) : Prop where
  isbnNotEmpty : 1 ≤ Row.storedLength b.isbn
  isbnNotLong : Row.storedLength b.isbn ≤ 32
  titleNotEmpty : 1 ≤ Row.storedLength b.title

instance : DecidablePred Book.IsStorable := fun b => decidable_of_iff' _ b.isStorable_iff

namespace Row

@[simp] theorem key_ofBook (b : Book) : (ofBook b).key = .of b.isbn := rfl

@[simp] theorem isbn_ofBook (b : Book) : (ofBook b).isbn = b.isbn := rfl

@[simp] theorem title_ofBook (b : Book) : (ofBook b).title = b.title := rfl

@[simp] theorem edition_ofBook (b : Book) : (ofBook b).edition = b.edition.toNat := rfl

theorem titleFits_iff (r : Row) : r.titleFits = true ↔ 1 ≤ storedLength r.title := by
  simp [titleFits]

theorem fits_iff (r : Row) :
    r.fits = true ↔ 1 ≤ storedLength r.isbn ∧ storedLength r.isbn ≤ 32 ∧
      1 ≤ storedLength r.title ∧ 0 ≤ r.edition ∧ r.edition ≤ 255 := by
  simp [fits, titleFits, and_assoc]

/-- An edition is a byte. -/
theorem edition_ofBook_inRange (b : Book) :
    0 ≤ (ofBook b).edition ∧ (ofBook b).edition ≤ 255 := by
  rw [edition_ofBook]
  have := b.edition.toNat_lt
  omega

theorem fits_ofBook_iff (b : Book) : (ofBook b).fits = true ↔ b.IsStorable := by
  simp only [fits_iff, Book.isStorable_iff, edition_ofBook_inRange, isbn_ofBook, title_ofBook,
    and_true]

/-- The row of a book is read back as that book. -/
@[simp] theorem toBook_ofBook (b : Book) : (ofBook b).toBook = .ok b := by
  have date : Date.parse? (ofBook b).publishedDate = some b.publishedDate :=
    Date.parse?_eq_some_iff.mpr rfl
  rw [toBook, date]
  dsimp only
  rw [if_pos (edition_ofBook_inRange b), edition_ofBook, Int.toNat_natCast, UInt8.ofNat_toNat]
  rfl

/-- A row is read as a book just when it is the row of that book. -/
theorem toBook_eq_ok_iff {r : Row} {b : Book} : r.toBook = .ok b ↔ r = ofBook b := by
  constructor
  · intro success
    unfold toBook at success
    split at success
    · cases success
    · next date parsed =>
      split_ifs at success with inRange
      have rendered := Date.parse?_eq_some_iff.mp parsed
      have edition : ((UInt8.ofNat r.edition.toNat).toNat : Int) = r.edition := by
        rw [UInt8.toNat_ofNat']
        omega
      cases success
      rw [ofBook, rendered, edition]
  · rintro rfl
    exact toBook_ofBook b

/-- What is wrong with a row that is no book: its date, and its edition only if the date is right. -/
inductive IsCorrupt (r : Row) : Corruption → Prop
  | date (unreadable : Date.parse? r.publishedDate = none) : IsCorrupt r (.date r.isbn r.publishedDate)
  | edition {date : Date} (readable : Date.parse? r.publishedDate = some date)
      (outside : ¬ (0 ≤ r.edition ∧ r.edition ≤ 255)) : IsCorrupt r (.edition r.isbn r.edition)

theorem toBook_eq_error_iff {r : Row} {corruption : Corruption} :
    r.toBook = .error corruption ↔ r.IsCorrupt corruption := by
  unfold toBook
  cases parsed : Date.parse? r.publishedDate with
  | none =>
    constructor
    · rintro ⟨⟩
      exact .date parsed
    · rintro (_ | ⟨readable, _⟩)
      · rfl
      · rw [parsed] at readable
        cases readable
  | some date =>
    dsimp only
    split_ifs with inRange
    · constructor
      · rintro ⟨⟩
      · rintro (unreadable | ⟨_, outside⟩)
        · rw [parsed] at unreadable
          cases unreadable
        · exact absurd inRange outside
    · constructor
      · rintro ⟨⟩
        exact .edition parsed inRange
      · rintro (unreadable | _)
        · rw [parsed] at unreadable
          cases unreadable
        · rfl

/-- The date is written as dates are, and the edition is a byte. -/
structure IsReadable (r : Row) : Prop where
  date : (Date.parse? r.publishedDate).isSome = true
  edition : 0 ≤ r.edition ∧ r.edition ≤ 255

theorem isReadable_iff_exists_toBook {r : Row} : r.IsReadable ↔ ∃ b, r.toBook = .ok b := by
  constructor
  · rintro ⟨date, edition⟩
    cases read : r.toBook with
    | ok b => exact ⟨b, rfl⟩
    | error corruption =>
      rcases toBook_eq_error_iff.mp read with unreadable | ⟨_, outside⟩
      · simp [unreadable] at date
      · exact absurd edition outside
  · rintro ⟨b, read⟩
    rw [toBook_eq_ok_iff.mp read]
    have date : Date.parse? (ofBook b).publishedDate = some b.publishedDate :=
      Date.parse?_eq_some_iff.mpr rfl
    exact ⟨by rw [date, Option.isSome_some], edition_ofBook_inRange b⟩

/-- A row where a call replaces the row with its key. -/
def replacedBy (row r : Row) : Row := if r.key = row.key then row.withIsbn r.isbn else r

@[simp] theorem isbn_replacedBy (row r : Row) : (row.replacedBy r).isbn = r.isbn := by
  unfold replacedBy
  split <;> rfl

@[simp] theorem key_replacedBy (row r : Row) : (row.replacedBy r).key = r.key := by
  rw [key, isbn_replacedBy, key]

theorem replacedBy_of_key_ne {row r : Row} (other : r.key ≠ row.key) : row.replacedBy r = r :=
  if_neg other

theorem replacedBy_of_key_eq {row r : Row} (same : r.key = row.key) :
    row.replacedBy r = row.withIsbn r.isbn :=
  if_pos same

end Row

end BookCatalogue

import Mathlib
import BookCatalogue.Proofs.Api.Change

/-! # Valid books and the ranges of the table

The rules for books count every character of a title and an ISBN, the table counts up to the first NUL.
A valid book is therefore within the ranges of the table unless its title or its ISBN begins with NUL:
the table refuses such a book, and the request that sent it is answered as a failure of the server. -/

namespace BookCatalogue

open BookCatalogue.Catalogue (Call)
open Http (Origins Request)

/-! ## Two ways to count -/

namespace Row

/-- Nothing of the text is counted where it is stored. -/
def beginsWithNul (s : String) : Bool := s.toList.head? == some '\x00'

theorem storedLength_le_length (s : String) : storedLength s ≤ s.length := by
  rw [storedLength, Text.beforeNul, ← String.length_toList]
  exact (List.takeWhile_sublist _).length_le

theorem one_le_storedLength_iff {s : String} (notEmpty : 1 ≤ s.length) :
    1 ≤ storedLength s ↔ beginsWithNul s = false := by
  rw [← String.length_toList] at notEmpty
  rw [storedLength, Text.beforeNul, beginsWithNul]
  cases chars : s.toList with
  | nil => simp [chars] at notEmpty
  | cons c cs => by_cases nul : c = '\x00' <;> simp [nul]

end Row

namespace Book

/-- A valid book is within the ranges of the table just when neither its title nor its ISBN begins with
NUL. -/
theorem isStorable_iff_of_isValid {b : Book} (valid : b.isValid = true) :
    b.IsStorable ↔ Row.beginsWithNul b.title = false ∧ Row.beginsWithNul b.isbn = false := by
  obtain ⟨⟨title, _⟩, _, isbn, notLong⟩ := b.isValid_iff.mp valid
  have bounded : Row.storedLength b.isbn ≤ 32 := (Row.storedLength_le_length b.isbn).trans notLong
  rw [isStorable_iff, Row.one_le_storedLength_iff title, Row.one_le_storedLength_iff isbn]
  tauto

end Book

namespace Catalogue

variable {c : Catalogue} {b : Book}

/-- The table is asked to count a text that begins with NUL. Replacing counts the title alone, and only
if there is a row to replace. -/
def Refuses (c : Catalogue) : Call → Prop
  | .create b => Row.beginsWithNul b.title = true ∨ Row.beginsWithNul b.isbn = true
  | .update b => c.row? (.of b.isbn) ≠ none ∧ Row.beginsWithNul b.title = true
  | .get _ => False

/-- A valid book is added or has the ISBN of another, unless it is refused. -/
theorem create_of_isValid (isOpen : c.isOpen = true) (valid : b.isValid = true) :
    (¬ c.Refuses (.create b) ∧
        ((∃ after, c.create b = .ok after) ∨ c.create b = .error (.conflict b.isbn))) ∨
      (c.Refuses (.create b) ∧ c.create b = .error .engine) := by
  have storable : b.IsStorable ↔ ¬ c.Refuses (.create b) := by
    rw [Book.isStorable_iff_of_isValid valid, Refuses]
    simp
  rw [create_eq]
  split_ifs with ready
  · exact .inl ⟨storable.mp ready.2, .inr rfl⟩
  · exact .inl ⟨storable.mp ready.2, .inl ⟨_, rfl⟩⟩
  · have refused : ¬ b.IsStorable := fun fits => ready ⟨isOpen, fits⟩
    exact .inr ⟨not_not.mp (mt storable.mpr refused), rfl⟩

/-- A valid book replaces the one of its ISBN or there is none, unless it is refused. -/
theorem update_of_isValid (isOpen : c.isOpen = true) (valid : b.isValid = true) :
    (¬ c.Refuses (.update b) ∧
        ((∃ after, c.update b = .ok after) ∨ c.update b = .error (.notFound b.isbn))) ∨
      (c.Refuses (.update b) ∧ c.update b = .error .engine) := by
  obtain ⟨⟨notEmpty, _⟩, _⟩ := b.isValid_iff.mp valid
  have counted := Row.one_le_storedLength_iff notEmpty
  rw [update_eq, if_pos isOpen]
  split_ifs with absent title
  · have notRefused : ¬ c.Refuses (.update b) := fun refused =>
      refused.1 (Option.isNone_iff_eq_none.mp absent)
    exact .inl ⟨notRefused, .inr rfl⟩
  · have notRefused : ¬ c.Refuses (.update b) := by
      rintro ⟨_, nul⟩
      rw [counted.mp title] at nul
      cases nul
    exact .inl ⟨notRefused, .inl ⟨_, rfl⟩⟩
  · have nul : Row.beginsWithNul b.title = true := by
      rw [← Bool.not_eq_false]
      exact mt counted.mpr title
    exact .inr ⟨⟨mt Option.isNone_iff_eq_none.mpr absent, nul⟩, rfl⟩

end Catalogue

namespace Api

/-- A request to add or replace a book is answered as a failure of the server just when the table refuses
its book. -/
theorem status_eq_500_iff {c : Catalogue} (isOpen : c.isOpen = true) (origins : Origins) {r : Request}
    {call : Call} (asks : change? r = some call) :
    (answer origins c r).1.status = 500 ↔ c.Refuses call := by
  rw [(answer_of_change? origins c asks).1]
  obtain ⟨b, valid, rfl | rfl⟩ := exists_isValid_of_change? asks
  · rcases Catalogue.create_of_isValid isOpen valid with ⟨accepted, ⟨after, reply⟩ | reply⟩ | ⟨refused, reply⟩
    · simp [Catalogue.perform, Catalogue.settle, reply, statusOf, accepted]
    · simp [Catalogue.perform, Catalogue.settle, reply, statusOf, accepted]
    · simp [Catalogue.perform, Catalogue.settle, reply, statusOf, refused]
  · rcases Catalogue.update_of_isValid isOpen valid with ⟨accepted, ⟨after, reply⟩ | reply⟩ | ⟨refused, reply⟩
    · simp [Catalogue.perform, Catalogue.settle, reply, statusOf, accepted]
    · simp [Catalogue.perform, Catalogue.settle, reply, statusOf, accepted]
    · simp [Catalogue.perform, Catalogue.settle, reply, statusOf, refused]

/-- Valid books are added or are in conflict, and replace others or are not found, and no request with one
is a failure of the server, as far as the table refuses none of them. -/
theorem valid_change_fails_iff_refused {c : Catalogue} (isOpen : c.isOpen = true) {b : Book}
    (valid : b.isValid = true) :
    ((∃ after, c.create b = .ok after) ∨ c.create b = .error (.conflict b.isbn) ↔
        ¬ c.Refuses (.create b)) ∧
      ((∃ after, c.update b = .ok after) ∨ c.update b = .error (.notFound b.isbn) ↔
        ¬ c.Refuses (.update b)) ∧
      ∀ origins r call, change? r = some call →
        ((answer origins c r).1.status = 500 ↔ c.Refuses call) := by
  refine ⟨?_, ?_, fun origins r call asks => status_eq_500_iff isOpen origins asks⟩
  · rcases Catalogue.create_of_isValid isOpen valid with ⟨accepted, outcome⟩ | ⟨refused, outcome⟩
    · exact iff_of_true outcome accepted
    · simp [outcome, refused]
  · rcases Catalogue.update_of_isValid isOpen valid with ⟨accepted, outcome⟩ | ⟨refused, outcome⟩
    · exact iff_of_true outcome accepted
    · simp [outcome, refused]

/-- A NUL inside a title and an ISBN of 32 characters that ends in one. -/
theorem valid_change_fails_iff_refused_inner_nul :
    let b : Book := ⟨"A\x00B", "", "0123456789012345678901234567890\x00", ⟨1815, 12, 23, by decide⟩, 1, "", ""⟩
    let c : Catalogue := ⟨[Row.ofBook b], true⟩
    (c.isOpen = true ∧ b.isValid = true) ∧
      ((∃ after, c.create b = .ok after) ∨ c.create b = .error (.conflict b.isbn) ↔
        ¬ c.Refuses (.create b)) ∧
      ((∃ after, c.update b = .ok after) ∨ c.update b = .error (.notFound b.isbn) ↔
        ¬ c.Refuses (.update b)) ∧
      ∀ origins r call, change? r = some call →
        ((answer origins c r).1.status = 500 ↔ c.Refuses call) := by
  intro b c
  have valid : b.isValid = true := by decide
  exact ⟨⟨rfl, valid⟩, valid_change_fails_iff_refused rfl valid⟩

/-- A title of one NUL is valid, and the table refuses it. -/
theorem create_refuses_valid_title :
    let b : Book := ⟨"\x00", "", "1", ⟨1815, 12, 23, by decide⟩, 1, "", ""⟩
    b.isValid = true ∧ Catalogue.empty.create b = .error .engine := by
  decide

end Api

end BookCatalogue

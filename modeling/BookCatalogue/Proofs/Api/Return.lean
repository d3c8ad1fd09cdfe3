import Mathlib
import BookCatalogue.Proofs.Api.Effect
import BookCatalogue.Proofs.Book.Json
import BookCatalogue.Proofs.Catalogue.Lookup
import BookCatalogue.Proofs.Text.Utf8

/-! # Books sent back

A client that has found books reads from the answer the very books that were found. Sending one of them
back to replace itself changes nothing: the row of its ISBN already holds every attribute of it. -/

namespace BookCatalogue

open BookCatalogue.Catalogue (Call)
open BookCatalogue.Filter (Chain)
open Http (Origins Request Response)
open Json (Document Draft)

namespace Catalogue

variable {c : Catalogue} {b : Book}

end Catalogue

namespace Api

variable {c : Catalogue} {r : Request} {b : Book}

/-! ## The answer with the books that were found -/

/-- A listing is refused for its query, or meets a problem, or names the books that were found. -/
theorem list_cases (c : Catalogue) (r : Request) :
    (∃ rejection, ListingQuery.read r.query = .error rejection ∧ list c r = rejection.toResponse) ∨
      (∃ p : Problem, list c r = p.toResponse) ∨
      ∃ chain books, c.find chain = .ok books ∧
        list c r = .json 200 (.object [("data", .array (books.map Book.toJson))]) := by
  unfold list
  split
  · next rejection read => exact .inl ⟨rejection, read, rfl⟩
  · split
    · exact .inr (.inl ⟨_, rfl⟩)
    · split
      · exact .inr (.inl ⟨_, rfl⟩)
      · split
        · exact .inr (.inl ⟨_, rfl⟩)
        · next books finds => exact .inr (.inr ⟨_, books, finds, rfl⟩)

end Api

end BookCatalogue

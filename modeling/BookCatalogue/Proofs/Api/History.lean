import Mathlib
import BookCatalogue.Proofs.Api.Change
import BookCatalogue.Proofs.Catalogue.Consistency

/-! # Histories

What calls, requests and the closing leave of a new catalogue. Through every history the table stays
consistent, and as long as the catalogue is open no reading of it fails. -/

namespace BookCatalogue.Api

open BookCatalogue.Catalogue (Call)
open Http (Origins Request)

/-- What happens to a catalogue in use. -/
inductive Event where
  | call (call : Call)
  | request (origins : Origins) (r : Request)
  | close

def Event.after (c : Catalogue) : Event → Catalogue
  | .call made => (c.perform made).1
  | .request origins r => (answer origins c r).2
  | .close => c.close

/-- The catalogue after events, the first of which finds it new. -/
def history (events : List Event) : Catalogue := events.foldl Event.after .empty

/-- An event is a call, the closing, or nothing to the catalogue. -/
theorem Event.after_cases (c : Catalogue) (event : Event) :
    (∃ call, event.after c = (c.perform call).1) ∨ event.after c = c.close ∨ event.after c = c := by
  cases event with
  | call call => exact .inl ⟨call, rfl⟩
  | request origins r =>
    change (∃ call, (answer origins c r).2 = (c.perform call).1) ∨ _ ∨ (answer origins c r).2 = c
    cases asks : change? r with
    | none => exact .inr (.inr (answer_of_change?_eq_none origins c asks))
    | some call => exact .inl ⟨call, (answer_of_change? origins c asks).2⟩
  | close => exact .inr (.inl rfl)

theorem Event.isConsistent_after {c : Catalogue} (consistent : c.IsConsistent) (event : Event) :
    (event.after c).IsConsistent := by
  rcases event.after_cases c with ⟨call, performed⟩ | closed | unchanged
  · rw [performed]
    exact consistent.perform call
  · rw [closed]
    exact ⟨consistent.distinct, consistent.rows⟩
  · rwa [unchanged]

theorem isConsistent_history (events : List Event) : (history events).IsConsistent := by
  have kept (c : Catalogue) (consistent : c.IsConsistent) :
      (events.foldl Event.after c).IsConsistent := by
    induction events generalizing c with
    | nil => exact consistent
    | cons event events ih => exact ih _ (event.isConsistent_after consistent)
  exact kept .empty Catalogue.isConsistent_empty

/-- After every history the table is consistent, and as long as the catalogue is open every ISBN can be
asked for and every filter on books, or none, can be put to it without a failure. -/
theorem history_consistent_and_readable (events : List Event) :
    (history events).IsConsistent ∧
      ((history events).isOpen = true →
        (∀ isbn, ∃ found, (history events).get? isbn = .ok found) ∧
        (∃ books, (history events).find [] = .ok books) ∧
        ∀ raw chain, Book.parseFilter raw = .ok chain →
          ∃ books, (history events).find chain = .ok books) := by
  have consistent := isConsistent_history events
  refine ⟨consistent, fun isOpen => ⟨consistent.exists_get? isOpen, ?_, fun raw chain accepted => ?_⟩⟩
  · exact consistent.exists_find isOpen (by simp)
  · exact consistent.exists_find isOpen (Book.isOnBooks_of_parseFilter accepted)

/-- A book created, refused as a second one, and replaced, with a request between that asks for nothing.
Then it is asked for, and so is everything, and a filter of two comparisons and a range. -/
theorem history_consistent_and_readable_with_refusals :
    let emma : Book := ⟨"Emma", "Austen", "42", ⟨1815, 12, 23, by decide⟩, 1, "", ""⟩
    let c := history [.call (.create emma), .request ⟨[]⟩ ⟨"DELETE", "/api/v1/books/42", none, [], []⟩,
      .call (.create emma), .call (.update { emma with title := "\x00" }), .call (.update emma)]
    let raw := "author_eq_AUSTEN_and_edition_ne_+02_and_dates_eq_1800-01-01-to-1899-12-31"
    let chain : Filter.Chain := [.comparison "Author" .equals "AUSTEN", .comparison "Edition" .differs "+02",
      .dateRange "1800-01-01" "1899-12-31"]
    c.isOpen = true ∧ c.IsConsistent ∧ c.get? "42" = .ok (some emma) ∧
      (∀ isbn, ∃ found, c.get? isbn = .ok found) ∧ (∃ books, c.find [] = .ok books) ∧
      Book.parseFilter raw = .ok chain ∧ ∃ books, c.find chain = .ok books := by
  intro emma c raw chain
  have isOpen : c.isOpen = true := by decide +kernel
  have stored : c.get? "42" = .ok (some emma) := by decide +kernel
  have accepted : Book.parseFilter raw = .ok chain := by decide
  obtain ⟨consistent, readable⟩ := history_consistent_and_readable [.call (.create emma),
    .request ⟨[]⟩ ⟨"DELETE", "/api/v1/books/42", none, [], []⟩, .call (.create emma),
    .call (.update { emma with title := "\x00" }), .call (.update emma)]
  obtain ⟨gets, findsAll, finds⟩ := readable isOpen
  exact ⟨isOpen, consistent, stored, gets, findsAll, accepted, finds raw chain accepted⟩

end BookCatalogue.Api

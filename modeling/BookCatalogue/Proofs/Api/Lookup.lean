import Mathlib
import BookCatalogue.Proofs.Api.History
import BookCatalogue.Proofs.Catalogue.Lookup

/-! # The two ways to look up an ISBN

Asking for an ISBN reads the row of its key. Finding the books of an ISBN puts a condition to all rows, sorts
those that meet it and reads them. Both give the same, whatever was written to the table before: no way of
writing, also none around the checks, leaves two rows with one ISBN. -/

namespace BookCatalogue

namespace Api

/-- What may happen to a table: an event, or the storing of a row that no check has passed. -/
inductive Use where
  | event (happens : Event)
  | store (row : Row)

/-- The catalogue after a use. A row whose ISBN is taken is not stored. -/
def Use.after (c : Catalogue) : Use → Catalogue
  | .event happens => happens.after c
  | .store row => (c.store? row).getD c

/-- The catalogue after uses, the first of which finds it new. -/
def usage (uses : List Use) : Catalogue := uses.foldl Use.after .empty

theorem Use.hasDistinctKeys_after {c : Catalogue} (distinct : c.HasDistinctKeys) (use : Use) :
    (use.after c).HasDistinctKeys := by
  cases use with
  | event happens =>
    change (happens.after c).HasDistinctKeys
    rcases happens.after_cases c with ⟨call, performed⟩ | closed | unchanged
    · rw [performed]
      exact distinct.perform call
    · rw [closed]
      exact distinct
    · rwa [unchanged]
  | store row =>
    change ((c.store? row).getD c).HasDistinctKeys
    cases stored : c.store? row with
    | none => exact distinct
    | some after => exact distinct.store? stored

/-- No two rows have the same ISBN, however the table is used. -/
theorem hasDistinctKeys_usage (uses : List Use) : (usage uses).HasDistinctKeys := by
  have kept (c : Catalogue) (distinct : c.HasDistinctKeys) :
      (uses.foldl Use.after c).HasDistinctKeys := by
    induction uses generalizing c with
    | nil => exact distinct
    | cons use uses ih =>
      apply ih
      exact use.hasDistinctKeys_after distinct
  apply kept
  exact List.nodup_nil

end Api

namespace Catalogue

/-- What can come of asking for an ISBN. -/
theorem get?_cases (c : Catalogue) (isbn : String) :
    (c.isOpen = false ∧ c.get? isbn = .error .engine) ∨ c.isOpen = true ∧
      (c.get? isbn = .ok none ∨ (∃ b, c.get? isbn = .ok (some b)) ∨
        ∃ corruption, c.get? isbn = .error (.corrupt corruption)) := by
  unfold get?
  cases c.isOpen with
  | false => exact .inl ⟨rfl, rfl⟩
  | true =>
    refine .inr ⟨rfl, ?_⟩
    cases c.row? (.of isbn) with
    | none => exact .inl rfl
    | some r =>
      cases read : r.toBook with
      | ok b => exact .inr (.inl ⟨b, by simp [readRow, read, Except.mapError, Except.map]⟩)
      | error corruption =>
        exact .inr (.inr ⟨corruption, by simp [readRow, read, Except.mapError, Except.map]⟩)

end Catalogue

namespace Api

/-- However a table was used before: to find the books of an ISBN is to ask for its book. Both give nothing, or
both give one and the same book, or both fail at the same corrupt row; both fail alike once the catalogue is
closed. -/
theorem find_isbn_agrees_with_get (uses : List Use) (isbn : String) :
    let c := usage uses
    let found := c.find [.comparison Filter.identifierField .equals isbn]
    found = (c.get? isbn).map Option.toList ∧
      ((c.isOpen = false ∧ c.get? isbn = .error .engine ∧ found = .error .engine) ∨ c.isOpen = true ∧
        ((c.get? isbn = .ok none ∧ found = .ok []) ∨
          (∃ b, c.get? isbn = .ok (some b) ∧ found = .ok [b]) ∨
          ∃ corruption, c.get? isbn = .error (.corrupt corruption) ∧ found = .error (.corrupt corruption))) := by
  intro c found
  have same : found = (c.get? isbn).map Option.toList := by
    cases isOpen : c.isOpen with
    | true => exact Catalogue.find_isbn isOpen (hasDistinctKeys_usage uses) isbn
    | false => simp [found, Catalogue.find_of_closed isOpen, Catalogue.get?, isOpen, Except.map]
  refine ⟨same, ?_⟩
  rw [same]
  rcases c.get?_cases isbn with ⟨closed, got⟩ | ⟨isOpen, got | ⟨b, got⟩ | ⟨corruption, got⟩⟩ <;> rw [got]
  · exact .inl ⟨closed, rfl, rfl⟩
  · exact .inr ⟨isOpen, .inl ⟨rfl, rfl⟩⟩
  · exact .inr ⟨isOpen, .inr (.inl ⟨b, rfl, rfl⟩)⟩
  · exact .inr ⟨isOpen, .inr (.inr ⟨corruption, rfl, rfl⟩)⟩

end Api

end BookCatalogue

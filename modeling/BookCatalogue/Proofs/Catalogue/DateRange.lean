import Mathlib
import BookCatalogue.Proofs.Book.DateOrder
import BookCatalogue.Proofs.Catalogue.Consistency

/-! # Finding by a range of dates

The catalogue compares dates by their texts. A range between two dates that are written without a sign
finds exactly the books between them in the calendar, whatever the dates of the books. A range that leads
from such a date to one with a sign finds nothing, though it may well hold books. -/

namespace BookCatalogue

open BookCatalogue.Filter (Chain)

namespace Row

theorem ofBook_injective : Function.Injective ofBook := by
  intro b b' same
  have read : (ofBook b).toBook = (ofBook b').toBook := by rw [same]
  rw [toBook_ofBook, toBook_ofBook] at read
  exact Except.ok.inj read

/-- The row of a book meets a range just when its written date lies between the bounds by bytes. -/
theorem meets_dateRange_ofBook (first last : Date) (b : Book) :
    (ofBook b).meets (.dateRange first.render last.render) = true ↔
      Text.bytes first.render ≤ Text.bytes b.publishedDate.render ∧
        Text.bytes b.publishedDate.render ≤ Text.bytes last.render := by
  rw [meets, Bool.and_eq_true, decide_eq_true_eq, decide_eq_true_eq]
  rfl

end Row

namespace Catalogue

variable {c : Catalogue} {chain : Chain}

/-- What is found in a consistent table is the listing of the stored books that meet the chain. -/
theorem IsConsistent.exists_find_lists (consistent : c.IsConsistent) (isOpen : c.isOpen = true)
    (onBooks : ∀ p ∈ chain, p.IsOnBooks) :
    ∃ books, c.find chain = .ok books ∧ c.Lists chain (books.map Row.ofBook) := by
  obtain ⟨books, found⟩ := consistent.exists_find isOpen onBooks
  obtain ⟨rows, lists⟩ := exists_lists consistent.distinct chain
  have read : rows = books.map Row.ofBook := by
    rw [← forall₂_readRow_iff, ← mapM_eq_ok_iff, ← lists.find_eq isOpen onBooks, found]
  exact ⟨books, found, read ▸ lists⟩

/-- A listing of books holds the stored books that meet every predicate. -/
theorem Lists.mem_iff {books : List Book} (lists : c.Lists chain (books.map Row.ofBook)) {b : Book} :
    b ∈ books ↔ Row.ofBook b ∈ c.rows ∧ ∀ p ∈ chain, (Row.ofBook b).meets p = true := by
  rw [← List.mem_map_of_injective Row.ofBook_injective, lists.perm.mem_iff, matching, List.mem_filter,
    List.all_eq_true]

/-- For all dates `first` and `last`, the range between their texts finds the listing of the books whose
dates lie between them by the bytes of their texts. If both are written without a sign these are exactly
the stored books between them in the calendar, and unsigned texts are in the order of the calendar. -/
theorem find_dateRange (calls : List Call) {s e : String} {first last : Date}
    (start : Date.parse? s = some first) (stop : Date.parse? e = some last) :
    let c := (replay perform .empty calls).1
    ∃ books, c.find [.dateRange s e] = .ok books ∧ c.Lists [.dateRange s e] (books.map Row.ofBook) ∧
      (first.IsUnsigned → last.IsUnsigned →
        (∀ b, b ∈ books ↔ Row.ofBook b ∈ c.rows ∧ first ≤ b.publishedDate ∧ b.publishedDate ≤ last) ∧
          (Text.bytes s ≤ Text.bytes e ↔ first ≤ last)) ∧
      (first.IsUnsigned → ¬ last.IsUnsigned → books = []) := by
  intro c
  obtain ⟨isOpen, consistent⟩ := isConsistent_replay calls
  obtain rfl := Date.parse?_eq_some_iff.mp start
  obtain rfl := Date.parse?_eq_some_iff.mp stop
  obtain ⟨books, found, lists⟩ := consistent.exists_find_lists isOpen
    (List.forall_mem_singleton.mpr (show (Filter.Predicate.dateRange _ _).IsOnBooks from trivial))
  have mem (b : Book) : b ∈ books ↔ Row.ofBook b ∈ c.rows ∧
      Text.bytes first.render ≤ Text.bytes b.publishedDate.render ∧
        Text.bytes b.publishedDate.render ≤ Text.bytes last.render := by
    rw [lists.mem_iff, List.forall_mem_singleton, Row.meets_dateRange_ofBook]
  refine ⟨books, found, lists, fun unsigned unsigned' => ⟨fun b => ?_, ?_⟩, fun unsigned signed => ?_⟩
  · rw [mem, Date.bytes_render_between_iff unsigned unsigned']
  · exact Date.bytes_render_le_iff unsigned unsigned'
  · rw [List.eq_nil_iff_forall_not_mem]
    intro b found
    obtain ⟨_, notBefore, notAfter⟩ := (mem b).mp found
    exact Date.not_bytes_render_le_of_not_isUnsigned unsigned signed (List.le_trans notBefore notAfter)

/-- A leap day at the start of a range, with books before it and with signed years beside it. -/
theorem find_dateRange_leap_day :
    let emma : Book := ⟨"Emma", "Austen", "42", ⟨2020, 2, 29, by decide⟩, 1, "", ""⟩
    let calls : List Call := [.create emma,
      .create { emma with isbn := "43", publishedDate := ⟨2020, 2, 28, by decide⟩ },
      .create { emma with isbn := "44", publishedDate := ⟨10000, 1, 1, by decide⟩ },
      .update { emma with publishedDate := ⟨2020, 12, 31, by decide⟩ }]
    let c := (replay perform .empty calls).1
    let first : Date := ⟨2020, 2, 29, by decide⟩
    let last : Date := ⟨9999, 12, 31, by decide⟩
    (Date.parse? "2020-02-29" = some first ∧ Date.parse? "9999-12-31" = some last ∧ first.IsUnsigned ∧
        last.IsUnsigned) ∧
      ∃ books, c.find [.dateRange "2020-02-29" "9999-12-31"] = .ok books ∧
        ∀ b, b ∈ books ↔ Row.ofBook b ∈ c.rows ∧ first ≤ b.publishedDate ∧ b.publishedDate ≤ last := by
  intro emma calls c first last
  have start : Date.parse? "2020-02-29" = some first := by decide
  have stop : Date.parse? "9999-12-31" = some last := by decide
  have unsigned : first.IsUnsigned := by decide
  have unsigned' : last.IsUnsigned := by decide
  obtain ⟨books, found, _, between, _⟩ := find_dateRange calls start stop
  exact ⟨⟨start, stop, unsigned, unsigned'⟩, books, found, (between unsigned unsigned').1⟩

/-- A year with a sign ends the range: the stored book in it is not found. -/
theorem find_dateRange_misses_book_before_signed_year :
    let emma : Book := ⟨"Emma", "Austen", "42", ⟨2020, 6, 1, by decide⟩, 1, "", ""⟩
    let c := (replay perform .empty [.create emma]).1
    let first : Date := ⟨2020, 1, 1, by decide⟩
    let last : Date := ⟨10000, 1, 1, by decide⟩
    (Date.parse? "2020-01-01" = some first ∧ Date.parse? "+10000-01-01" = some last ∧
        Row.ofBook emma ∈ c.rows ∧ first ≤ emma.publishedDate ∧ emma.publishedDate ≤ last) ∧
      c.find [.dateRange "2020-01-01" "+10000-01-01"] = .ok [] := by
  intro emma c first last
  have notBefore : first ≤ emma.publishedDate := Date.le_iff.mpr (by decide)
  have notAfter : emma.publishedDate ≤ last := Date.le_iff.mpr (by decide)
  exact ⟨⟨by decide, by decide, by decide +kernel, notBefore, notAfter⟩, by decide +kernel⟩

end Catalogue

end BookCatalogue

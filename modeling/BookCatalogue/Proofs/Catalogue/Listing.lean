import Mathlib
import BookCatalogue.Proofs.Catalogue.Calls
import BookCatalogue.Proofs.Catalogue.Field

/-! # Listings

A listing holds the rows that meet every predicate of a chain, each once, by title and ISBN without
case. Since no two rows have the same ISBN there is one listing only. Finding the books of a chain
reads its listing from the first row to the last: it answers with the books if all rows can be read
and otherwise with what is wrong with the first that cannot, and no other row has a say in it. -/

namespace BookCatalogue

open BookCatalogue.Filter (Chain Predicate)
open Text (FoldedKey)

/-! ## The order of rows -/

namespace Row

theorem ordering_eq_compareLex :
    ordering = compareLex (compareOn fun r => FoldedKey.of r.title) (compareOn key) := by
  funext a b
  simp only [ordering, compareLex, compareOn]

instance : Std.TransCmp ordering := by
  rw [ordering_eq_compareLex]
  infer_instance

/-- Rows that are level in the order of listings have the same ISBN. -/
theorem key_eq_of_ordering_eq {a b : Row} (level : a.ordering b = .eq) : a.key = b.key :=
  Std.LawfulEqCmp.eq_of_compare (Ordering.then_eq_eq.mp level).2

theorem ordering_swap (a b : Row) : b.ordering a = (a.ordering b).swap :=
  Std.OrientedCmp.eq_swap

theorem isLE_ordering_total (a b : Row) : ((a.ordering b).isLE || (b.ordering a).isLE) = true := by
  rw [ordering_swap a b]
  cases a.ordering b <;> rfl

end Row

namespace Catalogue

variable {c : Catalogue} {chain : Chain} {rows others : List Row}

theorem readRow_eq_ok_iff {r : Row} {b : Book} : readRow r = .ok b ↔ r = Row.ofBook b := by
  rw [← Row.toBook_eq_ok_iff, readRow]
  cases r.toBook <;> simp [Except.mapError]

theorem readRow_eq_error_iff {r : Row} {e : Error} :
    readRow r = .error e ↔ ∃ corruption, r.IsCorrupt corruption ∧ e = .corrupt corruption := by
  simp only [← Row.toBook_eq_error_iff, readRow]
  cases r.toBook <;> simp [Except.mapError, eq_comm]

/-- Every row is the row of the book in its place. -/
theorem forall₂_readRow_iff {books : List Book} :
    List.Forall₂ (fun r b => readRow r = .ok b) rows books ↔ rows = books.map Row.ofBook := by
  simp only [readRow_eq_ok_iff]
  rw [← List.forall₂_eq_eq_eq, List.forall₂_map_right_iff]

/-! ## The one listing of a chain -/

/-- The rows that meet every predicate of a chain, in order of arrival. -/
def matching (c : Catalogue) (chain : Chain) : List Row := c.rows.filter fun r => chain.all r.meets

/-- The rows that meet every predicate of the chain, each once, by title and ISBN. -/
structure Lists (c : Catalogue) (chain : Chain) (rows : List Row) : Prop where
  perm : rows.Perm (c.matching chain)
  sorted : rows.Pairwise fun a b => a.ordering b = .lt

def sortRows (rows : List Row) : List Row := rows.mergeSort fun a b => (a.ordering b).isLE

theorem pairwise_sortRows (rows : List Row) :
    (sortRows rows).Pairwise fun a b => (a.ordering b).isLE = true :=
  List.pairwise_mergeSort (fun _ _ _ => Std.TransCmp.isLE_trans) Row.isLE_ordering_total rows

/-- Sorting finds the only order in which each row comes strictly before the next. -/
theorem sortRows_eq_of_pairwise {selected : List Row} (perm : rows.Perm selected)
    (sorted : rows.Pairwise fun a b => a.ordering b = .lt) : sortRows selected = rows := by
  have sortedLE : rows.Pairwise fun a b => (a.ordering b).isLE = true :=
    sorted.imp fun less => by rw [less]; rfl
  have apart : rows.Pairwise fun a b => a.ordering b ≠ .eq :=
    sorted.imp fun less => by rw [less]; exact Ordering.noConfusion
  have symmetric : Std.Symm fun a b : Row => a.ordering b ≠ .eq := by
    refine ⟨fun a b different level => different ?_⟩
    rw [Row.ordering_swap, level]
    rfl
  have same : (sortRows selected).Perm rows := (List.mergeSort_perm _ _).trans perm.symm
  refine same.eq_of_pairwise ?_ (pairwise_sortRows selected) sortedLE
  intro a b member member' less less'
  by_contra different
  have level : a.ordering b = .eq := by
    rw [Row.ordering_swap a b] at less'
    cases order : a.ordering b <;> simp_all
  exact apart.forall (same.subset member) member' different level

theorem Lists.sortRows_eq (lists : c.Lists chain rows) :
    sortRows (c.matching chain) = rows :=
  sortRows_eq_of_pairwise lists.perm lists.sorted

/-- Rows of different ISBNs are put in strict order. -/
theorem pairwise_lt_sortRows (apart : rows.Pairwise fun a b => a.key ≠ b.key) :
    (sortRows rows).Pairwise fun a b => a.ordering b = .lt := by
  have stillApart : (sortRows rows).Pairwise fun a b => a.key ≠ b.key :=
    apart.perm (List.mergeSort_perm _ _).symm Ne.symm
  refine ((pairwise_sortRows rows).and stillApart).imp fun {a b} ⟨less, different⟩ => ?_
  cases order : a.ordering b with
  | lt => rfl
  | eq => exact absurd (Row.key_eq_of_ordering_eq order) different
  | gt => rw [order] at less; cases less

/-- Rows of different ISBNs are put in one order, wherever they came from. -/
theorem sortRows_eq_of_perm (perm : rows.Perm others) (apart : rows.Pairwise fun a b => a.key ≠ b.key) :
    sortRows others = sortRows rows :=
  sortRows_eq_of_pairwise ((List.mergeSort_perm _ _).trans perm) (pairwise_lt_sortRows apart)

/-- A table without two rows of one ISBN has a listing of every chain. -/
theorem exists_lists (distinct : c.HasDistinctKeys) (chain : Chain) : ∃ rows, c.Lists chain rows := by
  have apart : (c.matching chain).Pairwise fun a b => a.key ≠ b.key := distinct.pairwise_filter _
  exact ⟨sortRows (c.matching chain), List.mergeSort_perm _ _, pairwise_lt_sortRows apart⟩

/-! ## Finding -/

theorem find_of_closed (closed : c.isOpen = false) (chain : Chain) : c.find chain = .error .engine := by
  simp [find, findAt, closed]

/-- Finding the books of a sensible chain reads its listing, at all times. -/
theorem Lists.findAt_eq (lists : c.Lists chain rows) (isOpen : c.isOpen = true)
    (onBooks : ∀ p ∈ chain, p.IsOnBooks) (times : Times) : c.findAt times chain = rows.mapM readRow := by
  obtain ⟨tests, condition, meets⟩ := exists_tests_all_meets onBooks
  rw [findAt, condition, ← lists.sortRows_eq]
  simp only [isOpen, Bool.not_true, Bool.false_eq_true, if_false]
  rw [select_eq_filter c (meets times)]
  rfl

theorem Lists.find_eq (lists : c.Lists chain rows) (isOpen : c.isOpen = true)
    (onBooks : ∀ p ∈ chain, p.IsOnBooks) : c.find chain = rows.mapM readRow :=
  lists.findAt_eq isOpen onBooks .unknown

/-- How the books of a chain are found by a listing of rows: it is the only one; the answer is the
books of its rows if each of them has a written date and an edition in range, and otherwise what is
wrong with the first that has not, its date before its edition; rows outside it have no influence. -/
structure Answers (c : Catalogue) (chain : Chain) (rows : List Row) : Prop where
  lists : ∀ others, c.Lists chain others ↔ others = rows
  books : ∀ books, c.find chain = .ok books ↔ rows = books.map Row.ofBook
  success : (∃ books, c.find chain = .ok books) ↔ ∀ r ∈ rows, r.IsReadable
  failure : ∀ e, c.find chain = .error e ↔ ∃ before r after, rows = before ++ r :: after ∧
    (∀ earlier ∈ before, earlier.IsReadable) ∧ ∃ corruption, r.IsCorrupt corruption ∧
      e = .corrupt corruption
  frame : ∀ other : Catalogue, other.isOpen = true →
    (other.matching chain).Perm (c.matching chain) → other.find chain = c.find chain

/-- The books of a filter are found by the listing of its chain, whatever the rows of the table hold. -/
theorem find_answers_listing {raw : String} (isOpen : c.isOpen = true) (distinct : c.HasDistinctKeys)
    (accepted : Book.parseFilter raw = .ok chain) : ∃ rows, c.Answers chain rows := by
  obtain ⟨rows, lists⟩ := exists_lists distinct chain
  have onBooks := Book.isOnBooks_of_parseFilter accepted
  have found := lists.find_eq isOpen onBooks
  have readable (r : Row) : r.IsReadable ↔ ∃ b, readRow r = .ok b := by
    simp only [Row.isReadable_iff_exists_toBook, readRow_eq_ok_iff, Row.toBook_eq_ok_iff]
  refine ⟨rows, fun others => ⟨?_, ?_⟩, fun books => ?_, ?_, fun e => ?_, ?_⟩
  · intro otherLists
    rw [← lists.sortRows_eq, otherLists.sortRows_eq]
  · rintro rfl
    exact lists
  · rw [found, mapM_eq_ok_iff, forall₂_readRow_iff]
  · simp only [found, exists_mapM_eq_ok_iff, readable]
  · simp only [found, mapM_eq_error_iff, readRow_eq_error_iff, readable]
  · intro other otherOpen same
    have otherLists : other.Lists chain rows := ⟨lists.perm.trans same.symm, lists.sorted⟩
    rw [found, otherLists.find_eq otherOpen onBooks]

/-- A number with a plus sign, a range of dates, and rows outside the listing that no book could have
been stored as. -/
theorem find_answers_listing_corrupt_outside :
    let c : Catalogue := ⟨[⟨"b", "", "1", "2020-01-01", 5, "", ""⟩, ⟨"x", "", "2", "soon", 5, "", ""⟩,
      ⟨"A", "", "3", "2020-12-31", 5, "", ""⟩, ⟨"", "", "4", "2020-06-01", -1, "", ""⟩], true⟩
    let raw := "edition_eq_+005_and_dates_eq_2020-01-01-to-2020-12-31_and_title_ne_X"
    let chain : Chain := [.comparison "Edition" .equals "+005", .dateRange "2020-01-01" "2020-12-31",
      .comparison "Title" .differs "X"]
    (c.isOpen = true ∧ c.HasDistinctKeys ∧ Book.parseFilter raw = .ok chain) ∧
      ∃ rows, c.Answers chain rows := by
  intro c raw chain
  have distinct : c.HasDistinctKeys := by
    unfold HasDistinctKeys
    decide
  have accepted : Book.parseFilter raw = .ok chain := by decide
  exact ⟨⟨rfl, distinct, accepted⟩, find_answers_listing rfl distinct accepted⟩

end Catalogue

end BookCatalogue

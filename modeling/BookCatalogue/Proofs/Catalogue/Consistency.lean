import Mathlib
import BookCatalogue.Proofs.Catalogue.Listing

/-! # Consistent tables

Calls, failing ones included, keep the table consistent: no two rows have the same ISBN, ISBNs and titles
are within their lengths, editions are bytes, and dates are written as dates are. Every row of a
consistent table is read as a book, and as filters on books name columns only, no reading of an open
catalogue fails. -/

namespace BookCatalogue

open BookCatalogue.Catalogue (Call)
open BookCatalogue.Filter (Chain)

/-! ## Consistent rows -/

/-- What every row holds that was stored as a book. -/
structure Row.IsConsistent (r : Row) : Prop where
  isbn : 1 ≤ Row.storedLength r.isbn ∧ Row.storedLength r.isbn ≤ 32
  title : 1 ≤ Row.storedLength r.title
  edition : 0 ≤ r.edition ∧ r.edition ≤ 255
  date : ∃ d, Date.parse? r.publishedDate = some d ∧ d.render = r.publishedDate

theorem Row.date_ofBook (b : Book) :
    ∃ d, Date.parse? (ofBook b).publishedDate = some d ∧ d.render = (ofBook b).publishedDate :=
  ⟨b.publishedDate, Date.parse?_eq_some_iff.mpr rfl, rfl⟩

theorem Row.isConsistent_ofBook {b : Book} (storable : b.IsStorable) : (ofBook b).IsConsistent where
  isbn := ⟨storable.isbnNotEmpty, storable.isbnNotLong⟩
  title := storable.titleNotEmpty
  edition := edition_ofBook_inRange b
  date := date_ofBook b

/-- A replaced row keeps its ISBN and takes everything else from a book. -/
theorem Row.IsConsistent.replacedBy {r : Row} (consistent : r.IsConsistent) {b : Book}
    (title : 1 ≤ storedLength b.title) : ((ofBook b).replacedBy r).IsConsistent := by
  by_cases same : r.key = (ofBook b).key
  · rw [replacedBy_of_key_eq same]
    exact ⟨consistent.isbn, title, edition_ofBook_inRange b, date_ofBook b⟩
  · rw [replacedBy_of_key_ne same]
    exact consistent

theorem Row.IsConsistent.isReadable {r : Row} (consistent : r.IsConsistent) : r.IsReadable := by
  obtain ⟨d, parsed, _⟩ := consistent.date
  exact ⟨by rw [parsed, Option.isSome_some], consistent.edition⟩

namespace Catalogue

/-! ## Consistent tables -/

/-- No two rows have the same ISBN, and all rows are consistent. -/
structure IsConsistent (c : Catalogue) : Prop where
  distinct : c.HasDistinctKeys
  rows : ∀ r ∈ c.rows, r.IsConsistent

theorem isConsistent_empty : IsConsistent .empty := ⟨List.nodup_nil, by simp [empty]⟩

section Calls

variable {c after : Catalogue} {b : Book}

theorem IsConsistent.create (consistent : c.IsConsistent) (success : c.create b = .ok after) :
    after.IsConsistent := by
  obtain ⟨⟨_, storable⟩, absent, rfl⟩ := create_eq_ok_iff.mp success
  refine ⟨consistent.distinct.append absent, fun r member => ?_⟩
  rcases List.mem_append.mp member with old | new
  · exact consistent.rows r old
  · rw [List.mem_singleton.mp new]
    exact Row.isConsistent_ofBook storable

theorem IsConsistent.update (consistent : c.IsConsistent) (success : c.update b = .ok after) :
    after.IsConsistent := by
  obtain ⟨_, _, title, rfl⟩ := update_eq_ok_iff.mp success
  refine ⟨consistent.distinct.map_replacedBy _, fun r member => ?_⟩
  obtain ⟨old, present, rfl⟩ := List.mem_map.mp member
  exact (consistent.rows old present).replacedBy title

/-- A call, failing or not, keeps the table consistent. -/
theorem IsConsistent.perform (consistent : c.IsConsistent) (call : Call) :
    (c.perform call).1.IsConsistent := by
  cases call with
  | create b => exact settle_induction consistent fun _ success => consistent.create success
  | update b => exact settle_induction consistent fun _ success => consistent.update success
  | get isbn => exact consistent

end Calls

/-- Calls do not close a catalogue. -/
theorem isOpen_perform (c : Catalogue) (call : Call) : (c.perform call).1.isOpen = c.isOpen := by
  cases call with
  | create b =>
    cases change : c.create b with
    | ok after =>
      obtain ⟨_, _, rfl⟩ := create_eq_ok_iff.mp change
      simp [perform, change, settle]
    | error e => simp [perform, change, settle]
  | update b =>
    cases change : c.update b with
    | ok after =>
      obtain ⟨_, _, _, rfl⟩ := update_eq_ok_iff.mp change
      simp [perform, change, settle]
    | error e => simp [perform, change, settle]
  | get isbn => rfl

/-- A run of calls leaves a new catalogue open and consistent. -/
theorem isConsistent_replay (calls : List Call) :
    (replay perform .empty calls).1.isOpen = true ∧ (replay perform .empty calls).1.IsConsistent := by
  have preserved (c : Catalogue) (call : Call) (kept : c.isOpen = true ∧ c.IsConsistent) :
      (c.perform call).1.isOpen = true ∧ (c.perform call).1.IsConsistent := by
    rw [isOpen_perform]
    exact ⟨kept.1, kept.2.perform call⟩
  exact replay_induction preserved ⟨rfl, isConsistent_empty⟩ calls

/-! ## Reading a consistent table -/

theorem IsConsistent.exists_get? {c : Catalogue} (consistent : c.IsConsistent) (isOpen : c.isOpen = true)
    (isbn : String) : ∃ found, c.get? isbn = .ok found := by
  unfold get?
  rw [isOpen]
  cases found : c.row? (.of isbn) with
  | none => exact ⟨none, rfl⟩
  | some r =>
    have stored : r ∈ c.rows := List.mem_of_find?_eq_some found
    obtain ⟨b, read⟩ := Row.isReadable_iff_exists_toBook.mp (consistent.rows r stored).isReadable
    exact ⟨some b, by simp [readRow, read, Except.mapError, Except.map]⟩

/-- No chain of predicates on books fails. -/
theorem IsConsistent.exists_find {c : Catalogue} (consistent : c.IsConsistent) (isOpen : c.isOpen = true)
    {chain : Chain} (onBooks : ∀ p ∈ chain, p.IsOnBooks) : ∃ books, c.find chain = .ok books := by
  obtain ⟨rows, lists⟩ := exists_lists consistent.distinct chain
  simp only [lists.find_eq isOpen onBooks, exists_mapM_eq_ok_iff]
  intro r member
  have stored : r ∈ c.rows := List.mem_of_mem_filter (lists.perm.subset member)
  obtain ⟨b, read⟩ := Row.isReadable_iff_exists_toBook.mp (consistent.rows r stored).isReadable
  exact ⟨b, readRow_eq_ok_iff.mpr (Row.toBook_eq_ok_iff.mp read)⟩

end Catalogue

end BookCatalogue

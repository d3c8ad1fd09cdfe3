import Mathlib
import BookCatalogue.Proofs.Database.Opening

/-! # What openings leave in a file

An opening that fails leaves the file as it found it. One that succeeds takes nothing away: tables and
indexes stay, records of changes stay as they are and in front, and the version does not fall. Opening
adds a record of version 2 only, and only where there is none, so that any number of openings adds one
record at most. -/

namespace BookCatalogue.Database.Layout

variable {l after : Layout}

/-- The records of changes; none where there is no table of them. -/
def records (l : Layout) : List ChangeRow := l.changes.getD []

/-- The records stay as they are, or one of version 2 follows them and is the first of this version. -/
def AddsOnce (before after : List ChangeRow) : Prop :=
  after = before ∨
    (∀ r ∈ before, r.version ≠ 2) ∧ ∃ row : ChangeRow, row.version = 2 ∧ after = before ++ [row]

/-- One layout takes nothing away from another and brings it forward. -/
structure Extends (before after : Layout) : Prop where
  versionTable : before.versions.isSome → after.versions.isSome
  changeTable : before.changes.isSome → after.changes.isSome
  bookTable : before.hasBooks → after.hasBooks
  indexes : before.indexes ⊆ after.indexes
  version : ∀ row, before.version? = some row →
    ∃ later, after.version? = some later ∧ row.version ≤ later.version
  records : AddsOnce before.records after.records

/-! ## One after another -/

theorem AddsOnce.trans {before between after : List ChangeRow} (first : AddsOnce before between)
    (second : AddsOnce between after) : AddsOnce before after := by
  obtain rfl | ⟨awaited, row, current, rfl⟩ := first
  · exact second
  · obtain rfl | ⟨unrecorded, _⟩ := second
    · exact .inr ⟨awaited, row, current, rfl⟩
    · -- The record that was added first keeps another from being added.
      have recorded : row ∈ before ++ [row] := by simp
      exact absurd current (unrecorded row recorded)

theorem Extends.refl (l : Layout) : l.Extends l where
  versionTable := id
  changeTable := id
  bookTable := id
  indexes := List.Subset.refl _
  version := fun row stored => ⟨row, stored, le_rfl⟩
  records := .inl rfl

theorem Extends.trans {before between after : Layout} (first : before.Extends between)
    (second : between.Extends after) : before.Extends after where
  versionTable := second.versionTable ∘ first.versionTable
  changeTable := second.changeTable ∘ first.changeTable
  bookTable := second.bookTable ∘ first.bookTable
  indexes := List.Subset.trans first.indexes second.indexes
  version := by
    intro row stored
    obtain ⟨next, stored', le⟩ := first.version row stored
    obtain ⟨last, stored'', le'⟩ := second.version next stored'
    exact ⟨last, stored'', le.trans le'⟩
  records := first.records.trans second.records

/-! ## What an opening changes -/

theorem subset_addIndex (l : Layout) (i : Index) : l.indexes ⊆ (l.addIndex i).indexes := by
  unfold addIndex
  split
  · exact List.Subset.refl _
  · exact List.subset_append_left _ _

@[simp] theorem changes_addIndex (l : Layout) (i : Index) : (l.addIndex i).changes = l.changes := by
  unfold addIndex
  split <;> rfl

@[simp] theorem hasBooks_addIndex (l : Layout) (i : Index) : (l.addIndex i).hasBooks = l.hasBooks := by
  unfold addIndex
  split <;> rfl

@[simp] theorem records_completed (l : Layout) : l.completed.records = l.records := by
  simp [records, completed, complete]

theorem subset_completed (l : Layout) : l.indexes ⊆ l.completed.indexes := by
  let tables : Layout :=
    { l with versions := some (l.versions.getD none), changes := some (l.changes.getD []), hasBooks := true }
  have author := subset_addIndex tables .author
  have publishedDate := subset_addIndex (tables.addIndex .author) .publishedDate
  have genre := subset_addIndex ((tables.addIndex .author).addIndex .publishedDate) .genre
  exact List.Subset.trans author (List.Subset.trans publishedDate genre)

/-- A change that was awaited is recorded once. -/
theorem addsOnce_withChange {row : ChangeRow} (current : row.version = 2) (awaits : l.Awaits row.version) :
    AddsOnce l.records (l.withChange row).records := by
  obtain ⟨rows, changes, unrecorded⟩ := awaits
  have before : l.records = rows := by rw [records, changes, Option.getD_some]
  have after : (l.withChange row).records = rows ++ [row] := by
    rw [records, withChange, changes, Option.map_some, Option.getD_some]
  rw [before, after]
  rw [current] at unrecorded
  exact .inr ⟨unrecorded, row, current, rfl⟩

theorem extends_laidOut (versions : l.versions = none) (awaits : l.completed.Awaits currentVersion) :
    l.Extends l.laidOut where
  versionTable := by simp [versions]
  changeTable := by simp [laidOut, withChange, completed, complete]
  bookTable := by simp [laidOut, withChange, completed, complete]
  indexes := l.subset_completed
  version := by simp [version?, versions]
  records := l.records_completed ▸ addsOnce_withChange rfl awaits

theorem extends_genreStep {row : Option VersionRow} (versions : l.versions = some row)
    (behind : versionOf row < currentVersion) (awaits : l.Awaits 2) : l.Extends l.genreStep where
  versionTable := by simp [versions]
  changeTable := by simp [genreStep, withChange]
  bookTable := by simp
  indexes := l.subset_addIndex .genre
  version := by
    intro stored isStored
    rw [version?, versions] at isStored
    change row = some stored at isStored
    subst isStored
    refine ⟨⟨2, genreIndexRow.name⟩, ?_, le_of_lt behind⟩
    rw [version?, versions_genreStep, versions]
    rfl
  records := by
    have unchanged : l.withGenreIndex.records = l.records := by
      rw [records, changes_withGenreIndex, records]
    rw [← unchanged]
    exact addsOnce_withChange rfl (awaits_withGenreIndex.mpr awaits)

/-- However an opening goes, it brings the layout forward. -/
theorem Opening.extends {outcome : Option OpenError} (opening : Opening l after outcome) :
    l.Extends after := by
  cases opening with
  | failed e => exact .refl l
  | upToDate versions current => exact .refl l
  | laidOut versions awaits => exact extends_laidOut versions awaits
  | stepped versions behind books awaits => exact extends_genreStep versions behind.2 awaits

/-- An opening that fails leaves no trace. -/
theorem Opening.eq_of_failed {outcome : Option OpenError} (opening : Opening l after outcome)
    (failed : outcome ≠ none) : after = l := by
  cases opening with
  | failed e => rfl
  | upToDate versions current => exact absurd rfl failed
  | laidOut versions awaits => exact absurd rfl failed
  | stepped versions behind books awaits => exact absurd rfl failed

/-! ## Any number of openings -/

theorem extends_of_mem_openings (count : Nat) :
    ∀ opened ∈ l.openings count, l.Extends opened.1 := by
  induction count generalizing l with
  | zero => simp [openings]
  | succ count ih =>
    have first := (opening_openFile l).extends
    rw [openings, List.forall_mem_cons]
    refine ⟨first, ?_⟩
    intro opened member
    exact first.trans (ih opened member)

/-- An opening that fails leaves the layout as it found it, and none takes anything away from it. -/
def IsAtomicAdvance (found : Layout) (opened : Layout × Option OpenError) : Prop :=
  (opened.2 ≠ none → opened.1 = found) ∧ found.Extends opened.1

theorem isAtomicAdvance_openFile (l : Layout) : l.IsAtomicAdvance l.openFile :=
  ⟨(opening_openFile l).eq_of_failed, (opening_openFile l).extends⟩

private theorem isChain_openings (l : Layout) (outcome : Option OpenError) (count : Nat) :
    List.IsChain (fun found opened => IsAtomicAdvance found.1 opened)
      ((l, outcome) :: l.openings count) := by
  induction count generalizing l outcome with
  | zero => exact .singleton _
  | succ count ih => exact .cons_cons l.isAtomicAdvance_openFile (ih l.openFile.1 l.openFile.2)

/-- However often a file is opened, an opening that fails leaves the layout as the one before it did, and
one that succeeds takes nothing away. All of them together add one record at most, that of version 2. -/
theorem openings_atomic_and_forward (l : Layout) (count : Nat) :
    List.IsChain (fun found opened => IsAtomicAdvance found.1 opened) ((l, none) :: l.openings count) ∧
      ∀ opened ∈ l.openings count, l.Extends opened.1 :=
  ⟨isChain_openings l none count, extends_of_mem_openings count⟩

end BookCatalogue.Database.Layout

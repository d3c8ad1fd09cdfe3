import Mathlib
import BookCatalogue.Database.Migration

/-! # Opening a file, and opening it again

How opening a file can go: it fails without a trace, finds the layout up to date, lays out a file that
has no version, or takes a file of an earlier version to the current one. Once a file has been opened it
stays as it is however often it is opened again. These openings succeed too, unless the table of the
version is there without its row: the row is not written then, so every later opening takes the same step
once more and meets the record of the first one. -/

namespace BookCatalogue.Database.Layout

variable {l after : Layout}

/-! ## Records of changes -/

def initialRow : ChangeRow := ⟨currentVersion, "initial_schema", Digest.sha256 fullLayoutSql, 1⟩

/-- The row of the step to version 2. -/
def genreIndexRow : ChangeRow := ⟨2, "add_books_genre_index", Digest.sha256 genreIndexSql, 1⟩

/-- Changes are recorded, and none to this version is yet. -/
def Awaits (l : Layout) (version : Int) : Prop :=
  ∃ rows, l.changes = some rows ∧ ∀ r ∈ rows, r.version ≠ version

/-- The layout with the row of one more change. -/
def withChange (l : Layout) (row : ChangeRow) : Layout :=
  { l with changes := l.changes.map (· ++ [row]) }

theorem not_awaits_withChange (l : Layout) (row : ChangeRow) :
    ¬ (l.withChange row).Awaits row.version := by
  rintro ⟨rows, changes, unrecorded⟩
  obtain ⟨before, _, rfl⟩ := Option.map_eq_some_iff.mp changes
  exact unrecorded row (by simp) rfl

/-- A change is recorded once. -/
theorem recordChange_eq_ok_iff {row : ChangeRow} :
    l.recordChange row = .ok after ↔ l.Awaits row.version ∧ l.withChange row = after := by
  unfold recordChange Awaits withChange
  cases l.changes with
  | none => simp
  | some rows =>
    by_cases recorded : ∃ r ∈ rows, r.version = row.version
    · have unawaited : ¬ ∀ r ∈ rows, r.version ≠ row.version := by simpa using recorded
      simp [recorded, unawaited]
    · have awaited : ∀ r ∈ rows, r.version ≠ row.version := by simpa using recorded
      simpa [recorded] using fun _ => awaited

theorem recordChange_of_not_awaits {row : ChangeRow} (unawaited : ¬ l.Awaits row.version) :
    l.recordChange row = .error .engine := by
  unfold recordChange
  cases changes : l.changes with
  | none => rfl
  | some rows =>
    have recorded : ∃ r ∈ rows, r.version = row.version := by
      by_contra absent
      exact unawaited ⟨rows, changes, fun r member same => absent ⟨r, member, same⟩⟩
    simpa using recorded

/-! ## Steps -/

/-- The layout with the index of genres and with version 2. A version row that is missing stays missing. -/
def withGenreIndex (l : Layout) : Layout :=
  { l.addIndex .genre with versions := l.versions.map (Option.map fun _ => ⟨2, genreIndexRow.name⟩) }

def genreStep (l : Layout) : Layout := l.withGenreIndex.withChange genreIndexRow

/-- The layout with all tables and indexes and with the current version. -/
def completed (l : Layout) : Layout :=
  { l.complete with versions := some (some ⟨currentVersion, "Initial schema"⟩) }

def laidOut (l : Layout) : Layout := l.completed.withChange initialRow

@[simp] theorem changes_withGenreIndex (l : Layout) : l.withGenreIndex.changes = l.changes := by
  unfold withGenreIndex addIndex
  split <;> rfl

@[simp] theorem hasBooks_genreStep (l : Layout) : l.genreStep.hasBooks = l.hasBooks := by
  unfold genreStep withChange withGenreIndex addIndex
  split <;> rfl

@[simp] theorem versions_genreStep (l : Layout) :
    l.genreStep.versions = l.versions.map (Option.map fun _ => ⟨2, genreIndexRow.name⟩) := rfl

theorem awaits_withGenreIndex {version : Int} : l.withGenreIndex.Awaits version ↔ l.Awaits version := by
  rw [Awaits, changes_withGenreIndex, Awaits]

theorem addGenreIndex_of_hasBooks (books : l.hasBooks = true) :
    l.addGenreIndex = l.withGenreIndex.recordChange genreIndexRow := by
  simp [addGenreIndex, books, withGenreIndex, genreIndexRow]

/-- The step to version 2 needs the table of books and is taken once. -/
theorem addGenreIndex_eq_ok_iff :
    l.addGenreIndex = .ok after ↔ (l.hasBooks = true ∧ l.Awaits 2) ∧ l.genreStep = after := by
  cases books : l.hasBooks with
  | false => simp [addGenreIndex, books]
  | true =>
    rw [addGenreIndex_of_hasBooks books, recordChange_eq_ok_iff, awaits_withGenreIndex, and_iff_right rfl]
    rfl

/-- A second time the engine refuses the step to version 2. -/
theorem addGenreIndex_genreStep (books : l.hasBooks = true) :
    l.genreStep.addGenreIndex = .error .engine := by
  have kept : l.genreStep.hasBooks = true := by rw [hasBooks_genreStep, books]
  rw [addGenreIndex_of_hasBooks kept]
  apply recordChange_of_not_awaits
  rw [awaits_withGenreIndex]
  exact not_awaits_withChange l.withGenreIndex genreIndexRow

theorem layOut_eq_ok_iff : l.layOut = .ok after ↔ l.completed.Awaits currentVersion ∧ l.laidOut = after :=
  recordChange_eq_ok_iff

/-- The steps from a version to the current one: none from the current one on, that to version 2 from the
two versions before it, and a failure from any other. -/
theorem climb_eq (l : Layout) (version : Int) :
    l.climb version (currentVersion - version).toNat =
      if currentVersion ≤ version then (l, none)
      else if 0 ≤ version then
        match l.addGenreIndex with
        | .ok after => (after, none)
        | .error e => (l, some e)
      else (l, some (.stepFailed (version + 1) "unknown"
        ("Unknown migration version: " ++ toString (version + 1)))) := by
  unfold currentVersion
  split_ifs with current notNegative
  · have none : (2 - version).toNat = 0 := by omega
    rw [none, climb]
  · obtain rfl | rfl : version = 0 ∨ version = 1 := by omega
    · cases taken : l.addGenreIndex <;> simp [climb, step, taken]
    · cases taken : l.addGenreIndex <;> simp [climb, step, taken]
  · obtain ⟨count, some⟩ : ∃ count, (2 - version).toNat = count + 1 := ⟨(1 - version).toNat, by omega⟩
    have notOne : version + 1 ≠ 1 := by omega
    have notTwo : version + 1 ≠ 2 := by omega
    simp [some, climb, step, notOne, notTwo]

/-! ## Opening -/

/-- The version that opening goes by: that of the row, and 0 where there is none. -/
def versionOf (row : Option VersionRow) : Int := (row.map VersionRow.version).getD 0

/-- How opening a file can go, with its layout afterwards and what went wrong. -/
inductive Opening (l : Layout) : Layout → Option OpenError → Prop
  | failed (e : OpenError) : Opening l l (some e)
  | upToDate {row : Option VersionRow} (versions : l.versions = some row)
      (current : currentVersion ≤ versionOf row) : Opening l l none
  | laidOut (versions : l.versions = none) (awaits : l.completed.Awaits currentVersion) :
      Opening l l.laidOut none
  | stepped {row : Option VersionRow} (versions : l.versions = some row)
      (behind : 0 ≤ versionOf row ∧ versionOf row < currentVersion)
      (books : l.hasBooks = true) (awaits : l.Awaits 2) : Opening l l.genreStep none

/-- A file with a table of its version is led through the steps from that version. -/
theorem openFile_of_versions {row : Option VersionRow} (versions : l.versions = some row) :
    l.openFile =
      if isReadableVersion (versionOf row) then
        l.climb (versionOf row) (currentVersion - versionOf row).toNat
      else (l, some .engine) := by
  unfold openFile
  rw [versions]
  rfl

theorem openFile_of_current {row : VersionRow} (versions : l.versions = some (some row))
    (current : row.version = currentVersion) : l.openFile = (l, none) := by
  have version : versionOf (some row) = currentVersion := current
  rw [openFile_of_versions versions, version, climb_eq]
  rfl

theorem opening_openFile (l : Layout) : Opening l l.openFile.1 l.openFile.2 := by
  cases versions : l.versions with
  | none =>
    rw [openFile, versions]
    cases laid : l.layOut with
    | error e => exact .failed e
    | ok after =>
      obtain ⟨awaits, rfl⟩ := layOut_eq_ok_iff.mp laid
      exact .laidOut versions awaits
  | some row =>
    rw [openFile_of_versions versions, climb_eq]
    split_ifs with readable current notNegative
    · exact .upToDate versions current
    · cases stepped : l.addGenreIndex with
      | error e => exact .failed e
      | ok after =>
        obtain ⟨⟨books, awaits⟩, rfl⟩ := addGenreIndex_eq_ok_iff.mp stepped
        exact .stepped versions ⟨notNegative, not_le.mp current⟩ books awaits
    · exact .failed _
    · exact .failed _

/-! ## Opening again -/

/-- What opening a file again and again comes to, time by time. -/
def openings (l : Layout) : Nat → List (Layout × Option OpenError)
  | 0 => []
  | count + 1 => l.openFile :: openings l.openFile.1 count

/-- An opening that leaves the file as it is comes to the same every time. -/
theorem openings_of_openFile_eq {outcome : Option OpenError} (opened : l.openFile = (l, outcome))
    (count : Nat) : l.openings count = List.replicate count (l, outcome) := by
  induction count with
  | zero => rfl
  | succ count ih => rw [openings, opened, ih, List.replicate_succ]

/-- The step to version 2 is taken anew at each opening if the version row is missing, and refused. -/
theorem openFile_genreStep_of_missing (missing : l.versions = some none) (books : l.hasBooks = true) :
    l.genreStep.openFile = (l.genreStep, some .engine) := by
  have versions : l.genreStep.versions = some none := by
    rw [versions_genreStep, missing]
    rfl
  rw [openFile_of_versions versions, climb_eq, addGenreIndex_genreStep books]
  rfl

theorem openFile_of_opened (opened : l.openFile = (after, none)) :
    after.openFile = (after, if l.versions = some none then some .engine else none) := by
  have opening := opening_openFile l
  rw [opened] at opening
  cases opening with
  | upToDate versions current =>
    have present : after.versions ≠ some none := by
      intro missing
      obtain rfl := Option.some.inj (versions.symm.trans missing)
      exact absurd current (by decide)
    rw [if_neg present]
    exact opened
  | laidOut versions awaits =>
    rw [if_neg (by simp [versions])]
    exact openFile_of_current rfl rfl
  | @stepped row versions behind books awaits =>
    cases row with
    | none =>
      rw [if_pos versions]
      exact openFile_genreStep_of_missing versions books
    | some row =>
      have advanced : l.genreStep.versions = some (some ⟨2, genreIndexRow.name⟩) := by
        rw [versions_genreStep, versions]
        rfl
      rw [if_neg (by simp [versions])]
      exact openFile_of_current advanced rfl

/-- A file that was opened with success has the same layout after any number of further openings, and each
of them succeeds just if the first did not find a table of the version without its row. -/
theorem openings_of_opened (opened : l.openFile = (after, none)) (count : Nat) :
    after.openings count =
      List.replicate count (after, if l.versions = some none then some .engine else none) :=
  openings_of_openFile_eq (openFile_of_opened opened) count

/-- A file of version 1 with a record of its own. -/
theorem openings_of_opened_version_one :
    let l : Layout := ⟨some (some ⟨1, "setup"⟩), some [⟨1, "setup", "", 1⟩], true, []⟩
    l.openFile = (l.genreStep, none) ∧
      l.genreStep.openings 3 = List.replicate 3 (l.genreStep, none) := by
  intro l
  have stepped : l.addGenreIndex = .ok l.genreStep := by
    have awaits : l.Awaits 2 := ⟨_, rfl, by decide⟩
    exact addGenreIndex_eq_ok_iff.mpr ⟨⟨rfl, awaits⟩, rfl⟩
  have versions : l.versions = some (some ⟨1, "setup"⟩) := rfl
  have opened : l.openFile = (l.genreStep, none) := by
    rw [openFile_of_versions versions, climb_eq, stepped]
    rfl
  exact ⟨opened, openings_of_opened opened 3⟩

/-- A table of the version without its row: the first opening succeeds and the second does not. -/
theorem openFile_refused_again_without_version_row :
    let l : Layout := ⟨some none, some [], true, []⟩
    l.openFile = (l.genreStep, none) ∧
      l.genreStep.openFile = (l.genreStep, some .engine) := by
  intro l
  have stepped : l.addGenreIndex = .ok l.genreStep := by
    have awaits : l.Awaits 2 := ⟨_, rfl, by simp⟩
    exact addGenreIndex_eq_ok_iff.mpr ⟨⟨rfl, awaits⟩, rfl⟩
  have missing : l.versions = some none := rfl
  refine ⟨?_, openFile_genreStep_of_missing missing rfl⟩
  rw [openFile_of_versions missing, climb_eq, stepped]
  rfl

end BookCatalogue.Database.Layout

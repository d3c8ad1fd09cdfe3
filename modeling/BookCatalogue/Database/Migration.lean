import BookCatalogue.Database.Layout
import BookCatalogue.Database.Statements
import BookCatalogue.Digest.Sha256

/-! # Bringing a layout up to date

Opening a file brings its layout to the current version. A file without a version gets everything at
once; any other is led through the versions one by one. A step that fails leaves no trace. -/

namespace BookCatalogue.Database

def currentVersion : Int := 2

/-- Why a file cannot be brought up to date. -/
inductive OpenError where
  /-- The engine refused something. -/
  | engine
  /-- The step to a version failed. -/
  | stepFailed (version : Int) (name : String) (reason : String)
deriving DecidableEq, Repr

def OpenError.message : OpenError → String
  | engine => "SQLite error: the database engine refused the operation"
  | stepFailed version name reason =>
    "Migration " ++ toString version ++ " (" ++ name ++ ") failed: " ++ reason

namespace Layout

/-- Adds the row of a change. There has to be a table for it, and each version has one row. -/
def recordChange (l : Layout) (row : ChangeRow) : Except OpenError Layout :=
  match l.changes with
  | none => .error .engine
  | some rows =>
    if rows.any fun r => r.version == row.version then .error .engine
    else .ok { l with changes := some (rows ++ [row]) }

/-- Creates whatever tables and indexes are missing. -/
def complete (l : Layout) : Layout :=
  let tables : Layout :=
    { l with versions := some (l.versions.getD none), changes := some (l.changes.getD []),
             hasBooks := true }
  ((tables.addIndex .author).addIndex .publishedDate).addIndex .genre

/-- Lays out a file that has no version. -/
def layOut (l : Layout) : Except OpenError Layout :=
  { l.complete with versions := some (some ⟨currentVersion, "Initial schema"⟩) }.recordChange
    ⟨currentVersion, "initial_schema", Digest.sha256 fullLayoutSql, 1⟩

/-- The step to version 2: the index of genres. -/
def addGenreIndex (l : Layout) : Except OpenError Layout :=
  let name := "add_books_genre_index"
  if !l.hasBooks then
    .error (.stepFailed 2 name ("Failed at statement: " ++
      String.ofList (genreIndexSql.toList.take 50) ++
      " - error returned from database: (code: 1) no such table: main.books"))
  else
    { l.addIndex .genre with
      versions := l.versions.map (Option.map fun _ => ⟨2, name⟩) }.recordChange
      ⟨2, name, Digest.sha256 genreIndexSql, 1⟩

def step (l : Layout) (version : Int) : Except OpenError Layout :=
  if version = 1 then .ok l
  else if version = 2 then l.addGenreIndex
  else
    .error (.stepFailed version "unknown" ("Unknown migration version: " ++ toString version))

/-- Takes this many steps upwards from a version; each step that succeeds stays. -/
def climb (l : Layout) (version : Int) : Nat → Layout × Option OpenError
  | 0 => (l, none)
  | count + 1 =>
    match l.step (version + 1) with
    | .ok l => l.climb (version + 1) count
    | .error e => (l, some e)

/-- A version that the engine can tell: an integer of 32 bits. -/
def isReadableVersion (version : Int) : Bool :=
  -(Nat.pow 2 31 : Int) ≤ version && version < Nat.pow 2 31

/-- Opens a file: its layout afterwards, and what went wrong. -/
def openFile (l : Layout) : Layout × Option OpenError :=
  match l.versions with
  | none =>
    match l.layOut with
    | .ok l => (l, none)
    | .error e => (l, some e)
  | some row =>
    let version := (row.map VersionRow.version).getD 0
    if isReadableVersion version then l.climb version (currentVersion - version).toNat
    else (l, some .engine)

end Layout

end BookCatalogue.Database

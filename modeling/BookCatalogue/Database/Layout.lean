/-! # The layout of a database file

Which tables and indexes a file holds, and what it says about its own version: one row with the
version, and one row for each change of the layout that has been made. -/

namespace BookCatalogue.Database

/-- The indexes of the table of books. -/
inductive Index where
  | author
  | genre
  | publishedDate
deriving DecidableEq, Repr

def Index.name : Index → String
  | author => "idx_books_author"
  | genre => "idx_books_genre"
  | publishedDate => "idx_books_published_date"

def Index.all : List Index := [author, genre, publishedDate]

/-- The row that holds the version of the layout. -/
structure VersionRow where
  version : Int
  description : String
deriving DecidableEq, Repr

/-- The row of a change that has been made. -/
structure ChangeRow where
  version : Int
  name : String
  checksum : String
  success : Int
deriving DecidableEq, Repr

/-- A layout. A table that is missing has no rows, not even an empty list of them. -/
structure Layout where
  /-- The table of the version, and its row if there is one. -/
  versions : Option (Option VersionRow)
  /-- The table of changes, and its rows. -/
  changes : Option (List ChangeRow)
  hasBooks : Bool
  indexes : List Index
deriving DecidableEq, Repr

namespace Layout

def empty : Layout := ⟨none, none, false, []⟩

def version? (l : Layout) : Option VersionRow := l.versions.bind id

/-- The rows of changes by version. -/
def changeRows (l : Layout) : List ChangeRow :=
  (l.changes.getD []).mergeSort fun a b => a.version ≤ b.version

/-- The kinds and names of all indexes and tables, by kind and name. -/
def objects (l : Layout) : List (String × String) :=
  (Index.all.filter l.indexes.contains).map (fun i => ("index", i.name)) ++
    (if l.hasBooks then [("table", "books")] else []) ++
    (if l.changes.isSome then [("table", "schema_migrations")] else []) ++
    (if l.versions.isSome then [("table", "schema_version")] else [])

/-- Adds an index unless it is there. -/
def addIndex (l : Layout) (i : Index) : Layout :=
  if i ∈ l.indexes then l else { l with indexes := l.indexes ++ [i] }

end Layout

end BookCatalogue.Database

import BookCatalogue.Files.Path
import BookCatalogue.Text.Utf8

/-! # Trees of files and folders

What the program sees of a file system: files with their texts, files that cannot be read as text,
and folders. A walk follows a path segment by segment; every segment but the last must lead to a
folder. -/

namespace BookCatalogue.Files

/-- Files and folders by their names from the root on. A folder on the way to a file or to another
folder need not be listed. -/
structure Tree where
  files : List (List Name × String)
  folders : List (List Name)
  unreadable : List (List Name) := []
deriving DecidableEq, Repr

inductive Entry where
  | file (text : String)
  | unreadable
  | folder
deriving DecidableEq, Repr

namespace Tree

/-- The most bytes of a name. -/
def nameLimit : Nat := 255

/-- The most bytes of a path. -/
def pathLimit : Nat := 4095

/-- The text fits into so many bytes, and no NUL is in it. -/
def fits (limit : Nat) (cs : List Char) : Bool :=
  (Text.utf8Encode cs).length ≤ limit && !cs.contains '\x00'

def get? (t : Tree) (place : List Name) : Option Entry :=
  match t.files.lookup place with
  | some text => some (.file text)
  | none =>
    if t.unreadable.contains place then some .unreadable
    else if place.isEmpty || t.folders.any place.isPrefixOf || t.unreadable.any place.isPrefixOf
        || t.files.any fun (file, _) => place.isPrefixOf file then some .folder
    else none

/-- Goes on from a place along the segments of a path, to an existing place. -/
def walk? (t : Tree) (place : List Name) : List Name → Option (List Name)
  | [] => some place
  | name :: rest =>
    if t.get? place ≠ some .folder then none
    else if name = [] ∨ name = ['.'] then walk? t place rest
    else if name = ['.', '.'] then walk? t place.dropLast rest
    else if (t.get? (place ++ [name])).isSome then walk? t (place ++ [name]) rest
    else none

def locate? (t : Tree) (path : Path) : Option Entry :=
  if fits pathLimit path then (t.walk? [] (Text.splitOn ['/'] path)).bind t.get? else none

/-- Takes the steps from a place, making each folder that is missing. -/
def makeSteps? (t : Tree) (place : List Name) : List Name → Option Tree
  | [] => some t
  | name :: rest =>
    if name = ['.', '.'] then makeSteps? t place.dropLast rest
    else if !fits nameLimit name then none
    else
      let next := place ++ [name]
      match t.get? next with
      | some (.file _) | some .unreadable => none
      | some .folder => makeSteps? t next rest
      | none => makeSteps? { t with folders := t.folders ++ [next] } next rest

def endsInDot (path : Path) : Bool :=
  ((Text.splitOn ['/'] path).filter (· ≠ [])).getLast? == some ['.']

/-- The tree with the folder of this path and all folders on the way to it; none if that cannot be.
A path that ends in a dot needs its folder to be there. -/
def makeFolder? (t : Tree) (path : Path) : Option Tree :=
  if !fits pathLimit path then none
  else if endsInDot path then do
    let t ← t.makeSteps? [] (steps path).dropLast
    if t.locate? path = some .folder then some t else none
  else t.makeSteps? [] (steps path)

end Tree

end BookCatalogue.Files

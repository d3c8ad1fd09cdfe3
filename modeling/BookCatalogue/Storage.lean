import BookCatalogue.Files.Tree
import BookCatalogue.Program

/-! # Where data is stored

The data directory is given by the environment, or else it stands where the user's data does. It is
made when it is missing; unless another file is configured the database is a file in it. -/

namespace BookCatalogue

open Files

/-- The data directory and the file of the database. -/
structure Storage where
  folder : Path
  database : Path
deriving DecidableEq, Repr

namespace Storage

/-- Why there is no storage. -/
inductive Error where
  | folderNotMade (path : Path)
  | databaseNotOpened (path : Path)
deriving DecidableEq, Repr

def Error.message : Error → String
  | .folderNotMade path => "Failed to create data directory: " ++ String.ofList path
  | .databaseNotOpened path => "Failed to open database: " ++ String.ofList path

def userData (places : Places) (env : Environment) : Path :=
  let default := join places.home ".local/share".toList
  match env.get? "XDG_DATA_HOME" with
  | some dir => if isAbsolute dir.toList then dir.toList else default
  | none => default

def folderPath (places : Places) (env : Environment) : Path :=
  match env.get? "BOOKS_DATA_DIR" with
  | some dir => expand places dir.toList
  | none => join (userData places env) dataFolderName.toList

/-- Makes the data directory where it is missing and locates the database; also the tree with that
directory. -/
def prepare (places : Places) (env : Environment) (t : Tree) (configured : Option String) :
    Except Error (Storage × Tree) :=
  let path := folderPath places env
  let absolute := join places.work path
  match t.makeFolder? absolute with
  | none => .error (.folderNotMade path)
  | some t =>
    let folder := pathOf (resolve (steps absolute))
    let database :=
      match configured with
      | some path => expand places path.toList
      | none => join folder databaseFileName.toList
    .ok (⟨folder, database⟩, t)

/-- The most bytes of the path of a database. -/
def databasePathLimit : Nat := 504

/-- The most bytes of the name of a database. -/
def databaseNameLimit : Nat := 247

/-- A database can be opened at this path: folders that are missing on the way can be made, the path
is not too long, and there is no folder and no file of other content. -/
def opens (t : Tree) (path : Path) : Bool :=
  let place := resolve (steps path)
  match t.makeSteps? [] (steps path).dropLast with
  | none => false
  | some t =>
    Tree.fits databasePathLimit (pathOf place)
      && Tree.fits databaseNameLimit (place.getLast?.getD [])
      && match t.get? place with
        | none => true
        | some (.file text) => text.isEmpty
        | some .unreadable | some .folder => false

end Storage

end BookCatalogue

import BookCatalogue.Config.File
import BookCatalogue.Files.Tree
import BookCatalogue.Program

/-! # Loading the configuration

Settings come from the command line, then from a file that the command line names or else from the
file in the working directory, then from the profile in the home directory, and last from
defaults. -/

namespace BookCatalogue.Config

open Files

def profilePath (places : Places) : Path :=
  join (join places.home configFolder.toList) configFileName.toList

def readEntry (path : Path) : Entry → Except Error FileSettings
  | .unreadable | .folder => .error (.unreadable (String.ofList path))
  | .file text =>
    match FileSettings.ofText? text with
    | some s => .ok s
    | none => .error (.malformed (String.ofList path))

/-- The settings of the file at a path, if there is one. -/
def readOptional (places : Places) (t : Tree) (path : Path) : Except Error (Option FileSettings) :=
  match t.locate? (join places.work path) with
  | some e => (readEntry path e).map some
  | none => .ok none

/-- The settings of the file that the command line names, or else of the one in the working
directory, if there is one. -/
def readOverlay (places : Places) (t : Tree) : Option String → Except Error (Option FileSettings)
  | some file =>
    let path := expand places file.toList
    match t.locate? path with
    | some e => (readEntry path e).map some
    | none => .error (.missing (String.ofList path))
  | none => readOptional places t configFileName.toList

def load (places : Places) (t : Tree) (overrides : Overrides) : Except Error Config := do
  let profile ← readOptional places t (profilePath places)
  let overlay ← readOverlay places t overrides.file
  let file := (profile.toList ++ overlay.toList).foldl FileSettings.merge {}
  (layer overrides file).checked

end BookCatalogue.Config

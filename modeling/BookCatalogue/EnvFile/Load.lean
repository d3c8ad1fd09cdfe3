import BookCatalogue.EnvFile.Layout
import BookCatalogue.EnvFile.Line
import BookCatalogue.Files.Tree

/-! # Loading the environment file

The file `.env` in the working directory, or else in the nearest folder above it that has one,
defines variables that the environment lacks. Reading stops at the first malformed line; what was
defined before it stays. -/

namespace BookCatalogue.EnvFile

open Files

/-- Reads lines in order and defines their variables. -/
def defineLines (env : Environment) : List (Option (List Char)) → Environment
  | [] => env
  | none :: _ => env
  | some cs :: rest =>
    match Line.ofChars env cs with
    | .empty => defineLines env rest
    | .definition name value => defineLines (env.define name value) rest
    | .malformed => env

/-- The environment after an environment file with this text. -/
def extend (env : Environment) (text : String) : Environment := defineLines env (lines text)

/-- The text of the environment file of a folder, whose names are last first, or else of the nearest
one above it. A file that cannot be read stands for an empty one. -/
def find? (t : Tree) : List Name → Option String
  | [] => fileAt? []
  | name :: above =>
    match fileAt? (name :: above) with
    | some text => some text
    | none => find? t above
where
  /-- The text of the environment file in a folder. -/
  fileAt? (folder : List Name) : Option String :=
    match t.get? (folder.reverse ++ [".env".toList]) with
    | some (.file text) => some text
    | some .unreadable => some ""
    | _ => none

def load (places : Places) (t : Tree) (env : Environment) : Environment :=
  match find? t (resolve (steps places.work)).reverse with
  | some text => extend env text
  | none => env

end BookCatalogue.EnvFile

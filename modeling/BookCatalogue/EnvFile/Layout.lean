import BookCatalogue.Text.Space

/-! # Cutting an environment file into lines

A quoted value may go on over several lines of the file, so a line in the sense of the reader ends
only outside quotes. A `#` at the start of a line or right after a blank begins a comment, which
ends with the line of the file. -/

namespace BookCatalogue.EnvFile

/-- Where reading stands in a line. -/
inductive LinePlace where
  | plain
  /-- After a blank outside quotes. -/
  | blank
  /-- After a backslash outside quotes. -/
  | escape
  | single
  | singleEscape
  | double
  | doubleEscape
deriving DecidableEq, Repr

/-- The place after a character outside quotes that is neither a blank nor a comment. -/
def LinePlace.afterChar (c : Char) : LinePlace :=
  if c = '\\' then .escape else if c = '"' then .double else if c = '\'' then .single else .plain

/-- The place after one more character; none where a comment begins. -/
def LinePlace.step? (place : LinePlace) (c : Char) : Option LinePlace :=
  match place with
  | .plain =>
    if Text.isSpace c ∧ c ≠ '\n' ∧ c ≠ '\r' then some .blank else some (.afterChar c)
  | .blank => if c = '#' then none else some (.afterChar c)
  | .escape => some .plain
  | .single => some (if c = '\\' then .singleEscape else if c = '\'' then .plain else .single)
  | .singleEscape => some .single
  | .double => some (if c = '\\' then .doubleEscape else if c = '"' then .plain else .double)
  | .doubleEscape => some .double

/-- A line of the file up to a comment, and the place at its end; no place if there is a comment. -/
def scan (place : LinePlace) : List Char → List Char × Option LinePlace
  | [] => ([], some place)
  | c :: rest =>
    match place.step? c with
    | none => ([], none)
    | some next =>
      let (kept, last) := scan next rest
      (c :: kept, last)

/-- The lines of a file with their line feeds. -/
def fileLines : List Char → List (List Char)
  | [] => []
  | c :: rest =>
    if c = '\n' then [c] :: fileLines rest
    else
      match fileLines rest with
      | [] => [[c]]
      | line :: lines => (c :: line) :: lines

def isComment (line : List Char) : Bool := (Text.trimStart line).head? == some '#'

/-- Puts lines of the file together, where `before` is an unfinished line and `place` its end. A
last line that is not finished is none. -/
def assemble (place : LinePlace) (before : List Char) :
    List (List Char) → List (Option (List Char))
  | [] => if place = .plain then [] else [none]
  | line :: lines =>
    if before.isEmpty && isComment line then some [] :: assemble .plain [] lines
    else
      match scan place line with
      | (kept, none) => some (before ++ kept) :: assemble .plain [] lines
      | (kept, some .plain) => some (before ++ kept) :: assemble .plain [] lines
      | (kept, some place) => assemble place (before ++ kept) lines

/-- The text without a byte order mark at its start. -/
def dropMark : List Char → List Char
  | '\uFEFF' :: rest => rest
  | cs => cs

def lines (text : String) : List (Option (List Char)) :=
  assemble .plain [] (fileLines (dropMark text.toList))

end BookCatalogue.EnvFile

import BookCatalogue.Text.Separated
import BookCatalogue.Text.Space

/-! # Paths

A path is a text of names between slashes. A written path is expanded to one from the root: against
the home directory where it starts with a tilde of its own, else against the working directory. -/

namespace BookCatalogue.Files

abbrev Path := List Char

/-- The name of a file or folder, or one of the steps `.` and `..`. -/
abbrev Name := List Char

structure Places where
  home : Path
  work : Path
deriving DecidableEq, Repr

def isAbsolute (path : Path) : Bool := path.head? == some '/'

/-- The path that `part` is when seen from `base`. -/
def join (base part : Path) : Path :=
  if isAbsolute part then part
  else if base.isEmpty || base.getLast? == some '/' then base ++ part
  else base ++ '/' :: part

/-- The path with the home directory in place of a tilde that stands alone or before a slash of
either kind. What follows that slash is seen from the home directory. -/
def unfoldHome (home : Path) : Path → Path
  | ['~'] => home
  | '~' :: c :: rest => if c = '/' ∨ c = '\\' then join home rest else '~' :: c :: rest
  | path => path

/-- The path that a written one means: blanks around it do not count, and the empty path is the
working directory. -/
def expand (places : Places) (written : List Char) : Path :=
  let path := Text.trim written
  if path.isEmpty then places.work else join places.work (unfoldHome places.home path)

/-- The steps of a path from one place to the next; nothing and a dot are no steps. -/
def steps (path : Path) : List Name :=
  (Text.splitOn ['/'] path).filter fun name => name ≠ [] ∧ name ≠ ['.']

/-- The names from the root to the place that steps lead to, where two dots lead one folder up. -/
def resolve (names : List Name) : List Name :=
  names.foldl (fun place name => if name = ['.', '.'] then place.dropLast else place ++ [name]) []

def pathOf (place : List Name) : Path := '/' :: Text.joinWith ['/'] place

theorem isAbsolute_join (base part : Path) (h : isAbsolute base = true) :
    isAbsolute (join base part) = true := by
  cases base with
  | nil => simp [isAbsolute] at h
  | cons c rest =>
    unfold join
    split
    · assumption
    · split <;> simpa [isAbsolute] using h

theorem isAbsolute_expand {places : Places} (h : isAbsolute places.work = true)
    (written : List Char) : isAbsolute (expand places written) = true := by
  simp only [expand]
  split
  · exact h
  · exact isAbsolute_join _ _ h

end BookCatalogue.Files

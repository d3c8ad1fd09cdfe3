import BookCatalogue.Text.Case

/-! # Names of fields and columns

A field is named in upper camel case and its column in words joined by `_`. Both are computed from
any spelling: ASCII letters and digits make up the words, every other character separates them. -/

namespace BookCatalogue.Naming

open Text

/-- The camel-case form of the rest of a spelling; `opens` tells whether a word starts here. -/
def camelFrom (opens : Bool) : List Char → List Char
  | [] => []
  | c :: rest =>
    if c.isAlphanum then (if opens then c.toUpper else c) :: camelFrom c.isDigit rest
    else camelFrom true rest

/-- The upper camel-case name: every word starts with a capital, also after a digit, and is
otherwise kept as written. -/
def camel (spelling : String) : String := String.ofList (camelFrom true spelling.toList)

/-- What stands before a character, as far as the words of a column name depend on it. -/
inductive Before where
  /-- No letter or digit yet. -/
  | nothing
  /-- Separators after a word. -/
  | gap
  /-- A letter or digit. -/
  | wordChar (c : Char)
deriving DecidableEq, Repr

/-- Whether a letter or digit opens a word after another one: a separator stands between them, a
capital follows a small letter or a digit, or a capital is the last of several before a small
letter. -/
def Before.opensWord (before : Before) (c : Char) (rest : List Char) : Bool :=
  match before with
  | .nothing => false
  | .gap => true
  | .wordChar p =>
    c.isUpper && (p.isLower || p.isDigit || (p.isUpper && (rest.head?.any isLowercase)))

/-- What stands before the character after a separator. -/
def Before.separated : Before → Before
  | .nothing => .nothing
  | _ => .gap

/-- The column form of the rest of a spelling. -/
def columnFrom (before : Before) : List Char → List Char
  | [] => []
  | c :: rest =>
    if c.isAlphanum then
      if before.opensWord c rest then '_' :: c.toLower :: columnFrom (.wordChar c) rest
      else c.toLower :: columnFrom (.wordChar c) rest
    else columnFrom before.separated rest

/-- The column name: the words in lower case, joined by `_`. -/
def column (spelling : String) : String := String.ofList (columnFrom .nothing spelling.toList)

end BookCatalogue.Naming

import BookCatalogue.Program
import BookCatalogue.Text.Alphanumeric
import BookCatalogue.Text.Space

/-! # Lines of environment files

A line defines a variable: a name, an equals sign, and a value. In a value, quotes hold characters
together, a backslash takes away the meaning of the next character, and a dollar sign puts in the
value of another variable. A comment starts with `#`. -/

namespace BookCatalogue.EnvFile

/-- The quotes that are open. Within single quotes every character stands for itself. -/
inductive Quotes where
  | none
  | single
  | double
deriving DecidableEq, Repr

/-- What is being read in a value. -/
inductive ValuePlace where
  | plain
  /-- After a backslash. -/
  | escape
  /-- A variable's name after a dollar sign, last first. -/
  | reference (name : List Char)
  /-- A variable's name in braces, last first. -/
  | braced (name : List Char)
  /-- After a blank, where only blanks and a comment may follow. -/
  | ended
  | comment
deriving DecidableEq, Repr

/-- A value that is being read: its characters so far are last first. -/
structure Unfinished where
  place : ValuePlace
  quotes : Quotes
  value : List Char

/-- The characters of a variable whose name is last first; nothing for an unknown one. -/
def substitute (env : Environment) (name : List Char) : List Char :=
  match env.get? (String.ofList name.reverse) with
  | some value => value.toList
  | none => []

def escaped? (c : Char) : Option Char :=
  if c = '\\' ∨ c = '\'' ∨ c = '"' ∨ c = '$' ∨ c = ' ' then some c
  else if c = 'n' then some '\n'
  else none

def isBlank (c : Char) : Bool := c = ' ' || c = '\t'

def Unfinished.insert (u : Unfinished) (env : Environment) (name : List Char) : Unfinished :=
  { u with place := .plain, value := (substitute env name).reverse ++ u.value }

/-- Reads a character that has no special place. -/
def Unfinished.stepPlain (u : Unfinished) (c : Char) : Unfinished :=
  let kept : Unfinished := { u with value := c :: u.value }
  match u.quotes with
  | .single => if c = '\'' then { u with quotes := .none } else kept
  | .double =>
    if c = '$' then { u with place := .reference [] }
    else if c = '"' then { u with quotes := .none }
    else if c = '\\' then { u with place := .escape }
    else kept
  | .none =>
    if c = '$' then { u with place := .reference [] }
    else if c = '\'' then { u with quotes := .single }
    else if c = '"' then { u with quotes := .double }
    else if c = '\\' then { u with place := .escape }
    else if isBlank c then { u with place := .ended }
    else kept

/-- Reads one character of a value. The character that ends the name of a variable stands for
itself, unless it is another dollar sign. -/
def Unfinished.step? (env : Environment) (u : Unfinished) (c : Char) : Option Unfinished :=
  match u.place with
  | .plain => some (u.stepPlain c)
  | .escape => (escaped? c).map fun c => { u with place := .plain, value := c :: u.value }
  | .reference name =>
    if Text.isAlphanumeric c then some { u with place := .reference (c :: name) }
    else if c = '\x7b' ∧ name = [] then some { u with place := .braced [] }
    else
      let filled := u.insert env name
      if c = '$' then some { filled with place := .reference [] }
      else some { filled with value := c :: filled.value }
  | .braced name =>
    if c = '\x7d' then some (u.insert env name) else some { u with place := .braced (c :: name) }
  | .ended =>
    if isBlank c then some u
    else if c = '#' then some { u with place := .comment }
    else none
  | .comment => some u

def Unfinished.finish? (env : Environment) (u : Unfinished) : Option (List Char) :=
  match u.place, u.quotes with
  | .braced _, _ => none
  | .reference name, .none => some (u.insert env name).value.reverse
  | _, .none => some u.value.reverse
  | _, _ => none

def value? (env : Environment) (cs : List Char) : Option (List Char) := do
  (← cs.foldlM (Unfinished.step? env) ⟨.plain, .none, []⟩).finish? env

/-- A character of a variable's name; digits and dots do not start one. -/
def isNameChar (c : Char) : Bool := c.isAlphanum || c = '_' || c = '.'

/-- A variable's name at the start of a text, and what follows it after white space. -/
def name? (cs : List Char) : Option (List Char × List Char) :=
  match cs with
  | c :: _ =>
    if c.isAlpha ∨ c = '_' then
      some (cs.takeWhile isNameChar, Text.trimStart (cs.dropWhile isNameChar))
    else none
  | [] => none

/-- What follows an equals sign at the start of a text. -/
def afterEquals? : List Char → Option (List Char)
  | '=' :: rest => some rest
  | _ => none

/-- The name that a line defines, and the text of its value. The word `export` may stand in front of
the name. -/
def definition? (cs : List Char) : Option (List Char × List Char) := do
  let (name, rest) ← name? cs
  match afterEquals? rest with
  | some value => return (name, value)
  | none =>
    guard (name = "export".toList)
    let (name, rest) ← name? rest
    return (name, ← afterEquals? rest)

inductive Line where
  | empty
  | definition (name value : String)
  | malformed
deriving DecidableEq, Repr

/-- Nothing, or nothing but a comment. -/
def isIdle (cs : List Char) : Bool := cs.isEmpty || cs.head? == some '#'

/-- Reads a line, where variables have the values of an environment. -/
def Line.ofChars (env : Environment) (cs : List Char) : Line :=
  let cs := Text.trim cs
  if isIdle cs then .empty
  else
    match definition? cs with
    | none => .malformed
    | some (name, rest) =>
      let rest := Text.trimStart rest
      if isIdle rest then .definition (String.ofList name) ""
      else
        match value? env rest with
        | some value => .definition (String.ofList name) (String.ofList value)
        | none => .malformed

end BookCatalogue.EnvFile

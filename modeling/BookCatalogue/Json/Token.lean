import BookCatalogue.Json.Numeral
import BookCatalogue.Text.Digits

/-! # Tokens of JSON texts

A text is cut into tokens character by character; an automaton remembers the unfinished token. The
first place that cannot be part of a token ends the list with a token of its own. Characters are
optional because a text may come from bytes that are no UTF-8; such a place may stand in a string,
whose content then is not a text. -/

namespace BookCatalogue.Json

inductive Token where
  | openBrace
  | closeBrace
  | openBracket
  | closeBracket
  | colon
  | comma
  | null
  | bool (b : Bool)
  | number (n : Numeral)
  /-- A string; no content if what it writes is not a text. -/
  | string (content : Option String)
  /-- A place that is not part of any token. -/
  | broken
deriving DecidableEq, Repr

/-- A piece of a string: a character, or a 16-bit unit written by an escape. -/
inductive Piece where
  | char (c : Char)
  | unit (n : Nat)
  | stray
deriving DecidableEq, Repr

/-- The text of the pieces of a string; two units may make up one character. -/
def assemble? : List Piece → Option (List Char)
  | [] => some []
  | .char c :: rest => (assemble? rest).map (c :: ·)
  | .stray :: _ => none
  | .unit high :: .unit low :: rest =>
    if 0xD800 ≤ high ∧ high < 0xDC00 then
      if 0xDC00 ≤ low ∧ low < 0xE000 then
        (assemble? rest).map (Char.ofNat (0x10000 + (high - 0xD800) * 0x400 + (low - 0xDC00)) :: ·)
      else none
    else if 0xDC00 ≤ high ∧ high < 0xE000 then none
    else (assemble? (.unit low :: rest)).map (Char.ofNat high :: ·)
  | .unit n :: rest =>
    if 0xD800 ≤ n ∧ n < 0xE000 then none else (assemble? rest).map (Char.ofNat n :: ·)

/-- Which part of a numeral was read last. -/
inductive NumeralPart where
  | sign
  | zero
  | integer
  | point
  | fraction
  | exponentMark
  | exponentSign
  | exponent
deriving DecidableEq, Repr

/-- What a character does to an unfinished numeral. -/
inductive NumeralStep where
  | more (part : NumeralPart) (n : Numeral)
  /-- The numeral ended before this character. -/
  | over
  | broken

/-- Reads one character of a numeral, whose digits are kept last first. -/
def NumeralPart.step (part : NumeralPart) (n : Numeral) (c : Char) : NumeralStep :=
  let integer : Numeral := { n with integer := c :: n.integer }
  let fraction : Numeral := { n with fraction := c :: n.fraction }
  let exponent : Numeral :=
    { n with exponent := n.exponent.map fun (minus, digits) => (minus, c :: digits) }
  let mark : NumeralStep := .more .exponentMark { n with exponent := some (false, []) }
  match part with
  | .sign =>
    if c = '0' then .more .zero integer else if c.isDigit then .more .integer integer else .broken
  | .zero =>
    if c.isDigit then .broken
    else if c = '.' then .more .point n
    else if c = 'e' ∨ c = 'E' then mark
    else .over
  | .integer =>
    if c.isDigit then .more .integer integer
    else if c = '.' then .more .point n
    else if c = 'e' ∨ c = 'E' then mark
    else .over
  | .point => if c.isDigit then .more .fraction fraction else .broken
  | .fraction =>
    if c.isDigit then .more .fraction fraction else if c = 'e' ∨ c = 'E' then mark else .over
  | .exponentMark =>
    if c.isDigit then .more .exponent exponent
    else if c = '+' then .more .exponentSign n
    else if c = '-' then .more .exponentSign { n with exponent := some (true, []) }
    else .broken
  | .exponentSign => if c.isDigit then .more .exponent exponent else .broken
  | .exponent => if c.isDigit then .more .exponent exponent else .over

/-- The token of a numeral whose digits are last first. -/
def numeralToken (n : Numeral) : Token :=
  .number ⟨n.isNegative, n.integer.reverse, n.fraction.reverse,
    n.exponent.map fun (minus, digits) => (minus, digits.reverse)⟩

/-- The numeral may end after this part. -/
def NumeralPart.mayEnd : NumeralPart → Bool
  | .zero | .integer | .fraction | .exponent => true
  | _ => false

/-- The token that is being read. -/
inductive Mode where
  | between
  /-- The letters that a word still needs, and its token. -/
  | word (letters : List Char) (token : Token)
  /-- A numeral, its digits last first. -/
  | numeral (part : NumeralPart) (n : Numeral)
  /-- The pieces of a string, last first. -/
  | string (pieces : List Piece)
  /-- A string after a backslash. -/
  | escape (pieces : List Piece)
  /-- A string after a backslash, `u` and some digits: how many are missing, and their value. -/
  | unit (pieces : List Piece) (missing value : Nat)

/-- The character that a letter after a backslash stands for. -/
def escaped? (c : Char) : Option Char :=
  if c = '"' ∨ c = '\\' ∨ c = '/' then some c
  else if c = 'b' then some '\x08'
  else if c = 'f' then some '\x0c'
  else if c = 'n' then some '\n'
  else if c = 'r' then some '\r'
  else if c = 't' then some '\t'
  else none

def stringToken (pieces : List Piece) : Token :=
  .string ((assemble? pieces.reverse).map String.ofList)

/-- What a character between tokens begins: the mode after it and the token that it is. -/
def begins (c : Option Char) : Mode × List Token :=
  match c with
  | some ' ' | some '\n' | some '\t' | some '\r' => (.between, [])
  | some '\x7b' => (.between, [.openBrace])
  | some '\x7d' => (.between, [.closeBrace])
  | some '[' => (.between, [.openBracket])
  | some ']' => (.between, [.closeBracket])
  | some ':' => (.between, [.colon])
  | some ',' => (.between, [.comma])
  | some '"' => (.string [], [])
  | some 'n' => (.word ['u', 'l', 'l'] .null, [])
  | some 't' => (.word ['r', 'u', 'e'] (.bool true), [])
  | some 'f' => (.word ['a', 'l', 's', 'e'] (.bool false), [])
  | some '-' => (.numeral .sign ⟨true, [], [], none⟩, [])
  | some c =>
    if c = '0' then (.numeral .zero ⟨false, [c], [], none⟩, [])
    else if c.isDigit then (.numeral .integer ⟨false, [c], [], none⟩, [])
    else (.between, [.broken])
  | none => (.between, [.broken])

/-- What a character does in a mode: the mode after it, and the tokens that it completes. -/
def Mode.step (mode : Mode) (c : Option Char) : Mode × List Token :=
  match mode with
  | .between => begins c
  | .word [] token => (.between, [token, .broken])
  | .word [letter] token => if c = some letter then (.between, [token]) else (.between, [.broken])
  | .word (letter :: letters) token =>
    if c = some letter then (.word letters token, []) else (.between, [.broken])
  | .numeral part n =>
    match c with
    | some c =>
      match part.step n c with
      | .more part n => (.numeral part n, [])
      | .over => let (mode, tokens) := begins (some c); (mode, numeralToken n :: tokens)
      | .broken => (.between, [.broken])
    | none => (.between, if part.mayEnd then [numeralToken n, .broken] else [.broken])
  | .string pieces =>
    match c with
    | some c =>
      if c = '"' then (.between, [stringToken pieces])
      else if c = '\\' then (.escape pieces, [])
      else if c.toNat < 0x20 then (.between, [.broken])
      else (.string (.char c :: pieces), [])
    | none => (.string (.stray :: pieces), [])
  | .escape pieces =>
    match c with
    | some 'u' => (.unit pieces 4 0, [])
    | some c =>
      match escaped? c with
      | some c => (.string (.char c :: pieces), [])
      | none => (.between, [.broken])
    | none => (.between, [.broken])
  | .unit pieces missing value =>
    match c.bind Text.hexValue? with
    | some digit =>
      let value := value * 16 + digit
      if missing ≤ 1 then (.string (.unit value :: pieces), [])
      else (.unit pieces (missing - 1) value, [])
    | none => (.between, [.broken])

/-- The tokens that the end of the text completes. -/
def Mode.finish : Mode → List Token
  | .between => []
  | .numeral part n => if part.mayEnd then [numeralToken n] else [.broken]
  | _ => [.broken]

def tokensFrom (mode : Mode) : List (Option Char) → List Token
  | [] => mode.finish
  | c :: rest =>
    let (next, tokens) := mode.step c
    tokens ++ tokensFrom next rest

/-- The tokens of a text. What follows a broken place is of no account. -/
def tokens (cs : List (Option Char)) : List Token := tokensFrom .between cs

end BookCatalogue.Json

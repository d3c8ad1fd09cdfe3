import BookCatalogue.Text.Digits

/-! # Options of the command line

Every option sets one key, has a long name and perhaps a letter, and can also be given by a variable
of the environment. -/

namespace BookCatalogue.CommandLine

/-- The key that an option sets. -/
inductive Key where
  | host
  | port
  | debug
  | config
  | database
deriving DecidableEq, Repr

/-- Why a command line is refused. -/
inductive Refusal where
  | unknownArgument
  | unknownCommand
  /-- An option that needs a value has none. -/
  | missingValue
  /-- An option that takes no value has one. -/
  | unexpectedValue
  /-- An option is given twice. -/
  | repeated
  | missingFilter
  /-- A value that is no port number. -/
  | badPort
  /-- A value that is neither `true` nor `false`. -/
  | badFlag
  /-- An empty path of a configuration file. -/
  | emptyPath
deriving DecidableEq, Repr

namespace Key

/-- All keys, in the order in which the environment is consulted. -/
def all : List Key := [.host, .port, .debug, .config, .database]

def name : Key → String
  | .host => "host"
  | .port => "port"
  | .debug => "debug"
  | .config => "config"
  | .database => "database"

def letter? : Key → Option Char
  | .host => some 'H'
  | .port => some 'p'
  | .config => some 'c'
  | _ => none

def environmentName : Key → String
  | .host => "BOOKS_HOST"
  | .port => "BOOKS_PORT"
  | .debug => "BOOKS_DEBUG"
  | .config => "BOOKS_CONFIG"
  | .database => "BOOKS_DATABASE"

def ofName? (name : List Char) : Option Key := all.find? fun key => key.name.toList = name

def ofLetter? (c : Char) : Option Key := all.find? fun key => key.letter? = some c

/-- The port that a text writes in decimal digits, with or without a sign. -/
def portNumber? (text : List Char) : Option UInt16 :=
  let (isNegative, digits) :=
    match text with
    | '-' :: rest => (true, rest)
    | '+' :: rest => (false, rest)
    | _ => (false, text)
  if Text.areDigits digits then
    let port := Text.decimalValue digits
    if port < 65536 ∧ (isNegative = true → port = 0) then some (UInt16.ofNat port) else none
  else none

/-- Why the text cannot be the value of the key. -/
def refusal? (key : Key) (text : List Char) : Option Refusal :=
  match key with
  | .port => if (portNumber? text).isNone then some .badPort else none
  | .debug =>
    if text = "true".toList ∨ text = "false".toList then none else some .badFlag
  | .config => if text.isEmpty then some .emptyPath else none
  | _ => none

end Key

end BookCatalogue.CommandLine

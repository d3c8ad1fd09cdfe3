import BookCatalogue.CommandLine.Option
import BookCatalogue.Program
import BookCatalogue.Text.Separated

/-! # Reading the arguments of one level

The arguments before a command and those after it are two levels, read by the same rules. An option
without an attached value waits for the next argument; its value is looked at when the next option
or command word settles it, so an argument that cannot be read at all is refused first. -/

namespace BookCatalogue.CommandLine

/-- Which arguments are read: those before a command, or those of one. -/
inductive Scope where
  | top
  | start
  | explain
deriving DecidableEq, Repr

/-- Why the program does not go on: it shows its help or its version, or refuses. -/
inductive Stop where
  | help
  | version
  | refused (reason : Refusal)
deriving DecidableEq, Repr

def Stop.exitCode : Stop → Nat
  | .refused _ => 2
  | _ => 0

inductive Source where
  | environment
  | arguments
deriving DecidableEq, Repr

/-- A value of a key, and where it comes from. -/
structure Given where
  key : Key
  source : Source
  text : List Char
deriving DecidableEq, Repr

/-- What has been read of a level. -/
structure Level where
  scope : Scope
  given : List Given := []
  /-- The last option, with its value if that has been read. -/
  pending : Option (Key × Option (List Char)) := none
  filter : Option (List Char) := none
  /-- Two dashes have been read, after which no argument is an option. -/
  afterDashes : Bool := false
deriving DecidableEq, Repr

namespace Level

def given? (level : Level) (key : Key) : Option Given := level.given.find? fun g => g.key = key

/-- An option waits for its value. -/
def isAwaiting (level : Level) : Bool :=
  match level.pending with
  | some (_, none) => true
  | _ => false

/-- Takes the value of an option that has not been given yet. -/
def accept (level : Level) (key : Key) (source : Source) (text : List Char) : Except Stop Level :=
  if (level.given? key).isSome then .error (.refused .repeated)
  else
    match key.refusal? text with
    | some reason => .error (.refused reason)
    | none => .ok { level with given := level.given ++ [⟨key, source, text⟩] }

/-- Takes the last option. -/
def settle (level : Level) : Except Stop Level :=
  match level.pending with
  | none => .ok level
  | some (_, none) => .error (.refused .missingValue)
  | some (key, some text) => { level with pending := none }.accept key .arguments text

/-- Shows help or version, unless the last option is refused. -/
def stop (level : Level) (reason : Stop) : Except Stop Level := do
  let _ ← level.settle
  .error reason

/-- Reads an option with the value attached to it, if any. -/
def option (level : Level) (key : Key) (attached : Option (List Char)) : Except Stop Level :=
  match key, attached with
  | .debug, some _ => .error (.refused .unexpectedValue)
  | .debug, none => do (← level.settle).accept .debug .arguments "true".toList
  | key, some text => do (← level.settle).accept key .arguments text
  | key, none => do return { ← level.settle with pending := some (key, none) }

/-- Reads what follows two dashes. -/
def long (level : Level) (cs : List Char) : Except Stop Level :=
  let (name, attached) :=
    match Text.cutAt? '=' cs with
    | some (name, text) => (name, some text)
    | none => (cs, none)
  let shown? : Option Stop :=
    if name = "help".toList then some .help
    else if name = "version".toList ∧ level.scope = .top then some .version
    else none
  match shown?, attached, Key.ofName? name with
  | some _, some _, _ => .error (.refused .unexpectedValue)
  | some reason, none, _ => level.stop reason
  | none, _, some key => level.option key attached
  | none, _, none => .error (.refused .unknownArgument)

/-- Reads a letter after one dash, with the characters attached to it. -/
def short (level : Level) (c : Char) (rest : List Char) : Except Stop Level :=
  if c = 'h' then level.stop .help
  else if c = 'V' ∧ level.scope = .top then level.stop .version
  else
    match Key.ofLetter? c with
    | some key =>
      match rest with
      | [] => level.option key none
      | '=' :: text => level.option key (some text)
      | text => level.option key (some text)
    | none => .error (.refused .unknownArgument)

def commandWords : List (List Char) := ["start".toList, "explain".toList, "help".toList]

def isCommandWord (word : List Char) : Bool := word ∈ commandWords

/-- Reads an argument that is no option and no option's value. -/
def positional (level : Level) (arg : List Char) : Except Stop Level :=
  match level.scope, level.filter with
  | .explain, none => do return { ← level.settle with filter := some arg }
  | .top, _ =>
    if level.afterDashes && isCommandWord arg then .error (.refused .unknownArgument)
    else .error (.refused .unknownCommand)
  | _, _ => .error (.refused .unknownArgument)

def step (level : Level) (arg : List Char) : Except Stop Level :=
  if level.afterDashes then level.positional arg
  else
    match arg with
    | ['-', '-'] => .ok { level with afterDashes := true }
    | '-' :: '-' :: cs => level.long cs
    | '-' :: c :: rest => level.short c rest
    | _ =>
      match level.pending with
      | some (key, none) => .ok { level with pending := some (key, some arg) }
      | _ => level.positional arg

/-- Takes the value of a key from the environment, if the arguments give none. -/
def consult (env : Environment) (level : Level) (key : Key) : Except Stop Level :=
  match level.given? key, env.get? key.environmentName with
  | none, some value => level.accept key .environment value.toList
  | _, _ => .ok level

/-- Ends the level after its last argument. -/
def finish (env : Environment) (level : Level) : Except Stop Level := do
  let level ← Key.all.foldlM (consult env) (← level.settle)
  if level.scope = .explain ∧ level.filter.isNone then .error (.refused .missingFilter)
  else return level

/-- The value of a key from the level of a command and the level around it. The outer one counts
where it stands in the arguments and the inner one does not. -/
def chosen? (inner outer : Level) (key : Key) : Option (List Char) :=
  match inner.given? key, outer.given? key with
  | some ⟨_, .environment, _⟩, some ⟨_, .arguments, text⟩ => some text
  | some g, _ => some g.text
  | none, some g => some g.text
  | none, none => none

end Level

end BookCatalogue.CommandLine

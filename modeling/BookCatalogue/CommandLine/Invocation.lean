import BookCatalogue.CommandLine.Level
import BookCatalogue.Config.Settings

/-! # Command lines

A command line asks for a command and contributes settings. -/

namespace BookCatalogue.CommandLine

inductive Command where
  | start
  | explain (filter : String)
deriving DecidableEq, Repr

/-- What a command line asks for. Without a command the server is started. -/
structure Invocation where
  command : Option Command
  overrides : Config.Overrides
deriving DecidableEq, Repr

def Level.command? (level : Level) : Option Command :=
  match level.scope with
  | .top => none
  | .start => some .start
  | .explain => level.filter.map fun cs => .explain (String.ofList cs)

/-- What the levels of a command line ask for. -/
def Invocation.ofLevels (inner outer : Level) : Invocation :=
  let text? (key : Key) := inner.chosen? outer key
  { command := inner.command?
    overrides :=
      { settings :=
          { host := (text? .host).map String.ofList
            port := (text? .port).bind Key.portNumber?
            database := (text? .database).map String.ofList
            debug := if text? .debug = some "true".toList then some true else none }
        file := (text? .config).map String.ofList } }

/-- Answers the command `help`, which takes at most one command. -/
def help : List (List Char) → Stop
  | [] => .help
  | [word] => if Level.isCommandWord word then .help else .refused .unknownCommand
  | _ => .refused .unknownCommand

/-- Reads the arguments of a command inside a level that ends with it. -/
def readCommand (env : Environment) (scope : Scope) (outer : Level) (args : List (List Char)) :
    Except Stop Invocation := do
  let inner ← (← args.foldlM Level.step { scope }).finish env
  return .ofLevels inner (← outer.finish env)

/-- Reads arguments before a command. -/
def readTop (env : Environment) (level : Level) : List (List Char) → Except Stop Invocation
  | [] => do
    let level ← level.finish env
    return .ofLevels level level
  | arg :: rest =>
    if level.afterDashes ∨ level.isAwaiting then do readTop env (← level.step arg) rest
    else if arg = "help".toList then .error (help rest)
    else if arg = "start".toList then readCommand env .start level rest
    else if arg = "explain".toList then readCommand env .explain level rest
    else do readTop env (← level.step arg) rest

def read (env : Environment) (args : List String) : Except Stop Invocation :=
  readTop env { scope := .top } (args.map String.toList)

end BookCatalogue.CommandLine

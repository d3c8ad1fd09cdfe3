import BookCatalogue.Text.Space

/-! # Settings and the configuration that they make

The command line sets some keys, and so do the sections of configuration files. Files are merged key
by key, the command line comes before them, defaults come last, and the result is checked. -/

namespace BookCatalogue

/-- The keys that one source sets. -/
structure Settings where
  host : Option String := none
  port : Option UInt16 := none
  database : Option String := none
  debug : Option Bool := none
deriving DecidableEq, Repr

structure ServerSection where
  host : Option String := none
  port : Option UInt16 := none
deriving DecidableEq, Repr

structure DatabaseSection where
  path : Option String := none
deriving DecidableEq, Repr

structure FileSettings where
  server : Option ServerSection := none
  database : Option DatabaseSection := none
  debug : Option Bool := none
deriving DecidableEq, Repr

/-- The section with the keys that another one sets. -/
def ServerSection.merge (current other : ServerSection) : ServerSection :=
  { host := if other.host.isSome then other.host else current.host
    port := if other.port.isSome then other.port else current.port }

def DatabaseSection.merge (current other : DatabaseSection) : DatabaseSection :=
  { path := if other.path.isSome then other.path else current.path }

/-- The settings with those that another file makes. A section that the other file lacks stays as it
is. -/
def FileSettings.merge (current other : FileSettings) : FileSettings :=
  { server := match other.server with
      | some server => some ((current.server.getD {}).merge server)
      | none => current.server
    database := match other.database with
      | some database => some ((current.database.getD {}).merge database)
      | none => current.database
    debug := if other.debug.isSome then other.debug else current.debug }

/-- A complete configuration; without a database the one in the data directory is used. -/
structure Config where
  host : String
  port : UInt16
  database : Option String
  debug : Bool
deriving DecidableEq, Repr

namespace Config

/-- What the command line contributes: settings, and the file that takes the place of the one in the
working directory. -/
structure Overrides where
  settings : Settings := {}
  file : Option String := none
deriving DecidableEq, Repr

/-- Why there is no configuration. -/
inductive Error where
  /-- No file at the path that the command line gives. -/
  | missing (path : String)
  | unreadable (path : String)
  | malformed (path : String)
  | emptyHost
  | portZero
  | blankDatabase
deriving DecidableEq, Repr

def Error.message : Error → String
  | .missing path => "Config file not found: " ++ path
  | .unreadable path => "Failed to read config file: " ++ path
  | .malformed path => "Failed to parse config file: " ++ path
  | .emptyHost => "Configuration error: server.host must not be empty"
  | .portZero => "Configuration error: server.port must be greater than 0"
  | .blankDatabase => "Configuration error: database.path must not be empty"

/-- The settings of the command line, or else those of files, or else defaults. The command line can
only switch debugging on. -/
def layer (o : Overrides) (file : FileSettings) : Config :=
  let server := file.server.getD {}
  let database := file.database.getD {}
  { host := (o.settings.host <|> server.host).getD "127.0.0.1"
    port := (o.settings.port <|> server.port).getD 8080
    database := o.settings.database <|> database.path
    debug := o.settings.debug.getD false || file.debug.getD false }

/-- The first rule that the configuration breaks. -/
def fault? (c : Config) : Option Error :=
  if c.host.isEmpty then some .emptyHost
  else if c.port = 0 then some .portZero
  else if c.database.any fun path => Text.isBlank path.toList then some .blankDatabase
  else none

/-- The configuration, if it keeps the rules. -/
def checked (c : Config) : Except Error Config :=
  match c.fault? with
  | some e => .error e
  | none => .ok c

theorem checked_eq_ok_iff (c d : Config) : c.checked = .ok d ↔ c = d ∧ c.fault? = none := by
  unfold checked
  cases c.fault? <;> simp

end Config

end BookCatalogue

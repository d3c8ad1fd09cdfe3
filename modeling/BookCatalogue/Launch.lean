import BookCatalogue.Banner
import BookCatalogue.Book.Field
import BookCatalogue.CommandLine.Invocation
import BookCatalogue.Config.Load
import BookCatalogue.EnvFile.Load
import BookCatalogue.Http.IpAddress
import BookCatalogue.Storage

/-! # Launching the program

From the environment, the files and the arguments to what the program shows and whether it serves.
The environment file is read first, then the command line. A server is configured, its storage made
ready, and its banner shown before the host is looked at. -/

namespace BookCatalogue.Launch

open Files

/-- What comes of a launch. -/
inductive Outcome where
  /-- The command line asks for nothing but help or version, or is refused. -/
  | stopped (stop : CommandLine.Stop)
  /-- The work is done. -/
  | finished (output : String)
  /-- The work failed after some output. -/
  | failed (output reason : String)
  /-- The server listens, its banner shown. -/
  | serving (output : String) (config : Config) (storage : Storage)
deriving DecidableEq, Repr

/-- The exit code; none for a server, which goes on. -/
def Outcome.exitCode? : Outcome → Option Nat
  | .stopped stop => some stop.exitCode
  | .finished _ => some 0
  | .failed _ _ => some 1
  | .serving _ _ _ => none

def Outcome.output : Outcome → String
  | .stopped .version => programName ++ " " ++ version ++ "\n"
  | .stopped _ => ""
  | .finished output => output
  | .failed output _ => output
  | .serving output _ _ => output

def Outcome.errors : Outcome → String
  | .failed _ reason => "\nError: " ++ reason ++ "\n\n"
  | _ => ""

def explain (filter : String) : Outcome :=
  match Book.explainFilter filter with
  | .ok text => .finished (text ++ "\n")
  | .error e => .failed "" e.message

/-- The configuration and the storage of a server, whose database can be opened. -/
def prepare (places : Places) (t : Tree) (env : Environment) (overrides : Config.Overrides) :
    Except String (Config × Storage) := do
  let config ← (Config.load places t overrides).mapError Config.Error.message
  let (storage, t) ← (Storage.prepare places env t config.database).mapError Storage.Error.message
  if Storage.opens t storage.database then return (config, storage)
  else .error (Storage.Error.databaseNotOpened storage.database).message

def start (places : Places) (t : Tree) (env : Environment) (overrides : Config.Overrides) :
    Outcome :=
  match prepare places t env overrides with
  | .error reason => .failed "" reason
  | .ok (config, storage) =>
    let banner := Banner.text config.host config.port.toNat (String.ofList storage.database)
    if Http.isIpAddress config.host then .serving banner config storage
    else .failed banner "invalid IP address syntax"

def run (places : Places) (t : Tree) (env : Environment) (args : List String) : Outcome :=
  let env := EnvFile.load places t env
  match CommandLine.read env args with
  | .error stop => .stopped stop
  | .ok ⟨some (.explain filter), _⟩ => explain filter
  | .ok ⟨_, overrides⟩ => start places t env overrides

end BookCatalogue.Launch

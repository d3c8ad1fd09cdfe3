import BookCatalogue.Catalogue.Basic

/-! # Shutting down

A signal tells all tasks to end; it is given for ever. A task knows which version of the signal it has
seen last, and ends when it runs and sees the signal given. Shutting down gives the signal, waits for
every registered task, and then closes the catalogue. -/

namespace BookCatalogue

/-- A task that ends when it sees the signal. -/
inductive BackgroundTask where
  | worker
  /-- Writes the log of the database into its file from time to time. -/
  | checkpointer
deriving DecidableEq, Repr

/-- The signal, and how often it has been set. -/
structure Signal where
  isGiven : Bool
  version : Nat
deriving DecidableEq, Repr

/-- The signal after it is given, once more or for the first time. -/
def Signal.give (signal : Signal) : Signal := ⟨true, signal.version + 1⟩

/-- A task, the version of the signal that it has seen last, and whether it has ended. -/
structure RunningTask where
  kind : BackgroundTask
  seen : Nat
  hasEnded : Bool
deriving DecidableEq, Repr

namespace RunningTask

/-- A task that has not run yet. It observes the signal from its very first version on, however often
the signal has been set. -/
def new (kind : BackgroundTask) : RunningTask := ⟨kind, 0, false⟩

/-- The task has looked at the signal, and has ended if it is given. -/
def look (signal : Signal) (task : RunningTask) : RunningTask :=
  { task with seen := signal.version, hasEnded := signal.isGiven }

/-- The task after it has run until it has to wait again. A worker looks at the signal as it is, a
checkpointer only at a version that it has not seen. -/
def resume (signal : Signal) (task : RunningTask) : RunningTask :=
  if task.hasEnded then task
  else
    match task.kind with
    | .worker => task.look signal
    | .checkpointer => if task.seen = signal.version then task else task.look signal

end RunningTask

/-- The signal, the tasks and the catalogue. -/
structure Shutdown where
  signal : Signal
  /-- The registered tasks for which nobody has waited yet. -/
  registered : List RunningTask
  /-- The tasks for which a shutdown has waited, until they ended or the time was up. -/
  awaited : List RunningTask
  catalogue : Catalogue
deriving DecidableEq, Repr

namespace Shutdown

/-- A service that has just been started on a catalogue. -/
def startOn (catalogue : Catalogue) : Shutdown := ⟨⟨false, 0⟩, [], [], catalogue⟩

def start : Shutdown := startOn .empty

def isTriggered (s : Shutdown) : Bool := s.signal.isGiven

/-- All tasks in the order of their registration. -/
def tasks (s : Shutdown) : List RunningTask := s.awaited ++ s.registered

/-- What can be asked of the service. -/
inductive Request where
  | register (task : BackgroundTask)
  | trigger
  /-- Whether the signal has been given. -/
  | wait
  /-- What a new observer of the signal sees. -/
  | subscribe
  | shutdown
  | checkpoint
  | find
  /-- How many workers have finished. -/
  | done
deriving DecidableEq, Repr

/-- What an answer tells. -/
inductive Reply where
  | nothing
  | flag (b : Bool)
  | count (n : Nat)
  | books (found : Except Catalogue.Error (List Book))

/-- Gives the signal, waits for the registered tasks, each of which runs in the meantime, and closes
the catalogue. -/
def finish (s : Shutdown) : Shutdown :=
  let signal := s.signal.give
  ⟨signal, [], s.awaited ++ s.registered.map (RunningTask.resume signal), s.catalogue.close⟩

def step (s : Shutdown) : Request → Reply × Shutdown
  | .register task => (.nothing, { s with registered := s.registered ++ [.new task] })
  | .trigger => (.nothing, { s with signal := s.signal.give })
  | .wait => (.flag s.isTriggered, s)
  | .subscribe => (.flag s.isTriggered, s)
  | .shutdown => (.nothing, s.finish)
  | .checkpoint => (.flag s.catalogue.isOpen, s)
  | .find => (.books (s.catalogue.find []), s)
  | .done => (.count (s.tasks.countP fun task => task.hasEnded && task.kind == .worker), s)

/-- Answers requests in order; each reply comes with the service after it. -/
def run (s : Shutdown) : List Request → List (Reply × Shutdown)
  | [] => []
  | request :: requests =>
    let answer := s.step request
    answer :: answer.2.run requests

/-- What happens to the service: a request, or that the registered task at an index runs. -/
inductive Event where
  | request (request : Request)
  | resume (index : Nat)
deriving DecidableEq, Repr

def advance (s : Shutdown) : Event → Shutdown
  | .request request => (s.step request).2
  | .resume index => { s with registered := s.registered.modify index (RunningTask.resume s.signal) }

def after (s : Shutdown) (events : List Event) : Shutdown := events.foldl advance s

end Shutdown

end BookCatalogue

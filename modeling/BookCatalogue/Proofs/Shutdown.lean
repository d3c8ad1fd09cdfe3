import Mathlib
import BookCatalogue.Proofs.Catalogue.Consistency
import BookCatalogue.Shutdown

/-! # Whole runs of the service

Whatever is asked of the service, and whenever the registered tasks run between the requests: the signal
stays given once it has been given, a shutdown leaves no task that has not ended, and the catalogue can be
read until the first shutdown and never again. A task that is registered late ends as well because its
observer starts from the first version of the signal, in which it is not given. -/

namespace BookCatalogue

/-! ## Tasks -/

namespace RunningTask

variable {signal : Signal} {task : RunningTask}

/-- A task that runs has looked at the signal or is as it was. -/
theorem resume_eq_or_eq (signal : Signal) (task : RunningTask) :
    task.resume signal = task ∨ task.resume signal = task.look signal := by
  unfold resume
  split
  · exact .inl rfl
  · split
    · exact .inr rfl
    · split
      · exact .inl rfl
      · exact .inr rfl

/-- A task looks at a version of the signal that it has not seen. -/
theorem resume_of_unseen (running : task.hasEnded = false) (unseen : task.seen ≠ signal.version) :
    task.resume signal = task.look signal := by
  unfold resume
  split
  · next ended => simp [running] at ended
  · split <;> rfl

@[simp] theorem kind_resume (signal : Signal) (task : RunningTask) :
    (task.resume signal).kind = task.kind := by
  rcases resume_eq_or_eq signal task with same | looked
  · rw [same]
  · rw [looked]
    rfl

/-- The task has ended or has seen no version of the signal but the first. -/
def IsAwake (task : RunningTask) : Prop := task.hasEnded = true ∨ task.seen = 0

/-- A task that runs before the signal is given sees its first version. -/
theorem IsAwake.resume (awake : task.IsAwake) (first : signal.isGiven = false → signal.version = 0) :
    (task.resume signal).IsAwake := by
  rcases resume_eq_or_eq signal task with same | looked
  · rwa [same]
  · rw [looked]
    cases given : signal.isGiven with
    | true => exact .inl given
    | false => exact .inr (first given)

/-- Once the signal has been given, a task that runs ends. -/
theorem IsAwake.hasEnded_resume (awake : task.IsAwake) (given : signal.isGiven = true)
    (later : signal.version ≠ 0) : (task.resume signal).hasEnded = true := by
  cases ended : task.hasEnded with
  | true =>
    rw [RunningTask.resume, if_pos ended]
    exact ended
  | false =>
    have seen : task.seen = 0 := awake.resolve_left (by simp [ended])
    rw [resume_of_unseen ended (seen ▸ later.symm)]
    exact given

theorem mem_or_eq_of_mem_modify {tasks : List RunningTask} {index : Nat}
    (member : task ∈ tasks.modify index (resume signal)) :
    task ∈ tasks ∨ ∃ t ∈ tasks, t.resume signal = task := by
  induction tasks generalizing index with
  | nil => simp at member
  | cons t tasks ih => cases index <;> grind

theorem map_kind_modify (signal : Signal) (tasks : List RunningTask) (index : Nat) :
    (tasks.modify index (resume signal)).map kind = tasks.map kind := by
  induction tasks generalizing index with
  | nil => simp
  | cons t tasks ih => cases index <;> simp [ih]

end RunningTask

namespace Shutdown

variable {c : Catalogue} {s : Shutdown} {events : List Event}

/-! ## What events amount to -/

def Event.givesSignal (event : Event) : Bool :=
  event == .request .trigger || event == .request .shutdown

def Event.task? : Event → Option BackgroundTask
  | .request (.register task) => some task
  | _ => none

/-- What a service that was started on a catalogue is after events: all of it is told by the events. -/
structure Follows (c : Catalogue) (events : List Event) (s : Shutdown) : Prop where
  given : s.isTriggered = events.any Event.givesSignal
  version : s.isTriggered = decide (s.signal.version ≠ 0)
  kinds : s.tasks.map RunningTask.kind = events.filterMap Event.task?
  registered : ∀ task ∈ s.registered, task.IsAwake
  awaited : ∀ task ∈ s.awaited, task.hasEnded = true
  catalogue : s.catalogue = if .request .shutdown ∈ events then c.close else c

theorem follows_startOn (c : Catalogue) : Follows c [] (startOn c) where
  given := rfl
  version := rfl
  kinds := rfl
  registered := by simp [startOn]
  awaited := by simp [startOn]
  catalogue := rfl

theorem Follows.first (follows : Follows c events s) (waiting : s.signal.isGiven = false) :
    s.signal.version = 0 := by
  have version := follows.version
  rw [isTriggered, waiting] at version
  simpa using version

/-! ## One event -/

/-- An event that only asks changes nothing. -/
theorem Follows.unchanged (follows : Follows c events s) {event : Event}
    (silent : event.givesSignal = false) (registersNothing : event.task? = none)
    (notShut : event ≠ .request .shutdown) : Follows c (events ++ [event]) s where
  given := by simp [follows.given, silent]
  version := follows.version
  kinds := by simp [follows.kinds, registersNothing]
  registered := follows.registered
  awaited := follows.awaited
  catalogue := by simp [follows.catalogue, notShut.symm]

theorem Follows.register (follows : Follows c events s) (task : BackgroundTask) :
    Follows c (events ++ [.request (.register task)]) (s.step (.register task)).2 where
  given := by
    rw [List.any_append, ← follows.given]
    exact (Bool.or_false _).symm
  version := follows.version
  kinds := by
    rw [List.filterMap_append, ← follows.kinds]
    simp [step, tasks, Event.task?, RunningTask.new]
  registered := by
    intro t member
    rcases List.mem_append.mp member with old | new
    · exact follows.registered t old
    · rw [List.mem_singleton.mp new]
      exact .inr rfl
  awaited := follows.awaited
  catalogue := by simp [step, follows.catalogue]

theorem Follows.trigger (follows : Follows c events s) :
    Follows c (events ++ [.request .trigger]) (s.step .trigger).2 where
  given := by simp [isTriggered, step, Signal.give, Event.givesSignal]
  version := by simp [isTriggered, step, Signal.give]
  kinds := by
    rw [List.filterMap_append, ← follows.kinds]
    exact (List.append_nil _).symm
  registered := follows.registered
  awaited := follows.awaited
  catalogue := by simp [step, follows.catalogue]

/-- Every task that is waited for ends. -/
theorem Follows.shutdown (follows : Follows c events s) :
    Follows c (events ++ [.request .shutdown]) s.finish where
  given := by simp [isTriggered, finish, Signal.give, Event.givesSignal]
  version := by simp [isTriggered, finish, Signal.give]
  kinds := by
    rw [List.filterMap_append, ← follows.kinds, List.filterMap_cons_none rfl, List.filterMap_nil]
    simp [finish, tasks]
  registered := by simp [finish]
  awaited := by
    intro t member
    rcases List.mem_append.mp member with old | new
    · exact follows.awaited t old
    · obtain ⟨task, present, rfl⟩ := List.mem_map.mp new
      exact (follows.registered task present).hasEnded_resume rfl (Nat.succ_ne_zero _)
  catalogue := by
    rw [finish, follows.catalogue]
    split_ifs <;> simp_all [Catalogue.close]

/-- A task that runs between two requests keeps its place. -/
theorem Follows.resume (follows : Follows c events s) (index : Nat) :
    Follows c (events ++ [.resume index]) (s.advance (.resume index)) where
  given := by
    rw [List.any_append, ← follows.given]
    exact (Bool.or_false _).symm
  version := follows.version
  kinds := by
    rw [List.filterMap_append, ← follows.kinds, List.filterMap_cons_none rfl, List.filterMap_nil]
    simp [advance, tasks, RunningTask.map_kind_modify]
  registered := by
    intro t member
    rcases RunningTask.mem_or_eq_of_mem_modify member with old | ⟨task, present, rfl⟩
    · exact follows.registered t old
    · exact (follows.registered task present).resume follows.first
  awaited := follows.awaited
  catalogue := by simp [advance, follows.catalogue]

/-- Every event is followed by a service that is told by the events so far. -/
theorem Follows.advance (follows : Follows c events s) (event : Event) :
    Follows c (events ++ [event]) (s.advance event) := by
  cases event with
  | resume index => exact follows.resume index
  | request request =>
    cases request with
    | register task => exact follows.register task
    | trigger => exact follows.trigger
    | shutdown => exact follows.shutdown
    | wait | subscribe | checkpoint | find | done => exact follows.unchanged rfl rfl (by simp)

/-! ## Whole runs -/

theorem follows_after (c : Catalogue) (events : List Event) : Follows c events ((startOn c).after events) := by
  induction events using List.reverseRecOn with
  | nil => exact follows_startOn c
  | append_singleton events event ih =>
    rw [after, List.foldl_concat]
    exact ih.advance event

/-- A run of requests answers each one as the service does that the requests before it have left. -/
theorem getLast?_run (s : Shutdown) (requests : List Request) (request : Request) :
    (s.run (requests ++ [request])).getLast? =
      some ((s.after (requests.map .request)).step request) := by
  induction requests generalizing s with
  | nil => rfl
  | cons first requests ih =>
    rw [List.cons_append, run, List.getLast?_cons, ih]
    rfl

/-- Once all tasks have ended, the finished workers are the registered ones. -/
theorem Follows.done (follows : Follows c events s) (ended : ∀ task ∈ s.tasks, task.hasEnded = true) :
    (s.step .done).1 = .count ((events.filterMap Event.task?).count .worker) := by
  rw [step, ← follows.kinds, List.count_eq_countP, List.countP_map]
  refine congrArg Reply.count (List.countP_congr fun task member => ?_)
  simp [ended task member]

/-- What can be observed of a service after events, at each point of a run. -/
structure Observed (c : Catalogue) (events : List Event) (s : Shutdown) : Prop where
  /-- Whoever looks sees the signal given just when a trigger or a shutdown is among the events. -/
  signal : s.isTriggered = events.any Event.givesSignal ∧
    (s.step .wait).1 = .flag s.isTriggered ∧ (s.step .subscribe).1 = .flag s.isTriggered
  /-- Right after a shutdown, whatever came before it, every task that was ever registered has ended,
  so that no time limit was reached. -/
  tasks : ∀ earlier, events = earlier ++ [.request .shutdown] →
    s.tasks.map RunningTask.kind = events.filterMap Event.task? ∧
      (∀ task ∈ s.tasks, task.hasEnded = true) ∧
      (s.step .done).1 = .count ((events.filterMap Event.task?).count .worker)
  /-- Before the first shutdown the catalogue is read as it was at the start. -/
  readable : .request .shutdown ∉ events →
    (s.step .checkpoint).1 = .flag true ∧
      ∃ books, c.find [] = .ok books ∧ (s.step .find).1 = .books (.ok books)
  /-- After it no reading succeeds any more. -/
  closed : .request .shutdown ∈ events →
    (s.step .checkpoint).1 = .flag false ∧ (s.step .find).1 = .books (.error .engine)

/-- On an open catalogue in which every row can be read, a service is observed as its events tell at each
point of every run, whenever the tasks run; asked one thing after another, it answers accordingly. -/
theorem observed_after (isOpen : c.isOpen = true) (consistent : c.IsConsistent) (events : List Event) :
    Observed c events ((startOn c).after events) ∧
      ∀ requests request, events = requests.map Event.request →
        ((startOn c).run (requests ++ [request])).getLast? =
          some (((startOn c).after events).step request) := by
  have follows := follows_after c events
  obtain ⟨books, finds⟩ : ∃ books, c.find [] = .ok books := consistent.exists_find isOpen (by simp)
  refine ⟨⟨?_, ?_, ?_, ?_⟩, ?_⟩
  · exact ⟨follows.given, rfl, rfl⟩
  · rintro earlier rfl
    have ended : ∀ task ∈ ((startOn c).after (earlier ++ [.request .shutdown])).tasks, task.hasEnded = true := by
      have awaited := follows.awaited
      rw [after, List.foldl_concat] at awaited ⊢
      simpa [tasks, Shutdown.advance, step, finish] using awaited
    exact ⟨follows.kinds, ended, follows.done ended⟩
  · intro notShut
    simp [step, follows.catalogue, notShut, isOpen, finds]
  · intro shut
    simp [step, follows.catalogue, shut, Catalogue.close, Catalogue.find_of_closed]
  · rintro requests request rfl
    exact getLast?_run (startOn c) requests request

/-- A worker that runs too early, a checkpointer registered after the signal, and another worker that is
registered after a shutdown and ended by the next one. -/
theorem observed_after_late_registrations :
    let emma : Book := ⟨"Emma", "Austen", "42", ⟨1815, 12, 23, by decide⟩, 1, "", ""⟩
    let c : Catalogue := ⟨[Row.ofBook emma], true⟩
    let events : List Event := [.request (.register .worker), .resume 0, .request .trigger,
      .request (.register .checkpointer), .request .find, .request .shutdown,
      .request (.register .worker), .request .wait, .request .shutdown]
    (c.isOpen = true ∧ c.IsConsistent) ∧ Observed c events ((startOn c).after events) := by
  intro emma c events
  have consistent : c.IsConsistent := by
    refine ⟨by simp [Catalogue.HasDistinctKeys, c], ?_⟩
    rintro r member
    rw [List.mem_singleton.mp member]
    exact Row.isConsistent_ofBook (by decide +kernel)
  exact ⟨⟨rfl, consistent⟩, (observed_after rfl consistent events).1⟩

end Shutdown

end BookCatalogue

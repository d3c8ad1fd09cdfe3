import Mathlib
import BookCatalogue.Catalogue.Stamped
import BookCatalogue.Proofs.Catalogue.Calls
import BookCatalogue.Proofs.Catalogue.Field

/-! # Catalogues under a clock

A clock has no say in the replies to calls and in the rows that they leave; it only stamps them, every
row once. A condition sees stamps and clock by five names, and the number of a row by two more. Chains
without these names, as all filters on books are, find the same at all times. -/

namespace BookCatalogue.Catalogue

open BookCatalogue.Filter (Chain Predicate)

/-! ## Runs under a clock -/

namespace Stamped

/-- The catalogue after a call, and the reply to it. The clock moves on with every call. -/
def perform (s : Stamped) : Call → Stamped × Reply
  | .create b => (settle s b (s.create b)).map tick id
  | .update b => (settle s b (s.update b)).map tick id
  | .get isbn => (s.tick, s.catalogue.get? isbn)

variable {s : Stamped}

/-- A call is answered as without a clock, and does the same to the rows. -/
theorem perform_catalogue (s : Stamped) (call : Call) :
    (s.perform call).2 = (s.catalogue.perform call).2 ∧
      (s.perform call).1.catalogue = (s.catalogue.perform call).1 := by
  cases call with
  | create b =>
    cases change : s.catalogue.create b <;>
      simp [perform, Catalogue.perform, create, settle, change, Except.map, tick]
  | update b =>
    cases change : s.catalogue.update b <;>
      simp [perform, Catalogue.perform, update, settle, change, Except.map, tick]
  | get isbn => exact ⟨rfl, rfl⟩

theorem replay_catalogue (s : Stamped) (calls : List Call) :
    (replay perform s calls).2 = (replay Catalogue.perform s.catalogue calls).2 ∧
      (replay perform s calls).1.catalogue = (replay Catalogue.perform s.catalogue calls).1 := by
  have simulates (s : Stamped) (c : Catalogue) (call : Call) (same : s.catalogue = c) :
      (s.perform call).2 = (c.perform call).2 ∧ (s.perform call).1.catalogue = (c.perform call).1 := by
    rw [← same]
    exact s.perform_catalogue call
  exact replay_simulation simulates rfl calls

/-- Every row has one stamp, in its place. -/
def IsStamped (s : Stamped) : Prop := s.stamps.map Prod.fst = s.catalogue.rows.map Row.key

theorem IsStamped.perform (stamped : s.IsStamped) (call : Call) : (s.perform call).1.IsStamped := by
  have keys : s.stamps.map Prod.fst = s.catalogue.rows.map Row.key := stamped
  cases call with
  | create b =>
    change (settle s b (s.create b)).1.IsStamped
    apply settle_induction stamped
    intro after success
    obtain ⟨c, created, rfl⟩ := map_eq_ok_iff.mp success
    obtain ⟨_, _, rfl⟩ := create_eq_ok_iff.mp created
    simp [IsStamped, keys]
  | update b =>
    change (settle s b (s.update b)).1.IsStamped
    apply settle_induction stamped
    intro after success
    obtain ⟨c, updated, rfl⟩ := map_eq_ok_iff.mp success
    obtain ⟨_, _, _, rfl⟩ := update_eq_ok_iff.mp updated
    simp [IsStamped, ← keys, Function.comp_def]
  | get isbn => exact stamped

/-- In a run from a new catalogue no row is without its times. -/
theorem exists_stamp_replay (clock : Nat → Reading) (calls : List Call) {r : Row}
    (stored : r ∈ (replay perform (.new clock) calls).1.catalogue.rows) :
    ∃ stamp, (replay perform (.new clock) calls).1.times.stamp? r.key = some stamp := by
  have preserved (s : Stamped) (call : Call) (kept : s.IsStamped) : (s.perform call).1.IsStamped :=
    kept.perform call
  have fresh : (new clock).IsStamped := rfl
  have stamped := replay_induction preserved fresh calls
  have key : r.key ∈ (replay perform (.new clock) calls).1.stamps.map Prod.fst := by
    rw [stamped]
    exact List.mem_map_of_mem stored
  obtain ⟨⟨_, stamp⟩, member, rfl⟩ := List.mem_map.mp key
  cases found : (replay perform (.new clock) calls).1.times.stamp? r.key with
  | some stamp => exact ⟨stamp, rfl⟩
  | none => exact absurd (List.lookup_eq_none_iff.mp found _ member) (by simp)

end Stamped

/-! ## Chains that ask for no circumstances -/

/-- The names of what a row does not hold itself: its number, its times, and what the clock shows. -/
def circumstances : List String :=
  ["rowid", "oid", "created_at", "updated_at", "current_date", "current_time", "current_timestamp"]

/-- Whether a row meets the condition of the chain is a matter of the values that the row holds. -/
def SeesRowsOnly (chain : Chain) : Prop :=
  ∀ tests, tests? chain.fragment chain.params = some tests →
    ∃ keep : Row → Bool, ∀ times number row, tests.all (Test.passes times number row) = keep row

/-- What any other name denotes equals the same texts whatever the circumstances. -/
theorem equals?_eq_of_not_mem_circumstances {name : String} {column : Column}
    (named : Column.named? name = some column) (other : name ∉ circumstances) (times times' : Times)
    (number number' : Nat) (row : Row) (text : String) :
    column.equals? times number row text = column.equals? times' number' row text := by
  unfold Column.named? at named
  split_ifs at named with numeral
  · cases named
    rfl
  · have held : ∀ entry ∈ namedColumns, entry.1 ∉ circumstances → entry.2 ∉
        [.arrival, .createdAt, .updatedAt, .currentDate, .currentTime, .currentTimestamp] := by decide
    specialize held _ (mem_of_lookup_eq_some named) other
    cases column <;> first | rfl | simp at held

theorem passes_eq_of_not_mem_circumstances {p : Predicate} (other : p.column ∉ circumstances)
    {tests : List Test} (stands : p.tests? = some tests) {test : Test} (member : test ∈ tests)
    (times times' : Times) (number number' : Nat) (row : Row) :
    test.passes times number row = test.passes times' number' row := by
  cases p with
  | comparison field operator value =>
    obtain ⟨column, named, rfl⟩ := Option.map_eq_some_iff.mp stands
    rw [List.mem_singleton.mp member]
    exact congrArg (holds operator)
      (equals?_eq_of_not_mem_circumstances named other times times' number number' row value)
  | dateRange first last =>
    cases stands
    rcases List.mem_pair.mp member with rfl | rfl <;> rfl

/-- Every test of a chain is one of a predicate. -/
theorem exists_tests?_of_mem {chain : Chain} {tests : List Test}
    (condition : tests? chain.fragment chain.params = some tests) {test : Test} (member : test ∈ tests) :
    ∃ p ∈ chain, ∃ own, p.tests? = some own ∧ test ∈ own := by
  rw [tests?_fragment] at condition
  obtain ⟨lists, stand, rfl⟩ := Option.map_eq_some_iff.mp condition
  clear condition
  induction chain generalizing lists with
  | nil =>
    cases stand
    simp at member
  | cons p chain ih =>
    rw [List.mapM_cons] at stand
    obtain ⟨own, stands, more⟩ := Option.bind_eq_some_iff.mp stand
    obtain ⟨others, rest, whole⟩ := Option.bind_eq_some_iff.mp more
    cases whole
    rw [List.flatten_cons] at member
    rcases List.mem_append.mp member with first | later
    · exact ⟨p, List.mem_cons_self, own, stands, first⟩
    · obtain ⟨q, inside, found⟩ := ih others rest later
      exact ⟨q, List.mem_cons_of_mem p inside, found⟩

theorem seesRowsOnly_of_not_mem_circumstances {chain : Chain}
    (other : ∀ p ∈ chain, p.column ∉ circumstances) : SeesRowsOnly chain := by
  intro tests condition
  refine ⟨fun row => tests.all (Test.passes .unknown 0 row), fun times number row => ?_⟩
  have same (test : Test) (member : test ∈ tests) :
      test.passes times number row = test.passes .unknown 0 row := by
    obtain ⟨p, inside, own, stands, owned⟩ := exists_tests?_of_mem condition member
    exact passes_eq_of_not_mem_circumstances (other p inside) stands owned ..
  rw [Bool.eq_iff_iff, List.all_eq_true, List.all_eq_true]
  exact forall₂_congr fun test member => by rw [same test member]

theorem seesRowsOnly_of_parseFilter {raw : String} {chain : Chain}
    (accepted : Book.parseFilter raw = .ok chain) : SeesRowsOnly chain := by
  intro tests condition
  obtain ⟨_, same, meets⟩ := exists_tests_all_meets (Book.isOnBooks_of_parseFilter accepted)
  cases condition.symm.trans same
  exact ⟨_, meets⟩

/-- Such a chain finds at all times what it finds where no times are known. -/
theorem SeesRowsOnly.findAt_eq {chain : Chain} (sees : SeesRowsOnly chain) (c : Catalogue) (times : Times) :
    c.findAt times chain = c.find chain := by
  unfold find findAt
  cases condition : tests? chain.fragment chain.params with
  | none => rfl
  | some tests =>
    obtain ⟨keep, same⟩ := sees tests condition
    simp only [select_eq_filter c (same _)]

end BookCatalogue.Catalogue

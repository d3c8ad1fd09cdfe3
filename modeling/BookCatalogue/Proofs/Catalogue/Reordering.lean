import Mathlib
import BookCatalogue.Proofs.Catalogue.Lookup
import BookCatalogue.Proofs.Catalogue.Stamped

/-! # Calls in another order

A call asks for the row of its ISBN and changes no other. The replies to the calls of one ISBN therefore
depend on these calls alone, and so does the row that they leave. Runs of the same calls in two orders,
in which the calls of each ISBN follow each other alike, give the same replies and leave the same rows,
whatever the clock shows meanwhile. A listing puts the rows in an order of its own, so that no chain finds
out in which order they have arrived or when, unless it asks for their numbers, for their times or for the
time of the day. -/

namespace BookCatalogue.Catalogue

open BookCatalogue.Filter (Chain Predicate)
open Text (FoldedKey)

variable {c other : Catalogue} {calls others : List Call} {call : Call} {key : FoldedKey}

/-! ## One ISBN at a time -/

/-- The catalogues are both open or both closed, and hold the same row of a key. -/
structure AgreeAt (key : FoldedKey) (c other : Catalogue) : Prop where
  isOpen : c.isOpen = other.isOpen
  row? : c.row? key = other.row? key

/-- Where they agree about its key, catalogues answer a call alike and agree about it afterwards. -/
theorem agreeAt_perform (agree : AgreeAt call.key c other) :
    (c.perform call).2 = (other.perform call).2 ∧
      AgreeAt call.key (c.perform call).1 (other.perform call).1 := by
  have isOpen := agree.isOpen
  cases call with
  | create b =>
    have row : c.row? (.of b.isbn) = other.row? (.of b.isbn) := agree.row?
    simp only [Catalogue.perform, create_eq, isOpen, row]
    split_ifs
    · exact ⟨rfl, agree⟩
    · have appended : Catalogue.row? { c with rows := c.rows ++ [Row.ofBook b] } (.of b.isbn) =
          Catalogue.row? { other with rows := other.rows ++ [Row.ofBook b] } (.of b.isbn) := by
        rw [row?_append, row?_append, row]
      exact ⟨rfl, rfl, appended⟩
    · exact ⟨rfl, agree⟩
  | update b =>
    have row : c.row? (.of b.isbn) = other.row? (.of b.isbn) := agree.row?
    simp only [Catalogue.perform, update_eq, isOpen, row]
    split_ifs
    · exact ⟨rfl, agree⟩
    · have replaced : Catalogue.row? { c with rows := c.rows.map (Row.ofBook b).replacedBy } (.of b.isbn) =
          Catalogue.row? { other with rows := other.rows.map (Row.ofBook b).replacedBy } (.of b.isbn) := by
        rw [row?_map_replacedBy, row?_map_replacedBy, row]
      exact ⟨rfl, rfl, replaced⟩
    · exact ⟨rfl, agree⟩
    · exact ⟨rfl, agree⟩
  | get isbn =>
    have row : c.row? (.of isbn) = other.row? (.of isbn) := agree.row?
    simp only [Catalogue.perform, get?, isOpen, row, true_and]
    exact agree

theorem row?_eq_of_filter_eq {own : FoldedKey} (different : own ≠ key)
    (rows : other.rows.filter (·.key ≠ own) = c.rows.filter (·.key ≠ own)) :
    other.row? key = c.row? key := by
  have skip (rows : List Row) :
      (rows.filter (·.key ≠ own)).find? (·.key == key) = rows.find? (·.key == key) := by
    rw [List.find?_filter]
    congr 1
    funext r
    by_cases same : r.key = key
    · simp [same, different.symm]
    · simp [same]
  rw [row?, ← skip, rows, skip, row?]

/-- A call changes nothing about another key. -/
theorem agreeAt_perform_of_ne (c : Catalogue) (different : call.key ≠ key) :
    AgreeAt key (c.perform call).1 c where
  isOpen := isOpen_perform c call
  row? := row?_eq_of_filter_eq different (perform_spares c call).otherRows

/-- The replies to the calls of a key, and its row after them, depend on these calls alone. -/
theorem agreeAt_replay (agree : AgreeAt key c other) (calls : List Call) :
    let own := calls.filter (·.key = key)
    (calls.zip (replay perform c calls).2).filter (·.1.key = key) = own.zip (replay perform other own).2 ∧
      AgreeAt key (replay perform c calls).1 (replay perform other own).1 := by
  induction calls generalizing c other with
  | nil => exact ⟨rfl, agree⟩
  | cons call calls ih =>
    by_cases same : call.key = key
    · have agreeAtCall : AgreeAt call.key c other := same ▸ agree
      obtain ⟨reply, after⟩ := agreeAt_perform agreeAtCall
      obtain ⟨replies, last⟩ := ih (same ▸ after)
      simp only [replay, List.zip_cons_cons, List.filter_cons, same, decide_true, if_true, reply, replies,
        true_and]
      exact last
    · -- The run of the own calls waits while a call of another key passes.
      have after : AgreeAt key (c.perform call).1 other := by
        obtain ⟨isOpen, row⟩ := agreeAt_perform_of_ne c same
        exact ⟨isOpen.trans agree.isOpen, row.trans agree.row?⟩
      obtain ⟨replies, last⟩ := ih after
      simp only [replay, List.zip_cons_cons, List.filter_cons, same, decide_false, Bool.false_eq_true,
        if_false, replies, true_and]
      exact last

/-! ## Places -/

/-- Calls in another order: each has a place, and calls of one ISBN stay in their order. -/
structure Reordering (calls others : List Call) where
  place : Fin calls.length ≃ Fin others.length
  same : ∀ i, others[place i] = calls[i]
  order : ∀ i j, calls[i].key = calls[j].key → i < j → place i < place j

/-- Where the calls of a key stand. -/
def positions (calls : List Call) (key : FoldedKey) : List (Fin calls.length) :=
  (List.finRange calls.length).filter fun i => calls[i].key = key

theorem mem_positions {i : Fin calls.length} : i ∈ positions calls key ↔ calls[i].key = key := by
  simp [positions]

theorem pairwise_positions (calls : List Call) (key : FoldedKey) :
    (positions calls key).Pairwise (· < ·) :=
  (List.pairwise_lt_finRange _).filter _

theorem Reordering.positions_eq (r : Reordering calls others) (key : FoldedKey) :
    positions others key = (positions calls key).map r.place := by
  -- Both lists hold the same places, and both hold them in order.
  have sorted : ((positions calls key).map r.place).Pairwise (· < ·) := by
    rw [List.pairwise_map]
    refine (pairwise_positions calls key).imp_of_mem fun {i j} own own' before => ?_
    exact r.order i j ((mem_positions.mp own).trans (mem_positions.mp own').symm) before
  refine (pairwise_positions others key).eq_of_mem_iff sorted fun j => ?_
  obtain ⟨i, rfl⟩ := r.place.surjective j
  rw [mem_positions, r.same, List.mem_map_of_injective r.place.injective, mem_positions]

theorem filter_key_eq_map (calls : List Call) (key : FoldedKey) :
    calls.filter (·.key = key) = (positions calls key).map fun i => calls[i] := by
  conv_lhs => rw [← List.map_getElem_finRange calls, List.filter_map]
  rfl

theorem filter_zip_eq_map {replies : List Reply} (length : replies.length = calls.length) (key : FoldedKey) :
    (calls.zip replies).filter (·.1.key = key) = (positions calls key).map fun i => (calls[i], replies[i]) := by
  have zipped : calls.zip replies =
      (List.finRange calls.length).map fun i => (calls[i], replies[i]) := by
    apply List.ext_getElem
    · simp [length]
    · intro i _ _
      simp
  rw [zipped, List.filter_map]
  rfl

namespace Reordering

/-- The calls of a key are the same in both orders. -/
theorem filter_key_eq (r : Reordering calls others) (key : FoldedKey) :
    others.filter (·.key = key) = calls.filter (·.key = key) := by
  rw [filter_key_eq_map, filter_key_eq_map, r.positions_eq, List.map_map]
  exact List.map_congr_left fun i _ => r.same i

/-- Each call is answered alike in both orders. -/
theorem exists_reply (r : Reordering calls others) (c : Catalogue) (i : Fin calls.length) :
    ∃ reply, (replay perform c calls).2[i]? = some reply ∧
      (replay perform c others).2[r.place i]? = some reply := by
  have length : (replay perform c calls).2.length = calls.length := length_replay c calls
  have length' : (replay perform c others).2.length = others.length := length_replay c others
  have agree : AgreeAt calls[i].key c c := ⟨rfl, rfl⟩
  have replies := (agreeAt_replay agree calls).1
  have replies' := (agreeAt_replay agree others).1
  rw [r.filter_key_eq, ← replies, filter_zip_eq_map length, filter_zip_eq_map length', r.positions_eq,
    List.map_map, List.map_inj_left] at replies'
  have answered := congrArg Prod.snd (replies' i (mem_positions.mpr rfl))
  refine ⟨(replay perform c calls).2[i], List.getElem?_eq_getElem _, ?_⟩
  exact List.getElem?_eq_some_iff.mpr ⟨_, answered⟩

/-- Both orders leave the same row of each key. -/
theorem row?_eq (r : Reordering calls others) (c : Catalogue) (key : FoldedKey) :
    (replay perform c others).1.row? key = (replay perform c calls).1.row? key := by
  have agree : AgreeAt key c c := ⟨rfl, rfl⟩
  have row := (agreeAt_replay agree others).2.row?
  rw [r.filter_key_eq] at row
  exact row.trans (agreeAt_replay agree calls).2.row?.symm

end Reordering

/-! ## Arrival -/

/-- Tables without two rows of one ISBN that hold the same row of each key hold the same rows. -/
theorem perm_rows_of_row?_eq (distinct : c.HasDistinctKeys) (distinct' : other.HasDistinctKeys)
    (same : ∀ key, c.row? key = other.row? key) : c.rows.Perm other.rows := by
  have rows : c.rows.Nodup := distinct.of_map
  have rows' : other.rows.Nodup := distinct'.of_map
  refine (List.perm_ext_iff_of_nodup rows rows').mpr fun r => ?_
  have stored : c.row? r.key = some r ↔ r ∈ c.rows ∧ r.key = r.key := row?_eq_some_iff distinct
  have stored' : other.row? r.key = some r ↔ r ∈ other.rows ∧ r.key = r.key := row?_eq_some_iff distinct'
  rw [and_iff_left rfl] at stored stored'
  rw [← stored, ← stored', same]

/-- A chain that sees nothing but rows finds the same in the same rows, whatever the order of their
arrival. -/
theorem SeesRowsOnly.find_eq_of_perm {chain : Chain} (sees : SeesRowsOnly chain)
    (isOpen : c.isOpen = other.isOpen) (distinct : c.HasDistinctKeys) (rows : c.rows.Perm other.rows) :
    c.find chain = other.find chain := by
  unfold find findAt
  rw [isOpen]
  cases condition : tests? chain.fragment chain.params with
  | none => rfl
  | some tests =>
    obtain ⟨keep, same⟩ := sees tests condition
    have sorted := sortRows_eq_of_perm (rows.filter keep) (distinct.pairwise_filter keep)
    simp only [select_eq_filter _ (same _)]
    split_ifs
    · rfl
    · exact congrArg (List.mapM readRow) sorted.symm

/-- Runs of the same calls on a new catalogue, in orders that agree about the calls of each ISBN and under
any two clocks, answer each call alike. After them every chain finds the same that asks neither for the
number of a row nor for a time. No filter on books does. -/
theorem replay_reordering (r : Reordering calls others) (clock clock' : Nat → Reading) :
    let run := replay Stamped.perform (.new clock) calls
    let run' := replay Stamped.perform (.new clock') others
    (∀ i : Fin calls.length, ∃ reply, run.2[i]? = some reply ∧ run'.2[r.place i]? = some reply) ∧
      (∀ chain : Chain, (∀ p ∈ chain, p.column ∉ circumstances) → run.1.find chain = run'.1.find chain) ∧
      ∀ raw chain, Book.parseFilter raw = .ok chain → run.1.find chain = run'.1.find chain := by
  intro run run'
  obtain ⟨replies, catalogue⟩ := Stamped.replay_catalogue (.new clock) calls
  obtain ⟨replies', catalogue'⟩ := Stamped.replay_catalogue (.new clock') others
  obtain ⟨isOpen, consistent⟩ := isConsistent_replay calls
  obtain ⟨isOpen', consistent'⟩ := isConsistent_replay others
  have rows := perm_rows_of_row?_eq consistent.distinct consistent'.distinct fun key =>
    (r.row?_eq .empty key).symm
  have agree {chain : Chain} (sees : SeesRowsOnly chain) : run.1.find chain = run'.1.find chain :=
    calc run.1.find chain
      _ = run.1.catalogue.find chain := sees.findAt_eq ..
      _ = run'.1.catalogue.find chain := by
        rw [catalogue, catalogue']
        exact sees.find_eq_of_perm (isOpen.trans isOpen'.symm) consistent.distinct rows
      _ = run'.1.find chain := (sees.findAt_eq ..).symm
  refine ⟨?_, fun chain other => ?_, fun raw chain accepted => ?_⟩
  · rw [replies, replies']
    exact r.exists_reply .empty
  · exact agree (seesRowsOnly_of_not_mem_circumstances other)
  · exact agree (seesRowsOnly_of_parseFilter accepted)

/-- A book that is created and replaced while another one arrives, and on the next day the same with the
other one first. -/
theorem replay_reordering_other_first :
    let emma : Book := ⟨"Emma", "Austen", "x1", ⟨1815, 12, 23, by decide⟩, 1, "", ""⟩
    let other : Book := { emma with isbn := "x2" }
    let renamed : Book := { emma with title := "Emma II", isbn := "X1" }
    let calls : List Call := [.create emma, .create other, .update renamed, .get "X2"]
    let others : List Call := [.create other, .create emma, .get "X2", .update renamed]
    let chain : Chain := [.comparison "Title" .differs "emma"]
    let run := replay Stamped.perform (.new fun i => ⟨1700000000 + i, "2023-11-14", "22:13:20"⟩) calls
    let run' := replay Stamped.perform (.new fun i => ⟨1700086400 + i, "2023-11-15", "22:13:20"⟩) others
    ((∀ p ∈ chain, p.column ∉ circumstances) ∧ Book.parseFilter "title_ne_emma" = .ok chain) ∧
      (∃ r : Reordering calls others, ∀ i : Fin calls.length, ∃ reply,
        run.2[i]? = some reply ∧ run'.2[r.place i]? = some reply) ∧
      run.1.find chain = .ok [{ renamed with isbn := "x1" }] ∧
      run'.1.find chain = .ok [{ renamed with isbn := "x1" }] := by
  intro emma other renamed calls others chain run run'
  let r : Reordering calls others :=
    { place := ⟨![1, 0, 3, 2], ![1, 0, 3, 2], by decide, by decide⟩
      same := by decide
      order := by decide }
  have named : ∀ p ∈ chain, p.column ∉ circumstances := by decide
  have accepted : Book.parseFilter "title_ne_emma" = .ok chain := by decide
  obtain ⟨replies, blind, onBooks⟩ := replay_reordering r
    (fun i => ⟨1700000000 + i, "2023-11-14", "22:13:20"⟩) (fun i => ⟨1700086400 + i, "2023-11-15", "22:13:20"⟩)
  have found : run.1.find chain = .ok [{ renamed with isbn := "x1" }] := by decide +kernel
  exact ⟨⟨named, accepted⟩, ⟨r, replies⟩, found, (blind chain named).symm.trans found⟩

/-- The numbers of rows and the seconds of their times tell which of two books was created first, and
what the clock shows tells on which day one asks. -/
theorem find_arrival_differs_between_orders :
    let emma : Book := ⟨"Emma", "Austen", "x1", ⟨1815, 12, 23, by decide⟩, 1, "", ""⟩
    let other : Book := { emma with isbn := "x2" }
    let clock : Nat → Reading := fun i => ⟨1700000000 + i, "2023-11-14", "22:13:2" ++ toString i⟩
    let nextDay : Nat → Reading := fun i => ⟨1700086410 + i, "2023-11-15", "22:13:3" ++ toString i⟩
    let run := (replay Stamped.perform (.new clock) [.create emma, .create other]).1
    let run' := (replay Stamped.perform (.new clock) [.create other, .create emma]).1
    let later := (replay Stamped.perform (.new nextDay) [.create emma, .create other]).1
    Nonempty (Reordering [.create emma, .create other] [.create other, .create emma]) ∧
      (∀ asked ∈ [("Rowid", "1"), ("Oid", "1"), ("CreatedAt", "1700000000"), ("UpdatedAt", "1700000000")],
        run.find [.comparison asked.1 .equals asked.2] = .ok [emma] ∧
          run'.find [.comparison asked.1 .equals asked.2] = .ok [other]) ∧
      ∀ asked ∈ [("CurrentDate", "2023-11-14"), ("CurrentTime", "22:13:22"),
          ("CurrentTimestamp", "2023-11-14 22:13:22")],
        run.find [.comparison asked.1 .equals asked.2, .comparison "Isbn" .equals "x1"] = .ok [emma] ∧
          later.find [.comparison asked.1 .equals asked.2, .comparison "Isbn" .equals "x1"] = .ok [] := by
  intro emma other clock nextDay run run' later
  let r : Reordering [.create emma, .create other] [.create other, .create emma] :=
    { place := ⟨![1, 0], ![1, 0], by decide, by decide⟩
      same := by decide
      order := by decide }
  exact ⟨⟨r⟩, by decide +kernel, by decide +kernel⟩

end BookCatalogue.Catalogue

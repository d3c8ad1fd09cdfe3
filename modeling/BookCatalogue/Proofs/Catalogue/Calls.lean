import Mathlib
import BookCatalogue.Catalogue.Basic
import BookCatalogue.Proofs.Catalogue.Row

/-! # Runs of calls

A catalogue is used by calls that add a book, replace a book or ask for one. A call that fails leaves
the catalogue as it was; any other touches at most the row of its key. Rows are never dropped or
moved and an ISBN keeps the spelling that it was added with, over whole runs of calls. -/

namespace BookCatalogue.Catalogue

open Text (FoldedKey)

/-- A use of the catalogue by the ISBN of a book. -/
inductive Call where
  | create (b : Book)
  | update (b : Book)
  | get (isbn : String)
deriving DecidableEq, Repr

/-- What identifies the book of a call. -/
def Call.key : Call → FoldedKey
  | .create b => .of b.isbn
  | .update b => .of b.isbn
  | .get isbn => .of isbn

/-- The answer to a call. A change is answered by the book of the call. -/
abbrev Reply := Except Error (Option Book)

/-- The state after a change that can fail, and the reply to it. -/
def settle {State : Type*} (s : State) (b : Book) (change : Except Error State) : State × Reply :=
  match change with
  | .ok after => (after, .ok (some b))
  | .error e => (s, .error e)

/-- What holds whether a change fails or not holds once it is settled. -/
theorem settle_induction {State : Type*} {motive : State → Prop} {s : State} {b : Book}
    {change : Except Error State} (failed : motive s)
    (changed : ∀ after, change = .ok after → motive after) : motive (settle s b change).1 := by
  cases change with
  | ok after => exact changed after rfl
  | error e => exact failed

/-- The catalogue after a call, and the reply to it. -/
def perform (c : Catalogue) : Call → Catalogue × Reply
  | .create b => settle c b (c.create b)
  | .update b => settle c b (c.update b)
  | .get isbn => (c, c.get? isbn)

/-- The state after some calls, one after another, and the replies to them. -/
def replay {State : Type*} (step : State → Call → State × Reply) (s : State) :
    List Call → State × List Reply
  | [] => (s, [])
  | call :: calls =>
    let (after, reply) := step s call
    let (last, replies) := replay step after calls
    (last, reply :: replies)

section Replay

variable {State Other : Type*} {step : State → Call → State × Reply}

theorem replay_append (s : State) (calls later : List Call) :
    replay step s (calls ++ later) =
      ((replay step (replay step s calls).1 later).1,
        (replay step s calls).2 ++ (replay step (replay step s calls).1 later).2) := by
  induction calls generalizing s with
  | nil => rfl
  | cons call calls ih => simp only [List.cons_append, replay, ih]

theorem length_replay (s : State) (calls : List Call) :
    (replay step s calls).2.length = calls.length := by
  induction calls generalizing s with
  | nil => rfl
  | cons call calls ih => exact congrArg Nat.succ (ih _)

/-- What one call preserves, a run preserves. -/
theorem replay_induction {motive : State → Prop}
    (preserved : ∀ s call, motive s → motive (step s call).1) {s : State} (start : motive s)
    (calls : List Call) : motive (replay step s calls).1 := by
  induction calls generalizing s with
  | nil => exact start
  | cons call calls ih => exact ih (preserved s call start)

/-- States that answer each call alike and stay related answer each run alike and stay related. -/
theorem replay_simulation {other : Other → Call → Other × Reply} {related : State → Other → Prop}
    (simulates : ∀ s t call, related s t →
      (step s call).2 = (other t call).2 ∧ related (step s call).1 (other t call).1)
    {s : State} {t : Other} (start : related s t) (calls : List Call) :
    (replay step s calls).2 = (replay other t calls).2 ∧
      related (replay step s calls).1 (replay other t calls).1 := by
  induction calls generalizing s t with
  | nil => exact ⟨rfl, start⟩
  | cons call calls ih =>
    obtain ⟨reply, after⟩ := simulates s t call start
    obtain ⟨replies, last⟩ := ih after
    exact ⟨congrArg₂ List.cons reply replies, last⟩

end Replay

/-! ## What a change does -/

section Changes

variable {c after : Catalogue} {b : Book}

theorem create_eq (c : Catalogue) (b : Book) :
    c.create b =
      if c.isOpen = true ∧ b.IsStorable then
        if (c.row? (.of b.isbn)).isSome then .error (.conflict b.isbn)
        else .ok { c with rows := c.rows ++ [Row.ofBook b] }
      else .error .engine := by
  unfold create
  simp only [← Row.fits_ofBook_iff, Row.key_ofBook]
  cases c.isOpen <;> cases (Row.ofBook b).fits <;> rfl

theorem update_eq (c : Catalogue) (b : Book) :
    c.update b =
      if c.isOpen = true then
        if (c.row? (.of b.isbn)).isNone then .error (.notFound b.isbn)
        else if 1 ≤ Row.storedLength b.title then
          .ok { c with rows := c.rows.map (Row.ofBook b).replacedBy }
        else .error .engine
      else .error .engine := by
  unfold update
  simp only [← Row.title_ofBook b, ← Row.titleFits_iff, Row.key_ofBook]
  cases c.isOpen <;> cases (Row.ofBook b).titleFits <;> rfl

/-- A book is added at the end of the rows. -/
theorem create_eq_ok_iff :
    c.create b = .ok after ↔ (c.isOpen = true ∧ b.IsStorable) ∧ c.row? (.of b.isbn) = none ∧
      { c with rows := c.rows ++ [Row.ofBook b] } = after := by
  rw [create_eq]
  split_ifs with storable present
  · simp [Option.isSome_iff_ne_none.mp present]
  · simp [storable, Option.not_isSome_iff_eq_none.mp present]
  · simp [storable]

/-- A book replaces the row of its key in its place. -/
theorem update_eq_ok_iff :
    c.update b = .ok after ↔ c.isOpen = true ∧ c.row? (.of b.isbn) ≠ none ∧
      1 ≤ Row.storedLength b.title ∧
      { c with rows := c.rows.map (Row.ofBook b).replacedBy } = after := by
  rw [update_eq]
  split_ifs with isOpen absent title
  · simp [Option.isNone_iff_eq_none.mp absent]
  · simp [isOpen, title, mt Option.isNone_iff_eq_none.mpr absent]
  · simp [title]
  · simp [isOpen]

end Changes

/-! ## Keys -/

theorem key_of_row? {c : Catalogue} {key : FoldedKey} {r : Row} (found : c.row? key = some r) :
    r.key = key := by
  simpa using List.find?_some found

theorem row?_eq_none_iff {c : Catalogue} {key : FoldedKey} :
    c.row? key = none ↔ key ∉ c.rows.map Row.key := by
  simp [row?]

theorem row?_append (c : Catalogue) (row : Row) (key : FoldedKey) :
    row? { c with rows := c.rows ++ [row] } key =
      (c.row? key).or (if row.key = key then some row else none) := by
  by_cases same : row.key = key <;> simp [row?, same]

theorem row?_map_replacedBy (c : Catalogue) (row : Row) (key : FoldedKey) :
    row? { c with rows := c.rows.map row.replacedBy } key =
      (c.row? key).map row.replacedBy := by
  simp [row?, List.find?_map]

/-- No two rows have the same ISBN. -/
def HasDistinctKeys (c : Catalogue) : Prop := (c.rows.map Row.key).Nodup

theorem HasDistinctKeys.pairwise_filter {c : Catalogue} (distinct : c.HasDistinctKeys) (keep : Row → Bool) :
    (c.rows.filter keep).Pairwise fun a b => a.key ≠ b.key :=
  (List.pairwise_map.mp distinct).sublist List.filter_sublist

theorem HasDistinctKeys.append {c : Catalogue} {row : Row} (distinct : c.HasDistinctKeys)
    (absent : c.row? row.key = none) : HasDistinctKeys { c with rows := c.rows ++ [row] } := by
  rw [HasDistinctKeys, List.map_append, List.map_singleton, ← List.concat_eq_append,
    List.nodup_concat]
  exact ⟨row?_eq_none_iff.mp absent, distinct⟩

/-- Storing a row keeps the ISBNs distinct, whatever values the row holds. -/
theorem HasDistinctKeys.store? {c after : Catalogue} {row : Row} (distinct : c.HasDistinctKeys)
    (stored : c.store? row = some after) : after.HasDistinctKeys := by
  unfold Catalogue.store? at stored
  split_ifs at stored with refused
  cases stored
  have absent : c.row? row.key = none := by
    by_contra present
    rw [← ne_eq, Option.ne_none_iff_isSome] at present
    simp [present] at refused
  exact distinct.append absent

theorem HasDistinctKeys.map_replacedBy {c : Catalogue} (distinct : c.HasDistinctKeys) (row : Row) :
    HasDistinctKeys { c with rows := c.rows.map row.replacedBy } := by
  simpa only [HasDistinctKeys, List.map_map, Function.comp_def, Row.key_replacedBy] using distinct

/-- A call, failing or not, keeps the ISBNs distinct. -/
theorem HasDistinctKeys.perform {c : Catalogue} (distinct : c.HasDistinctKeys) (call : Call) :
    (c.perform call).1.HasDistinctKeys := by
  cases call with
  | create b =>
    apply settle_induction distinct
    intro after success
    obtain ⟨_, absent, rfl⟩ := create_eq_ok_iff.mp success
    exact distinct.append absent
  | update b =>
    apply settle_induction distinct
    intro after success
    obtain ⟨_, _, _, rfl⟩ := update_eq_ok_iff.mp success
    exact distinct.map_replacedBy (Row.ofBook b)
  | get isbn => exact distinct

/-! ## What a call leaves alone -/

/-- What a call leaves alone: everything if it fails, and otherwise the rows of other keys, and the
place and the spelling of every stored ISBN. -/
structure Call.Spares (call : Call) (before after : Catalogue) (reply : Reply) : Prop where
  onFailure : ∀ e, reply = .error e → after = before
  otherRows : after.rows.filter (·.key ≠ call.key) = before.rows.filter (·.key ≠ call.key)
  spellings : before.rows.map Row.isbn <+: after.rows.map Row.isbn

theorem Call.Spares.refl (call : Call) (c : Catalogue) (reply : Reply) : call.Spares c c reply :=
  ⟨fun _ _ => rfl, rfl, List.prefix_rfl⟩

/-- A change that fails is settled without a trace. -/
theorem Call.Spares.settle {call : Call} {c : Catalogue} {b : Book}
    {change : Except Error Catalogue}
    (spares : ∀ after, change = .ok after → call.Spares c after (.ok (some b))) :
    call.Spares c (Catalogue.settle c b change).1 (Catalogue.settle c b change).2 := by
  cases change with
  | ok after => exact spares after rfl
  | error e => exact .refl ..

theorem filter_map_replacedBy (row : Row) (rows : List Row) :
    (rows.map row.replacedBy).filter (·.key ≠ row.key) = rows.filter (·.key ≠ row.key) := by
  induction rows with
  | nil => rfl
  | cons r rows ih =>
    by_cases same : r.key = row.key
    · simpa [same] using ih
    · simpa [same, Row.replacedBy_of_key_ne same] using ih

theorem map_isbn_replacedBy (row : Row) (rows : List Row) :
    (rows.map row.replacedBy).map Row.isbn = rows.map Row.isbn := by
  simp only [List.map_map, Function.comp_def, Row.isbn_replacedBy]

/-- A failing call touches nothing, and no call touches more than the row of its key. -/
theorem perform_spares (c : Catalogue) (call : Call) :
    call.Spares c (c.perform call).1 (c.perform call).2 := by
  cases call with
  | create b =>
    refine Call.Spares.settle fun after success => ?_
    obtain ⟨_, _, rfl⟩ := create_eq_ok_iff.mp success
    refine ⟨nofun, ?_, ?_⟩
    · simp [Call.key]
    · rw [List.map_append]
      exact List.prefix_append _ _
  | update b =>
    refine Call.Spares.settle fun after success => ?_
    obtain ⟨_, _, _, rfl⟩ := update_eq_ok_iff.mp success
    refine ⟨nofun, filter_map_replacedBy (Row.ofBook b) c.rows, ?_⟩
    rw [map_isbn_replacedBy]
  | get isbn => exact .refl ..

/-- Over a run no row is dropped or moved, and no stored ISBN changes its spelling. -/
theorem replay_spellings (c : Catalogue) (calls : List Call) :
    c.rows.map Row.isbn <+: (replay perform c calls).1.rows.map Row.isbn :=
  replay_induction (motive := fun after => c.rows.map Row.isbn <+: after.rows.map Row.isbn)
    (fun s call earlier => earlier.trans (perform_spares s call).spellings) List.prefix_rfl calls

end BookCatalogue.Catalogue

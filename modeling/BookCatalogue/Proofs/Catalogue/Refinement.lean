import Mathlib
import BookCatalogue.Proofs.Catalogue.Calls

/-! # The catalogue as a finite map

To its callers an open catalogue is a finite map from ISBNs without case to books. Over every run of
calls from the empty catalogue the replies are those of the map and the rows are the books in it. That
no two rows share a key is what makes a replacement touch a single row. -/

namespace BookCatalogue.Catalogue

open Text (FoldedKey)

/-- Books by their ISBN without case. A book keeps the spelling of its ISBN. -/
abbrev BookMap := Finmap fun _ : FoldedKey => Book

def BookMap.perform (m : BookMap) : Call → BookMap × Reply
  | .create b =>
    if b.IsStorable then
      if (m.lookup (.of b.isbn)).isSome then (m, .error (.conflict b.isbn))
      else (m.insert (.of b.isbn) b, .ok (some b))
    else (m, .error .engine)
  | .update b =>
    match m.lookup (.of b.isbn) with
    | none => (m, .error (.notFound b.isbn))
    | some stored =>
      if 1 ≤ Row.storedLength b.title then
        (m.insert (.of b.isbn) { b with isbn := stored.isbn }, .ok (some b))
      else (m, .error .engine)
  | .get isbn => (m, .ok (m.lookup (.of isbn)))

/-- The rows of an open catalogue are the books of a map: one row for each key, and the row of a key is
that of its book. -/
structure Represents (c : Catalogue) (m : BookMap) : Prop where
  isOpen : c.isOpen = true
  distinct : c.HasDistinctKeys
  row? : ∀ key, c.row? key = (m.lookup key).map Row.ofBook

theorem represents_empty : Represents .empty ∅ :=
  ⟨rfl, List.nodup_nil, fun key => by rw [Finmap.lookup_empty]; rfl⟩

section Represents

variable {c : Catalogue} {m : BookMap}

theorem Represents.isSome_row? (represents : c.Represents m) (key : FoldedKey) :
    (c.row? key).isSome = (m.lookup key).isSome := by
  rw [represents.row?, Option.isSome_map]

/-- The book of a key has that key. -/
theorem Represents.key_eq (represents : c.Represents m) {key : FoldedKey} {b : Book}
    (found : m.lookup key = some b) : .of b.isbn = key :=
  key_of_row? (r := .ofBook b) (by rw [represents.row?, found, Option.map_some])

theorem Represents.append (represents : c.Represents m) {b : Book}
    (absent : c.row? (.of b.isbn) = none) :
    Represents { c with rows := c.rows ++ [Row.ofBook b] } (m.insert (.of b.isbn) b) where
  isOpen := represents.isOpen
  distinct := represents.distinct.append absent
  row? key := by
    rw [row?_append, Row.key_ofBook]
    by_cases same : key = .of b.isbn
    · rw [same, Finmap.lookup_insert, absent, if_pos rfl]
      rfl
    · rw [Finmap.lookup_insert_of_ne _ same, if_neg (Ne.symm same), Option.or_none,
        represents.row?]

theorem Represents.replace (represents : c.Represents m) {b stored : Book}
    (found : m.lookup (.of b.isbn) = some stored) :
    Represents { c with rows := c.rows.map (Row.ofBook b).replacedBy }
      (m.insert (.of b.isbn) { b with isbn := stored.isbn }) where
  isOpen := represents.isOpen
  distinct := represents.distinct.map_replacedBy _
  row? key := by
    rw [row?_map_replacedBy]
    by_cases same : key = .of b.isbn
    · have replaced : (Row.ofBook b).replacedBy (.ofBook stored) =
          .ofBook { b with isbn := stored.isbn } :=
        Row.replacedBy_of_key_eq (represents.key_eq found)
      rw [same, Finmap.lookup_insert, represents.row?, found, Option.map_some, Option.map_some,
        replaced, Option.map_some]
    · rw [Finmap.lookup_insert_of_ne _ same, represents.row?, Option.map_map]
      refine Option.map_congr fun other found => ?_
      exact Row.replacedBy_of_key_ne (by rwa [Row.key_ofBook, represents.key_eq found])

theorem Represents.get? (represents : c.Represents m) (isbn : String) :
    c.get? isbn = .ok (m.lookup (.of isbn)) := by
  unfold Catalogue.get?
  rw [represents.isOpen, represents.row?]
  cases m.lookup (.of isbn) with
  | none => rfl
  | some b => simp [readRow, Except.mapError, Except.map]

/-- A catalogue and the map that it represents answer a call alike, and it represents the map after
the call. -/
theorem Represents.perform (represents : c.Represents m) (call : Call) :
    (c.perform call).2 = (m.perform call).2 ∧
      (c.perform call).1.Represents (m.perform call).1 := by
  cases call with
  | create b =>
    unfold Catalogue.perform BookMap.perform
    simp only [create_eq, and_iff_right represents.isOpen, represents.isSome_row?]
    split_ifs with storable present
    · exact ⟨rfl, represents⟩
    · exact ⟨rfl, represents.append (by simpa [represents.row?] using present)⟩
    · exact ⟨rfl, represents⟩
  | update b =>
    unfold Catalogue.perform BookMap.perform
    simp only [update_eq, if_pos represents.isOpen, represents.row?]
    cases found : m.lookup (.of b.isbn) with
    | none => exact ⟨rfl, represents⟩
    | some stored =>
      simp only [Option.map_some, Option.isNone_some, Bool.false_eq_true, if_false]
      split_ifs with title
      · exact ⟨rfl, represents.replace found⟩
      · exact ⟨rfl, represents⟩
  | get isbn => exact ⟨represents.get? isbn, represents⟩

end Represents

/-- The catalogue refines a finite map by ISBN without case. Over every run of calls from the empty
catalogue the replies are those of the map and the rows are its books. After the run a failing call
leaves everything as it was, any call leaves the rows of other keys as they were, and over all later
calls the rows stay in their places with the ISBNs as they are spelled. -/
theorem replay_refines_bookMap (calls : List Call) :
    (replay perform .empty calls).2 = (replay BookMap.perform ∅ calls).2 ∧
      (replay perform .empty calls).1.Represents (replay BookMap.perform ∅ calls).1 ∧
      (∀ call : Call, call.Spares (replay perform .empty calls).1
        ((replay perform .empty calls).1.perform call).1
        ((replay perform .empty calls).1.perform call).2) ∧
      ∀ later, (replay perform .empty calls).1.rows.map Row.isbn <+:
        (replay perform .empty (calls ++ later)).1.rows.map Row.isbn := by
  obtain ⟨replies, represents⟩ := replay_simulation
    (fun c m call (represents : Represents c m) => represents.perform call) represents_empty calls
  refine ⟨replies, represents, perform_spares _, fun later => ?_⟩
  rw [replay_append]
  exact replay_spellings _ later

end BookCatalogue.Catalogue

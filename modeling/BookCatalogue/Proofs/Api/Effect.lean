import Mathlib
import BookCatalogue.Proofs.Api.Change

/-! # The effect of requests on the rows

Whatever a request says, its answer tells what has become of the rows. A request that adds a book and is
answered with status 201 has added the row of the book in its body. One that replaces a book and is
answered with status 200 has replaced everything but the ISBN in the one row of that ISBN. After every
other answer the rows are as they were before the request. -/

namespace BookCatalogue

open BookCatalogue.Catalogue (Call)
open Http (Origins Request)

namespace Catalogue

variable {c : Catalogue}

/-- Only one row is replaced, and it stays in its place. -/
theorem exists_map_replacedBy_eq (distinct : c.HasDistinctKeys) {row stored : Row}
    (found : c.row? row.key = some stored) :
    ∃ before later, c.rows = before ++ stored :: later ∧
      (∀ other ∈ before ++ later, other.key ≠ row.key) ∧
      c.rows.map row.replacedBy = before ++ row.withIsbn stored.isbn :: later := by
  have same : stored.key = row.key := key_of_row? found
  obtain ⟨_, before, later, rows, _⟩ := List.find?_eq_some_iff_append.mp found
  have others : ∀ other ∈ before ++ later, other.key ≠ row.key := by
    have apart : stored.key ∉ (before ++ later).map Row.key := by
      have keys : ((before ++ stored :: later).map Row.key).Nodup := rows ▸ distinct
      rw [List.map_append, List.map_cons, List.nodup_middle, ← List.map_append] at keys
      exact (List.nodup_cons.mp keys).1
    intro other member level
    apply apart
    rw [same, ← level]
    exact List.mem_map_of_mem member
  have kept (rows : List Row) (inside : rows ⊆ before ++ later) : rows.map row.replacedBy = rows := by
    rw [List.map_congr_left fun other member => Row.replacedBy_of_key_ne (others other (inside member)),
      List.map_id']
  refine ⟨before, later, rows, others, ?_⟩
  rw [rows, List.map_append, List.map_cons, kept before (List.subset_append_left before later),
    kept later (List.subset_append_right before later), Row.replacedBy_of_key_eq same]

/-- The table takes the book as a new one. -/
def Admits (c : Catalogue) (b : Book) : Prop :=
  (c.isOpen = true ∧ b.IsStorable) ∧ c.row? (.of b.isbn) = none

/-- The table takes the book in the place of another. -/
def AdmitsInPlace (c : Catalogue) (b : Book) : Prop :=
  c.isOpen = true ∧ c.row? (.of b.isbn) ≠ none ∧ 1 ≤ Row.storedLength b.title

theorem exists_create_iff {b : Book} : (∃ after, c.create b = .ok after) ↔ c.Admits b := by
  simp only [create_eq_ok_iff, Admits, ← and_assoc, exists_and_left, exists_eq', and_true]

theorem exists_update_iff {b : Book} : (∃ after, c.update b = .ok after) ↔ c.AdmitsInPlace b := by
  simp only [update_eq_ok_iff, AdmitsInPlace, ← and_assoc, exists_and_left, exists_eq', and_true]

end Catalogue

namespace Api

variable {c : Catalogue} {r : Request} {b : Book}

/-! ## Statuses -/

/-- No failure is told by a status of success. -/
theorem le_statusOf_error (call : Call) (e : Catalogue.Error) : 400 ≤ statusOf call (.error e) := by
  cases e with
  | engine =>
    change 400 ≤ 500
    omega
  | conflict isbn =>
    change 400 ≤ 409
    omega
  | notFound isbn =>
    change 400 ≤ 404
    omega
  | corrupt corruption =>
    change 400 ≤ 500
    omega

/-- A request for a change that asks for none is the fault of the client: its body is refused. -/
theorem refused_of_change?_eq_none (origins : Origins) (c : Catalogue) (asks : change? r = none)
    (change : IsOnBooks r "POST" ∨ IsOnBooks r "PUT") :
    400 ≤ (answer origins c r).1.status ∧ ∀ b, readBook r ≠ .ok b := by
  cases read : readBook r with
  | ok b =>
    rcases change with post | put
    · have asked := change?_eq_some_iff.mpr ⟨b, read, .inl ⟨post, rfl⟩⟩
      rw [asks] at asked
      cases asked
    · have asked := change?_eq_some_iff.mpr ⟨b, read, .inr ⟨put, rfl⟩⟩
      rw [asks] at asked
      cases asked
  | error rejection =>
    have status : 400 ≤ rejection.toResponse.status := status_of_readBook_eq_error read
    refine ⟨?_, by simp⟩
    rw [answer_eq, status_withHeaders]
    rcases change with ⟨route, post⟩ | ⟨route, put⟩
    · simpa [handle, route, post, onRoute, add, read] using status
    · simpa [handle, route, put, onRoute, replace, read] using status

/-! ## Effects -/

/-- What has become of the rows by a request, by the status of its answer. -/
structure Effect (c : Catalogue) (r : Request) (status : Nat) (after : Catalogue) : Prop where
  /-- Adding is answered with success just if the body is read as a book that the table takes. -/
  created_iff : IsOnBooks r "POST" → (status = 201 ↔ ∃ b, readBook r = .ok b ∧ c.Admits b)
  /-- So is replacing. -/
  updated_iff : IsOnBooks r "PUT" → (status = 200 ↔ ∃ b, readBook r = .ok b ∧ c.AdmitsInPlace b)
  /-- The row of the book in the body has been added. -/
  created : IsOnBooks r "POST" → status = 201 → ∃ b,
    Book.ofDocument (.ofChars (Text.utf8Decode r.body)) = .ok b ∧
      after = { c with rows := c.rows ++ [Row.ofBook b] }
  /-- The book in the body has replaced all but the ISBN in the one row of its ISBN. -/
  updated : IsOnBooks r "PUT" → status = 200 → ∃ b before row later,
    Book.ofDocument (.ofChars (Text.utf8Decode r.body)) = .ok b ∧
      c.rows = before ++ row :: later ∧ row.key = .of b.isbn ∧
      (∀ other ∈ before ++ later, other.key ≠ .of b.isbn) ∧
      after = { c with rows := before ++ (Row.ofBook b).withIsbn row.isbn :: later }
  /-- Nothing has changed. -/
  untouched : ¬ (IsOnBooks r "POST" ∧ status = 201) → ¬ (IsOnBooks r "PUT" ∧ status = 200) → after = c

theorem not_isOnBooks_put (post : IsOnBooks r "POST") : ¬ IsOnBooks r "PUT" := by
  intro put
  have same : "POST" = "PUT" := post.2.symm.trans put.2
  exact absurd same (by decide)

/-- A request without success leaves the rows as they are. -/
theorem Effect.of_unchanged {status : Nat}
    (notCreated : IsOnBooks r "POST" → 400 ≤ status ∧ ¬ ∃ b, readBook r = .ok b ∧ c.Admits b)
    (notUpdated : IsOnBooks r "PUT" → 400 ≤ status ∧ ¬ ∃ b, readBook r = .ok b ∧ c.AdmitsInPlace b) :
    Effect c r status c where
  created_iff post := by
    obtain ⟨failure, refused⟩ := notCreated post
    have notSuccess : status ≠ 201 := by omega
    exact iff_of_false notSuccess refused
  updated_iff put := by
    obtain ⟨failure, refused⟩ := notUpdated put
    have notSuccess : status ≠ 200 := by omega
    exact iff_of_false notSuccess refused
  created post success := by
    obtain ⟨failure, _⟩ := notCreated post
    omega
  updated put success := by
    obtain ⟨failure, _⟩ := notUpdated put
    omega
  untouched _ _ := rfl

theorem effect_of_create (post : IsOnBooks r "POST") (read : readBook r = .ok b) :
    Effect c r (statusOf (.create b) (c.perform (.create b)).2) (c.perform (.create b)).1 := by
  have notPut := not_isOnBooks_put post
  obtain ⟨_, _, body, _⟩ := readBook_eq_ok_iff.mp read
  rw [Catalogue.perform]
  cases change : c.create b with
  | ok after =>
    have admits : c.Admits b := Catalogue.exists_create_iff.mp ⟨after, change⟩
    obtain ⟨_, _, rfl⟩ := Catalogue.create_eq_ok_iff.mp change
    exact
      { created_iff := fun _ => iff_of_true rfl ⟨b, read, admits⟩
        updated_iff := fun put => absurd put notPut
        created := fun _ _ => ⟨b, body, rfl⟩
        updated := fun put => absurd put notPut
        untouched := fun notCreated _ => absurd ⟨post, rfl⟩ notCreated }
  | error e =>
    have refused : ¬ ∃ b, readBook r = .ok b ∧ c.Admits b := by
      simp [read, ← Catalogue.exists_create_iff, change]
    exact .of_unchanged (fun _ => ⟨le_statusOf_error _ e, refused⟩) fun put => absurd put notPut

theorem effect_of_update (distinct : c.HasDistinctKeys) (put : IsOnBooks r "PUT")
    (read : readBook r = .ok b) :
    Effect c r (statusOf (.update b) (c.perform (.update b)).2) (c.perform (.update b)).1 := by
  have notPost : ¬ IsOnBooks r "POST" := fun post => not_isOnBooks_put post put
  obtain ⟨_, _, body, _⟩ := readBook_eq_ok_iff.mp read
  rw [Catalogue.perform]
  cases change : c.update b with
  | ok after =>
    have admits : c.AdmitsInPlace b := Catalogue.exists_update_iff.mp ⟨after, change⟩
    obtain ⟨_, present, _, rfl⟩ := Catalogue.update_eq_ok_iff.mp change
    obtain ⟨row, found⟩ := Option.ne_none_iff_exists'.mp present
    obtain ⟨before, later, rows, others, replaced⟩ :=
      Catalogue.exists_map_replacedBy_eq distinct (show c.row? (Row.ofBook b).key = some row from found)
    exact
      { created_iff := fun post => absurd post notPost
        updated_iff := fun _ => iff_of_true rfl ⟨b, read, admits⟩
        created := fun post => absurd post notPost
        updated := fun _ _ => ⟨b, before, row, later, body, rows, Catalogue.key_of_row? found, others,
          congrArg (Catalogue.mk · c.isOpen) replaced⟩
        untouched := fun _ notUpdated => absurd ⟨put, rfl⟩ notUpdated }
  | error e =>
    have refused : ¬ ∃ b, readBook r = .ok b ∧ c.AdmitsInPlace b := by
      simp [read, ← Catalogue.exists_update_iff, change]
    exact .of_unchanged (fun post => absurd post notPost) fun _ => ⟨le_statusOf_error _ e, refused⟩

/-- Whatever the request, its effect on the rows is the one that the status of its answer tells. -/
theorem effect_answer (origins : Origins) (distinct : c.HasDistinctKeys) (r : Request) :
    Effect c r (answer origins c r).1.status (answer origins c r).2 := by
  cases asks : change? r with
  | some call =>
    obtain ⟨status, after⟩ := answer_of_change? origins c asks
    rw [status, after]
    obtain ⟨b, read, ⟨post, rfl⟩ | ⟨put, rfl⟩⟩ := change?_eq_some_iff.mp asks
    · exact effect_of_create post read
    · exact effect_of_update distinct put read
  | none =>
    rw [answer_of_change?_eq_none origins c asks]
    apply Effect.of_unchanged
    · intro post
      obtain ⟨failure, refused⟩ := refused_of_change?_eq_none origins c asks (.inl post)
      exact ⟨failure, fun ⟨b, read, _⟩ => refused b read⟩
    · intro put
      obtain ⟨failure, refused⟩ := refused_of_change?_eq_none origins c asks (.inr put)
      exact ⟨failure, fun ⟨b, read, _⟩ => refused b read⟩

/-- A book replaced by a request that spells its ISBN in capitals, beside a book that stays. -/
theorem effect_answer_other_spelling :
    let emma : Book := ⟨"Emma", "Austen", "x1", ⟨1815, 12, 23, by decide⟩, 1, "", ""⟩
    let other : Book := { emma with isbn := "x2" }
    let c : Catalogue := ⟨[.ofBook emma, .ofBook other], true⟩
    let r : Request := ⟨"PUT", "/api/v1/books", none, [("content-type", "application/json")],
      "[\"Emma\",\"Jane Austen\",\"X1\",\"1815-12-23\",2]".toList.map Char.toNat⟩
    let after : Catalogue := ⟨[.ofBook { emma with author := "Jane Austen", edition := 2 }, .ofBook other], true⟩
    c.HasDistinctKeys ∧ (answer ⟨[]⟩ c r).1.status = 200 ∧ (answer ⟨[]⟩ c r).2 = after ∧
      Effect c r 200 after := by
  intro emma other c r after
  let jane : Book := ⟨"Emma", "Jane Austen", "X1", ⟨1815, 12, 23, by decide⟩, 2, "", ""⟩
  have distinct : c.HasDistinctKeys := by
    unfold Catalogue.HasDistinctKeys
    decide
  have decoded : Text.utf8Decode r.body =
      "[\"Emma\",\"Jane Austen\",\"X1\",\"1815-12-23\",2]".toList.map some := by cbv
  have document : Book.ofDocument (.ofChars (Text.utf8Decode r.body)) = .ok jane := by
    rw [decoded]
    decide +kernel
  have typed : saysJson r = true := by decide +kernel
  have read : readBook r = .ok jane := readBook_eq_ok_iff.mpr ⟨typed, by decide, document, by decide⟩
  have asks : change? r = some (.update jane) :=
    change?_eq_some_iff.mpr ⟨jane, read, .inr ⟨⟨by decide, rfl⟩, rfl⟩⟩
  obtain ⟨answered, changed⟩ := answer_of_change? ⟨[]⟩ c asks
  have status : statusOf (.update jane) (c.perform (.update jane)).2 = 200 := by decide +kernel
  have replaced : (c.perform (.update jane)).1 = after := by decide +kernel
  have effect := effect_answer ⟨[]⟩ distinct r
  rw [answered, status, changed, replaced] at effect
  exact ⟨distinct, answered.trans status, changed.trans replaced, effect⟩

end Api

end BookCatalogue

import Mathlib
import BookCatalogue.Api.Router
import BookCatalogue.Proofs.Catalogue.Calls

/-! # What requests change

A request changes the catalogue only as the call does that it asks for, which adds or replaces the
valid book in its body. The status of the answer tells how the call went; every other request leaves
the catalogue as it was. -/

namespace BookCatalogue.Api

open BookCatalogue.Catalogue (Call Reply)
open Http (Origins Request Response)

/-- The call that a request asks for. -/
def change? (r : Request) : Option Call :=
  match Route.ofPath? r.path, readBook r with
  | some .books, .ok b =>
    if r.method = "POST" then some (.create b)
    else if r.method = "PUT" then some (.update b)
    else none
  | _, _ => none

/-- The status that tells how a call went. -/
def statusOf (call : Call) (reply : Reply) : Nat :=
  match reply, call with
  | .ok _, .create _ => 201
  | .ok _, _ => 200
  | .error (.conflict _), _ => 409
  | .error (.notFound _), _ => 404
  | .error .engine, _ | .error (.corrupt _), _ => 500

variable {r : Request} {b : Book} {call : Call}

@[simp] theorem status_withHeaders (response : Response) (headers : List (String × String)) :
    (response.withHeaders headers).status = response.status := rfl

/-! ## The book in a body -/

/-- The checks of a body in their order. -/
theorem readBook_eq (r : Request) :
    readBook r =
      if saysJson r = true then
        if r.body.length ≤ bodyLimit then
          match Book.ofDocument (.ofChars (Text.utf8Decode r.body)) with
          | .ok b => if b.isValid = true then .ok b else .error (.ofViolations b.violations)
          | .error fault => .error (.ofFault fault)
        else .error (.ofBody 413 "Failed to buffer the request body: length limit exceeded")
      else .error (.ofBody 415 "Expected request with `Content-Type: application/json`") := by
  unfold readBook
  simp only [← not_lt, ite_not]
  cases saysJson r with
  | false => rfl
  | true =>
    by_cases long : bodyLimit < r.body.length
    · simp only [long, if_true]
      rfl
    · simp only [long, if_false]
      cases Book.ofDocument (.ofChars (Text.utf8Decode r.body)) <;> rfl

theorem readBook_eq_ok_iff :
    readBook r = .ok b ↔ saysJson r = true ∧ r.body.length ≤ bodyLimit ∧
      Book.ofDocument (.ofChars (Text.utf8Decode r.body)) = .ok b ∧ b.isValid = true := by
  rw [readBook_eq]
  split_ifs with typed fits
  · cases Book.ofDocument (.ofChars (Text.utf8Decode r.body)) with
    | error fault => simp
    | ok document =>
      simp only [typed, fits, true_and, Except.ok.injEq]
      split_ifs with valid
      · constructor
        · rintro ⟨⟩
          exact ⟨rfl, valid⟩
        · rintro ⟨rfl, _⟩
          rfl
      · constructor
        · rintro ⟨⟩
        · rintro ⟨rfl, holds⟩
          exact absurd holds valid
  · simp [fits]
  · simp [typed]

theorem isValid_of_readBook (read : readBook r = .ok b) : b.isValid = true :=
  (readBook_eq_ok_iff.mp read).2.2.2

/-- A body that is no book is the fault of the client. -/
theorem status_of_readBook_eq_error {rejection : Rejection} (refused : readBook r = .error rejection) :
    400 ≤ rejection.status := by
  rw [readBook_eq] at refused
  split_ifs at refused
  · split at refused
    · split_ifs at refused
      cases refused
      exact le_refl 400
    · next fault _ =>
      cases refused
      cases fault with
      | malformed => exact le_refl 400
      | unsuitable place message =>
        change 400 ≤ 422
        omega
  · cases refused
    change 400 ≤ 413
    omega
  · cases refused
    change 400 ≤ 415
    omega

/-! ## The call of a request -/

/-- The request is one to the books by this method. -/
def IsOnBooks (r : Request) (method : String) : Prop :=
  Route.ofPath? r.path = some .books ∧ r.method = method

theorem change?_eq_some_iff :
    change? r = some call ↔ ∃ b, readBook r = .ok b ∧
      ((IsOnBooks r "POST" ∧ call = .create b) ∨ (IsOnBooks r "PUT" ∧ call = .update b)) := by
  unfold change? IsOnBooks
  split
  · next other route read =>
    simp only [route, read, true_and, Except.ok.injEq, exists_eq_left']
    split_ifs with post put
    · simp [post, eq_comm]
    · simp [put, eq_comm]
    · simp [post, put]
  · next unsuitable =>
    constructor
    · rintro ⟨⟩
    · rintro ⟨b, read, ⟨⟨route, _⟩, _⟩ | ⟨⟨route, _⟩, _⟩⟩
      · exact absurd read (unsuitable b route)
      · exact absurd read (unsuitable b route)

/-- Only valid books are asked to be added or to replace others. -/
theorem exists_isValid_of_change? (asks : change? r = some call) :
    ∃ b : Book, b.isValid = true ∧ (call = .create b ∨ call = .update b) := by
  obtain ⟨b, read, asked⟩ := change?_eq_some_iff.mp asks
  exact ⟨b, isValid_of_readBook read, asked.imp And.right And.right⟩

theorem add_of_readBook (c : Catalogue) (read : readBook r = .ok b) :
    (add c r).1.status = statusOf (.create b) (c.perform (.create b)).2 ∧
      (add c r).2 = (c.perform (.create b)).1 := by
  simp only [add, read, Catalogue.perform]
  cases c.create b with
  | ok after => exact ⟨rfl, rfl⟩
  | error e => cases e <;> exact ⟨rfl, rfl⟩

theorem replace_of_readBook (c : Catalogue) (read : readBook r = .ok b) :
    (replace c r).1.status = statusOf (.update b) (c.perform (.update b)).2 ∧
      (replace c r).2 = (c.perform (.update b)).1 := by
  simp only [replace, read, Catalogue.perform]
  cases c.update b with
  | ok after => exact ⟨rfl, rfl⟩
  | error e => cases e <;> exact ⟨rfl, rfl⟩

/-- The headers about origins change nothing else of an answer. -/
theorem answer_eq (origins : Origins) (c : Catalogue) (r : Request) :
    answer origins c r =
      ((handle c r).1.withHeaders (originHeaders origins r), (handle c r).2) := rfl

/-- A request that asks for a call is answered by how it goes, and leaves the catalogue after it. -/
theorem answer_of_change? (origins : Origins) (c : Catalogue) (asks : change? r = some call) :
    (answer origins c r).1.status = statusOf call (c.perform call).2 ∧
      (answer origins c r).2 = (c.perform call).1 := by
  unfold change? at asks
  split at asks
  · next b route read =>
    have handled : handle c r =
        if r.method = "OPTIONS" then (preflight r, c) else onRoute c r .books := by
      rw [handle, route]
    split_ifs at asks with post put
    · cases asks
      simpa [answer_eq, handled, onRoute, post] using add_of_readBook c read
    · cases asks
      simpa [answer_eq, handled, onRoute, put] using replace_of_readBook c read
  · cases asks

/-- Any other request leaves the catalogue as it was. -/
theorem answer_of_change?_eq_none (origins : Origins) (c : Catalogue) (asks : change? r = none) :
    (answer origins c r).2 = c := by
  rw [answer_eq, handle]
  split_ifs
  · rfl
  · cases route : Route.ofPath? r.path with
    | none => rfl
    | some found =>
      simp only [onRoute]
      split_ifs with get head post put
      · rfl
      · rfl
      · cases read : readBook r with
        | error rejection => simp [add, read]
        | ok b => simp [change?, route, post, read] at asks
      · cases read : readBook r with
        | error rejection => simp [replace, read]
        | ok b => simp [change?, route, put, read] at asks
      · rfl

end BookCatalogue.Api

import Mathlib

/-! # Lists, optional values and outcomes

What their libraries do not say: when a result is mapped or a list is read one after another, which of
several optional values comes first, and how beginnings decide the order of lists. -/

namespace BookCatalogue

/-! ## Outcomes -/

section Outcomes

variable {α β ε : Type*} {read : α → Except ε β}

theorem map_eq_ok_iff {f : α → β} {x : Except ε α} {y : β} :
    x.map f = .ok y ↔ ∃ found, x = .ok found ∧ f found = y := by
  cases x <;> simp [Except.map]

theorem map_eq_error_iff {f : α → β} {x : Except ε α} {e : ε} : x.map f = .error e ↔ x = .error e := by
  cases x <;> simp [Except.map]

theorem mapM_eq_ok_iff {xs : List α} {ys : List β} :
    xs.mapM read = .ok ys ↔ List.Forall₂ (fun x y => read x = .ok y) xs ys := by
  induction xs generalizing ys with
  | nil => cases ys <;> simp [pure, Except.pure]
  | cons x xs ih =>
    rw [List.mapM_cons]
    cases first : read x with
    | error e => cases ys <;> simp [bind, Except.bind, first]
    | ok y =>
      cases others : xs.mapM read with
      | error e => cases ys <;> simp [bind, Except.bind, first, others, ← ih]
      | ok zs => cases ys <;> simp [bind, Except.bind, pure, Except.pure, first, others, ← ih]

/-- The first failure ends the reading. -/
theorem mapM_eq_error_iff {xs : List α} {e : ε} :
    xs.mapM read = .error e ↔ ∃ before x after, xs = before ++ x :: after ∧
      (∀ y ∈ before, ∃ z, read y = .ok z) ∧ read x = .error e := by
  induction xs with
  | nil => simp [pure, Except.pure]
  | cons x xs ih =>
    rw [List.mapM_cons]
    cases first : read x with
    | error e' =>
      constructor
      · rintro ⟨⟩
        exact ⟨[], x, xs, rfl, by simp, first⟩
      · rintro ⟨before, y, after, same, readable, failure⟩
        cases before with
        | nil =>
          cases same
          rw [← first, failure]
          rfl
        | cons z before =>
          cases same
          obtain ⟨_, success⟩ := readable x List.mem_cons_self
          simp [first] at success
    | ok y =>
      have rest : (Except.ok y >>= fun y => xs.mapM read >>= fun ys => pure (y :: ys)) = .error e ↔
          xs.mapM read = .error e := by
        cases xs.mapM read <;> simp [bind, Except.bind, pure, Except.pure]
      rw [rest, ih]
      constructor
      · rintro ⟨before, z, after, rfl, readable, failure⟩
        exact ⟨x :: before, z, after, rfl, List.forall_mem_cons.mpr ⟨⟨y, first⟩, readable⟩, failure⟩
      · rintro ⟨before, z, after, same, readable, failure⟩
        cases before with
        | nil =>
          cases same
          simp [first] at failure
        | cons w before =>
          cases same
          exact ⟨before, z, after, rfl, (List.forall_mem_cons.mp readable).2, failure⟩

theorem exists_mapM_eq_ok_iff {xs : List α} :
    (∃ ys, xs.mapM read = .ok ys) ↔ ∀ x ∈ xs, ∃ y, read x = .ok y := by
  constructor
  · rintro ⟨ys, success⟩
    rw [mapM_eq_ok_iff] at success
    induction success with
    | nil => simp
    | cons first _ ih => exact List.forall_mem_cons.mpr ⟨⟨_, first⟩, ih⟩
  · intro readable
    cases outcome : xs.mapM read with
    | ok ys => exact ⟨ys, rfl⟩
    | error e =>
      obtain ⟨before, x, after, rfl, _, failure⟩ := mapM_eq_error_iff.mp outcome
      obtain ⟨y, success⟩ := readable x (by simp)
      rw [success] at failure
      cases failure

end Outcomes

/-! ## Optional values -/

theorem if_isSome_eq_or {α : Type} (upper lower : Option α) :
    (if upper.isSome then upper else lower) = (upper <|> lower) := by
  cases upper <;> rfl

theorem findSome?_eq_or {α : Type} (first second third : Option α) :
    [first, second, third].findSome? id = (first <|> (second <|> third)) := by
  cases first <;> cases second <;> cases third <;> rfl

theorem findSome?_eq_getD {α : Type} (first second third : Option α) (default : α) :
    [first, second, third, some default].findSome? id =
      some ((first <|> (second <|> third)).getD default) := by
  cases first <;> cases second <;> cases third <;> rfl

/-! ## Lists -/

theorem mem_of_lookup_eq_some {α β : Type*} [BEq α] [LawfulBEq α] {entries : List (α × β)} {a : α} {b : β}
    (found : entries.lookup a = some b) : (a, b) ∈ entries := by
  obtain ⟨before, after, parts, _⟩ := List.lookup_eq_some_iff.mp found
  rw [parts]
  exact List.mem_append_right before List.mem_cons_self

/-- Beginnings of one length decide before what follows them. -/
theorem append_lt_append_iff {α : Type*} [LT α] {xs ys : List α} (sameLength : xs.length = ys.length)
    (more others : List α) : xs ++ more < ys ++ others ↔ xs < ys ∨ xs = ys ∧ more < others := by
  induction xs generalizing ys with
  | nil =>
    obtain rfl := List.length_eq_zero_iff.mp sameLength.symm
    simp
  | cons x xs ih =>
    cases ys with
    | nil => cases sameLength
    | cons y ys =>
      have rest : xs.length = ys.length := Nat.succ.inj sameLength
      simp only [List.cons_append, List.cons_lt_cons_iff, ih rest, List.cons.injEq]
      tauto

end BookCatalogue

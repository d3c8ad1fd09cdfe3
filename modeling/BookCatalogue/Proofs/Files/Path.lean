import Mathlib
import BookCatalogue.Files.Path
import BookCatalogue.Proofs.Text.Split

/-! # Where an expanded path leads

A written path expands to a path from the root. What follows a tilde and a slash is seen from the home
directory, and so leads below it, unless it starts with a slash of its own: then it is a path from the root
and the home directory is forgotten. Every other path without a slash in front leads below the working
directory. -/

namespace BookCatalogue.Files

open Text

/-- Both paths start at the root, and the steps of the second begin with those of the first. -/
def IsUnder (base path : Path) : Prop :=
  isAbsolute base = true ∧ isAbsolute path = true ∧ steps base <+: steps path

instance (base path : Path) : Decidable (IsUnder base path) :=
  inferInstanceAs (Decidable (_ ∧ _ ∧ _))

/-- The path is a tilde, a slash of either kind and this rest. -/
def FollowsTilde (path rest : Path) : Prop := path = '~' :: '/' :: rest ∨ path = '~' :: '\\' :: rest

variable {base home part path rest : Path} {places : Places} {written : List Char}

/-! ## Joining -/

theorem steps_append_slash (base part : Path) : steps (base ++ '/' :: part) = steps base ++ steps part := by
  rw [steps, splitOn_append_cons, List.filter_append]
  rfl

/-- A part that does not start at the root adds its steps. -/
theorem steps_join (relative : isAbsolute part = false) : steps (join base part) = steps base ++ steps part := by
  rw [join, if_neg (by simp [relative])]
  split
  · next ends =>
    rcases (Bool.or_eq_true ..).mp ends with empty | slash
    · rw [List.isEmpty_iff.mp empty]
      rfl
    · obtain ⟨before, rfl⟩ := List.getLast?_eq_some_iff.mp (beq_iff_eq.mp slash)
      have nothing : steps [] = [] := rfl
      rw [List.append_assoc, List.singleton_append, steps_append_slash, steps_append_slash, nothing,
        List.append_nil]
  · exact steps_append_slash base part

theorem join_of_isAbsolute (absolute : isAbsolute part = true) : join base part = part := if_pos absolute

theorem isUnder_join (absolute : isAbsolute base = true) (relative : isAbsolute part = false) :
    IsUnder base (join base part) := by
  refine ⟨absolute, isAbsolute_join base part absolute, ?_⟩
  rw [steps_join relative]
  exact List.prefix_append ..

/-! ## The tilde -/

theorem FollowsTilde.unfoldHome_eq (tilde : FollowsTilde path rest) : unfoldHome home path = join home rest := by
  rcases tilde with rfl | rfl <;> rfl

theorem FollowsTilde.ne_nil (tilde : FollowsTilde path rest) : path ≠ [] := by
  rcases tilde with rfl | rfl <;> exact List.cons_ne_nil _ _

/-- A tilde in front of a name is part of the name. -/
theorem unfoldHome_of_not_followsTilde (notAlone : path ≠ ['~']) (plain : ∀ rest, ¬ FollowsTilde path rest) :
    unfoldHome home path = path := by
  unfold unfoldHome
  split
  · exact absurd rfl notAlone
  · next c rest =>
    refine if_neg fun slash => plain rest ?_
    rcases slash with rfl | rfl
    · exact .inl rfl
    · exact .inr rfl
  · rfl

theorem unfoldHome_of_isAbsolute (absolute : isAbsolute path = true) : unfoldHome home path = path := by
  apply unfoldHome_of_not_followsTilde
  · rintro rfl
    cases absolute
  · rintro rest (rfl | rfl) <;> cases absolute

/-! ## Expanding -/

theorem expand_of_trim_eq_nil (blank : trim written = []) : expand places written = places.work := by
  simp [expand, blank]

theorem expand_of_trim_ne_nil (notBlank : trim written ≠ []) :
    expand places written = join places.work (unfoldHome places.home (trim written)) := by
  simp [expand, notBlank]

/-- A path that is written with a tilde and a slash is joined to the home directory. -/
theorem expand_of_followsTilde (homeAbsolute : isAbsolute places.home = true)
    (tilde : FollowsTilde (trim written) rest) : expand places written = join places.home rest := by
  rw [expand_of_trim_ne_nil tilde.ne_nil, tilde.unfoldHome_eq,
    join_of_isAbsolute (isAbsolute_join _ _ homeAbsolute)]

/-- From absolute home and working directories every written path leads to an absolute one: nothing to the
working directory, a tilde to the home directory, a tilde and a slash to a path under the home directory if
a relative one follows, an absolute path to itself, and any other path under the working directory. An
absolute path after a tilde and a slash is the result as it stands. -/
theorem expand_leads (homeAbsolute : isAbsolute places.home = true)
    (workAbsolute : isAbsolute places.work = true) (written : List Char) :
    let path := trim written
    let result := expand places written
    isAbsolute result = true ∧
      (path = [] → result = places.work) ∧
      (path = ['~'] → result = places.home) ∧
      (∀ rest, FollowsTilde path rest →
        (isAbsolute rest = false → IsUnder places.home result) ∧ (isAbsolute rest = true → result = rest)) ∧
      (isAbsolute path = true → result = path) ∧
      (path ≠ [] → path ≠ ['~'] → (∀ rest, ¬ FollowsTilde path rest) → isAbsolute path = false →
        IsUnder places.work result) := by
  intro path result
  refine ⟨isAbsolute_expand workAbsolute written, expand_of_trim_eq_nil, ?alone, ?tilde, ?absolute, ?relative⟩
  case alone =>
    intro alone
    have notBlank : path ≠ [] := by simp [alone]
    calc result = join places.work (unfoldHome places.home path) := expand_of_trim_ne_nil notBlank
      _ = join places.work places.home := by rw [alone, unfoldHome]
      _ = places.home := join_of_isAbsolute homeAbsolute
  case tilde =>
    intro rest tilde
    have joined : result = join places.home rest := expand_of_followsTilde homeAbsolute tilde
    rw [joined]
    exact ⟨isUnder_join homeAbsolute, join_of_isAbsolute⟩
  case absolute =>
    intro absolute
    have notBlank : path ≠ [] := by
      intro blank
      rw [blank] at absolute
      cases absolute
    calc result = join places.work (unfoldHome places.home path) := expand_of_trim_ne_nil notBlank
      _ = join places.work path := by rw [unfoldHome_of_isAbsolute absolute]
      _ = path := join_of_isAbsolute absolute
  case relative =>
    intro notBlank notAlone plain relative
    have joined : result = join places.work path := by
      rw [← unfoldHome_of_not_followsTilde notAlone plain]
      exact expand_of_trim_ne_nil notBlank
    rw [joined]
    exact isUnder_join workAbsolute relative

/-- The step upwards stays a step: the path is written below the home directory. -/
theorem expand_leads_up_from_home :
    let places : Places := ⟨"/home/ada/".toList, "/srv".toList⟩
    let written := " ~\\../books.db\t".toList
    (isAbsolute places.home = true ∧ isAbsolute places.work = true ∧
        FollowsTilde (trim written) "../books.db".toList ∧ isAbsolute "../books.db".toList = false) ∧
      IsUnder places.home (expand places written) := by
  intro places written
  have homeAbsolute : isAbsolute places.home = true := by decide
  have workAbsolute : isAbsolute places.work = true := by decide
  have tilde : FollowsTilde (trim written) "../books.db".toList := .inr (by decide)
  have relative : isAbsolute "../books.db".toList = false := by decide
  obtain ⟨_, _, _, fromHome, _⟩ := expand_leads homeAbsolute workAbsolute written
  exact ⟨⟨homeAbsolute, workAbsolute, tilde, relative⟩, (fromHome _ tilde).1 relative⟩

/-- A second slash after the tilde leaves the home directory. -/
theorem expand_leaves_home_after_second_slash :
    let places : Places := ⟨"/home/ada".toList, "/srv".toList⟩
    let written := "~//books.db".toList
    (isAbsolute places.home = true ∧ isAbsolute places.work = true ∧
        FollowsTilde (trim written) "/books.db".toList) ∧
      expand places written = "/books.db".toList ∧ ¬ IsUnder places.home (expand places written) := by
  intro places written
  have tilde : FollowsTilde (trim written) "/books.db".toList := .inl (by decide)
  exact ⟨⟨by decide, by decide, tilde⟩, by decide, by decide⟩

end BookCatalogue.Files

import Mathlib
import BookCatalogue.Text.Separated

/-! # Which pieces a split yields

Cutting a text finds the separator from the left without overlap. The pieces are therefore
characterized by their join together with a local condition: no piece but the last may hold the
separator even together with the beginning of the one that follows, and the last may not hold it
at all. For a separator of one character this says that no piece holds the character. -/

namespace BookCatalogue.Text

/-- Joining these pieces creates no occurrence of the separator before the intended ones. -/
def Separated (sep : List Char) : List (List Char) → Prop
  | [] => False
  | [piece] => ¬ sep <:+: piece
  | piece :: next :: more => ¬ sep <:+: piece ++ sep.dropLast ∧ Separated sep (next :: more)

variable {sep : List Char}

theorem Separated.ne_nil {pieces : List (List Char)} (separated : Separated sep pieces) :
    pieces ≠ [] := by
  rintro rfl
  exact separated

theorem separated_cons {piece : List Char} {pieces : List (List Char)} (more : pieces ≠ []) :
    Separated sep (piece :: pieces) ↔
      ¬ sep <:+: piece ++ sep.dropLast ∧ Separated sep pieces := by
  cases pieces with
  | nil => exact absurd rfl more
  | cons next rest => rfl

/-! ## Equations of the split -/

theorem splitAfter_eq_splitOn_drop (sep : List Char) (skip : Nat) (cs : List Char) :
    splitAfter sep skip cs = splitOn sep (cs.drop skip) := by
  induction cs generalizing skip with
  | nil => cases skip <;> rfl
  | cons c rest ih =>
    cases skip with
    | zero => rfl
    | succ skip => simpa only [splitAfter, List.drop_succ_cons] using ih skip

theorem splitOn_sep_append (nonempty : sep ≠ []) (rest : List Char) :
    splitOn sep (sep ++ rest) = [] :: splitOn sep rest := by
  cases sep with
  | nil => exact absurd rfl nonempty
  | cons d more =>
    have occurs : (d :: more).isPrefixOf (d :: (more ++ rest)) = true :=
      List.isPrefixOf_iff_prefix.mpr (List.prefix_append ..)
    rw [List.cons_append, splitOn, splitAfter, if_pos occurs, splitAfter_eq_splitOn_drop]
    simp

theorem splitOn_cons_of_not_start {c : Char} {rest : List Char} (absent : ¬ sep <+: c :: rest) :
    splitOn sep (c :: rest) = consFirst c (splitOn sep rest) := by
  rw [splitOn, splitAfter, if_neg (by rwa [List.isPrefixOf_iff_prefix])]
  rfl

/-- A text without the separator is one piece. -/
theorem splitOn_eq_singleton {piece : List Char} (absent : ¬ sep <:+: piece) :
    splitOn sep piece = [piece] := by
  induction piece with
  | nil => rfl
  | cons c piece ih =>
    rw [List.infix_cons_iff, not_or] at absent
    rw [splitOn_cons_of_not_start absent.1, ih absent.2]
    rfl

private theorem start_dropLast_of_start {piece rest : List Char} (notEmpty : piece ≠ [])
    (occurs : sep <+: piece ++ sep ++ rest) : sep <+: piece ++ sep.dropLast := by
  have longer : piece ++ sep.dropLast <+: piece ++ sep ++ rest := by
    rw [List.append_assoc, List.prefix_append_right_inj]
    exact (List.dropLast_prefix sep).trans (List.prefix_append ..)
  refine List.prefix_of_prefix_length_le occurs longer ?_
  have size := List.length_pos_iff.mpr notEmpty
  simp only [List.length_append, List.length_dropLast]
  omega

/-- The first piece ends where the separator first occurs. -/
theorem splitOn_append_sep (nonempty : sep ≠ []) {piece : List Char} (rest : List Char)
    (absent : ¬ sep <:+: piece ++ sep.dropLast) :
    splitOn sep (piece ++ sep ++ rest) = piece :: splitOn sep rest := by
  induction piece with
  | nil => exact splitOn_sep_append nonempty rest
  | cons c piece ih =>
    rw [List.cons_append, List.infix_cons_iff, not_or] at absent
    have start : ¬ sep <+: c :: (piece ++ sep ++ rest) := fun occurs =>
      absent.1 (start_dropLast_of_start (List.cons_ne_nil c piece) occurs)
    change splitOn sep (c :: (piece ++ sep ++ rest)) = _
    rw [splitOn_cons_of_not_start start, ih absent.2]
    rfl

/-! ## The characterization -/

private theorem not_infix_dropLast (nonempty : sep ≠ []) : ¬ sep <:+: sep.dropLast := by
  intro occurs
  have size := occurs.length_le
  have positive := List.length_pos_iff.mpr nonempty
  rw [List.length_dropLast] at size
  omega

private theorem separated_consFirst {c : Char} {pieces : List (List Char)}
    (separated : Separated sep pieces) (absent : ¬ sep <+: c :: joinWith sep pieces) :
    Separated sep (consFirst c pieces) := by
  match pieces, separated with
  | [piece], separated =>
    rw [consFirst, Separated, List.infix_cons_iff, not_or]
    exact ⟨absent, separated⟩
  | piece :: next :: more, separated =>
    obtain ⟨first, others⟩ := separated
    refine ⟨?_, others⟩
    rw [List.cons_append, List.infix_cons_iff, not_or]
    refine ⟨fun occurs => absent (occurs.trans ?_), first⟩
    rw [joinWith_cons _ _ (List.cons_ne_nil next more), ← List.cons_append, List.append_assoc,
      ← List.cons_append]
    exact (List.prefix_append_right_inj (c :: piece)).mpr
      ((List.dropLast_prefix sep).trans (List.prefix_append ..))

private theorem separated_splitAfter (nonempty : sep ≠ []) (skip : Nat) (cs : List Char) :
    Separated sep (splitAfter sep skip cs) := by
  induction cs generalizing skip with
  | nil => cases skip <;> simpa [splitAfter, Separated] using nonempty
  | cons c rest ih =>
    cases skip with
    | succ skip => exact ih skip
    | zero =>
      rw [splitAfter]
      split
      · rw [separated_cons (splitAfter_ne_nil _ _ _)]
        exact ⟨not_infix_dropLast nonempty, ih _⟩
      · next absent =>
        refine separated_consFirst (ih 0) fun occurs => absent ?_
        rw [joinWith_splitAfter nonempty, List.drop_zero] at occurs
        exact List.isPrefixOf_iff_prefix.mpr occurs

theorem separated_splitOn (nonempty : sep ≠ []) (cs : List Char) :
    Separated sep (splitOn sep cs) :=
  separated_splitAfter nonempty 0 cs

/-- Separated pieces are the pieces of their join. -/
theorem Separated.splitOn_joinWith (nonempty : sep ≠ []) {pieces : List (List Char)}
    (separated : Separated sep pieces) : splitOn sep (joinWith sep pieces) = pieces := by
  induction pieces with
  | nil => exact separated.elim
  | cons piece pieces ih =>
    cases pieces with
    | nil => exact splitOn_eq_singleton separated
    | cons next more =>
      obtain ⟨first, others⟩ := separated
      rw [joinWith_cons _ _ (List.cons_ne_nil next more), splitOn_append_sep nonempty _ first,
        ih others]

/-- A text has exactly one list of separated pieces that it joins. -/
theorem splitOn_eq_iff (nonempty : sep ≠ []) {cs : List Char} {pieces : List (List Char)} :
    splitOn sep cs = pieces ↔ Separated sep pieces ∧ joinWith sep pieces = cs := by
  constructor
  · rintro rfl
    exact ⟨separated_splitOn nonempty cs, joinWith_splitOn nonempty cs⟩
  · rintro ⟨separated, rfl⟩
    exact separated.splitOn_joinWith nonempty

theorem splitOn_injective (nonempty : sep ≠ []) : Function.Injective (splitOn sep) := by
  intro cs ds same
  rw [← joinWith_splitOn nonempty cs, same, joinWith_splitOn nonempty]

/-- Joining two lists of pieces puts one separator between their joins. -/
theorem joinWith_append {left right : List (List Char)} (leftMore : left ≠ [])
    (rightMore : right ≠ []) :
    joinWith sep (left ++ right) = joinWith sep left ++ sep ++ joinWith sep right := by
  induction left with
  | nil => exact absurd rfl leftMore
  | cons piece left ih =>
    cases left with
    | nil => exact joinWith_cons _ _ rightMore
    | cons next more =>
      rw [List.cons_append, joinWith_cons _ _ (by simp), ih (List.cons_ne_nil next more),
        joinWith_cons _ _ (List.cons_ne_nil next more)]
      simp only [List.append_assoc]

/-- Joining joins is joining all pieces, as long as none of the lists is empty. -/
theorem joinWith_flatMap {α : Type*} (sep : List Char) {f : α → List (List Char)}
    (notEmpty : ∀ x, f x ≠ []) (xs : List α) :
    joinWith sep (xs.flatMap f) = joinWith sep (xs.map fun x => joinWith sep (f x)) := by
  induction xs with
  | nil => rfl
  | cons x xs ih =>
    cases xs with
    | nil => simp [joinWith]
    | cons y ys =>
      have more : (y :: ys).flatMap f ≠ [] := by simp [notEmpty y]
      rw [List.flatMap_cons, joinWith_append (notEmpty x) more, ih]
      rfl

/-- A character of a join is one of the separator or of a piece. -/
theorem mem_joinWith {pieces : List (List Char)} {c : Char} (member : c ∈ joinWith sep pieces) :
    c ∈ sep ∨ ∃ piece ∈ pieces, c ∈ piece := by
  induction pieces with
  | nil => simp [joinWith] at member
  | cons piece pieces ih =>
    cases pieces with
    | nil => exact .inr ⟨piece, by simp, by simpa [joinWith] using member⟩
    | cons next more =>
      rw [joinWith_cons _ _ (List.cons_ne_nil next more)] at member
      grind

/-- The occurrences of a character in a join are those in the pieces and in the separators between them. -/
theorem count_joinWith (sep : List Char) (c : Char) (pieces : List (List Char)) :
    (joinWith sep pieces).count c =
      (pieces.map (List.count c)).sum + (pieces.length - 1) * sep.count c := by
  induction pieces with
  | nil => simp [joinWith]
  | cons piece pieces ih =>
    cases pieces with
    | nil => simp [joinWith]
    | cons next more =>
      rw [joinWith_cons _ _ (List.cons_ne_nil next more), List.count_append, List.count_append, ih]
      simp only [List.map_cons, List.sum_cons, List.length_cons, Nat.add_sub_cancel]
      ring

/-! ## Joints

Where a text is continued after a separator, the separator could also begin earlier, in the text itself.
One that overlaps itself in no more than one character does so only if the text ends in all of it but
its last character. -/

theorem not_infix_append_dropLast
    (overlap : ∀ tail ∈ sep.tails, tail <+: sep.dropLast → tail.length ≤ 1) {piece : List Char}
    (absent : ¬ sep <:+: piece) (ending : ¬ sep.dropLast <:+ piece) :
    ¬ sep <:+: piece ++ sep.dropLast := by
  have nonempty : sep ≠ [] := by
    rintro rfl
    exact absent List.nil_infix
  intro occurs
  rcases List.infix_append_iff.mp occurs with inside | outside | ⟨left, tail, parts, suffix, start⟩
  · exact absent inside
  · exact not_infix_dropLast nonempty outside
  · have short := overlap tail ((List.mem_tails ..).mpr ⟨left, parts.symm⟩) start
    cases tail with
    | nil =>
      rw [List.append_nil] at parts
      exact absent (parts ▸ suffix.isInfix)
    | cons c rest =>
      obtain rfl : rest = [] := by simpa using short
      have whole : sep.dropLast = left := by rw [parts, List.dropLast_concat]
      exact ending (whole ▸ suffix)

theorem Separated.not_infix_getLast {pieces : List (List Char)} (separated : Separated sep pieces) :
    ¬ sep <:+: pieces.getLast separated.ne_nil := by
  induction pieces with
  | nil => exact separated.elim
  | cons piece pieces ih =>
    cases pieces with
    | nil => exact separated
    | cons next more =>
      rw [List.getLast_cons (List.cons_ne_nil next more)]
      exact ih separated.2

theorem Separated.append {left right : List (List Char)} (separated : Separated sep left)
    (separated' : Separated sep right)
    (joint : ¬ sep <:+: left.getLast separated.ne_nil ++ sep.dropLast) :
    Separated sep (left ++ right) := by
  induction left with
  | nil => exact separated.elim
  | cons piece left ih =>
    cases left with
    | nil => exact (separated_cons separated'.ne_nil).mpr ⟨joint, separated'⟩
    | cons next more =>
      obtain ⟨first, others⟩ := separated
      rw [List.getLast_cons (List.cons_ne_nil next more)] at joint
      exact (separated_cons (by simp)).mpr ⟨first, ih others joint⟩

theorem getLast_suffix_joinWith {pieces : List (List Char)} (more : pieces ≠ []) :
    pieces.getLast more <:+ joinWith sep pieces := by
  induction pieces with
  | nil => exact absurd rfl more
  | cons piece pieces ih =>
    cases pieces with
    | nil => exact List.suffix_refl piece
    | cons next rest =>
      rw [List.getLast_cons (List.cons_ne_nil next rest), joinWith_cons _ _ (List.cons_ne_nil next rest)]
      exact (ih (List.cons_ne_nil next rest)).trans (List.suffix_append _ _)

/-- A text that is continued after a separator is cut there and nowhere else near it. -/
theorem splitOn_append_sep_append (nonempty : sep ≠ [])
    (overlap : ∀ tail ∈ sep.tails, tail <+: sep.dropLast → tail.length ≤ 1) {before : List Char}
    (ending : ¬ sep.dropLast <:+ before) (after : List Char) :
    splitOn sep (before ++ sep ++ after) = splitOn sep before ++ splitOn sep after := by
  have separated := separated_splitOn nonempty before
  have last : (splitOn sep before).getLast separated.ne_nil <:+ joinWith sep (splitOn sep before) :=
    getLast_suffix_joinWith separated.ne_nil
  rw [joinWith_splitOn nonempty] at last
  have joint := not_infix_append_dropLast overlap separated.not_infix_getLast
    fun suffix => ending (suffix.trans last)
  rw [splitOn_eq_iff nonempty]
  refine ⟨separated.append (separated_splitOn nonempty after) joint, ?_⟩
  rw [joinWith_append (splitOn_ne_nil _ _) (splitOn_ne_nil _ _), joinWith_splitOn nonempty,
    joinWith_splitOn nonempty]

/-! ## Separators of one character -/

section Single

variable {c : Char} {pieces : List (List Char)}

theorem separated_singleton_iff :
    Separated [c] pieces ↔ pieces ≠ [] ∧ ∀ piece ∈ pieces, c ∉ piece := by
  induction pieces with
  | nil => simp [Separated]
  | cons piece pieces ih =>
    cases pieces with
    | nil => simp [Separated, List.singleton_infix_iff]
    | cons next more =>
      rw [separated_cons (List.cons_ne_nil next more), ih]
      simp [List.singleton_infix_iff]

theorem splitOn_singleton_eq_iff {cs : List Char} :
    splitOn [c] cs = pieces ↔
      (pieces ≠ [] ∧ ∀ piece ∈ pieces, c ∉ piece) ∧ joinWith [c] pieces = cs := by
  rw [splitOn_eq_iff (List.cons_ne_nil c []), separated_singleton_iff]

theorem not_mem_of_mem_splitOn {cs piece : List Char} (member : piece ∈ splitOn [c] cs) :
    c ∉ piece :=
  (separated_singleton_iff.mp (separated_splitOn (List.cons_ne_nil c []) cs)).2 piece member

/-- Every occurrence of the character is a place where the text is cut. -/
theorem splitOn_append_cons (before after : List Char) :
    splitOn [c] (before ++ c :: after) = splitOn [c] before ++ splitOn [c] after := by
  rw [splitOn_singleton_eq_iff]
  refine ⟨⟨by simp [splitOn_ne_nil], ?_⟩, ?_⟩
  · intro piece member
    rcases List.mem_append.mp member with left | right
    · exact not_mem_of_mem_splitOn left
    · exact not_mem_of_mem_splitOn right
  · rw [joinWith_append (splitOn_ne_nil _ _) (splitOn_ne_nil _ _),
      joinWith_splitOn (List.cons_ne_nil c []), joinWith_splitOn (List.cons_ne_nil c [])]
    simp

theorem splitOn_of_not_mem {cs : List Char} (absent : c ∉ cs) : splitOn [c] cs = [cs] :=
  splitOn_eq_singleton (by simpa [List.singleton_infix_iff] using absent)

/-- What stands before the first occurrence of the character is the first piece. -/
theorem splitOn_append_cons_of_not_mem {before : List Char} (absent : c ∉ before) (after : List Char) :
    splitOn [c] (before ++ c :: after) = before :: splitOn [c] after := by
  rw [splitOn_append_cons, splitOn_of_not_mem absent, List.singleton_append]

/-- A word between two separators is one of the inner pieces. -/
theorem enclosed_infix_joinWith_iff {word : List Char} (plain : ∀ piece ∈ pieces, c ∉ piece)
    (plainWord : c ∉ word) :
    c :: (word ++ [c]) <:+: joinWith [c] pieces ↔ word ∈ pieces.tail.dropLast := by
  constructor
  · rintro ⟨before, after, same⟩
    have notEmpty : pieces ≠ [] := by
      rintro rfl
      simp [joinWith] at same
    have cut := splitOn_singleton_eq_iff.mpr ⟨⟨notEmpty, plain⟩, same.symm⟩
    have text : before ++ c :: (word ++ [c]) ++ after = before ++ c :: (word ++ c :: after) := by
      simp
    rw [text, splitOn_append_cons, splitOn_append_cons_of_not_mem plainWord] at cut
    obtain ⟨first, left, leftPieces⟩ := List.exists_cons_of_ne_nil (splitOn_ne_nil [c] before)
    rw [← cut, leftPieces, List.cons_append, List.tail_cons,
      List.dropLast_append_of_ne_nil (List.cons_ne_nil _ _),
      List.dropLast_cons_of_ne_nil (splitOn_ne_nil [c] after)]
    simp
  · intro member
    obtain ⟨left, right, inner⟩ := List.append_of_mem member
    obtain ⟨first, rest, rfl⟩ : ∃ first rest, pieces = first :: rest :=
      List.exists_cons_of_ne_nil (by rintro rfl; simp at member)
    obtain ⟨inside, last, rfl⟩ : ∃ inside last, rest = inside ++ [last] :=
      ⟨_, _, (List.dropLast_append_getLast (by rintro rfl; simp at member)).symm⟩
    rw [List.tail_cons, List.dropLast_concat] at inner
    have parts : first :: (inside ++ [last]) = (first :: left) ++ ([word] ++ (right ++ [last])) := by
      simp [inner]
    rw [parts, joinWith_append (by simp) (by simp), joinWith_append (by simp) (by simp)]
    exact ⟨joinWith [c] (first :: left), joinWith [c] (right ++ [last]), by simp [joinWith]⟩

end Single

end BookCatalogue.Text

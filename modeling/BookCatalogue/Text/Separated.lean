/-! # Texts made of separated pieces

Cutting a text at the occurrences of a separator, found from the left without overlap, and the
inverse that joins pieces. Joining the pieces of a text gives the text back. -/

namespace BookCatalogue.Text

/-- Puts one more character in front of the first piece. -/
def consFirst (c : Char) : List (List Char) → List (List Char)
  | [] => [[c]]
  | piece :: pieces => (c :: piece) :: pieces

/-- The pieces of a text whose first `skip` characters belong to a separator that ended the piece
before. -/
def splitAfter (sep : List Char) : Nat → List Char → List (List Char)
  | _, [] => [[]]
  | skip + 1, _ :: rest => splitAfter sep skip rest
  | 0, c :: rest =>
    if sep.isPrefixOf (c :: rest) then [] :: splitAfter sep (sep.length - 1) rest
    else consFirst c (splitAfter sep 0 rest)

/-- The pieces between the occurrences of `sep`; one piece more than there are occurrences. -/
def splitOn (sep : List Char) (cs : List Char) : List (List Char) := splitAfter sep 0 cs

/-- The pieces with `sep` between each two of them. -/
def joinWith (sep : List Char) : List (List Char) → List Char
  | [] => []
  | [piece] => piece
  | piece :: pieces => piece ++ sep ++ joinWith sep pieces

/-- The text before the first occurrence of `c` and the text after it, if `c` occurs. -/
def cutAt? (c : Char) : List Char → Option (List Char × List Char)
  | [] => none
  | d :: rest =>
    if d = c then some ([], rest)
    else (cutAt? c rest).map fun (before, after) => (d :: before, after)

/-- Strings with `sep` between each two of them. -/
def joinStrings (sep : String) (pieces : List String) : String :=
  String.ofList (joinWith sep.toList (pieces.map String.toList))

theorem splitAfter_ne_nil (sep : List Char) (skip : Nat) (cs : List Char) :
    splitAfter sep skip cs ≠ [] := by
  induction cs generalizing skip with
  | nil => cases skip <;> simp [splitAfter]
  | cons c rest ih =>
    cases skip with
    | succ n => simpa [splitAfter] using ih n
    | zero =>
      simp only [splitAfter]
      split
      · simp
      · cases h : splitAfter sep 0 rest <;> simp [consFirst]

theorem splitOn_ne_nil (sep cs : List Char) : splitOn sep cs ≠ [] := splitAfter_ne_nil sep 0 cs

theorem joinWith_consFirst (sep : List Char) (c : Char) {pieces : List (List Char)}
    (h : pieces ≠ []) : joinWith sep (consFirst c pieces) = c :: joinWith sep pieces := by
  match pieces, h with
  | [piece], _ => rfl
  | piece :: next :: more, _ => simp [consFirst, joinWith]

theorem joinWith_cons (sep piece : List Char) {pieces : List (List Char)} (h : pieces ≠ []) :
    joinWith sep (piece :: pieces) = piece ++ sep ++ joinWith sep pieces := by
  cases pieces with
  | nil => exact absurd rfl h
  | cons next more => rfl

theorem joinWith_splitAfter {sep : List Char} (nonempty : sep ≠ []) (skip : Nat)
    (cs : List Char) : joinWith sep (splitAfter sep skip cs) = cs.drop skip := by
  induction cs generalizing skip with
  | nil => cases skip <;> rfl
  | cons c rest ih =>
    cases skip with
    | succ n => simpa [splitAfter] using ih n
    | zero =>
      simp only [splitAfter]
      split
      · next occurs =>
        obtain ⟨after, same⟩ := List.isPrefixOf_iff_prefix.mp occurs
        rw [joinWith_cons _ _ (splitAfter_ne_nil _ _ _), ih]
        cases sep with
        | nil => exact absurd rfl nonempty
        | cons d more =>
          simp only [List.cons_append, List.cons.injEq] at same
          obtain ⟨rfl, rfl⟩ := same
          simp
      · rw [joinWith_consFirst _ _ (splitAfter_ne_nil _ _ _), ih]
        rfl

/-- Joining the pieces gives the text back. -/
theorem joinWith_splitOn {sep : List Char} (nonempty : sep ≠ []) (cs : List Char) :
    joinWith sep (splitOn sep cs) = cs :=
  joinWith_splitAfter nonempty 0 cs

end BookCatalogue.Text

import Mathlib
import BookCatalogue.Text.Case
import BookCatalogue.Text.Space

/-! # Words and small letters

White space stands between the words of a text only: no letter or digit is white space, and the words hold no
character but those of the text. An ASCII text is put in lower case one character at a time. -/

namespace BookCatalogue.Text

/-! ## Letters, digits and white space -/

/-- A letter or digit lies in one of three ranges. -/
theorem toNat_of_isAlphanum {c : Char} (alphanum : c.isAlphanum = true) :
    (48 ≤ c.toNat ∧ c.toNat ≤ 57) ∨ (65 ≤ c.toNat ∧ c.toNat ≤ 90) ∨ (97 ≤ c.toNat ∧ c.toNat ≤ 122) := by
  simp only [Char.isAlphanum, Char.isAlpha, Char.isUpper, Char.isLower, Char.isDigit, Bool.or_eq_true,
    Bool.and_eq_true, decide_eq_true_eq, UInt32.le_iff_toNat_le] at alphanum
  rcases alphanum with (upper | lower) | digit
  · exact .inr (.inl upper)
  · exact .inr (.inr lower)
  · exact .inl digit

theorem isSpace_of_isAlphanum {c : Char} (alphanum : c.isAlphanum = true) : isSpace c = false := by
  have range := toNat_of_isAlphanum alphanum
  simp only [isSpace, Bool.or_eq_false_iff, Bool.and_eq_false_iff, decide_eq_false_iff_not,
    beq_eq_false_iff_ne]
  omega

theorem isAlphanum_of_isSpace {c : Char} (space : isSpace c = true) : c.isAlphanum = false := by
  by_contra alphanum
  rw [isSpace_of_isAlphanum (by simpa using alphanum)] at space
  cases space

/-! ## Words -/

theorem mem_of_mem_wordsFrom {started cs word : List Char} (found : word ∈ wordsFrom started cs) {c : Char}
    (member : c ∈ word) : c ∈ started ∨ c ∈ cs := by
  induction cs generalizing started with
  | nil =>
    rw [wordsFrom] at found
    split at found
    · cases found
    · rw [List.mem_singleton.mp found, List.mem_reverse] at member
      exact .inl member
  | cons d rest ih =>
    rw [wordsFrom] at found
    split at found
    · split at found
      · exact .inr (List.mem_cons_of_mem d ((ih found).resolve_left List.not_mem_nil))
      · rcases List.mem_cons.mp found with rfl | later
        · exact .inl (List.mem_reverse.mp member)
        · exact .inr (List.mem_cons_of_mem d ((ih later).resolve_left List.not_mem_nil))
    · rcases ih found with inside | after
      · rcases List.mem_cons.mp inside with rfl | earlier
        · exact .inr List.mem_cons_self
        · exact .inl earlier
      · exact .inr (List.mem_cons_of_mem d after)

theorem mem_of_mem_words {cs word : List Char} (found : word ∈ words cs) {c : Char} (member : c ∈ word) :
    c ∈ cs :=
  (mem_of_mem_wordsFrom found member).resolve_left List.not_mem_nil

/-! ## Lower case -/

theorem lowerAt_of_ascii {c : Char} (ascii : c.toNat < 128) (before after : List Char) :
    lowerAt before c after = [c.toLower] := by
  have notDotted : c ≠ '\u0130' := by
    rintro rfl
    exact absurd ascii (by decide)
  have notSigma : c ≠ 'Σ' := by
    rintro rfl
    exact absurd ascii (by decide)
  rw [lowerAt, if_neg notDotted, if_neg notSigma, lowerOne, if_pos ascii]

theorem lowerFrom_of_ascii {cs : List Char} (ascii : ∀ c ∈ cs, c.toNat < 128) (before : List Char) :
    lowerFrom before cs = cs.map Char.toLower := by
  induction cs generalizing before with
  | nil => rfl
  | cons c cs ih =>
    obtain ⟨first, others⟩ := List.forall_mem_cons.mp ascii
    rw [lowerFrom, lowerAt_of_ascii first, ih others, List.map_cons, List.singleton_append]

theorem lower_of_ascii {cs : List Char} (ascii : ∀ c ∈ cs, c.toNat < 128) :
    lower cs = cs.map Char.toLower :=
  lowerFrom_of_ascii ascii []

end BookCatalogue.Text

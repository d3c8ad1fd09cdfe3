import Mathlib
import BookCatalogue.Text.Case

/-! # Orders of texts

Keys without case are put in a linear order, in which no two of them are level. The order of texts by
their characters is the order by the bytes of their UTF-8 form: of two different characters the smaller
has the smaller byte in the first place where their forms differ. -/

namespace BookCatalogue.Text

/-! ## Keys without case -/

instance : Std.TransOrd FoldedKey := by
  change Std.TransCmp (compareLex (compareOn FoldedKey.chars) (compareOn FoldedKey.size))
  infer_instance

instance : Std.LawfulEqOrd FoldedKey where
  compare_self := Std.ReflCmp.compare_self
  eq_of_compare {a b} level := by
    change (compare a.chars b.chars).then (compare a.size b.size) = .eq at level
    obtain ⟨chars, size⟩ := Ordering.then_eq_eq.mp level
    cases a
    cases b
    rw [FoldedKey.mk.injEq]
    exact ⟨Std.LawfulEqCmp.eq_of_compare chars, Std.LawfulEqCmp.eq_of_compare size⟩

/-! ## Bytes -/

/-- The bytes of a text in UTF-8. -/
def bytes (s : String) : List UInt8 := s.toUTF8.data.toList

theorem bytes_eq_flatMap (s : String) : bytes s = s.toList.flatMap String.utf8EncodeChar := by
  obtain ⟨cs, rfl⟩ : ∃ cs, s = String.ofList cs := ⟨s.toList, String.ofList_toList.symm⟩
  simp [bytes, List.utf8Encode]

/-- The bytes differ at some place before either of them ends, and the first are smaller there. -/
inductive Precedes : List UInt8 → List UInt8 → Prop
  | head {x y : UInt8} (less : x < y) (xs ys : List UInt8) : Precedes (x :: xs) (y :: ys)
  | tail (x : UInt8) {xs ys : List UInt8} (later : Precedes xs ys) : Precedes (x :: xs) (x :: ys)

theorem Precedes.append_lt {xs ys : List UInt8} (precedes : Precedes xs ys) (more others : List UInt8) :
    xs ++ more < ys ++ others := by
  induction precedes with
  | head less xs ys => exact List.Lex.rel less
  | tail x _ ih => exact List.Lex.cons ih

/-- One byte decides, or leaves it to the bytes after it. -/
theorem Precedes.ofNat_cons {m n : Nat} {xs ys : List UInt8} (bound : n < 256)
    (order : m < n ∨ m = n ∧ Precedes xs ys) :
    Precedes (UInt8.ofNat m :: xs) (UInt8.ofNat n :: ys) := by
  rcases order with less | ⟨rfl, later⟩
  · refine .head ?_ xs ys
    rw [UInt8.lt_iff_toNat_lt, UInt8.toNat_ofNat', UInt8.toNat_ofNat']
    omega
  · exact .tail _ later

theorem precedes_utf8EncodeChar {c d : Char} (less : c < d) :
    Precedes (String.utf8EncodeChar c) (String.utf8EncodeChar d) := by
  have order : c.val.toNat < d.val.toNat := less
  have bound : d.val.toNat < 0x110000 := by
    rcases d.valid with low | high
    · exact Nat.lt_trans low (by decide)
    · exact high.2
  unfold String.utf8EncodeChar
  generalize c.val.toNat = v at order ⊢
  generalize d.val.toNat = w at order bound ⊢
  dsimp only
  -- A longer form begins with a greater byte; in forms of one length the first different byte decides.
  split_ifs
  · exact .ofNat_cons (by omega) (.inl order)
  · exact .ofNat_cons (by omega) (.inl (by omega))
  · exact .ofNat_cons (by omega) (.inl (by omega))
  · exact .ofNat_cons (by omega) (.inl (by omega))
  · omega
  · refine .ofNat_cons (by omega) ?_
    by_cases first : v / 64 = w / 64
    · exact .inr ⟨by omega, .ofNat_cons (by omega) (.inl (by omega))⟩
    · exact .inl (by omega)
  · exact .ofNat_cons (by omega) (.inl (by omega))
  · exact .ofNat_cons (by omega) (.inl (by omega))
  · omega
  · omega
  · refine .ofNat_cons (by omega) ?_
    by_cases first : v / 4096 = w / 4096
    · refine .inr ⟨by omega, .ofNat_cons (by omega) ?_⟩
      by_cases second : v / 64 = w / 64
      · exact .inr ⟨by omega, .ofNat_cons (by omega) (.inl (by omega))⟩
      · exact .inl (by omega)
    · exact .inl (by omega)
  · exact .ofNat_cons (by omega) (.inl (by omega))
  · omega
  · omega
  · omega
  · refine .ofNat_cons (by omega) ?_
    by_cases first : v / 262144 = w / 262144
    · refine .inr ⟨by omega, .ofNat_cons (by omega) ?_⟩
      by_cases second : v / 4096 = w / 4096
      · refine .inr ⟨by omega, .ofNat_cons (by omega) ?_⟩
        by_cases third : v / 64 = w / 64
        · exact .inr ⟨by omega, .ofNat_cons (by omega) (.inl (by omega))⟩
        · exact .inl (by omega)
      · exact .inl (by omega)
    · exact .inl (by omega)

private theorem utf8EncodeChar_ne_nil (c : Char) : String.utf8EncodeChar c ≠ [] := by
  unfold String.utf8EncodeChar
  dsimp only
  split_ifs <;> exact List.cons_ne_nil _ _

theorem bytes_lt_of_lt {s t : String} (less : s < t) : bytes s < bytes t := by
  rw [bytes_eq_flatMap, bytes_eq_flatMap]
  rw [String.lt_iff_toList_lt] at less
  generalize s.toList = cs at less ⊢
  generalize t.toList = ds at less ⊢
  induction less with
  | @nil d ds =>
    obtain ⟨x, xs, form⟩ := List.exists_cons_of_ne_nil (utf8EncodeChar_ne_nil d)
    rw [List.flatMap_nil, List.flatMap_cons, form]
    exact List.Lex.nil
  | rel less =>
    rw [List.flatMap_cons, List.flatMap_cons]
    exact (precedes_utf8EncodeChar less).append_lt _ _
  | cons _ ih =>
    rw [List.flatMap_cons, List.flatMap_cons]
    exact List.append_left_lt ih

/-- Texts are in the order of their bytes. -/
theorem bytes_le_iff {s t : String} : bytes s ≤ bytes t ↔ s ≤ t := by
  rw [← not_lt, ← List.not_lt]
  refine not_congr ⟨fun less => ?_, bytes_lt_of_lt⟩
  rcases lt_trichotomy t s with right | rfl | wrong
  · exact right
  · exact absurd less (List.lt_irrefl _)
  · exact absurd less (List.lt_asymm (bytes_lt_of_lt wrong))

end BookCatalogue.Text

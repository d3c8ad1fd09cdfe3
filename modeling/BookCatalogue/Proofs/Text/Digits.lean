import Mathlib
import BookCatalogue.Text.Digits

/-! # Numbers by their digits

Digits are ten characters in a row, so that digit strings of one length are in the order of the numbers
that they denote. The digits of a number denote it and begin with a zero only if it is zero. The
hexadecimal digits of a number denote it as well, and whatever is no digit ends them. -/

namespace BookCatalogue.Text

/-- A digit is one of ten characters in a row. -/
theorem toNat_of_isDigit {c : Char} (digit : c.isDigit = true) : 48 ≤ c.toNat ∧ c.toNat ≤ 57 := by
  simp only [Char.isDigit, Bool.and_eq_true, decide_eq_true_eq, UInt32.le_iff_toNat_le] at digit
  exact digit

theorem lt_iff_digitValue_lt {c d : Char} (first : c.isDigit = true) (second : d.isDigit = true) :
    c < d ↔ digitValue c < digitValue d := by
  have low := toNat_of_isDigit first
  have high := toNat_of_isDigit second
  change c.toNat < d.toNat ↔ _
  unfold digitValue
  omega

theorem eq_iff_digitValue_eq {c d : Char} (first : c.isDigit = true) (second : d.isDigit = true) :
    c = d ↔ digitValue c = digitValue d := by
  have low := toNat_of_isDigit first
  have high := toNat_of_isDigit second
  rw [← Char.toNat_inj]
  unfold digitValue
  omega

theorem decimalValue_cons (c : Char) (digits : List Char) :
    decimalValue (c :: digits) = digitValue c * 10 ^ digits.length + decimalValue digits := by
  induction digits using List.reverseRecOn with
  | nil => simp [decimalValue]
  | append_singleton digits d ih =>
    rw [← List.cons_append, decimalValue_concat, decimalValue_concat, ih, List.length_append,
      List.length_singleton, pow_succ]
    ring

theorem decimalValue_lt {digits : List Char} (areDigits : ∀ c ∈ digits, c.isDigit = true) :
    decimalValue digits < 10 ^ digits.length := by
  induction digits with
  | nil => simp [decimalValue]
  | cons c digits ih =>
    obtain ⟨first, rest⟩ := List.forall_mem_cons.mp areDigits
    have small : digitValue c ≤ 9 := by
      have := toNat_of_isDigit first
      unfold digitValue
      omega
    have below := ih rest
    rw [decimalValue_cons, List.length_cons, pow_succ]
    have scaled : digitValue c * 10 ^ digits.length ≤ 9 * 10 ^ digits.length :=
      Nat.mul_le_mul_right _ small
    omega

/-- Digit strings of one length are in the order of the numbers that they denote. -/
theorem lt_iff_decimalValue_lt {xs ys : List Char} (areDigits : ∀ c ∈ xs, c.isDigit = true)
    (areDigits' : ∀ c ∈ ys, c.isDigit = true) (sameLength : xs.length = ys.length) :
    xs < ys ↔ decimalValue xs < decimalValue ys := by
  induction xs generalizing ys with
  | nil =>
    obtain rfl := List.length_eq_zero_iff.mp sameLength.symm
    simp
  | cons x xs ih =>
    cases ys with
    | nil => cases sameLength
    | cons y ys =>
      obtain ⟨first, rest⟩ := List.forall_mem_cons.mp areDigits
      obtain ⟨first', rest'⟩ := List.forall_mem_cons.mp areDigits'
      have others : xs.length = ys.length := Nat.succ.inj sameLength
      have below : decimalValue xs < 10 ^ ys.length := others ▸ decimalValue_lt rest
      have below' := decimalValue_lt rest'
      rw [List.cons_lt_cons_iff, ih rest rest' others, lt_iff_digitValue_lt first first',
        eq_iff_digitValue_eq first first', decimalValue_cons, decimalValue_cons, others]
      rcases lt_trichotomy (digitValue x) (digitValue y) with less | same | greater
      · have step : (digitValue x + 1) * 10 ^ ys.length ≤ digitValue y * 10 ^ ys.length :=
          Nat.mul_le_mul_right _ less
        rw [Nat.add_one_mul] at step
        omega
      · rw [same]
        omega
      · have step : (digitValue y + 1) * 10 ^ ys.length ≤ digitValue x * 10 ^ ys.length :=
          Nat.mul_le_mul_right _ greater
        rw [Nat.add_one_mul] at step
        omega

theorem eq_of_decimalValue_eq {xs ys : List Char} (areDigits : ∀ c ∈ xs, c.isDigit = true)
    (areDigits' : ∀ c ∈ ys, c.isDigit = true) (sameLength : xs.length = ys.length)
    (same : decimalValue xs = decimalValue ys) : xs = ys := by
  rcases lt_trichotomy xs ys with less | equal | greater
  · have := (lt_iff_decimalValue_lt areDigits areDigits' sameLength).mp less
    omega
  · exact equal
  · have := (lt_iff_decimalValue_lt areDigits' areDigits sameLength.symm).mp greater
    omega

/-- Without a leading zero, all digits count. -/
theorem le_decimalValue_cons {c : Char} (digit : c.isDigit = true) (notZero : c ≠ '0') (digits : List Char) :
    10 ^ digits.length ≤ decimalValue (c :: digits) := by
  have positive : 1 ≤ digitValue c := by
    have zero : digitValue '0' = 0 := rfl
    have different := (eq_iff_digitValue_eq digit (by decide : '0'.isDigit = true)).not.mp notZero
    omega
  rw [decimalValue_cons]
  calc 10 ^ digits.length = 1 * 10 ^ digits.length := (Nat.one_mul _).symm
    _ ≤ digitValue c * 10 ^ digits.length := Nat.mul_le_mul_right _ positive
    _ ≤ digitValue c * 10 ^ digits.length + decimalValue digits := Nat.le_add_right ..

/-! ## The digits of a number -/

theorem decimalValue_eq_ofDigitChars (digits : List Char) :
    decimalValue digits = Nat.ofDigitChars 10 digits 0 := by
  simp only [decimalValue, digitValue, Nat.ofDigitChars_eq_foldl, Nat.mul_comm 10]
  rfl

@[simp] theorem decimalValue_toDigits (n : Nat) : decimalValue (Nat.toDigits 10 n) = n := by
  rw [decimalValue_eq_ofDigitChars, Nat.ofDigitChars_toDigits (by decide) (by decide)]

theorem head?_toDigits_ne {n : Nat} (positive : 0 < n) : (Nat.toDigits 10 n).head? ≠ some '0' := by
  induction n using Nat.strong_induction_on with
  | _ n ih =>
    by_cases small : n < 10
    · rw [Nat.toDigits_of_lt_base small]
      simp [positive.ne']
    · have shorter := ih (n / 10) (by omega) (by omega)
      rw [Nat.toDigits_of_base_le (by decide) (by omega), List.head?_append_of_ne_nil _ Nat.toDigits_ne_nil]
      exact shorter

/-! ## Hexadecimal digits -/

theorem hexValue?_hexDigit {n : Nat} (small : n < 16) : hexValue? (hexDigit n) = some n := by
  have all : ∀ n < 16, hexValue? (hexDigit n) = some n := by decide
  exact all n small

theorem hexPadded_four (n : Nat) :
    hexPadded 4 n =
      [hexDigit (n / 4096 % 16), hexDigit (n / 256 % 16), hexDigit (n / 16 % 16), hexDigit (n % 16)] := by
  simp [hexPadded, List.range_succ]

def hexNumber (digits : List Char) : Nat :=
  digits.foldl (fun n d => n * 16 + (hexValue? d).getD 0) 0

theorem hexNumber_concat (digits : List Char) (d : Char) :
    hexNumber (digits ++ [d]) = hexNumber digits * 16 + (hexValue? d).getD 0 := by
  simp [hexNumber]

theorem hexNumber_hexDigits (n : Nat) : hexNumber (hexDigits n) = n := by
  induction n using Nat.strong_induction_on with
  | _ n ih =>
    rw [hexDigits]
    split
    · next small => simp [hexNumber, hexValue?_hexDigit small]
    · next large =>
      have shorter := ih (n / 16) (by omega)
      have last : n % 16 < 16 := Nat.mod_lt n (by decide)
      rw [hexNumber_concat, shorter, hexValue?_hexDigit last, Option.getD_some]
      omega

theorem isSome_hexValue?_of_mem_hexDigits {n : Nat} {c : Char} (member : c ∈ hexDigits n) :
    (hexValue? c).isSome = true := by
  induction n using Nat.strong_induction_on with
  | _ n ih =>
    rw [hexDigits] at member
    split at member
    · next small => rw [List.mem_singleton.mp member, hexValue?_hexDigit small, Option.isSome_some]
    · next large =>
      rcases List.mem_append.mp member with earlier | last
      · exact ih (n / 16) (by omega) earlier
      · have small : n % 16 < 16 := Nat.mod_lt n (by decide)
        rw [List.mem_singleton.mp last, hexValue?_hexDigit small, Option.isSome_some]

theorem not_mem_hexDigits {c : Char} (other : hexValue? c = none) (n : Nat) : c ∉ hexDigits n := by
  intro member
  have digit := isSome_hexValue?_of_mem_hexDigits member
  rw [other] at digit
  cases digit

/-- Digits can be told from what follows them. -/
theorem hexDigits_append_cons_inj {n m : Nat} {c : Char} {rest rest' : List Char}
    (other : hexValue? c = none) (same : hexDigits n ++ c :: rest = hexDigits m ++ c :: rest') :
    n = m ∧ rest = rest' := by
  have digits (k : Nat) (after : List Char) :
      (hexDigits k ++ c :: after).takeWhile (fun d => (hexValue? d).isSome) = hexDigits k := by
    rw [List.takeWhile_append_of_pos fun _ => isSome_hexValue?_of_mem_hexDigits,
      List.takeWhile_cons_of_neg (by simp [other]), List.append_nil]
  have sameDigits : hexDigits n = hexDigits m := by rw [← digits n rest, same, digits]
  refine ⟨?_, ?_⟩
  · rw [← hexNumber_hexDigits n, sameDigits, hexNumber_hexDigits]
  · rw [sameDigits] at same
    exact (List.cons.inj (List.append_cancel_left same)).2

end BookCatalogue.Text

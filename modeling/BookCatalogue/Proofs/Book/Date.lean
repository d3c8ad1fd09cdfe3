import Mathlib
import BookCatalogue.Book.Date
import BookCatalogue.Proofs.Text.Digits
import BookCatalogue.Proofs.Text.Words

/-! # Dates have one written form

A written date is read back as the date that it was written from, in every year of the calendar, and
no other text is read as that date. Storing a date as a text therefore loses nothing. -/

namespace BookCatalogue.Date

open Text

/-! ## Padded numbers -/

theorem padded_eq (width n : Nat) :
    padded width n =
      List.replicate (width - (Nat.toDigits 10 n).length) '0' ++ Nat.toDigits 10 n := by
  simp [padded]

theorem isDigit_of_mem_padded {width n : Nat} {c : Char} (member : c ∈ padded width n) :
    c.isDigit = true := by
  rw [padded_eq, List.mem_append, List.mem_replicate] at member
  rcases member with ⟨_, rfl⟩ | digit
  · decide
  · exact Nat.isDigit_of_mem_toDigits (by decide) (by decide) digit

@[simp] theorem decimalValue_padded (width n : Nat) : decimalValue (padded width n) = n := by
  rw [decimalValue_eq_ofDigitChars, padded_eq, Nat.ofDigitChars_append]
  simp

theorem padded_ne_nil (width n : Nat) : padded width n ≠ [] := by
  simp [padded_eq, Nat.toDigits_ne_nil]

theorem length_padded {width n : Nat} (positive : 0 < width) (bound : n < 10 ^ width) :
    (padded width n).length = width := by
  have digits : (Nat.toDigits 10 n).length ≤ width :=
    (Nat.length_toDigits_le_iff (by decide) positive).mpr bound
  rw [padded_eq, List.length_append, List.length_replicate]
  omega

/-! ## Reading a written date -/

/-- Digits are read up to what is no digit, if they are not too many. -/
theorem readNumber?_append {most : Nat} {digits rest : List Char} (more : digits ≠ [])
    (areDigits : ∀ c ∈ digits, c.isDigit = true) (few : digits.length ≤ most)
    (ended : ∀ c ∈ rest.head?, c.isDigit = false) :
    readNumber? most (digits ++ rest) = some (decimalValue digits, rest) := by
  have stop : (rest.take (most - digits.length)).takeWhile Char.isDigit = [] := by
    cases rest with
    | nil => simp
    | cons c rest =>
      have notDigit := ended c (by simp)
      cases most - digits.length <;> simp [notDigit]
  have read : ((digits ++ rest).take most).takeWhile Char.isDigit = digits := by
    rw [List.take_append, List.take_of_length_le few, List.takeWhile_append_of_pos areDigits, stop,
      List.append_nil]
  simp [readNumber?, read, more]

/-- A padded number is read up to a dash or the end. -/
theorem readNumber?_padded {most width n : Nat} (few : (padded width n).length ≤ most) {rest : List Char}
    (ended : ∀ c ∈ rest.head?, c = '-') : readNumber? most (padded width n ++ rest) = some (n, rest) := by
  rw [readNumber?_append (padded_ne_nil width n) (fun _ => isDigit_of_mem_padded) few, decimalValue_padded]
  intro c first
  rw [ended c first]
  decide

theorem isSpace_of_isDigit {c : Char} (digit : c.isDigit = true) : isSpace c = false :=
  isSpace_of_isAlphanum (by simp [Char.isAlphanum, digit])

/-- No blanks stand before a padded number. -/
theorem trimStart_padded (width n : Nat) (rest : List Char) :
    trimStart (padded width n ++ rest) = padded width n ++ rest := by
  obtain ⟨first, others, digits⟩ := List.exists_cons_of_ne_nil (padded_ne_nil width n)
  have digit : first.isDigit = true :=
    isDigit_of_mem_padded (digits ▸ List.mem_cons_self : first ∈ padded width n)
  rw [digits, List.cons_append, trimStart, List.dropWhile_cons_of_neg (by simp [isSpace_of_isDigit digit])]

/-- A month or a day is read up to a dash or the end. -/
theorem readPart?_padded {n : Nat} (bound : n < 10 ^ 2) {rest : List Char}
    (ended : ∀ c ∈ rest.head?, c = '-') : readPart? ('-' :: padded 2 n ++ rest) = some (n, rest) := by
  have few : (padded 2 n).length ≤ 2 := (length_padded (by decide) bound).le
  rw [List.cons_append, readPart?, trimStart_padded, readNumber?_padded few ended]

private theorem readYear?_of_isDigit {c : Char} {cs : List Char} (digit : c.isDigit = true) :
    readYear? (c :: cs) = (readNumber? 4 (c :: cs)).map fun (n, rest) => ((n : Int), rest) := by
  have noBlank : trimStart (c :: cs) = c :: cs :=
    List.dropWhile_cons_of_neg (by simp [isSpace_of_isDigit digit])
  unfold readYear?
  rw [noBlank]
  split
  · next same =>
    cases same
    exact absurd digit (by decide)
  · next same =>
    cases same
    exact absurd digit (by decide)
  · rfl

/-- A written year is read up to the dash after it. -/
theorem readYear?_yearChars (year : Int) (rest : List Char) :
    readYear? (yearChars year ++ '-' :: rest) = some (year, '-' :: rest) := by
  have ended : ∀ c ∈ ('-' :: rest).head?, c = '-' := by simp
  have signed (width n : Nat) :
      readNumber? (padded width n ++ '-' :: rest).length (padded width n ++ '-' :: rest) =
        some (n, '-' :: rest) :=
    readNumber?_padded (by simp) ended
  unfold yearChars
  split
  · next negative =>
    have sign : trimStart ('-' :: padded 4 year.natAbs ++ '-' :: rest) =
        '-' :: (padded 4 year.natAbs ++ '-' :: rest) := rfl
    have value : -((year.natAbs : Nat) : Int) = year := by omega
    simp only [readYear?, sign, signed, Option.map_some, value]
  · next notNegative =>
    split
    · next small =>
      have few : (padded 4 year.toNat).length ≤ 4 := (length_padded (by decide) (by omega)).le
      have unsigned := readNumber?_padded few ended
      obtain ⟨first, others, digits⟩ := List.exists_cons_of_ne_nil (padded_ne_nil 4 year.toNat)
      have digit : first.isDigit = true :=
        isDigit_of_mem_padded (digits ▸ List.mem_cons_self : first ∈ padded 4 year.toNat)
      rw [digits, List.cons_append] at unsigned ⊢
      have value : ((year.toNat : Nat) : Int) = year := by omega
      simp only [readYear?_of_isDigit digit, unsigned, Option.map_some, value]
    · next large =>
      have sign : trimStart ('+' :: padded 4 year.toNat ++ '-' :: rest) =
          '+' :: (padded 4 year.toNat ++ '-' :: rest) := rfl
      have value : ((year.toNat : Nat) : Int) = year := by omega
      simp only [readYear?, sign, signed, Option.map_some, value]

/-- Two digits suffice for months and days. -/
theorem month_lt_and_day_lt (d : Date) : d.month < 10 ^ 2 ∧ d.day < 10 ^ 2 := by
  obtain ⟨_, ⟨_, month⟩, _, day⟩ := d.isCalendarDay
  have few : daysInMonth d.year d.month ≤ 31 := by
    unfold daysInMonth
    split_ifs <;> decide
  omega

/-- A written date is read loosely as the date that it was written from. -/
theorem readLoosely?_toChars (d : Date) : readLoosely? d.toChars = some d := by
  obtain ⟨monthBound, dayBound⟩ := d.month_lt_and_day_lt
  have year := readYear?_yearChars d.year (padded 2 d.month ++ '-' :: padded 2 d.day)
  have month : readPart? ('-' :: (padded 2 d.month ++ '-' :: padded 2 d.day)) =
      some (d.month, '-' :: padded 2 d.day) :=
    readPart?_padded monthBound (by simp)
  have day : readPart? ('-' :: (padded 2 d.day ++ [])) = some (d.day, []) := readPart?_padded dayBound (by simp)
  rw [List.append_nil] at day
  simp [readLoosely?, toChars, year, month, day, d.isCalendarDay]

theorem ofChars?_eq_some_iff {cs : List Char} {d : Date} : ofChars? cs = some d ↔ d.toChars = cs := by
  simp only [ofChars?, Option.filter_eq_some_iff, decide_eq_true_eq]
  constructor
  · exact And.right
  · rintro rfl
    exact ⟨readLoosely?_toChars d, rfl⟩

/-- A text is read as a date exactly when it is the written form of that date. -/
theorem parse?_eq_some_iff {s : String} {d : Date} : parse? s = some d ↔ d.render = s := by
  rw [parse?, ofChars?_eq_some_iff, render, ← String.toList_inj, String.toList_ofList]

end BookCatalogue.Date

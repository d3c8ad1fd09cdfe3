import Mathlib
import BookCatalogue.Proofs.Book.DateOrder
import BookCatalogue.Proofs.Text.Split

/-! # The texts that are dates

A date is three numbers joined by dashes, the first of which may have a sign. It is a written date just
when it has no digit too few or too many, no sign without need, and names a day of the calendar. Each date
has one such text. -/

namespace BookCatalogue

namespace Date

open Text

/-! ## Padded numbers -/

theorem le_length_padded (width n : Nat) : width ≤ (padded width n).length := by
  rw [padded_eq, List.length_append, List.length_replicate]
  omega

/-- More digits than the width begin with no zero. -/
theorem head?_padded_ne {width n : Nat} (positive : 0 < width) (long : width < (padded width n).length) :
    (padded width n).head? ≠ some '0' := by
  have notZero : n ≠ 0 := by
    rintro rfl
    rw [length_padded positive (Nat.pow_pos (by decide))] at long
    exact lt_irrefl _ long
  rw [padded_eq, List.length_append, List.length_replicate] at long
  have noZeros : width - (Nat.toDigits 10 n).length = 0 := by omega
  rw [padded_eq, noZeros]
  exact head?_toDigits_ne (Nat.pos_of_ne_zero notZero)

/-- Digits are the padded number that they denote unless one is missing or to spare. -/
theorem padded_decimalValue {width : Nat} {digits : List Char} (areDigits : ∀ c ∈ digits, c.isDigit = true)
    (positive : 0 < width) (enough : width ≤ digits.length)
    (needed : width < digits.length → digits.head? ≠ some '0') : padded width (decimalValue digits) = digits := by
  have bound := decimalValue_lt areDigits
  refine eq_of_decimalValue_eq (fun _ => isDigit_of_mem_padded) areDigits ?_ (decimalValue_padded _ _)
  rcases enough.eq_or_lt with exact | long
  · rw [← exact] at bound
    rw [length_padded positive bound, exact]
  · have notZero := needed long
    cases digits with
    | nil => simp at long
    | cons c digits =>
      rw [List.length_cons] at long bound
      have all := le_decimalValue_cons (areDigits c List.mem_cons_self) (by simpa using notZero) digits
      have atMost := (Nat.length_toDigits_le_iff (b := 10) (by decide) (Nat.succ_pos digits.length)).mpr bound
      have atLeast := (Nat.length_toDigits_le_iff (b := 10) (by decide) (by omega : 0 < digits.length)).not.mpr all.not_gt
      rw [padded_eq, List.length_append, List.length_replicate, List.length_cons]
      omega

/-! ## Parts of a text -/

/-- What a text of three numbers and a sign consists of. -/
structure Parts where
  sign : List Char
  year : List Char
  month : List Char
  day : List Char
deriving DecidableEq, Repr

namespace Parts

variable {p q : Parts}

def body (p : Parts) : List Char := joinWith ['-'] [p.year, p.month, p.day]

def text (p : Parts) : List Char := p.sign ++ p.body

def yearValue (p : Parts) : Int :=
  if p.sign = ['-'] then -(decimalValue p.year : Int) else decimalValue p.year

/-- Three numbers, of which the first may have a sign. -/
structure IsNumeric (p : Parts) : Prop where
  sign : p.sign = [] ∨ p.sign = ['+'] ∨ p.sign = ['-']
  year : p.year ≠ [] ∧ ∀ c ∈ p.year, c.isDigit = true
  month : p.month ≠ [] ∧ ∀ c ∈ p.month, c.isDigit = true
  day : p.day ≠ [] ∧ ∀ c ∈ p.day, c.isDigit = true

/-- The numbers have the digits and the sign that they need and no others, and denote a day. -/
structure IsCanonical (p : Parts) : Prop where
  /-- The years before 0 and after 9999 alone have a sign. -/
  sign : p.sign = if p.yearValue < 0 then ['-'] else if p.yearValue ≤ 9999 then [] else ['+']
  /-- Four digits, or more without a leading zero. -/
  year : 4 ≤ p.year.length ∧ (4 < p.year.length → p.year.head? ≠ some '0')
  month : p.month.length = 2
  day : p.day.length = 2
  isCalendarDay : BookCatalogue.isCalendarDay p.yearValue (decimalValue p.month) (decimalValue p.day)

theorem natAbs_yearValue (p : Parts) : p.yearValue.natAbs = decimalValue p.year := by
  unfold yearValue
  split_ifs <;> simp

theorem IsNumeric.not_mem (numeric : p.IsNumeric) : ∀ part ∈ [p.year, p.month, p.day], '-' ∉ part := by
  have noDash {part : List Char} (digits : ∀ c ∈ part, c.isDigit = true) : '-' ∉ part :=
    fun member => absurd (digits '-' member) (by decide)
  simpa using ⟨noDash numeric.year.2, noDash numeric.month.2, noDash numeric.day.2⟩

theorem IsNumeric.splitOn_body (numeric : p.IsNumeric) : splitOn ['-'] p.body = [p.year, p.month, p.day] :=
  splitOn_singleton_eq_iff.mpr ⟨⟨List.cons_ne_nil _ _, numeric.not_mem⟩, rfl⟩

/-- The sign is the first character unless that is a digit. -/
theorem IsNumeric.sign_eq (numeric : p.IsNumeric) : p.sign = (p.text.take 1).filter (!·.isDigit) := by
  obtain ⟨c, year, first⟩ := List.exists_cons_of_ne_nil numeric.year.1
  have digit : c.isDigit = true := numeric.year.2 c (first ▸ List.mem_cons_self)
  have plus : '+'.isDigit = false := by decide
  have minus : '-'.isDigit = false := by decide
  rcases numeric.sign with sign | sign | sign
  · simp [text, sign, body, joinWith, first, digit]
  · simp [text, sign, plus]
  · simp [text, sign, minus]

/-- A text is made of its parts in one way. -/
theorem IsNumeric.eq_of_text (numeric : p.IsNumeric) (numeric' : q.IsNumeric) (same : p.text = q.text) :
    p = q := by
  have sign : p.sign = q.sign := by rw [numeric.sign_eq, numeric'.sign_eq, same]
  have body : p.body = q.body := by
    rw [text, text, sign] at same
    exact List.append_cancel_left same
  have numbers := numeric.splitOn_body
  rw [body, numeric'.splitOn_body] at numbers
  cases p
  cases q
  simp_all

/-- A text of parts holds digits, signs and dashes only. -/
theorem IsNumeric.isSpace_eq_false (numeric : p.IsNumeric) : ∀ c ∈ p.text, isSpace c = false := by
  have ofDigits {part : List Char} (digits : ∀ c ∈ part, c.isDigit = true) : ∀ c ∈ part, isSpace c = false :=
    fun c member => isSpace_of_isDigit (digits c member)
  have year := ofDigits numeric.year.2
  have month := ofDigits numeric.month.2
  have day := ofDigits numeric.day.2
  have dash : isSpace '-' = false := by decide
  have plus : isSpace '+' = false := by decide
  intro c member
  rcases numeric.sign with sign | sign | sign <;> simp [text, body, joinWith, sign] at member <;> grind

end Parts

/-! ## The parts of a date -/

def parts (d : Date) : Parts where
  sign := if d.year < 0 then ['-'] else if d.year ≤ 9999 then [] else ['+']
  year := padded 4 d.year.natAbs
  month := padded 2 d.month
  day := padded 2 d.day

theorem toChars_eq_text (d : Date) : d.toChars = d.parts.text := by
  simp only [toChars, yearChars, Parts.text, Parts.body, parts, joinWith]
  split_ifs with negative small
  · simp
  · have same : d.year.natAbs = d.year.toNat := by omega
    simp [same]
  · have same : d.year.natAbs = d.year.toNat := by omega
    simp [same]

theorem yearValue_parts (d : Date) : d.parts.yearValue = d.year := by
  simp only [Parts.yearValue, parts, decimalValue_padded]
  by_cases negative : d.year < 0
  · rw [if_pos negative, if_pos rfl]
    omega
  · have noMinus : (if d.year ≤ 9999 then [] else ['+']) ≠ ['-'] := by split_ifs <;> decide
    rw [if_neg negative, if_neg noMinus]
    omega

theorem isNumeric_parts (d : Date) : d.parts.IsNumeric where
  sign := by
    simp only [parts]
    split_ifs <;> simp
  year := ⟨padded_ne_nil _ _, fun _ => isDigit_of_mem_padded⟩
  month := ⟨padded_ne_nil _ _, fun _ => isDigit_of_mem_padded⟩
  day := ⟨padded_ne_nil _ _, fun _ => isDigit_of_mem_padded⟩

theorem isCanonical_parts (d : Date) : d.parts.IsCanonical where
  sign := by
    rw [yearValue_parts, parts]
  year := ⟨le_length_padded _ _, head?_padded_ne (by decide)⟩
  month := length_padded (by decide) d.month_lt_and_day_lt.1
  day := length_padded (by decide) d.month_lt_and_day_lt.2
  isCalendarDay := by
    rw [yearValue_parts, parts, decimalValue_padded, decimalValue_padded]
    exact d.isCalendarDay

theorem Parts.IsCanonical.exists_parts_eq {p : Parts} (canonical : p.IsCanonical) (numeric : p.IsNumeric) :
    ∃ d : Date, d.parts = p := by
  refine ⟨⟨p.yearValue, decimalValue p.month, decimalValue p.day, canonical.isCalendarDay⟩, ?_⟩
  have year := padded_decimalValue numeric.year.2 (by decide) canonical.year.1 canonical.year.2
  have month := padded_decimalValue numeric.month.2 (by decide) canonical.month.ge (by simp [canonical.month])
  have day := padded_decimalValue numeric.day.2 (by decide) canonical.day.ge (by simp [canonical.day])
  simp only [parts, p.natAbs_yearValue, year, month, day, ← canonical.sign]

/-! ## Reading and writing -/

theorem parse_eq_ok_iff {s : String} {d : Date} : parse s = .ok d ↔ d.render = s := by
  rw [← parse?_eq_some_iff, parse]
  cases parse? s <;> simp

theorem parse_of_not_written {s : String} (notWritten : ∀ d : Date, d.render ≠ s) :
    parse s = .error (refusal s) := by
  cases read : parse? s with
  | none => rw [parse, read]
  | some d => exact absurd (parse?_eq_some_iff.mp read) (notWritten d)

theorem toList_render (d : Date) : d.render.toList = d.parts.text := by
  rw [render, String.toList_ofList, toChars_eq_text]

theorem render_inj {a b : Date} : a.render = b.render ↔ a = b := by
  constructor
  · intro same
    have read := parse?_eq_some_iff.mpr same
    rw [parse?_eq_some_iff.mpr rfl] at read
    exact (Option.some.inj read).symm
  · rintro rfl
    rfl

/-- A text of three numbers is a date just when its parts are canonical. -/
theorem Parts.IsNumeric.exists_render_iff {p : Parts} (numeric : p.IsNumeric) :
    (∃ d : Date, d.render = String.ofList p.text) ↔ p.IsCanonical := by
  constructor
  · rintro ⟨d, written⟩
    have same : d.parts.text = p.text := by rw [← toList_render, written, String.toList_ofList]
    rw [← d.isNumeric_parts.eq_of_text numeric same]
    exact d.isCanonical_parts
  · intro canonical
    obtain ⟨d, rfl⟩ := canonical.exists_parts_eq numeric
    exact ⟨d, by rw [← toList_render, String.ofList_toList]⟩

/-- Reading a date undoes writing it and accepts nothing else. What is refused has something other than
three numbers in it, such as a blank, or numbers that are not canonical: a digit or a sign is missing or to
spare, or there is no such day. -/
theorem texts_canonical :
    (∀ s d, parse s = .ok d ↔ d.render = s) ∧
      (∀ s, (∀ d : Date, d.render ≠ s) → parse s = .error (refusal s)) ∧
      (∀ a b : Date, a.render = b.render ↔ a = b) ∧
      (∀ s d, parse s = .ok d → ∃ p : Parts, p.IsNumeric ∧ p.text = s.toList) ∧
      (∀ s, (∃ c ∈ s.toList, isSpace c = true) → parse s = .error (refusal s)) ∧
      ∀ p : Parts, p.IsNumeric → ((∃ d, parse (String.ofList p.text) = .ok d) ↔ p.IsCanonical) := by
  refine ⟨fun s d => parse_eq_ok_iff, fun s => parse_of_not_written, fun a b => render_inj, ?_, ?_, ?_⟩
  · intro s d read
    rw [parse_eq_ok_iff] at read
    exact ⟨d.parts, d.isNumeric_parts, by rw [← toList_render, read]⟩
  · rintro s ⟨c, member, blank⟩
    refine parse_of_not_written ?_
    rintro d rfl
    rw [toList_render] at member
    rw [d.isNumeric_parts.isSpace_eq_false c member] at blank
    cases blank
  · intro p numeric
    simp only [parse_eq_ok_iff, numeric.exists_render_iff]

/-- Loosely read, but not written like this: blanks, digits missing and to spare, and a needless sign. -/
example :
    let texts := [" 2020-02-29", "2020-2-29", "02020-02-29", "+2020-02-29", "-0000-02-29"]
    texts.all fun s => (parse? s).isNone := by
  decide +kernel

end Date

end BookCatalogue

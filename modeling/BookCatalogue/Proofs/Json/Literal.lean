import Mathlib
import BookCatalogue.Json.Value
import BookCatalogue.Proofs.Json.Grammar
import BookCatalogue.Proofs.Text.Digits

/-! # Strings and numbers in JSON texts

The automaton of tokens reads every text of a string as one token with its content, and every text of a
numeral as one token with its digits. What is written for a string or a number is one of its texts. -/

namespace BookCatalogue.Json

/-! ## Pieces of strings -/

/-- The pieces that a character is read as: itself, or an escaped unit of its own. -/
inductive Piece.IsOf (c : Char) : Piece → Prop
  | char : IsOf c (.char c)
  | unit (oneUnit : c.toNat < 0x10000) : IsOf c (.unit c.toNat)

/-- A unit that is no half of a character is one. -/
theorem assemble?_unit {n : Nat} (whole : n < 0xD800 ∨ 0xE000 ≤ n) (pieces : List Piece) :
    assemble? (.unit n :: pieces) = (assemble? pieces).map (Char.ofNat n :: ·) := by
  have notHigh : ¬ (0xD800 ≤ n ∧ n < 0xDC00) := by omega
  have notLow : ¬ (0xDC00 ≤ n ∧ n < 0xE000) := by omega
  have notHalf : ¬ (0xD800 ≤ n ∧ n < 0xE000) := by omega
  rcases pieces with _ | ⟨_ | low | _, pieces⟩ <;> simp only [assemble?, notHigh, notLow, notHalf, if_false]

/-- No character is half of one. -/
theorem not_surrogate (c : Char) : c.toNat < 0xD800 ∨ 0xE000 ≤ c.toNat := by
  have valid : c.toNat < 0xD800 ∨ (0xDFFF < c.toNat ∧ c.toNat < 0x110000) := c.valid
  omega

theorem assemble?_cons {c : Char} {piece : Piece} (isOf : piece.IsOf c) (pieces : List Piece) :
    assemble? (piece :: pieces) = (assemble? pieces).map (c :: ·) := by
  cases isOf with
  | char => rw [assemble?]
  | unit oneUnit => rw [assemble?_unit (not_surrogate c), Char.ofNat_toNat]

theorem assemble?_of_forall₂ {cs : List Char} {pieces : List Piece}
    (same : List.Forall₂ (fun c piece => piece.IsOf c) cs pieces) : assemble? pieces = some cs := by
  induction same with
  | nil => rfl
  | cons isOf _ ih => rw [assemble?_cons isOf, ih, Option.map_some]

/-! ## Texts of strings -/

/-- A written piece is read as that piece. -/
theorem tokensFrom_piece {piece : Piece} {cs : List Char} (written : piece.IsWritten cs) (earlier : List Piece)
    (rest : List (Option Char)) :
    tokensFrom (.string earlier) (cs.map some ++ rest) = tokensFrom (.string (piece :: earlier)) rest := by
  cases written with
  | plain notQuote notBackslash notControl =>
    simp [tokensFrom, Mode.step, notQuote, notBackslash, notControl]
  | @letter letter c means =>
    have notUnit : letter ≠ 'u' := by
      rintro rfl
      cases means
    simp [tokensFrom, Mode.step, means]
  | unit first second third fourth => simp [tokensFrom, Mode.step, first, second, third, fourth]

/-- Written pieces are read as these pieces, up to the quote. -/
theorem tokensFrom_pieces {pieces : List Piece} {texts : List (List Char)}
    (written : List.Forall₂ Piece.IsWritten pieces texts) (earlier : List Piece) (rest : List (Option Char)) :
    tokensFrom (.string earlier) (texts.flatten.map some ++ some '"' :: rest) =
      stringToken (pieces.reverse ++ earlier) :: tokensFrom .between rest := by
  induction written generalizing earlier with
  | nil => simp [tokensFrom, Mode.step]
  | cons first _ ih =>
    rw [List.flatten_cons, List.map_append, List.append_assoc, tokensFrom_piece first, ih]
    simp

/-- Every text of a string is one token. -/
theorem tokensFrom_isString {content : Option String} {cs : List Char} (string : IsString content cs)
    (rest : List (Option Char)) :
    tokensFrom .between (cs.map some ++ rest) = .string content :: tokensFrom .between rest := by
  obtain ⟨written⟩ := string
  have read := tokensFrom_pieces written [] rest
  rw [List.append_nil, stringToken, List.reverse_reverse] at read
  rw [← read]
  simp [tokensFrom, Mode.step, begins]

/-! ## Written strings -/

/-- The digits of a unit. -/
theorem isWritten_hexPadded {n : Nat} (oneUnit : n < 0x10000) :
    Piece.IsWritten (.unit n) (['\\', 'u'] ++ Text.hexPadded 4 n) := by
  have small (n : Nat) : n % 16 < 16 := Nat.mod_lt n (by decide)
  have value : ((n / 4096 % 16 * 16 + n / 256 % 16) * 16 + n / 16 % 16) * 16 + n % 16 = n := by omega
  rw [Text.hexPadded_four]
  have written := Piece.IsWritten.unit (Text.hexValue?_hexDigit (small (n / 4096)))
    (Text.hexValue?_hexDigit (small (n / 256))) (Text.hexValue?_hexDigit (small (n / 16)))
    (Text.hexValue?_hexDigit (small n))
  rwa [value] at written

/-- The three ways in which a character is written. -/
theorem escapeChar_cases (c : Char) :
    (∃ letter, escaped? letter = some c ∧ escapeChar c = ['\\', letter]) ∨
      (c.toNat < 0x20 ∧ escapeChar c = ['\\', 'u'] ++ Text.hexPadded 4 c.toNat) ∨
      ((c ≠ '"' ∧ c ≠ '\\' ∧ ¬ c.toNat < 0x20) ∧ escapeChar c = [c]) := by
  unfold escapeChar
  split_ifs with quote backslash backspace tab newline formFeed carriageReturn control
  · exact .inl ⟨'"', by rw [quote]; rfl, rfl⟩
  · exact .inl ⟨'\\', by rw [backslash]; rfl, rfl⟩
  · exact .inl ⟨'b', by rw [backspace]; rfl, rfl⟩
  · exact .inl ⟨'t', by rw [tab]; rfl, rfl⟩
  · exact .inl ⟨'n', by rw [newline]; rfl, rfl⟩
  · exact .inl ⟨'f', by rw [formFeed]; rfl, rfl⟩
  · exact .inl ⟨'r', by rw [carriageReturn]; rfl, rfl⟩
  · exact .inr (.inl ⟨control, rfl⟩)
  · exact .inr (.inr ⟨⟨quote, backslash, control⟩, rfl⟩)

/-- A character is written as one piece. -/
theorem exists_isWritten_escapeChar (c : Char) :
    ∃ piece : Piece, piece.IsOf c ∧ piece.IsWritten (escapeChar c) := by
  rcases escapeChar_cases c with
    ⟨letter, means, written⟩ | ⟨control, written⟩ | ⟨⟨quote, backslash, control⟩, written⟩ <;> rw [written]
  · exact ⟨.char c, .char, .letter means⟩
  · have oneUnit : c.toNat < 0x10000 := by omega
    exact ⟨.unit c.toNat, .unit oneUnit, isWritten_hexPadded oneUnit⟩
  · exact ⟨.char c, .char, .plain quote backslash control⟩

/-- What is written for a string is one of its texts. -/
theorem isString_stringChars (s : String) : IsString (some s) (stringChars s) := by
  obtain ⟨pieces, areOf, written⟩ : ∃ pieces, List.Forall₂ (fun c piece => Piece.IsOf c piece) s.toList pieces ∧
      List.Forall₂ Piece.IsWritten pieces (s.toList.map escapeChar) := by
    induction s.toList with
    | nil => exact ⟨[], .nil, .nil⟩
    | cons c cs ih =>
      obtain ⟨piece, isOf, written⟩ := exists_isWritten_escapeChar c
      obtain ⟨pieces, areOf, others⟩ := ih
      exact ⟨piece :: pieces, .cons isOf areOf, .cons written others⟩
  have string := IsString.quoted written
  rwa [assemble?_of_forall₂ areOf, Option.map_some, String.ofList_toList, ← List.flatMap_def] at string

/-! ## Texts of numerals -/

/-- The characters that may follow a value or a key. -/
def delimiters : List Char := [',', ':', ']', '\x7d', ' ', '\n', '\t', '\r']

/-- A value may end before this text. -/
def IsDelimited (rest : List (Option Char)) : Prop := ∀ c ∈ rest.head?, ∃ d ∈ delimiters, c = some d

theorem isDelimited_nil : IsDelimited [] := by simp [IsDelimited]

theorem isDelimited_cons {d : Char} (delimiter : d ∈ delimiters) (rest : List (Option Char)) :
    IsDelimited (some d :: rest) := by
  simpa [IsDelimited] using delimiter

theorem isDelimited_blanks {blanks : List Char} (areBlanks : AreBlanks blanks) {rest : List (Option Char)}
    (delimited : IsDelimited rest) : IsDelimited (blanks.map some ++ rest) := by
  cases blanks with
  | nil => exact delimited
  | cons c blanks =>
    have blank := areBlanks c List.mem_cons_self
    apply isDelimited_cons
    simp only [delimiters, List.mem_cons, List.not_mem_nil, or_false]
    exact .inr (.inr (.inr (.inr blank)))

theorem step_delimiter {part : NumeralPart} (mayEnd : part.mayEnd = true) (n : Numeral) {d : Char}
    (delimiter : d ∈ delimiters) : part.step n d = .over := by
  simp only [delimiters, List.mem_cons, List.not_mem_nil, or_false] at delimiter
  cases part <;> simp [NumeralPart.mayEnd] at mayEnd <;>
    rcases delimiter with rfl | rfl | rfl | rfl | rfl | rfl | rfl | rfl <;> rfl

/-- A numeral ends where a value does. -/
theorem tokensFrom_numeral_of_isDelimited {part : NumeralPart} (mayEnd : part.mayEnd = true)
    (n : Numeral) {rest : List (Option Char)} (delimited : IsDelimited rest) :
    tokensFrom (.numeral part n) rest = numeralToken n :: tokensFrom .between rest := by
  cases rest with
  | nil => simp [tokensFrom, Mode.finish, mayEnd]
  | cons c rest =>
    obtain ⟨d, delimiter, rfl⟩ := delimited c rfl
    simp [tokensFrom, Mode.step, step_delimiter mayEnd n delimiter]

/-- Digits go to a part of the numeral that takes them, the last one first. -/
theorem tokensFrom_digits {part : NumeralPart} {put : List Char → Numeral}
    (takes : ∀ taken c, c.isDigit = true → part.step (put taken) c = .more part (put (c :: taken)))
    {digits : List Char} (areDigits : ∀ c ∈ digits, c.isDigit = true) (taken : List Char)
    (rest : List (Option Char)) :
    tokensFrom (.numeral part (put taken)) (digits.map some ++ rest) =
      tokensFrom (.numeral part (put (digits.reverse ++ taken))) rest := by
  induction digits generalizing taken with
  | nil => rfl
  | cons d digits ih =>
    obtain ⟨digit, others⟩ := List.forall_mem_cons.mp areDigits
    rw [List.reverse_cons, List.append_assoc, List.singleton_append, ← ih others]
    simp [tokensFrom, Mode.step, takes taken d digit]

theorem exists_cons_of_areDigits {digits : List Char} (written : Text.areDigits digits = true) :
    ∃ first others, digits = first :: others ∧ first.isDigit = true ∧ ∀ c ∈ others, c.isDigit = true := by
  cases digits with
  | nil => cases written
  | cons first others =>
    have all : first.isDigit = true ∧ ∀ c ∈ others, c.isDigit = true := by
      simpa [Text.areDigits] using written
    exact ⟨first, others, rfl, all⟩

/-- The digits of an exponent, after its letter and its sign. -/
theorem tokensFrom_exponentDigits {part : NumeralPart} (signed : part = .exponentMark ∨ part = .exponentSign)
    (minus : Bool) (integer fraction : List Char) (minusExponent : Bool) {digits : List Char}
    (written : Text.areDigits digits = true) {rest : List (Option Char)} (delimited : IsDelimited rest) :
    tokensFrom (.numeral part ⟨minus, integer, fraction, some (minusExponent, [])⟩) (digits.map some ++ rest) =
      .number ⟨minus, integer.reverse, fraction.reverse, some (minusExponent, digits)⟩ ::
        tokensFrom .between rest := by
  obtain ⟨first, others, rfl, digit, otherDigits⟩ := exists_cons_of_areDigits written
  have begun : part.step ⟨minus, integer, fraction, some (minusExponent, [])⟩ first =
      .more .exponent ⟨minus, integer, fraction, some (minusExponent, [first])⟩ := by
    rcases signed with rfl | rfl <;> simp [NumeralPart.step, digit]
  have takes (taken : List Char) (c : Char) (digit : c.isDigit = true) :
      NumeralPart.exponent.step ⟨minus, integer, fraction, some (minusExponent, taken)⟩ c =
        .more .exponent ⟨minus, integer, fraction, some (minusExponent, c :: taken)⟩ := by
    simp [NumeralPart.step, digit]
  have read := tokensFrom_digits takes otherDigits [first] rest
  rw [tokensFrom_numeral_of_isDelimited rfl _ delimited] at read
  simpa [tokensFrom, Mode.step, begun, numeralToken] using read

/-- The exponent of a numeral, after the digits before it. -/
theorem tokensFrom_isExponent {part : NumeralPart} (whole : part = .zero ∨ part = .integer ∨ part = .fraction)
    (minus : Bool) (integer fraction : List Char) {exponent : Option (Bool × List Char)} {cs : List Char}
    (scaled : IsExponent exponent cs) {rest : List (Option Char)} (delimited : IsDelimited rest) :
    tokensFrom (.numeral part ⟨minus, integer, fraction, none⟩) (cs.map some ++ rest) =
      .number ⟨minus, integer.reverse, fraction.reverse, exponent⟩ :: tokensFrom .between rest := by
  cases scaled with
  | absent =>
    have mayEnd : part.mayEnd = true := by rcases whole with rfl | rfl | rfl <;> rfl
    exact tokensFrom_numeral_of_isDelimited mayEnd _ delimited
  | @marked mark minusExponent sign digits letter signed written =>
    have marked : part.step ⟨minus, integer, fraction, none⟩ mark =
        .more .exponentMark ⟨minus, integer, fraction, some (false, [])⟩ := by
      rcases whole with rfl | rfl | rfl <;> rcases letter with rfl | rfl <;> rfl
    rw [List.cons_append, List.map_cons, List.cons_append, tokensFrom, Mode.step, marked]
    cases signed with
    | absent => exact tokensFrom_exponentDigits (.inl rfl) minus integer fraction false written delimited
    | plus => exact tokensFrom_exponentDigits (.inr rfl) minus integer fraction false written delimited
    | minus => exact tokensFrom_exponentDigits (.inr rfl) minus integer fraction true written delimited

/-- The digits after the point and the exponent of a numeral, after its whole digits. -/
theorem tokensFrom_isFraction {part : NumeralPart} (whole : part = .zero ∨ part = .integer)
    (minus : Bool) (integer : List Char) {fraction : List Char} {exponent : Option (Bool × List Char)}
    {cs ds : List Char} (fractional : IsFraction fraction cs) (scaled : IsExponent exponent ds)
    {rest : List (Option Char)} (delimited : IsDelimited rest) :
    tokensFrom (.numeral part ⟨minus, integer, [], none⟩) (cs.map some ++ (ds.map some ++ rest)) =
      .number ⟨minus, integer.reverse, fraction, exponent⟩ :: tokensFrom .between rest := by
  cases fractional with
  | absent =>
    have wholeOrFraction : part = .zero ∨ part = .integer ∨ part = .fraction := by
      rcases whole with rfl | rfl <;> simp
    exact tokensFrom_isExponent wholeOrFraction minus integer [] scaled delimited
  | point written =>
    obtain ⟨first, others, rfl, digit, otherDigits⟩ := exists_cons_of_areDigits written
    have pointed : part.step ⟨minus, integer, [], none⟩ '.' = .more .point ⟨minus, integer, [], none⟩ := by
      rcases whole with rfl | rfl <;> rfl
    have takes (taken : List Char) (c : Char) (digit : c.isDigit = true) :
        NumeralPart.fraction.step ⟨minus, integer, taken, none⟩ c =
          .more .fraction ⟨minus, integer, c :: taken, none⟩ := by
      simp [NumeralPart.step, digit]
    have begun : NumeralPart.point.step ⟨minus, integer, [], none⟩ first =
        .more .fraction ⟨minus, integer, [first], none⟩ := by
      simp [NumeralPart.step, digit]
    have read := tokensFrom_digits takes otherDigits [first] (ds.map some ++ rest)
    rw [tokensFrom_isExponent (.inr (.inr rfl)) minus integer _ scaled delimited] at read
    simpa [tokensFrom, Mode.step, pointed, begun] using read

theorem begins_digit {d : Char} (digit : d.isDigit = true) :
    begins (some d) = (.numeral (if d = '0' then .zero else .integer) ⟨false, [d], [], none⟩, []) := by
  have same (c : Char) (other : c.isDigit = false) : d ≠ c := by
    rintro rfl
    rw [digit] at other
    cases other
  by_cases zero : d = '0'
  · subst zero
    rfl
  · unfold begins
    split <;> simp_all

/-- Every text of a numeral is one token. -/
theorem tokensFrom_isWritten {n : Numeral} {cs : List Char} (written : n.IsWritten cs)
    {rest : List (Option Char)} (delimited : IsDelimited rest) :
    tokensFrom .between (cs.map some ++ rest) = .number n :: tokensFrom .between rest := by
  obtain @⟨minus, integer, fraction, fractionText, exponentText, exponent, whole, fractional, scaled⟩ := written
  obtain ⟨areDigits, zeroAlone⟩ := whole
  obtain ⟨first, others, rfl, digit, otherDigits⟩ := exists_cons_of_areDigits areDigits
  -- The first digit decides whether others may follow it.
  have begun (more : List (Option Char)) :
      tokensFrom .between (((if minus then ['-'] else []) ++ [first]).map some ++ more) =
        tokensFrom (.numeral (if first = '0' then .zero else .integer) ⟨minus, [first], [], none⟩) more := by
    cases minus with
    | false => simp [tokensFrom, Mode.step, begins_digit digit]
    | true =>
      have signed : NumeralPart.sign.step ⟨true, [], [], none⟩ first =
          .more (if first = '0' then .zero else .integer) ⟨true, [first], [], none⟩ := by
        by_cases zero : first = '0' <;> simp [NumeralPart.step, zero, digit]
      simp [tokensFrom, Mode.step, begins, signed]
  have read : tokensFrom (.numeral (if first = '0' then .zero else .integer) ⟨minus, [first], [], none⟩)
      (others.map some ++ (fractionText.map some ++ (exponentText.map some ++ rest))) =
      .number ⟨minus, first :: others, fraction, exponent⟩ :: tokensFrom .between rest := by
    by_cases zero : first = '0'
    · subst zero
      obtain rfl : others = [] := by simpa using zeroAlone rfl
      exact tokensFrom_isFraction (.inl rfl) minus ['0'] fractional scaled delimited
    · have takes (taken : List Char) (c : Char) (digit : c.isDigit = true) :
          NumeralPart.integer.step ⟨minus, taken, [], none⟩ c =
            .more .integer ⟨minus, c :: taken, [], none⟩ := by
        simp [NumeralPart.step, digit]
      rw [if_neg zero, tokensFrom_digits takes otherDigits [first],
        tokensFrom_isFraction (.inr rfl) minus _ fractional scaled delimited]
      simp
  rw [← read, ← begun]
  simp

/-- What is written for a number is one of the texts of its digits. -/
theorem isWritten_toString (n : Nat) :
    Numeral.IsWritten ⟨false, Nat.toDigits 10 n, [], none⟩ (toString n).toList := by
  have digits : ∀ c ∈ Nat.toDigits 10 n, c.isDigit = true := fun _ =>
    Nat.isDigit_of_mem_toDigits (by decide) (by decide)
  have whole : IsInteger (Nat.toDigits 10 n) := by
    constructor
    · simpa [Text.areDigits, Nat.toDigits_ne_nil] using digits
    · intro zeroFirst
      rcases Nat.eq_zero_or_pos n with rfl | positive
      · rfl
      · exact absurd zeroFirst (Text.head?_toDigits_ne positive)
  have written : Numeral.IsWritten ⟨false, Nat.toDigits 10 n, [], none⟩
      ((if false then ['-'] else []) ++ Nat.toDigits 10 n ++ [] ++ []) :=
    .digits whole .absent .absent
  simpa using written

/-! ## The number of digits -/

/-- Digits of a number of 64 bits are all taken. -/
theorem takeDigits_of_lt {start : Nat} {digits : List Char}
    (small : digits.foldl (fun n d => n * 10 + Text.digitValue d) start < 2 ^ 64) :
    takeDigits start digits = (digits.foldl (fun n d => n * 10 + Text.digitValue d) start, []) := by
  have grows (digits : List Char) (n : Nat) : n ≤ digits.foldl (fun n d => n * 10 + Text.digitValue d) n := by
    induction digits generalizing n with
    | nil => exact le_rfl
    | cons d digits ih =>
      have more := ih (n * 10 + Text.digitValue d)
      rw [List.foldl_cons]
      omega
  induction digits generalizing start with
  | nil => rfl
  | cons d digits ih =>
    rw [List.foldl_cons] at small ⊢
    have fits : start * 10 + Text.digitValue d < Nat.pow 2 64 := (grows digits _).trans_lt small
    rw [takeDigits, if_pos fits, ih small]

/-- A written number of 64 bits denotes itself. -/
theorem value?_toDigits {n : Nat} (small : n < 2 ^ 64) :
    Numeral.value? ⟨false, Nat.toDigits 10 n, [], none⟩ = some (.natural n) := by
  have value : (Nat.toDigits 10 n).foldl (fun n d => n * 10 + Text.digitValue d) 0 = n :=
    Text.decimalValue_toDigits n
  have taken := takeDigits_of_lt (value.trans_lt small)
  rw [value] at taken
  simp [Numeral.value?, taken]

end BookCatalogue.Json

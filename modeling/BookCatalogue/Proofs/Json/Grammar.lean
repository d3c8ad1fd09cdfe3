import Mathlib
import BookCatalogue.Json.Draft

/-! # The texts of JSON values

The grammar of JSON, beside the automaton that reads it. A draft has many texts: blanks may stand around every
value and every key, a character of a string may be escaped or stand for itself, and the exponent of a
numeral follows a letter of either case. -/

namespace BookCatalogue.Json

open Text (areDigits hexValue?)

/-- Blanks between tokens. -/
def AreBlanks (cs : List Char) : Prop := ∀ c ∈ cs, c = ' ' ∨ c = '\n' ∨ c = '\t' ∨ c = '\r'

/-- A text of some kind between blanks. -/
def Padded (kind : List Char → Prop) (cs : List Char) : Prop :=
  ∃ before inner after, cs = before ++ inner ++ after ∧ AreBlanks before ∧ kind inner ∧ AreBlanks after

theorem Padded.exists_inner {kind : List Char → Prop} {cs : List Char} (padded : Padded kind cs) :
    ∃ inner, kind inner := by
  obtain ⟨_, inner, _, _, _, isKind, _⟩ := padded
  exact ⟨inner, isKind⟩

/-- A text may stand without blanks. -/
theorem Padded.of_kind {kind : List Char → Prop} {cs : List Char} (isKind : kind cs) : Padded kind cs := by
  have none : AreBlanks [] := by simp [AreBlanks]
  exact ⟨[], cs, [], by simp, none, isKind, none⟩

/-! ## Strings -/

/-- The ways to write a piece of a string. -/
inductive Piece.IsWritten : Piece → List Char → Prop
  | plain {c : Char} (notQuote : c ≠ '"') (notBackslash : c ≠ '\\') (notControl : ¬ c.toNat < 0x20) :
      IsWritten (.char c) [c]
  | letter {letter c : Char} (means : escaped? letter = some c) : IsWritten (.char c) ['\\', letter]
  | unit {a b c d : Char} {m n p q : Nat} (first : hexValue? a = some m) (second : hexValue? b = some n)
      (third : hexValue? c = some p) (fourth : hexValue? d = some q) :
      IsWritten (.unit (((m * 16 + n) * 16 + p) * 16 + q)) ['\\', 'u', a, b, c, d]

/-- The texts of a string. Its pieces need not make up a text. -/
inductive IsString : Option String → List Char → Prop
  | quoted {pieces : List Piece} {texts : List (List Char)}
      (written : List.Forall₂ Piece.IsWritten pieces texts) :
      IsString ((assemble? pieces).map String.ofList) ('"' :: texts.flatten ++ ['"'])

/-! ## Numbers -/

/-- A zero, or digits of which the first is none. -/
def IsInteger (digits : List Char) : Prop :=
  areDigits digits = true ∧ (digits.head? = some '0' → digits = ['0'])

inductive IsFraction : List Char → List Char → Prop
  | absent : IsFraction [] []
  | point {digits : List Char} (written : areDigits digits = true) : IsFraction digits ('.' :: digits)

inductive IsExponentSign : Bool → List Char → Prop
  | absent : IsExponentSign false []
  | plus : IsExponentSign false ['+']
  | minus : IsExponentSign true ['-']

inductive IsExponent : Option (Bool × List Char) → List Char → Prop
  | absent : IsExponent none []
  | marked {mark : Char} {minus : Bool} {sign digits : List Char} (letter : mark = 'e' ∨ mark = 'E')
      (signed : IsExponentSign minus sign) (written : areDigits digits = true) :
      IsExponent (some (minus, digits)) (mark :: sign ++ digits)

/-- The texts of a numeral. -/
inductive Numeral.IsWritten : Numeral → List Char → Prop
  | digits {minus : Bool} {integer fraction fractionText exponentText : List Char}
      {exponent : Option (Bool × List Char)} (whole : IsInteger integer)
      (fractional : IsFraction fraction fractionText) (scaled : IsExponent exponent exponentText) :
      IsWritten ⟨minus, integer, fraction, exponent⟩
        ((if minus then ['-'] else []) ++ integer ++ fractionText ++ exponentText)

/-! ## Values -/

mutual

/-- The texts of a draft; none if it is cut. -/
def Draft.IsWritten : Draft → List Char → Prop
  | .null, cs => cs = ['n', 'u', 'l', 'l']
  | .bool true, cs => cs = ['t', 'r', 'u', 'e']
  | .bool false, cs => cs = ['f', 'a', 'l', 's', 'e']
  | .number n, cs => n.IsWritten cs
  | .string content, cs => IsString content cs
  | .array items, cs => ∃ inner, cs = '[' :: inner ++ [']'] ∧ itemsWritten items inner
  | .object members, cs => ∃ inner, cs = '\x7b' :: inner ++ ['\x7d'] ∧ membersWritten members inner
  | .cut, _ => False

def itemsWritten : List Draft → List Char → Prop
  | [], cs => AreBlanks cs
  | [item], cs => Padded item.IsWritten cs
  | item :: next :: more, cs => ∃ first rest, cs = first ++ ',' :: rest ∧ Padded item.IsWritten first ∧
      itemsWritten (next :: more) rest

def membersWritten : List (Option String × Draft) → List Char → Prop
  | [], cs => AreBlanks cs
  | [(key, value)], cs => ∃ name content, cs = name ++ ':' :: content ∧ Padded (IsString key) name ∧
      Padded value.IsWritten content
  | (key, value) :: next :: more, cs => ∃ name content rest, cs = name ++ ':' :: content ++ ',' :: rest ∧
      Padded (IsString key) name ∧ Padded value.IsWritten content ∧ membersWritten (next :: more) rest

end

/-- The JSON texts of a draft. -/
def Draft.IsText (d : Draft) (text : String) : Prop := Padded d.IsWritten text.toList

/-! ## What is written is not cut off -/

mutual

theorem isWhole_of_isWritten (d : Draft) {cs : List Char} (written : d.IsWritten cs) : d.isWhole = true := by
  match d with
  | .null | .bool _ | .number _ | .string _ => rfl
  | .array items =>
    rw [Draft.IsWritten] at written
    obtain ⟨_, _, inner⟩ := written
    exact itemsWhole_of_itemsWritten items inner
  | .object members =>
    rw [Draft.IsWritten] at written
    obtain ⟨_, _, inner⟩ := written
    exact membersWhole_of_membersWritten members inner
  | .cut => simp [Draft.IsWritten] at written

theorem itemsWhole_of_itemsWritten (items : List Draft) {cs : List Char} (written : itemsWritten items cs) :
    itemsWhole items = true := by
  match items with
  | [] => rfl
  | [item] =>
    rw [itemsWritten] at written
    obtain ⟨_, inner⟩ := written.exists_inner
    exact Bool.and_eq_true_iff.mpr ⟨isWhole_of_isWritten item inner, rfl⟩
  | item :: next :: more =>
    rw [itemsWritten] at written
    obtain ⟨_, _, _, first, others⟩ := written
    obtain ⟨_, inner⟩ := first.exists_inner
    exact Bool.and_eq_true_iff.mpr
      ⟨isWhole_of_isWritten item inner, itemsWhole_of_itemsWritten (next :: more) others⟩

theorem membersWhole_of_membersWritten (members : List (Option String × Draft)) {cs : List Char}
    (written : membersWritten members cs) : membersWhole members = true := by
  match members with
  | [] => rfl
  | [(_, value)] =>
    rw [membersWritten] at written
    obtain ⟨_, _, _, _, content⟩ := written
    obtain ⟨_, inner⟩ := content.exists_inner
    exact Bool.and_eq_true_iff.mpr ⟨isWhole_of_isWritten value inner, rfl⟩
  | (_, value) :: next :: more =>
    rw [membersWritten] at written
    obtain ⟨_, _, _, _, _, content, others⟩ := written
    obtain ⟨_, inner⟩ := content.exists_inner
    exact Bool.and_eq_true_iff.mpr
      ⟨isWhole_of_isWritten value inner, membersWhole_of_membersWritten (next :: more) others⟩

end

end BookCatalogue.Json

import Mathlib
import BookCatalogue.Book.Field
import BookCatalogue.Catalogue.Basic
import BookCatalogue.Proofs.Catalogue.Condition
import BookCatalogue.Proofs.Filter.Grammar
import BookCatalogue.Proofs.Prelude
import BookCatalogue.Proofs.Text.Digits
import BookCatalogue.Proofs.Text.Order

/-! # Fields of books as columns of rows

When a row meets a predicate on books, told by the values of the row, and that the tests of the
predicate decide it. The names that filters on books may use are names of columns, and where a filter
may give a number, reading the text as a small number and comparing it with the column agree. -/

namespace BookCatalogue

open BookCatalogue.Filter (Chain Clause Operator Predicate)
open Text (FoldedKey)

/-! ## What rows meet -/

namespace Row

/-- The value of a field equals a text: without case, or as a date, or as a number. -/
def agrees (r : Row) (field text : String) : Bool :=
  match field with
  | "Title" => FoldedKey.of r.title == .of text
  | "Author" => FoldedKey.of r.author == .of text
  | "Isbn" => FoldedKey.of r.isbn == .of text
  | "Description" => FoldedKey.of r.description == .of text
  | "Genre" => FoldedKey.of r.genre == .of text
  | "PublishedDate" => r.publishedDate == text
  | "Edition" => (Book.smallNumber? text).any fun n => r.edition == n.toNat
  | _ => false

/-- The row meets a predicate on books. Dates are put in the order of their bytes. -/
def meets (r : Row) : Predicate → Bool
  | .comparison field .equals value => r.agrees field value
  | .comparison field .differs value => !r.agrees field value
  | .dateRange first last =>
    Text.bytes first ≤ Text.bytes r.publishedDate && Text.bytes r.publishedDate ≤ Text.bytes last

end Row

/-! ## Numbers -/

namespace Catalogue

private theorem isNumberBlank_of_isDigit {c : Char} (digit : c.isDigit = true) :
    isNumberBlank c = false := by
  have low : 48 ≤ c.toNat := (Text.toNat_of_isDigit digit).1
  have notBlank : c ≠ ' ' := by
    rintro rfl
    exact absurd low (by decide)
  simp only [isNumberBlank, notBlank, decide_false, Bool.false_or, Bool.and_eq_false_iff,
    decide_eq_false_iff_not]
  omega

private theorem dropWhile_isNumberBlank {cs : List Char} (notBlank : ∀ c ∈ cs, isNumberBlank c = false) :
    cs.dropWhile isNumberBlank = cs := by
  cases cs with
  | nil => rfl
  | cons c cs => simp [notBlank c List.mem_cons_self]

private theorem trimmed_eq_self {cs : List Char} (notBlank : ∀ c ∈ cs, isNumberBlank c = false) :
    ((cs.dropWhile isNumberBlank).reverse.dropWhile isNumberBlank).reverse = cs := by
  have reversed : ∀ c ∈ cs.reverse, isNumberBlank c = false := fun c member =>
    notBlank c (List.mem_reverse.mp member)
  rw [dropWhile_isNumberBlank notBlank, dropWhile_isNumberBlank reversed, List.reverse_reverse]

/-- Digits, perhaps after a plus sign, write the number that they denote. -/
theorem readNumber?_of_areDigits {s : String} {digits : List Char} (areDigits : Text.areDigits digits = true)
    (text : s.toList = digits ∨ s.toList = '+' :: digits) :
    readNumber? s = some ⟨false, digits, [], 0, true⟩ := by
  simp only [Text.areDigits, Bool.and_eq_true, Bool.not_eq_true', List.all_eq_true] at areDigits
  obtain ⟨notEmpty, isDigit⟩ := areDigits
  have notBlank : ∀ c ∈ s.toList, isNumberBlank c = false := by
    intro c member
    rcases text with same | same
    · exact isNumberBlank_of_isDigit (isDigit c (same ▸ member))
    · rcases List.mem_cons.mp (same ▸ member) with rfl | inside
      · decide
      · exact isNumberBlank_of_isDigit (isDigit c inside)
  have signed : readSign s.toList = (false, digits) := by
    rcases text with same | same
    · rw [same]
      unfold readSign
      split
      · exact absurd (isDigit '-' List.mem_cons_self) (by decide)
      · exact absurd (isDigit '+' List.mem_cons_self) (by decide)
      · rfl
    · rw [same, readSign]
  have all : digits.takeWhile Char.isDigit = digits := List.takeWhile_eq_self_iff.mpr isDigit
  have nothing : digits.dropWhile Char.isDigit = [] := List.dropWhile_eq_nil_iff.mpr isDigit
  simp [readNumber?, trimmed_eq_self notBlank, signed, all, nothing, notEmpty]

/-- A text that is a small number equals just the edition of that number. -/
theorem textEqualsInteger_of_smallNumber? {s : String} {k : UInt8} (small : Book.smallNumber? s = some k)
    (n : Int) : textEqualsInteger s n = (n == k.toNat) := by
  obtain ⟨digits, text, areDigits, bound, rfl⟩ : ∃ digits,
      (s.toList = digits ∨ s.toList = '+' :: digits) ∧ Text.areDigits digits = true ∧
        Text.decimalValue digits < 256 ∧ UInt8.ofNat (Text.decimalValue digits) = k := by
    unfold Book.smallNumber? at small
    dsimp only at small
    split at small
    · next rest same =>
      obtain ⟨accepted, value⟩ := Option.ite_none_right_eq_some.mp small
      exact ⟨rest, .inr same, accepted.1, accepted.2, Option.some.inj value⟩
    · obtain ⟨accepted, value⟩ := Option.ite_none_right_eq_some.mp small
      exact ⟨s.toList, .inl rfl, accepted.1, accepted.2, Option.some.inj value⟩
  rw [textEqualsInteger, readNumber?_of_areDigits areDigits text]
  have value : (UInt8.ofNat (Text.decimalValue digits)).toNat = Text.decimalValue digits := by
    rw [UInt8.toNat_ofNat']
    omega
  have whole : -(Nat.pow 2 63 : Int) ≤ Text.decimalValue digits ∧
      (Text.decimalValue digits : Int) < Nat.pow 2 63 := by
    have power : (Nat.pow 2 63 : Int) = 9223372036854775808 := by norm_num
    omega
  simp only [WrittenNumber.equals, Bool.false_eq_true, if_false, true_and, if_pos whole, value]
  rw [Bool.eq_iff_iff, decide_eq_true_eq, beq_iff_eq]
  exact eq_comm

end Catalogue

/-! ## Predicates on books -/

/-- A predicate that filters on books may hold: its value suits the field that it names. -/
def Filter.Predicate.IsOnBooks : Predicate → Prop
  | .comparison field _ value => Book.acceptsValue field value = true
  | .dateRange _ _ => True

theorem Filter.Clause.Denotes.isOnBooks {c : Clause} {p : Predicate} (denotes : c.Denotes Book.schema p) :
    p.IsOnBooks := by
  cases denotes with
  | range => trivial
  | comparison _ _ _ suits => exact suits

/-- Filters on books hold predicates on books. -/
theorem Book.isOnBooks_of_parseFilter {raw : String} {chain : Chain}
    (accepted : Book.parseFilter raw = .ok chain) : ∀ p ∈ chain, p.IsOnBooks := by
  obtain ⟨clauses, _, denoted⟩ := Filter.exists_grammatical_of_parse accepted
  clear accepted
  generalize Filter.kept clauses = kept at denoted
  induction denoted with
  | nil => simp
  | cons denotes _ ih => exact List.forall_mem_cons.mpr ⟨denotes.isOnBooks, ih⟩

namespace Catalogue

/-- The column of a field equals a suitable text just when the field does. -/
theorem exists_column_agrees {field value : String} (suits : Book.acceptsValue field value = true) :
    ∃ column, Column.named? (Naming.column field) = some column ∧
      ∀ times number row, column.equals? times number row value = some (row.agrees field value) := by
  cases known : Book.fieldKind? field with
  | none => simp [Book.acceptsValue, known] at suits
  | some kind =>
    have member : (field, kind) ∈ Book.fields := mem_of_lookup_eq_some known
    simp only [Book.fields, List.mem_cons, Prod.mk.injEq, List.not_mem_nil, or_false] at member
    rcases member with ⟨rfl, rfl⟩ | ⟨rfl, rfl⟩ | ⟨rfl, rfl⟩ | ⟨rfl, rfl⟩ | ⟨rfl, rfl⟩ | ⟨rfl, rfl⟩ |
      ⟨rfl, rfl⟩
    · exact ⟨.title, by decide, fun _ _ _ => rfl⟩
    · exact ⟨.author, by decide, fun _ _ _ => rfl⟩
    · exact ⟨.isbn, by decide, fun _ _ _ => rfl⟩
    · exact ⟨.publishedDate, by decide, fun _ _ _ => rfl⟩
    · refine ⟨.edition, by decide, fun times number row => ?_⟩
      simp only [Book.acceptsValue, known] at suits
      obtain ⟨k, small⟩ := Option.isSome_iff_exists.mp suits
      simp [Column.equals?, Row.agrees, small, textEqualsInteger_of_smallNumber? small]
    · exact ⟨.description, by decide, fun _ _ _ => rfl⟩
    · exact ⟨.genre, by decide, fun _ _ _ => rfl⟩

/-- A predicate on books stands for tests, which the rows that meet it pass. -/
theorem exists_tests_meets {p : Predicate} (onBooks : p.IsOnBooks) :
    ∃ tests, p.tests? = some tests ∧
      ∀ times number row, tests.all (Test.passes times number row) = row.meets p := by
  cases p with
  | comparison field operator value =>
    obtain ⟨column, named, agrees⟩ := exists_column_agrees onBooks
    refine ⟨[.comparison column operator value], ?_, fun times number row => ?_⟩
    · change (Column.named? (Naming.column field)).map _ = _
      rw [named, Option.map_some]
    · have equal := agrees times number row
      cases operator <;> cases agreed : row.agrees field value <;>
        simp [Test.passes, equal, holds, Row.meets, agreed]
  | dateRange first last =>
    refine ⟨[.notBefore first, .notAfter last], rfl, fun times number row => ?_⟩
    simp [Test.passes, Row.meets, Text.bytes_le_iff]

/-- A chain of predicates on books is a sensible condition, which the rows that meet all of them
pass at all times. -/
theorem exists_tests_all_meets {chain : Chain} (onBooks : ∀ p ∈ chain, p.IsOnBooks) :
    ∃ tests, tests? chain.fragment chain.params = some tests ∧
      ∀ times number row, tests.all (Test.passes times number row) = chain.all row.meets := by
  rw [tests?_fragment]
  induction chain with
  | nil => exact ⟨[], rfl, fun _ _ _ => rfl⟩
  | cons p chain ih =>
    obtain ⟨head, tail⟩ := List.forall_mem_cons.mp onBooks
    obtain ⟨first, stands, meets⟩ := exists_tests_meets head
    obtain ⟨others, stand, meetAll⟩ := ih tail
    obtain ⟨lists, read, rfl⟩ := Option.map_eq_some_iff.mp stand
    refine ⟨first ++ lists.flatten, ?_, fun times number row => ?_⟩
    · rw [List.mapM_cons, stands, read]
      rfl
    · rw [List.all_append, meets, meetAll, List.all_cons]

/-- Tests that only look at the values of a row select rows by these values. -/
theorem select_eq_filter (c : Catalogue) {times : Times} {tests : List Test} {keep : Row → Bool}
    (same : ∀ number row, tests.all (Test.passes times number row) = keep row) :
    c.select times tests = c.rows.filter keep := by
  unfold select
  generalize 1 = start
  simp only [same]
  induction c.rows generalizing start with
  | nil => rfl
  | cons r rows ih =>
    rw [List.zipIdx_cons, List.filterMap_cons, ih, List.filter_cons]
    cases keep r <;> rfl

end Catalogue

end BookCatalogue

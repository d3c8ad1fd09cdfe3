import Mathlib
import BookCatalogue.Proofs.Book.Date
import BookCatalogue.Proofs.Prelude
import BookCatalogue.Proofs.Text.Order

/-! # The order of written dates

Dates of the years 0 to 9999 are written with ten characters, so that their texts are in the order of
the calendar. Any other year has a sign in front, and a sign comes before all digits: the texts of those
dates come before all unsigned ones, whether the dates do or not. A range between two unsigned dates is
therefore the same by text and by calendar for every date, and other ranges need not be. -/

namespace BookCatalogue

namespace Date

open Text

theorem padded_inj {width m n : Nat} : padded width m = padded width n ↔ m = n := by
  constructor
  · intro same
    rw [← decimalValue_padded width m, same, decimalValue_padded]
  · rintro rfl
    rfl

/-- Padded numbers behind which something follows decide before it. -/
theorem padded_append_lt_iff {width m n : Nat} (positive : 0 < width) (bound : m < 10 ^ width)
    (bound' : n < 10 ^ width) (more others : List Char) :
    padded width m ++ more < padded width n ++ others ↔ m < n ∨ m = n ∧ more < others := by
  have sameLength : (padded width m).length = (padded width n).length := by
    rw [length_padded positive bound, length_padded positive bound']
  rw [append_lt_append_iff sameLength, padded_inj,
    lt_iff_decimalValue_lt (fun _ => isDigit_of_mem_padded) (fun _ => isDigit_of_mem_padded) sameLength,
    decimalValue_padded, decimalValue_padded]

/-! ## The calendar -/

instance : LE Date := leOfOrd

instance : LT Date := ltOfOrd

/-- Years decide before months, and months before days. -/
theorem lt_iff {a b : Date} :
    a < b ↔ a.year < b.year ∨ a.year = b.year ∧
      (a.month < b.month ∨ a.month = b.month ∧ a.day < b.day) := by
  change ordering a b = .lt ↔ _
  simp only [ordering, Ordering.then_eq_lt, compare_lt_iff_lt, compare_eq_iff_eq]

theorem le_iff {a b : Date} :
    a ≤ b ↔ a.year < b.year ∨ a.year = b.year ∧
      (a.month < b.month ∨ a.month = b.month ∧ a.day ≤ b.day) := by
  change (ordering a b).isLE = true ↔ _
  simp only [ordering, Ordering.isLE_then_iff_or, compare_lt_iff_lt, compare_eq_iff_eq, Std.isLE_compare]

theorem not_le {a b : Date} : ¬ a ≤ b ↔ b < a := by
  rw [le_iff, lt_iff]
  omega

/-! ## Texts and the calendar -/

/-- The year is written without a sign. -/
def IsUnsigned (d : Date) : Prop := 0 ≤ d.year ∧ d.year ≤ 9999

instance : DecidablePred IsUnsigned := fun _ => inferInstanceAs (Decidable (_ ∧ _))

theorem yearChars_of_isUnsigned {d : Date} (unsigned : d.IsUnsigned) :
    yearChars d.year = padded 4 d.year.toNat := by
  obtain ⟨notNegative, small⟩ := unsigned
  rw [yearChars, if_neg (by omega), if_pos small]

/-- The texts of unsigned dates are in the order of the calendar. -/
theorem toChars_lt_iff {a b : Date} (unsigned : a.IsUnsigned) (unsigned' : b.IsUnsigned) :
    a.toChars < b.toChars ↔ a < b := by
  obtain ⟨month, day⟩ := a.month_lt_and_day_lt
  obtain ⟨month', day'⟩ := b.month_lt_and_day_lt
  have years : a.year.toNat < 10 ^ 4 ∧ b.year.toNat < 10 ^ 4 := by
    unfold IsUnsigned at unsigned unsigned'
    omega
  have days : padded 2 a.day < padded 2 b.day ↔ a.day < b.day := by
    have ends := padded_append_lt_iff (by decide) day day' [] []
    simpa using ends
  rw [toChars, toChars, yearChars_of_isUnsigned unsigned, yearChars_of_isUnsigned unsigned',
    List.append_assoc, List.append_assoc, padded_append_lt_iff (by decide) years.1 years.2,
    List.cons_append, List.cons_append, List.cons_lt_cons_iff,
    padded_append_lt_iff (by decide) month month', List.cons_lt_cons_iff, days, lt_iff]
  obtain ⟨notNegative, _⟩ := unsigned
  obtain ⟨notNegative', _⟩ := unsigned'
  have less : a.year.toNat < b.year.toNat ↔ a.year < b.year := by omega
  have same : a.year.toNat = b.year.toNat ↔ a.year = b.year := by omega
  have dash : ¬ '-' < '-' := lt_irrefl _
  simp only [less, same, dash, false_or, true_and]

/-- A sign comes before all digits. -/
theorem toChars_lt_of_not_isUnsigned {a b : Date} (signed : ¬ a.IsUnsigned) (unsigned : b.IsUnsigned) :
    a.toChars < b.toChars := by
  obtain ⟨digit, digits, year⟩ := List.exists_cons_of_ne_nil (padded_ne_nil 4 b.year.toNat)
  have isDigit : digit.isDigit = true :=
    isDigit_of_mem_padded (year ▸ List.mem_cons_self : digit ∈ padded 4 b.year.toNat)
  obtain ⟨sign, rest, text, below⟩ : ∃ sign rest, a.toChars = sign :: rest ∧ sign.toNat < 48 := by
    unfold IsUnsigned at signed
    rw [toChars, yearChars]
    split_ifs with negative small
    · exact ⟨'-', _, rfl, by decide⟩
    · omega
    · exact ⟨'+', _, rfl, by decide⟩
  have less : sign < digit := Nat.lt_of_lt_of_le below (toNat_of_isDigit isDigit).1
  rw [text, toChars, yearChars_of_isUnsigned unsigned, year]
  exact List.cons_lt_cons_iff.mpr (.inl less)

theorem render_lt_iff {a b : Date} : a.render < b.render ↔ a.toChars < b.toChars := by
  rw [String.lt_iff_toList_lt, render, render, String.toList_ofList, String.toList_ofList]

/-- The texts of unsigned dates are by their bytes in the order of the calendar. -/
theorem bytes_render_le_iff {a b : Date} (unsigned : a.IsUnsigned) (unsigned' : b.IsUnsigned) :
    bytes a.render ≤ bytes b.render ↔ a ≤ b := by
  rw [bytes_le_iff, ← not_lt, render_lt_iff, toChars_lt_iff unsigned' unsigned, ← not_le, not_not]

theorem not_bytes_render_le_of_not_isUnsigned {a b : Date} (unsigned : a.IsUnsigned) (signed : ¬ b.IsUnsigned) :
    ¬ bytes a.render ≤ bytes b.render := by
  rw [bytes_le_iff, String.not_le, render_lt_iff]
  exact toChars_lt_of_not_isUnsigned signed unsigned

/-- Between two unsigned dates lie the same dates by text and by calendar, no signed one among them. -/
theorem bytes_render_between_iff {first last : Date} (unsigned : first.IsUnsigned)
    (unsigned' : last.IsUnsigned) (d : Date) :
    bytes first.render ≤ bytes d.render ∧ bytes d.render ≤ bytes last.render ↔ first ≤ d ∧ d ≤ last := by
  by_cases inside : d.IsUnsigned
  · rw [bytes_render_le_iff unsigned inside, bytes_render_le_iff inside unsigned']
  · have before := not_bytes_render_le_of_not_isUnsigned unsigned inside
    refine iff_of_false (fun between => before between.1) ?_
    rintro ⟨notBefore, notAfter⟩
    rw [le_iff] at notBefore notAfter
    unfold IsUnsigned at unsigned unsigned' inside
    omega

end Date

end BookCatalogue

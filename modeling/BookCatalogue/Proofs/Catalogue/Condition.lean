import Mathlib
import BookCatalogue.Catalogue.Condition
import BookCatalogue.Filter.Chain
import BookCatalogue.Proofs.Naming

/-! # Rendered conditions are read back

The condition of a chain is a text and its parameters travel beside it. Reading that text gives the
comparisons of the predicates in their order, since a column name holds neither a blank nor a capital,
and each parameter meets the comparison that it was rendered for, however predicates with one
parameter and with two follow each other. -/

namespace BookCatalogue

open BookCatalogue.Filter (Chain Operator Predicate)
open Text

namespace Filter.Predicate

/-- The names and signs in the condition of a predicate. -/
def comparisons (p : Predicate) : List (String × String) :=
  match p with
  | comparison _ operator _ => [(p.column, operator.symbol)]
  | dateRange _ _ => [(p.column, ">="), (p.column, "<=")]

/-- The tests that a predicate stands for, if its column exists. -/
def tests? (p : Predicate) : Option (List Catalogue.Test) :=
  match p with
  | comparison _ operator value =>
    (Catalogue.Column.named? p.column).map fun column => [.comparison column operator value]
  | dateRange first last => some [.notBefore first, .notAfter last]

theorem comparisons_ne_nil (p : Predicate) : p.comparisons ≠ [] := by
  cases p <;> simp [comparisons]

theorem length_comparisons (p : Predicate) : p.comparisons.length = p.params.length := by
  cases p <;> rfl

theorem column_dateRange (first last : String) : (dateRange first last).column = "published_date" := by
  change Naming.column dateRangeColumn = _
  decide

end Filter.Predicate

namespace Catalogue

/-! ## The text of a comparison -/

def comparisonChars (head : String × String) : List Char :=
  joinWith [' '] [head.1.toList, head.2.toList, ['?']]

/-- A name and a sign that hold neither the blank between the parts of a comparison nor the capital
that a conjunction begins with. -/
def IsUnambiguous (head : String × String) : Prop :=
  ∀ part ∈ [head.1.toList, head.2.toList], ' ' ∉ part ∧ 'A' ∉ part

theorem comparison?_comparisonChars {head : String × String} (clear : IsUnambiguous head) :
    comparison? (comparisonChars head) = some head := by
  have parts : ∀ part ∈ [head.1.toList, head.2.toList, ['?']], ' ' ∉ part := by
    intro part member
    rcases List.mem_append.mp (show part ∈ [_, _] ++ [['?']] from member) with own | mark
    · exact (clear part own).1
    · rw [List.mem_singleton.mp mark]
      decide
  have pieces : splitOn [' '] (comparisonChars head) = [head.1.toList, head.2.toList, ['?']] :=
    splitOn_singleton_eq_iff.mpr ⟨⟨List.cons_ne_nil _ _, parts⟩, rfl⟩
  rw [comparison?, pieces]
  simp only [String.ofList_toList]

theorem capital_not_mem_comparisonChars {head : String × String} (clear : IsUnambiguous head) :
    'A' ∉ comparisonChars head := by
  have name := (clear head.1.toList (by simp)).2
  have sign := (clear head.2.toList (by simp)).2
  simp [comparisonChars, joinWith, name, sign]

/-- No conjunction begins in a text without its capital, not even with the start of one behind it. -/
theorem not_conjunction_infix {piece : List Char} (absent : 'A' ∉ piece) :
    ¬ conjunction <:+: piece ++ conjunction.dropLast := by
  intro occurs
  have capital : 'A' ∈ conjunction := by decide
  rcases List.infix_append_iff.mp occurs with inside | outside | ⟨left, right, parts, suffix, start⟩
  · exact absent (inside.subset capital)
  · exact absurd outside.length_le (by decide)
  -- What crosses into the start of a conjunction is one blank at most, since a conjunction ends in one.
  have noCapital : 'A' ∉ left := fun member => absent (suffix.subset member)
  simp only [conjunction, List.dropLast_cons_cons, List.dropLast_singleton, List.prefix_cons_iff,
    List.prefix_nil] at start
  rcases start with rfl | ⟨_, rfl, rfl | ⟨_, rfl, rfl | ⟨_, rfl, rfl | ⟨_, rfl, rfl⟩⟩⟩⟩
  · rw [List.append_nil] at parts
    exact noCapital (parts ▸ capital)
  · have whole : [' ', 'A', 'N', 'D'] = left :=
      List.append_cancel_right (show [' ', 'A', 'N', 'D'] ++ [' '] = left ++ [' '] from parts)
    exact noCapital (whole ▸ by decide)
  · simpa [conjunction] using congrArg List.getLast? parts
  · simpa [conjunction] using congrArg List.getLast? parts
  · simpa [conjunction] using congrArg List.getLast? parts

theorem separated_comparisonChars {heads : List (String × String)} (notEmpty : heads ≠ [])
    (clear : ∀ head ∈ heads, IsUnambiguous head) :
    Separated conjunction (heads.map comparisonChars) := by
  induction heads with
  | nil => exact absurd rfl notEmpty
  | cons head heads ih =>
    obtain ⟨clearHead, clearTail⟩ := List.forall_mem_cons.mp clear
    have absent := not_conjunction_infix (capital_not_mem_comparisonChars clearHead)
    cases heads with
    | nil => exact fun occurs => absent (occurs.trans (List.prefix_append _ _).isInfix)
    | cons next more =>
      rw [List.map_cons, separated_cons (by simp)]
      exact ⟨absent, ih (List.cons_ne_nil next more) clearTail⟩

/-- The comparisons in the join of their texts. -/
theorem mapM_comparison?_splitOn {heads : List (String × String)} (notEmpty : heads ≠ [])
    (clear : ∀ head ∈ heads, IsUnambiguous head) :
    (splitOn conjunction (joinWith conjunction (heads.map comparisonChars))).mapM comparison? =
      some heads := by
  rw [(separated_comparisonChars notEmpty clear).splitOn_joinWith (by decide)]
  clear notEmpty
  induction heads with
  | nil => rfl
  | cons head heads ih =>
    obtain ⟨clearHead, clearTail⟩ := List.forall_mem_cons.mp clear
    rw [List.map_cons, List.mapM_cons, comparison?_comparisonChars clearHead, ih clearTail]
    rfl

/-! ## The text of a chain -/

theorem isUnambiguous_comparisons (p : Predicate) : ∀ head ∈ p.comparisons, IsUnambiguous head := by
  have name : ' ' ∉ p.column.toList ∧ 'A' ∉ p.column.toList :=
    ⟨Naming.not_mem_column (by decide) p.field, Naming.not_mem_column (by decide) p.field⟩
  intro head member
  cases p with
  | comparison field operator value =>
    rw [List.mem_singleton.mp member]
    have sign : ' ' ∉ operator.symbol.toList ∧ 'A' ∉ operator.symbol.toList := by
      cases operator <;> decide
    simpa [IsUnambiguous] using ⟨name, sign⟩
  | dateRange first last =>
    rcases List.mem_pair.mp member with rfl | rfl
    · simpa [IsUnambiguous] using name
    · simpa [IsUnambiguous] using name

theorem toList_fragment (p : Predicate) :
    p.fragment.toList = joinWith conjunction (p.comparisons.map comparisonChars) := by
  cases p <;>
    simp [Predicate.fragment, Predicate.comparisons, comparisonChars, joinWith, conjunction]

theorem comparisons?_fragment (chain : Chain) :
    comparisons? chain.fragment = some (chain.flatMap Predicate.comparisons) := by
  cases chain with
  | nil => rfl
  | cons p chain =>
    have text : (Chain.fragment (p :: chain)).toList =
        joinWith conjunction (((p :: chain).flatMap Predicate.comparisons).map comparisonChars) := by
      rw [List.map_flatMap, joinWith_flatMap _ fun p => by simp [p.comparisons_ne_nil], Chain.fragment,
        joinStrings, String.toList_ofList, List.map_map]
      exact congrArg (joinWith conjunction) (List.map_congr_left fun p _ => toList_fragment p)
    have notEmpty : (p :: chain).flatMap Predicate.comparisons ≠ [] := by
      simp [p.comparisons_ne_nil]
    have clear : ∀ head ∈ (p :: chain).flatMap Predicate.comparisons, IsUnambiguous head := by
      intro head member
      obtain ⟨q, _, inside⟩ := List.mem_flatMap.mp member
      exact isUnambiguous_comparisons q head inside
    have read := mapM_comparison?_splitOn notEmpty clear
    rw [← text] at read
    have notBlank : Chain.fragment (p :: chain) ≠ "" := by
      intro blank
      rw [blank] at read
      exact absurd read (by simp [splitOn, splitAfter, comparison?])
    rw [comparisons?, if_neg notBlank, read]

/-! ## Parameters -/

theorem bind?_append {heads more : List (String × String)} {values others : List String}
    (same : heads.length = values.length) :
    bind? (heads ++ more) (values ++ others) =
      (bind? heads values).bind fun tests => (bind? more others).map (tests ++ ·) := by
  induction heads generalizing values with
  | nil =>
    obtain rfl : values = [] := List.length_eq_zero_iff.mp same.symm
    simp [bind?]
  | cons head heads ih =>
    cases values with
    | nil => simp at same
    | cons value values =>
      have rest := ih (Nat.succ.inj same)
      simp only [List.cons_append, bind?, rest]
      cases Test.named? head.1 head.2 value with
      | none => rfl
      | some test =>
        cases bind? heads values with
        | none => rfl
        | some tests => cases bind? more others <;> rfl

theorem bind?_comparisons (p : Predicate) : bind? p.comparisons p.params = p.tests? := by
  cases p with
  | comparison field operator value =>
    simp only [Predicate.comparisons, Predicate.params, Predicate.tests?, bind?, Test.named?]
    cases Column.named? (Predicate.comparison field operator value).column with
    | none => rfl
    | some column => cases operator <;> rfl
  | dateRange first last =>
    have known : Column.named? "published_date" = some .publishedDate := by decide
    simp only [Predicate.comparisons, Predicate.params, Predicate.tests?, bind?, Test.named?,
      Predicate.column_dateRange, known]
    rfl

/-- The condition of a chain, read with its parameters, gives the tests of the predicates one after
another. -/
theorem tests?_fragment (chain : Chain) :
    tests? chain.fragment chain.params = (chain.mapM Predicate.tests?).map List.flatten := by
  rw [tests?, comparisons?_fragment, Option.bind_some, Chain.params]
  induction chain with
  | nil => rfl
  | cons p chain ih =>
    rw [List.flatMap_cons, List.flatMap_cons, bind?_append p.length_comparisons, ih,
      bind?_comparisons, List.mapM_cons]
    cases p.tests? with
    | none => rfl
    | some tests => cases chain.mapM Predicate.tests? <;> rfl

end Catalogue

end BookCatalogue

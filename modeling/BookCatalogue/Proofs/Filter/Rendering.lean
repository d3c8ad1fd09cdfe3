import Mathlib
import BookCatalogue.Proofs.Filter.Grammar

/-! # Conditions hold no values

The condition of a predicate names a column and has one `?` for each parameter; the text depends on
the field and the token of its clause alone. A chain joins such conditions, so whatever the values
of an accepted filter are, they reach the parameters only. -/

namespace BookCatalogue.Filter

open Naming (IsColumnName)
open Text

variable {schema : Schema} {c : Clause} {p : Predicate} {raw : String} {clauses : List Clause}
  {chain : Chain}

/-- A comparison of one column, or the range of dates, with a `?` for each value. -/
inductive IsCondition : String → Prop
  | equal {column : String} (named : IsColumnName column) : IsCondition (column ++ " = ?")
  | differ {column : String} (named : IsColumnName column) : IsCondition (column ++ " <> ?")
  | range : IsCondition "published_date >= ? AND published_date <= ?"

namespace Predicate

@[simp] theorem fragment_dateRange (first last : String) :
    (dateRange first last).fragment = "published_date >= ? AND published_date <= ?" := by
  have column : (dateRange first last).column = "published_date" := by
    change Naming.column dateRangeColumn = _
    decide
  rw [fragment, column]
  decide

theorem isCondition_fragment (p : Predicate) : IsCondition p.fragment := by
  cases p with
  | comparison field operator value =>
    have named := Naming.isColumnName_column field
    cases operator with
    | equals =>
      have text : (comparison field .equals value).fragment = Naming.column field ++ " = ?" := by
        simp [← String.toList_inj, fragment, column, Predicate.field, Operator.symbol]
      exact text ▸ .equal named
    | differs =>
      have text : (comparison field .differs value).fragment = Naming.column field ++ " <> ?" := by
        simp [← String.toList_inj, fragment, column, Predicate.field, Operator.symbol]
      exact text ▸ .differ named
  | dateRange first last => exact fragment_dateRange first last ▸ .range

theorem count_fragment (p : Predicate) : p.fragment.toList.count '?' = p.params.length := by
  cases p with
  | comparison field operator value =>
    have absent : '?' ∉ (Naming.column field).toList := Naming.not_mem_column (by decide) field
    cases operator <;>
      simp [fragment, column, Predicate.field, Operator.symbol, params, List.count_eq_zero.mpr absent]
  | dateRange first last =>
    rw [fragment_dateRange]
    rfl

end Predicate

/-! ## Chains -/

theorem Chain.count_fragment (chain : Chain) :
    chain.fragment.toList.count '?' = chain.params.length := by
  have separator : " AND ".toList.count '?' = 0 := by decide
  rw [Chain.fragment, joinStrings, String.toList_ofList, count_joinWith, separator, Nat.mul_zero, Nat.add_zero,
    Chain.params, List.length_flatMap, List.map_map, List.map_map]
  exact congrArg List.sum (List.map_congr_left fun p _ => p.count_fragment)

/-! ## What the clauses contribute -/

/-- The condition of a clause, told from its field and token. -/
def conditionOf (field token : String) : String :=
  if Naming.camel field = dateRangeField then "published_date >= ? AND published_date <= ?"
  else Naming.column (Naming.camel field) ++ (if token = "eq" then " = ?" else " <> ?")

/-- The parameters of a clause: the bounds of its range, or its one meant value. -/
def Clause.meantValues (c : Clause) : List String :=
  if c.name = dateRangeField then (splitOn rangeSeparator c.value.toList).map String.ofList
  else [meant c.value]

theorem Clause.Denotes.fragment_eq (denotes : c.Denotes schema p) :
    p.fragment = conditionOf c.field c.token := by
  unfold conditionOf
  cases denotes with
  | range named =>
    change Naming.camel c.field = _ at named
    rw [Predicate.fragment_dateRange, if_pos named]
  | @comparison operator named _ spelled =>
    change Naming.camel c.field ≠ _ at named
    rw [if_neg named, spelled]
    cases operator <;>
      simp [← String.toList_inj, Predicate.fragment, Predicate.column, Predicate.field,
        Operator.symbol, Operator.token, Clause.name]

theorem Clause.Denotes.params_eq (denotes : c.Denotes schema p) : p.params = c.meantValues := by
  cases denotes with
  | range named bounds =>
    rw [Clause.meantValues, if_pos named, bounds]
    rfl
  | comparison named =>
    rw [Clause.meantValues, if_neg named]
    rfl

theorem fragment_of_denoted (denoted : List.Forall₂ (Clause.Denotes schema) clauses chain) :
    chain.fragment = joinStrings " AND " (clauses.map fun c => conditionOf c.field c.token) := by
  have fragments : chain.map Predicate.fragment =
      clauses.map fun c => conditionOf c.field c.token := by
    induction denoted with
    | nil => rfl
    | cons denotes _ ih => rw [List.map_cons, List.map_cons, denotes.fragment_eq, ih]
  rw [Chain.fragment, fragments]

theorem params_of_denoted (denoted : List.Forall₂ (Clause.Denotes schema) clauses chain) :
    chain.params = clauses.flatMap Clause.meantValues := by
  induction denoted with
  | nil => rfl
  | cons denotes _ ih =>
    rw [List.flatMap_cons, ← denotes.params_eq, ← ih]
    rfl

/-- The kept clauses are chosen by the fields, so equal fields and tokens stay equal. -/
theorem map_kept_congr {others : List Clause}
    (same : others.map (fun c => (c.field, c.token)) = clauses.map fun c => (c.field, c.token)) :
    (kept others).map (fun c => (c.field, c.token)) =
      (kept clauses).map fun c => (c.field, c.token) := by
  have chosen (list : List Clause) : (kept list).map (fun c => (c.field, c.token)) =
      ((list.map fun c => (c.field, c.token)).find?
        fun head => Naming.camel head.1 == identifierField).elim
          (list.map fun c => (c.field, c.token)) fun head => [head] := by
    have found : (list.map fun c => (c.field, c.token)).find?
        (fun head => Naming.camel head.1 == identifierField) =
          (identifying? list).map fun c => (c.field, c.token) := by
      rw [List.find?_map]
      rfl
    rw [found, kept]
    cases identifying? list <;> rfl
  rw [chosen, chosen, same]

/-- The condition of an accepted filter has a fixed shape with a `?` for each of its meant values,
and it is the same for every accepted filter with these fields and tokens. -/
theorem render_holds_no_value (success : parse schema raw = .ok chain) :
    ∃ clauses, Spelled raw clauses ∧
      (∃ items, chain.fragment = joinStrings " AND " items ∧ items.length = chain.length ∧
        ∀ item ∈ items, IsCondition item) ∧
      chain.fragment.toList.count '?' = chain.params.length ∧
      chain.params = (kept clauses).flatMap Clause.meantValues ∧
      ∀ schema' raw' chain' clauses', parse schema' raw' = .ok chain' → Spelled raw' clauses' →
        clauses'.map (fun c => (c.field, c.token)) = clauses.map (fun c => (c.field, c.token)) →
        chain'.fragment = chain.fragment := by
  obtain ⟨clauses, grammatical, denoted⟩ := exists_grammatical_of_parse success
  refine ⟨clauses, grammatical.spelled, ⟨_, rfl, List.length_map _, ?_⟩, chain.count_fragment,
    params_of_denoted denoted, ?_⟩
  · intro item member
    obtain ⟨p, _, rfl⟩ := List.mem_map.mp member
    exact p.isCondition_fragment
  · intro schema' raw' chain' clauses' success' spelled' same
    obtain ⟨others, grammatical', denoted'⟩ := exists_grammatical_of_parse success'
    obtain rfl := spelled'.unique grammatical'.spelled
    have conditions := congrArg (List.map fun head => conditionOf head.1 head.2)
      (map_kept_congr same)
    rw [List.map_map, List.map_map] at conditions
    rw [fragment_of_denoted denoted, fragment_of_denoted denoted']
    exact congrArg (joinStrings " AND ") conditions

/-- A hostile value and a hostile field leave the shape of the condition alone. -/
theorem render_holds_no_value_hostile :
    let raw := "title;drop-table-x--_eq_x'-OR-'1'='1_and_dates_no_?-to-;"
    let chain : Chain :=
      [.comparison "TitleDropTableX" .equals "x' OR '1'='1", .dateRange "?" ";"]
    parse Schema.any raw = .ok chain ∧ ∃ clauses, Spelled raw clauses ∧
      (∃ items, chain.fragment = joinStrings " AND " items ∧ items.length = chain.length ∧
        ∀ item ∈ items, IsCondition item) ∧
      chain.fragment.toList.count '?' = chain.params.length ∧
      chain.params = (kept clauses).flatMap Clause.meantValues ∧
      ∀ schema' raw' chain' clauses', parse schema' raw' = .ok chain' → Spelled raw' clauses' →
        clauses'.map (fun c => (c.field, c.token)) = clauses.map (fun c => (c.field, c.token)) →
        chain'.fragment = chain.fragment := by
  intro raw chain
  have success : parse Schema.any raw = .ok chain := by decide
  exact ⟨success, render_holds_no_value success⟩

end BookCatalogue.Filter

import Mathlib
import BookCatalogue.Proofs.Filter.Encoding

/-! # Separators in the parts of a query

The parts of a clause are not escaped when a query is encoded, so a `_` in one of them is read like any
other. It cannot go unnoticed: `_` cuts an accepted filter into four pieces for each clause, less one, so
that a `_` from within a part makes for more clauses than were asked for. The chain answers a query of
comparisons one by one if and only if no encoded part holds a `_`. -/

namespace BookCatalogue.Filter

open Text

variable {schema : Schema} {raw : String} {clauses built : List Clause} {chain : Chain}

/-! ## Counting what separates -/

namespace Clause

/-- How often the character that joins the parts occurs within them. -/
def underscores (c : Clause) : Nat :=
  c.field.toList.count '_' + c.token.toList.count '_' + c.value.toList.count '_'

theorem underscores_eq_zero_iff {c : Clause} : c.underscores = 0 ↔ c.IsPlain := by
  simp [underscores, isPlain_iff, List.count_eq_zero, and_assoc]

theorem count_text (c : Clause) : c.text.toList.count '_' = c.underscores + 2 := by
  simp only [text, underscores, String.toList_append, List.count_append]
  have separator : "_".toList.count '_' = 1 := by decide
  omega

end Clause

/-- A join of clauses has four `_` for each clause, less two, and those within the parts. -/
theorem count_joined (notEmpty : clauses ≠ []) :
    (joinStrings "_and_" (clauses.map Clause.text)).toList.count '_' + 2 =
      4 * clauses.length + (clauses.map Clause.underscores).sum := by
  have separator : "_and_".toList.count '_' = 2 := by decide
  have texts : ((clauses.map Clause.text).map String.toList).map (List.count '_') =
      clauses.map fun c => c.underscores + 2 := by
    simp [Function.comp_def, Clause.count_text]
  have positive := List.length_pos_iff.mpr notEmpty
  rw [joinStrings, String.toList_ofList, count_joinWith, separator, texts, List.sum_map_add]
  simp only [List.length_map, List.map_const', List.sum_replicate, smul_eq_mul]
  omega

/-- A filter that was built is spelled by as many clauses as it was built from if and only if these are
plain. -/
theorem Spelled.length_eq_iff (spelled : Spelled raw clauses) (notEmpty : built ≠ [])
    (joined : raw = joinStrings "_and_" (built.map Clause.text)) :
    built.length = clauses.length ↔ ∀ c ∈ built, c.IsPlain := by
  have read := count_joined spelled.notEmpty
  have written := count_joined notEmpty
  have plain : (clauses.map Clause.underscores).sum = 0 := by
    rw [List.sum_eq_zero_iff, List.forall_mem_map]
    exact fun c member => Clause.underscores_eq_zero_iff.mpr (spelled.plain c member)
  rw [← spelled.joined, joined, plain] at read
  calc built.length = clauses.length ↔ (built.map Clause.underscores).sum = 0 := by omega
    _ ↔ ∀ c ∈ built, c.IsPlain := by
      simp only [List.sum_eq_zero_iff, List.forall_mem_map, Clause.underscores_eq_zero_iff]

/-! ## Plain clauses -/

/-- As many plain clauses are the same if their joins are, even if some value is the word `and`. -/
theorem eq_of_joined (plain : ∀ c ∈ clauses, c.IsPlain) (plain' : ∀ c ∈ built, c.IsPlain)
    (asMany : built.length = clauses.length)
    (same : joinWith clauseSeparator (built.map fun c => c.text.toList) =
      joinWith clauseSeparator (clauses.map fun c => c.text.toList)) : built = clauses := by
  induction built generalizing clauses with
  | nil => exact (List.length_eq_zero_iff.mp asMany.symm).symm
  | cons b built ih =>
    obtain ⟨c, clauses, rfl⟩ := List.exists_cons_of_length_eq_add_one asMany.symm
    obtain ⟨plainHead, plainTail⟩ := List.forall_mem_cons.mp plain
    obtain ⟨plainHead', plainTail'⟩ := List.forall_mem_cons.mp plain'
    have asMany' : built.length = clauses.length := by simpa using asMany
    cases built with
    | nil =>
      obtain rfl := List.length_eq_zero_iff.mp asMany'.symm
      rw [Clause.eq_of_text plainHead' plainHead same]
    | cons e built =>
      obtain ⟨d, clauses, rfl⟩ := List.exists_cons_of_length_eq_add_one asMany'.symm
      -- The first four pieces between `_` are the first clause and the word `and`.
      have parts := congrArg (splitOn partSeparator) same
      rw [List.map_cons, List.map_cons (l := d :: clauses), joinWith_cons _ _ (by simp),
        joinWith_cons _ _ (by simp), plainHead'.splitOn_text_append, plainHead.splitOn_text_append] at parts
      simp only [List.cons.injEq, String.toList_inj, true_and] at parts
      obtain ⟨field, token, value, rest⟩ := parts
      have head : b = c := by
        cases b
        cases c
        simp_all
      have tail := congrArg (joinWith partSeparator) rest
      rw [joinWith_splitOn (by decide), joinWith_splitOn (by decide)] at tail
      rw [head, ih plainTail plainTail' asMany' tail]

/-- Plain clauses that were built are the clauses that are read, whatever their values are. -/
theorem Spelled.eq_of_plain (spelled : Spelled raw clauses) (notEmpty : built ≠ [])
    (joined : raw = joinStrings "_and_" (built.map Clause.text)) (plain : ∀ c ∈ built, c.IsPlain) :
    built = clauses := by
  have asMany := (spelled.length_eq_iff notEmpty joined).mpr plain
  apply eq_of_joined spelled.plain plain asMany
  rw [← toList_joined, ← toList_joined, ← joined, ← spelled.joined]

/-! ## Queries of comparisons -/

/-- A comparison that a query asks for. -/
structure Comparison where
  field : String
  operator : Operator
  value : String
deriving DecidableEq, Repr

namespace Comparison

def step (c : Comparison) : Step := .comparison c.field c.operator c.value

def clause (c : Comparison) : Clause := c.step.clause

def name (c : Comparison) : String := Naming.camel (Query.encodeField c.field)

/-- No encoded part holds the character that joins parts. -/
def IsPlain (c : Comparison) : Prop :=
  '_' ∉ (Query.encodeField c.field).toList ∧ '_' ∉ (Query.encodeValue c.value).toList

instance : DecidablePred IsPlain := fun _ => inferInstanceAs (Decidable (_ ∧ _))

/-- The predicate is on the field that was asked for and has the operator that was asked for. -/
def IsAnsweredBy (c : Comparison) (p : Predicate) : Prop :=
  p.field = c.name ∧ p.operator? = some c.operator

instance (c : Comparison) : DecidablePred c.IsAnsweredBy := fun _ => inferInstanceAs (Decidable (_ ∧ _))

variable {c : Comparison} {p : Predicate}

theorem isPlain_clause_iff : c.clause.IsPlain ↔ c.IsPlain := by
  have token := c.operator.underscore_not_mem_token
  rw [Clause.isPlain_iff, IsPlain]
  exact ⟨fun ⟨field, _, value⟩ => ⟨field, value⟩, fun ⟨field, value⟩ => ⟨field, token, value⟩⟩

theorem isAnsweredBy_of_denotes (named : c.name ≠ dateRangeField) (denotes : c.clause.Denotes schema p) :
    c.IsAnsweredBy p := by
  cases denotes with
  | range other => exact absurd other named
  | @comparison operator _ _ spelled =>
    have same : Operator.ofToken? c.operator.token = some operator := Operator.ofToken?_eq_some_iff.mpr spelled
    rw [Operator.ofToken?_token] at same
    exact ⟨rfl, same.symm⟩

end Comparison

variable {comparisons : List Comparison}

theorem encode_comparisons (comparisons : List Comparison) :
    (Query.ofSteps (comparisons.map Comparison.step)).encode =
      joinStrings "_and_" ((comparisons.map Comparison.clause).map Clause.text) := by
  have clauses : (comparisons.map Comparison.step).map Step.clause = comparisons.map Comparison.clause :=
    List.map_map
  rw [Query.encode_ofSteps, clauses]

theorem comparisons_ne_nil_of_parse
    (success : parse schema (Query.ofSteps (comparisons.map Comparison.step)).encode = .ok chain) :
    comparisons ≠ [] := by
  rintro rfl
  have refused : parse schema (Query.ofSteps []).encode = .error .wrongPartCount := rfl
  cases refused.symm.trans success

theorem identifying?_comparisons (named : ∀ c ∈ comparisons, c.name ≠ identifierField) :
    identifying? (comparisons.map Comparison.clause) = none := by
  rw [identifying?, List.find?_eq_none, List.forall_mem_map]
  intro c member identifying
  have name : c.clause.name = identifierField := by simpa [Clause.isIdentifying] using identifying
  exact named c member name

/-- A chain that answers comparisons of other fields was not reduced by the identifying field. -/
theorem identifying?_of_answered (named : ∀ c ∈ comparisons, c.name ≠ identifierField)
    (denoted : List.Forall₂ (Clause.Denotes schema) (kept clauses) chain)
    (answered : List.Forall₂ Comparison.IsAnsweredBy comparisons chain) : identifying? clauses = none := by
  cases found : identifying? clauses with
  | none => rfl
  | some first =>
    rw [kept, found] at denoted
    obtain ⟨p, _, denotes, nothing, rfl⟩ := List.forall₂_cons_left_iff.mp denoted
    obtain rfl := List.forall₂_nil_left_iff.mp nothing
    obtain ⟨c, _, answer, _, rfl⟩ := List.forall₂_cons_right_iff.mp answered
    have identifying : (p.field == identifierField) = true :=
      denotes.field_eq_identifier.trans (List.find?_some found)
    have name : c.name = identifierField := answer.1.symm.trans (beq_iff_eq.mp identifying)
    exact absurd name (named c (List.mem_cons_self ..))

theorem answered_of_denoted (named : ∀ c ∈ comparisons, c.name ≠ dateRangeField)
    (denoted : List.Forall₂ (Clause.Denotes schema) (comparisons.map Comparison.clause) chain) :
    List.Forall₂ Comparison.IsAnsweredBy comparisons chain := by
  rw [List.forall₂_map_left_iff] at denoted
  induction denoted with
  | nil => exact .nil
  | cons denotes _ ih =>
    obtain ⟨head, tail⟩ := List.forall_mem_cons.mp named
    exact .cons (Comparison.isAnsweredBy_of_denotes head denotes) (ih tail)

/-- An accepted query of comparisons of fields other than the dates and the identifier is answered
comparison by comparison if and only if no encoded part holds a `_`. -/
theorem answered_iff_plain
    (named : ∀ c ∈ comparisons, c.name ≠ dateRangeField ∧ c.name ≠ identifierField)
    (success : parse Schema.any (Query.ofSteps (comparisons.map Comparison.step)).encode = .ok chain) :
    List.Forall₂ Comparison.IsAnsweredBy comparisons chain ↔ ∀ c ∈ comparisons, c.IsPlain := by
  obtain ⟨clauses, grammatical, denoted⟩ := exists_grammatical_of_parse success
  have joined := encode_comparisons comparisons
  have notEmpty : comparisons.map Comparison.clause ≠ [] := by
    simpa using comparisons_ne_nil_of_parse success
  have plainClauses : (∀ c ∈ comparisons.map Comparison.clause, c.IsPlain) ↔
      ∀ c ∈ comparisons, c.IsPlain := by
    simp only [List.forall_mem_map, Comparison.isPlain_clause_iff]
  constructor
  · intro answered
    have whole := identifying?_of_answered (fun c member => (named c member).2) denoted answered
    rw [kept, whole] at denoted
    have asMany : comparisons.length = clauses.length :=
      answered.length_eq.trans denoted.length_eq.symm
    rwa [← plainClauses, ← grammatical.spelled.length_eq_iff notEmpty joined, List.length_map]
  · intro plain
    obtain rfl := grammatical.spelled.eq_of_plain notEmpty joined (plainClauses.mpr plain)
    rw [kept, identifying?_comparisons fun c member => (named c member).2] at denoted
    exact answered_of_denoted (fun c member => (named c member).1) denoted

/-- Two comparisons, the last with the word that joins clauses. -/
theorem answered_iff_plain_and_last :
    let comparisons : List Comparison :=
      [⟨"Published  Date", .differs, " 2020-01-01 "⟩, ⟨"and", .equals, "and"⟩]
    let chain : Chain := [.comparison "PublishedDate" .differs "2020-01-01", .comparison "And" .equals "and"]
    (∀ c ∈ comparisons, c.name ≠ dateRangeField ∧ c.name ≠ identifierField) ∧
      parse Schema.any (Query.ofSteps (comparisons.map Comparison.step)).encode = .ok chain ∧
      (List.Forall₂ Comparison.IsAnsweredBy comparisons chain ↔ ∀ c ∈ comparisons, c.IsPlain) := by
  intro comparisons chain
  have named : ∀ c ∈ comparisons, c.name ≠ dateRangeField ∧ c.name ≠ identifierField := by decide +kernel
  have success : parse Schema.any (Query.ofSteps (comparisons.map Comparison.step)).encode = .ok chain := by
    decide +kernel
  exact ⟨named, success, answered_iff_plain named success⟩

/-- A value that holds a separator adds a clause of its own. -/
theorem value_adds_clause :
    let comparisons : List Comparison := [⟨"author", .equals, "x_and_title_eq_y"⟩]
    let chain : Chain := [.comparison "Author" .equals "x", .comparison "Title" .equals "y"]
    (∀ c ∈ comparisons, c.name ≠ dateRangeField ∧ c.name ≠ identifierField) ∧
      parse Schema.any (Query.ofSteps (comparisons.map Comparison.step)).encode = .ok chain ∧
      chain.length ≠ comparisons.length ∧ ¬ List.Forall₂ Comparison.IsAnsweredBy comparisons chain := by
  intro comparisons chain
  have named : ∀ c ∈ comparisons, c.name ≠ dateRangeField ∧ c.name ≠ identifierField := by decide +kernel
  have success : parse Schema.any (Query.ofSteps (comparisons.map Comparison.step)).encode = .ok chain := by
    decide +kernel
  have longer : chain.length ≠ comparisons.length := by decide
  exact ⟨named, success, longer, fun answered => longer answered.length_eq.symm⟩

end BookCatalogue.Filter

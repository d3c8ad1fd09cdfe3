import Mathlib
import BookCatalogue.Filter.Query
import BookCatalogue.Proofs.Filter.Grammar
import BookCatalogue.Proofs.Filter.Value

/-! # Reading what was built

A query is built in steps and encoded as a filter. No separator is escaped, so the filter is read
back step by step only while the encoded parts hold no separator and complete none: a value may be
the word `and` in the last step alone, and a date that ends in `-to` would end its range too
early. -/

namespace BookCatalogue.Filter

open Text

def trimmed (s : String) : String := String.ofList (trim s.toList)

/-- A step of building a query. -/
inductive Step where
  | comparison (field : String) (operator : Operator) (value : String)
  | dates (first last : String)
deriving DecidableEq, Repr

namespace Step

def apply (q : Query) : Step → Query
  | comparison field .equals value => q.equals field value
  | comparison field .differs value => q.differs field value
  | dates first last => q.dates first last

def clause : Step → Clause
  | comparison field operator value =>
    ⟨Query.encodeField field, operator.token, Query.encodeValue value⟩
  | dates first last => ⟨"dates", "eq", trimmed first ++ "-to-" ++ trimmed last⟩

/-- What a step asks for, as far as its clause tells. -/
def predicate : Step → Predicate
  | comparison field operator value =>
    .comparison (Naming.camel (Query.encodeField field)) operator (meant (Query.encodeValue value))
  | dates first last => .dateRange (trimmed first) (trimmed last)

/-- The encoded parts hold no separator, and the range of dates is cut where it was joined. -/
def IsReadable : Step → Prop
  | comparison field _ value =>
    '_' ∉ (Query.encodeField field).toList ∧ '_' ∉ (Query.encodeValue value).toList ∧
      Naming.camel (Query.encodeField field) ≠ dateRangeField
  | dates first last =>
    ('_' ∉ (trimmed first).toList ∧ '_' ∉ (trimmed last).toList) ∧
      (¬ rangeSeparator <:+: (trimmed first).toList ∧ ¬ rangeSeparator <:+: (trimmed last).toList) ∧
      ¬ ['-', 't', 'o'] <:+ (trimmed first).toList

/-- The step compares with the word that joins clauses. -/
def ComparesAnd : Step → Prop
  | comparison _ _ value => Query.encodeValue value = "and"
  | dates _ _ => False

instance : DecidablePred IsReadable
  | comparison _ _ _ => inferInstanceAs (Decidable (_ ∧ _ ∧ _))
  | dates _ _ => inferInstanceAs (Decidable ((_ ∧ _) ∧ (_ ∧ _) ∧ _))

instance : DecidablePred ComparesAnd
  | comparison _ _ _ => inferInstanceAs (Decidable (_ = _))
  | dates _ _ => inferInstanceAs (Decidable False)

end Step

/-- The query built by these steps. -/
def Query.ofSteps (steps : List Step) : Query := steps.foldl Step.apply Query.empty

/-! ## The encoded query -/

theorem Step.clauses_apply (q : Query) (step : Step) :
    (step.apply q).clauses = q.clauses ++ [step.clause.text] := by
  cases step with
  | comparison field operator value => cases operator <;> rfl
  | dates first last =>
    simp [apply, Query.dates, clause, Clause.text, trimmed, ← String.toList_inj]

theorem Step.identifier_apply (q : Query) (step : Step) :
    (step.apply q).identifier = q.identifier := by
  cases step with
  | comparison field operator value => cases operator <;> rfl
  | dates first last => rfl

private theorem foldl_apply (q : Query) (steps : List Step) :
    (steps.foldl Step.apply q).clauses = q.clauses ++ steps.map (fun step => step.clause.text) ∧
      (steps.foldl Step.apply q).identifier = q.identifier := by
  induction steps generalizing q with
  | nil => simp
  | cons step steps ih =>
    obtain ⟨clauses, identifier⟩ := ih (step.apply q)
    rw [List.foldl_cons, clauses, identifier, step.clauses_apply, step.identifier_apply]
    simp

/-- Without an identifier a query is encoded as the join of its clauses. -/
theorem Query.encode_ofSteps (steps : List Step) :
    (ofSteps steps).encode = joinStrings "_and_" ((steps.map Step.clause).map Clause.text) := by
  obtain ⟨clauses, identifier⟩ := foldl_apply empty steps
  rw [encode, ofSteps, clauses, identifier, List.map_map]
  rfl

/-! ## Reading it back -/

/-- A start that does not end in `-to` leaves the join of a date range unambiguous. -/
theorem separated_range {first last : List Char} (absent : ¬ rangeSeparator <:+: first)
    (absent' : ¬ rangeSeparator <:+: last) (ending : ¬ ['-', 't', 'o'] <:+ first) :
    Separated rangeSeparator [first, last] :=
  ⟨not_infix_append_dropLast (by decide) absent ending, absent'⟩

theorem Operator.underscore_not_mem_token (operator : Operator) : '_' ∉ operator.token.toList := by
  cases operator <;> decide

theorem Operator.token_ne_and (operator : Operator) : operator.token ≠ "and" := by
  cases operator <;> decide

private theorem Step.isPlain_clause {step : Step} (readable : step.IsReadable) :
    step.clause.IsPlain := by
  cases step with
  | comparison field operator value =>
    exact ⟨readable.1, operator.underscore_not_mem_token, readable.2.1⟩
  | dates first last =>
    have field : '_' ∉ "dates".toList := by decide
    have token : '_' ∉ "eq".toList := by decide
    exact ⟨field, token, by simp [clause, readable.1.1, readable.1.2]⟩

/-- The clause of a step denotes what the step asks for. -/
theorem Step.denotes_predicate {step : Step} (readable : step.IsReadable) :
    step.clause.Denotes Schema.any step.predicate := by
  cases step with
  | comparison field operator value => exact .comparison readable.2.2 rfl rfl rfl
  | dates first last =>
    obtain ⟨_, ⟨absent, absent'⟩, ending⟩ := readable
    have bounds : splitOn rangeSeparator (trimmed first ++ "-to-" ++ trimmed last).toList =
        [(trimmed first).toList, (trimmed last).toList] := by
      rw [splitOn_eq_iff (by decide)]
      exact ⟨separated_range absent absent' ending, by simp [joinWith, rangeSeparator]⟩
    have named : Naming.camel "dates" = dateRangeField := by decide
    have denotes : (dates first last).clause.Denotes Schema.any _ := .range named bounds
    rwa [String.ofList_toList, String.ofList_toList] at denotes

/-- Readable steps spell the filter that they build. -/
theorem spelled_ofSteps {steps : List Step} (notEmpty : steps ≠ [])
    (readable : ∀ step ∈ steps, step.IsReadable)
    (noAnd : ∀ step ∈ steps.dropLast, ¬ step.ComparesAnd) :
    Spelled (Query.ofSteps steps).encode (steps.map Step.clause) := by
  refine ⟨by simpa using notEmpty, ?_, Query.encode_ofSteps steps, ?_, ?_⟩
  · intro c member
    obtain ⟨step, present, rfl⟩ := List.mem_map.mp member
    exact step.isPlain_clause (readable step present)
  · intro c member
    obtain ⟨step, _, rfl⟩ := List.mem_map.mp member
    cases step with
    | comparison field operator value => exact operator.token_ne_and
    | dates first last =>
      have equals : "eq" ≠ "and" := by decide
      exact equals
  · intro c member
    rw [← List.map_dropLast] at member
    obtain ⟨step, present, rfl⟩ := List.mem_map.mp member
    cases step with
    | comparison field operator value => exact noAnd _ present
    | dates first last =>
      intro same
      have dash : '-' ∈ (Step.dates first last).clause.value.toList := by simp [Step.clause]
      rw [same] at dash
      exact absurd dash (by decide)

/-! ## Values that survive -/

/-- Without surrounding white space, and either of digits and dashes alone, or without dashes and
not of digits and blanks alone unless empty. -/
def IsLegible (value : String) : Prop :=
  trimmed value = value ∧
    ((∀ c ∈ value.toList, isDigitOrDash c = true) ∨
      ('-' ∉ value.toList ∧
        (value = "" ∨ ∃ c ∈ value.toList, c.isDigit = false ∧ c ≠ ' ')))

theorem toList_encodeValue {value : String} (isTrimmed : trimmed value = value) :
    (Query.encodeValue value).toList = dashedChars value.toList := by
  have chars : trim value.toList = value.toList := by
    simpa [trimmed] using congrArg String.toList isTrimmed
  rw [Query.encodeValue, chars, String.toList_ofList, dashedChars]

/-- A legible value is meant by its encoding. -/
theorem IsLegible.meant_encodeValue {value : String} (legible : IsLegible value) :
    meant (Query.encodeValue value) = value := by
  obtain ⟨isTrimmed, legible⟩ := legible
  rw [← String.toList_inj, meant, toList_encodeValue isTrimmed, String.toList_ofList,
    meantChars_dashedChars_eq_iff]
  rcases legible with numeric | ⟨noDash, rfl | other⟩
  · exact .inl numeric
  · exact .inl (by simp)
  · exact .inr ⟨noDash, other⟩

/-- Reading an encoded query gives what its steps ask for, reduced by the identifying field. A step
asks for its value itself when the value is legible. -/
theorem parse_encode_ofSteps (steps : List Step) (notEmpty : steps ≠ [])
    (readable : ∀ step ∈ steps, step.IsReadable)
    (noAnd : ∀ step ∈ steps.dropLast, ¬ step.ComparesAnd) :
    parse Schema.any (Query.ofSteps steps).encode =
        Chain.retain identifierField (steps.map Step.predicate) ∧
      ∀ field operator value, Step.comparison field operator value ∈ steps → IsLegible value →
        (Step.comparison field operator value).predicate =
          .comparison (Naming.camel (Query.encodeField field)) operator value := by
  constructor
  · refine parse_of_spelled (spelled_ofSteps notEmpty readable noAnd) ?_
    rw [List.forall₂_map_left_iff, List.forall₂_map_right_iff, List.forall₂_same]
    exact fun step member => step.denotes_predicate (readable step member)
  · intro field operator value _ legible
    rw [Step.predicate, legible.meant_encodeValue]

/-- The word `and` in the last place, blanks around dates, and a value of digits and dashes. -/
theorem parse_encode_ofSteps_and_last :
    let steps : List Step := [.dates " 1600-01-01" "1610-12-31 ",
      .comparison "Published  Date" .differs "2020-01-01", .comparison "and" .equals "and"]
    (steps ≠ [] ∧ (∀ step ∈ steps, step.IsReadable) ∧
        ∀ step ∈ steps.dropLast, ¬ step.ComparesAnd) ∧
      parse Schema.any (Query.ofSteps steps).encode =
        Chain.retain identifierField (steps.map Step.predicate) ∧
      ∀ field operator value, Step.comparison field operator value ∈ steps → IsLegible value →
        (Step.comparison field operator value).predicate =
          .comparison (Naming.camel (Query.encodeField field)) operator value := by
  intro steps
  have notEmpty : steps ≠ [] := by decide
  have readable : ∀ step ∈ steps, step.IsReadable := by decide +kernel
  have noAnd : ∀ step ∈ steps.dropLast, ¬ step.ComparesAnd := by decide +kernel
  exact ⟨⟨notEmpty, readable, noAnd⟩, parse_encode_ofSteps steps notEmpty readable noAnd⟩

end BookCatalogue.Filter

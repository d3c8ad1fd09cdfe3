import Mathlib
import BookCatalogue.Proofs.Filter.Clause

/-! # The filters that are accepted

Reading a clause succeeds exactly with what the clause denotes, and reading stops at the first
refused clause. A filter is therefore accepted when it is spelled by clauses that the schema admits
and the first clause on the identifying field, if there is one, is an equality. The chain holds what
the clauses denote, in their order, or what that one clause denotes. -/

namespace BookCatalogue.Filter

open Text

variable {schema : Schema} {c : Clause} {p q : Predicate} {raw : String} {clauses : List Clause}
  {chain : Chain}

/-! ## What a clause denotes -/

namespace Clause

/-- A schema admits a clause that holds two bounds of a date range, whatever its token, or compares
a known field with a suitable value. -/
def Admissible (schema : Schema) (c : Clause) : Prop :=
  (c.name = dateRangeField ∧
      ∃ first last, splitOn rangeSeparator c.value.toList = [first, last]) ∨
    (c.name ≠ dateRangeField ∧ schema.hasField c.name = true ∧ (c.token = "eq" ∨ c.token = "ne") ∧
      schema.accepts c.name (meant c.value) = true)

theorem admissible_iff_length : c.Admissible schema ↔
    (c.name = dateRangeField ∧ (splitOn rangeSeparator c.value.toList).length = 2) ∨
      (c.name ≠ dateRangeField ∧ schema.hasField c.name = true ∧ (c.token = "eq" ∨ c.token = "ne") ∧
        schema.accepts c.name (meant c.value) = true) := by
  rw [Admissible, List.length_eq_two]

instance : Decidable (c.Admissible schema) := decidable_of_iff _ admissible_iff_length.symm

theorem admissible_iff_denotes : c.Admissible schema ↔ ∃ p, c.Denotes schema p := by
  constructor
  · rintro (⟨named, first, last, bounds⟩ | ⟨named, known, spelled | spelled, suits⟩)
    · exact ⟨_, .range named bounds⟩
    · exact ⟨.comparison c.name .equals (meant c.value), .comparison named known spelled suits⟩
    · exact ⟨.comparison c.name .differs (meant c.value), .comparison named known spelled suits⟩
  · rintro ⟨p, denotes⟩
    cases denotes with
    | range named bounds => exact .inl ⟨named, _, _, bounds⟩
    | @comparison operator named known spelled suits =>
      refine .inr ⟨named, known, ?_, suits⟩
      cases operator
      · exact .inl spelled
      · exact .inr spelled

/-- A clause denotes one predicate at most. -/
theorem Denotes.functional (first : c.Denotes schema p) (second : c.Denotes schema q) : p = q := by
  cases first with
  | range named bounds =>
    cases second with
    | range _ bounds' =>
      rw [bounds] at bounds'
      cases bounds'
      rfl
    | comparison other => exact absurd named other
  | comparison named _ spelled =>
    cases second with
    | range other => exact absurd other named
    | comparison _ _ spelled' =>
      have same := Operator.ofToken?_eq_some_iff.mpr spelled
      rw [Operator.ofToken?_eq_some_iff.mpr spelled'] at same
      cases same
      rfl

/-- Only a comparison of the identifying field denotes a predicate on it. -/
theorem Denotes.field_eq_identifier (denotes : c.Denotes schema p) :
    (p.field == identifierField) = c.isIdentifying := by
  cases denotes with
  | range named =>
    rw [isIdentifying, named]
    rfl
  | comparison => rfl

theorem Denotes.operator?_of_isIdentifying (denotes : c.Denotes schema p)
    (identifying : c.isIdentifying = true) :
    p.operator? = some .equals ↔ c.token = "eq" := by
  cases denotes with
  | range named =>
    rw [isIdentifying, named] at identifying
    exact absurd identifying (by decide)
  | @comparison operator _ _ spelled =>
    rw [spelled]
    cases operator <;> simp [Predicate.operator?, Operator.token]

@[simp] theorem compare_name (c : Clause) (operator : Operator) (value : String) :
    Predicate.compare c.name operator value = .comparison c.name operator value := by
  simp [Predicate.compare, name]

end Clause

/-! ## What the reader computes -/

theorem readRange_eq_ok_iff {value : List Char} :
    readRange value = .ok p ↔ ∃ first last, splitOn rangeSeparator value = [first, last] ∧
      p = .dateRange (String.ofList first) (String.ofList last) := by
  unfold readRange
  split
  · next first last bounds =>
    constructor
    · rintro ⟨⟩
      exact ⟨first, last, bounds, rfl⟩
    · rintro ⟨first', last', bounds', rfl⟩
      rw [bounds] at bounds'
      cases bounds'
      rfl
  · next other =>
    constructor
    · rintro ⟨⟩
    · rintro ⟨first, last, bounds, _⟩
      exact absurd bounds (other first last)

theorem readComparison_outcome_eq_ok_iff {name : String} {token value : List Char} :
    (readComparison schema name token value).outcome = .ok p ↔
      ∃ operator, schema.hasField name = true ∧ String.ofList token = Operator.token operator ∧
        schema.accepts name (String.ofList (meantChars value)) = true ∧
        p = .compare name operator (String.ofList (meantChars value)) := by
  unfold readComparison
  split
  · next known =>
    cases spelled : Operator.ofToken? (String.ofList token) with
    | none =>
      constructor
      · rintro ⟨⟩
      · rintro ⟨operator, _, same, _⟩
        rw [Operator.ofToken?_eq_some_iff.mpr same] at spelled
        cases spelled
    | some operator =>
      have same := Operator.ofToken?_eq_some_iff.mp spelled
      constructor
      · intro success
        dsimp only at success
        split at success
        · next suits =>
          cases success
          exact ⟨operator, known, same, suits, rfl⟩
        · cases success
      · rintro ⟨operator', _, same', suits, rfl⟩
        rw [Operator.ofToken?_eq_some_iff.mpr same'] at spelled
        cases spelled
        simp [suits]
  · next unknown =>
    constructor
    · rintro ⟨⟩
    · rintro ⟨_, known, _⟩
      exact absurd known unknown

theorem readClause_text (plain : c.IsPlain) :
    readClause schema c.text.toList =
      if c.name = dateRangeField then ⟨[], readRange c.value.toList⟩
      else readComparison schema c.name c.token.toList c.value.toList := by
  rw [readClause, plain.splitOn_text]
  simp only [String.ofList_toList]
  rfl

/-- Reading a plain clause succeeds with what it denotes. -/
theorem readClause_outcome_eq_ok_iff (plain : c.IsPlain) :
    (readClause schema c.text.toList).outcome = .ok p ↔ c.Denotes schema p := by
  rw [readClause_text plain]
  split
  · next named =>
    rw [readRange_eq_ok_iff]
    constructor
    · rintro ⟨first, last, bounds, rfl⟩
      exact .range named bounds
    · intro denotes
      cases denotes with
      | range _ bounds => exact ⟨_, _, bounds, rfl⟩
      | comparison other => exact absurd named other
  · next named =>
    rw [readComparison_outcome_eq_ok_iff, ← meant]
    simp only [String.ofList_toList, Clause.compare_name]
    constructor
    · rintro ⟨operator, known, spelled, suits, rfl⟩
      exact .comparison named known spelled suits
    · intro denotes
      cases denotes with
      | range other => exact absurd other named
      | comparison _ known spelled suits => exact ⟨_, known, spelled, suits, rfl⟩

/-- What is read successfully is the text of a plain clause. -/
theorem exists_plain_of_readClause {piece : List Char}
    (success : (readClause schema piece).outcome = .ok p) :
    ∃ c : Clause, c.IsPlain ∧ c.text.toList = piece := by
  unfold readClause at success
  split at success
  · next parts => exact ⟨_, Clause.exists_of_splitOn parts⟩
  · cases success

theorem readClauses_outcome_eq_ok_iff {pieces : List (List Char)} :
    (readClauses schema pieces).outcome = .ok chain ↔
      List.Forall₂ (fun piece p => (readClause schema piece).outcome = .ok p) pieces chain := by
  induction pieces generalizing chain with
  | nil =>
    rw [readClauses, List.forall₂_nil_left_iff]
    constructor
    · rintro ⟨⟩
      rfl
    · rintro rfl
      rfl
  | cons piece pieces ih =>
    rw [readClauses]
    cases first : (readClause schema piece).outcome with
    | error e => cases chain <;> simp [first]
    | ok p =>
      cases others : (readClauses schema pieces).outcome with
      | error e =>
        cases chain <;> simp [first, others, ← ih, Except.map]
      | ok rest =>
        cases chain with
        | nil => simp [others, Except.map]
        | cons q chain => simp [first, others, ← ih, Except.map]

theorem readClauses_texts_iff (plain : ∀ c ∈ clauses, c.IsPlain) :
    (readClauses schema (clauses.map fun c => c.text.toList)).outcome = .ok chain ↔
      List.Forall₂ (Clause.Denotes schema) clauses chain := by
  rw [readClauses_outcome_eq_ok_iff, List.forall₂_map_left_iff]
  induction clauses generalizing chain with
  | nil => rw [List.forall₂_nil_left_iff, List.forall₂_nil_left_iff]
  | cons c clauses ih =>
    obtain ⟨plainHead, plainTail⟩ := List.forall_mem_cons.mp plain
    cases chain with
    | nil => simp
    | cons p chain =>
      rw [List.forall₂_cons, List.forall₂_cons, readClause_outcome_eq_ok_iff plainHead,
        ih plainTail]

theorem exists_plain_of_readClauses {pieces : List (List Char)}
    (success : (readClauses schema pieces).outcome = .ok chain) :
    ∃ clauses : List Clause, (∀ c ∈ clauses, c.IsPlain) ∧
      (clauses.map fun c => c.text.toList) = pieces := by
  rw [readClauses_outcome_eq_ok_iff] at success
  induction success with
  | nil => exact ⟨[], by simp, rfl⟩
  | cons first _ ih =>
    obtain ⟨c, plain, text⟩ := exists_plain_of_readClause first
    obtain ⟨clauses, plainTail, texts⟩ := ih
    exact ⟨c :: clauses, List.forall_mem_cons.mpr ⟨plain, plainTail⟩, by simp [text, texts]⟩

/-! ## The identifying field -/

/-- The first clause on the identifying field. -/
def identifying? (clauses : List Clause) : Option Clause := clauses.find? Clause.isIdentifying

/-- The clauses that make up the chain: only the first on the identifying field, if there is one. -/
def kept (clauses : List Clause) : List Clause :=
  match identifying? clauses with
  | some c => [c]
  | none => clauses

private theorem get?_identifier (denoted : List.Forall₂ (Clause.Denotes schema) clauses chain) :
    Option.Rel (Clause.Denotes schema) (identifying? clauses)
      (Chain.get? chain identifierField) := by
  induction denoted with
  | nil => exact .none
  | cons first _ ih =>
    rw [identifying?, Chain.get?, List.find?_cons, List.find?_cons, first.field_eq_identifier]
    split
    · exact .some first
    · exact ih

/-- The predicate on the identifying field is what the first clause on this field denotes. -/
theorem exists_get?_of_identifying (denoted : List.Forall₂ (Clause.Denotes schema) clauses chain)
    (found : identifying? clauses = some c) :
    ∃ p, Chain.get? chain identifierField = some p ∧ c.Denotes schema p := by
  have related := get?_identifier denoted
  rw [found] at related
  generalize Chain.get? chain identifierField = got at related
  cases related with
  | some denotes => exact ⟨_, rfl, denotes⟩

theorem get?_eq_none_of_identifying (denoted : List.Forall₂ (Clause.Denotes schema) clauses chain)
    (absent : identifying? clauses = none) : Chain.get? chain identifierField = none := by
  have related := get?_identifier denoted
  rw [absent] at related
  generalize Chain.get? chain identifierField = got at related
  cases related
  rfl

theorem denoted_iff_eq {predicates : Chain}
    (denoted : List.Forall₂ (Clause.Denotes schema) clauses predicates) :
    List.Forall₂ (Clause.Denotes schema) clauses chain ↔ predicates = chain := by
  have functional : Relator.RightUnique (Clause.Denotes schema) :=
    fun _ _ _ first second => first.functional second
  constructor
  · exact List.right_unique_forall₂' functional denoted
  · rintro rfl
    exact denoted

/-- Reduction by the identifying field, told from the clauses. -/
theorem retain_eq_ok_iff {predicates : Chain}
    (denoted : List.Forall₂ (Clause.Denotes schema) clauses predicates) :
    Chain.retain identifierField predicates = .ok chain ↔
      (∀ c, identifying? clauses = some c → c.token = "eq") ∧
        List.Forall₂ (Clause.Denotes schema) (kept clauses) chain := by
  cases first : identifying? clauses with
  | none =>
    have absent := get?_eq_none_of_identifying denoted first
    simp [Chain.retain, absent, kept, first, denoted_iff_eq denoted]
  | some c =>
    obtain ⟨p, present, denotes⟩ := exists_get?_of_identifying denoted first
    have identifying : c.isIdentifying = true := List.find?_some first
    have single : List.Forall₂ (Clause.Denotes schema) [c] [p] := .cons denotes .nil
    have spelled := denotes.operator?_of_isIdentifying identifying
    rw [Chain.retain, present, kept, first]
    simp only [denoted_iff_eq single, ← spelled, Option.some.injEq, forall_eq']
    split
    · next admitted => simp [admitted]
    · next refused => simp [refused]

/-! ## The questions put to the schema -/

/-- The questions that an admitted clause puts to a schema: none for a date range. -/
def Clause.consultations (c : Clause) : List Consultation :=
  if c.name = dateRangeField then [] else [.field c.name, .value c.name (meant c.value)]

theorem readClause_consulted (plain : c.IsPlain) (denotes : c.Denotes schema p) :
    (readClause schema c.text.toList).consulted = c.consultations := by
  rw [readClause_text plain, Clause.consultations]
  split
  · rfl
  · next named =>
    cases denotes with
    | range other => exact absurd other named
    | comparison _ known spelled =>
      have found := Operator.ofToken?_eq_some_iff.mpr spelled
      simp [readComparison, known, found, meant]

/-- Reading a filter to its end puts the questions of its clauses one after another. -/
theorem readClauses_consulted {predicates : Chain} (plain : ∀ c ∈ clauses, c.IsPlain)
    (denoted : List.Forall₂ (Clause.Denotes schema) clauses predicates) :
    (readClauses schema (clauses.map fun c => c.text.toList)).consulted =
      clauses.flatMap Clause.consultations := by
  induction denoted with
  | nil => rfl
  | cons head tail ih =>
    obtain ⟨plainHead, plainTail⟩ := List.forall_mem_cons.mp plain
    rw [List.map_cons, readClauses, (readClause_outcome_eq_ok_iff plainHead).mpr head,
      List.flatMap_cons, ← readClause_consulted plainHead head, ← ih plainTail]

/-! ## Filters -/

/-- A spelled filter whose clauses denote predicates is read up to the identifying field. -/
theorem parse_of_spelled {predicates : Chain} (spelled : Spelled raw clauses)
    (denoted : List.Forall₂ (Clause.Denotes schema) clauses predicates) :
    parse schema raw = Chain.retain identifierField predicates := by
  have outcome := (readClauses_texts_iff spelled.plain).mpr denoted
  have notEmpty : predicates.isEmpty = false := by
    rw [List.isEmpty_eq_false_iff, ← List.length_pos_iff, ← denoted.length_eq, List.length_pos_iff]
    exact spelled.notEmpty
  rw [parse, read, spelled.splitOn]
  simp [outcome, Except.bind, settle, notEmpty]

/-- Whatever is accepted is spelled by clauses that denote predicates. -/
theorem exists_spelled_of_parse (success : parse schema raw = .ok chain) :
    ∃ clauses predicates, Spelled raw clauses ∧
      List.Forall₂ (Clause.Denotes schema) clauses predicates := by
  rw [parse, read] at success
  cases outcome : (readClauses schema (splitOn clauseSeparator raw.toList)).outcome with
  | error e => simp [outcome, Except.bind] at success
  | ok predicates =>
    obtain ⟨clauses, plain, texts⟩ := exists_plain_of_readClauses outcome
    refine ⟨clauses, predicates, (spelled_iff_splitOn plain).mpr texts.symm, ?_⟩
    rwa [← texts, readClauses_texts_iff plain] at outcome

/-- A filter that is spelled by clauses which the schema admits, the first on the identifying field
being an equality. -/
structure Grammatical (schema : Schema) (raw : String) (clauses : List Clause) : Prop where
  spelled : Spelled raw clauses
  admissible : ∀ c ∈ clauses, c.Admissible schema
  identifying : ∀ c, identifying? clauses = some c → c.token = "eq"

theorem exists_denoted (admissible : ∀ c ∈ clauses, c.Admissible schema) :
    ∃ predicates, List.Forall₂ (Clause.Denotes schema) clauses predicates := by
  induction clauses with
  | nil => exact ⟨[], .nil⟩
  | cons c clauses ih =>
    obtain ⟨head, tail⟩ := List.forall_mem_cons.mp admissible
    obtain ⟨p, denotes⟩ := Clause.admissible_iff_denotes.mp head
    obtain ⟨predicates, denoted⟩ := ih tail
    exact ⟨p :: predicates, .cons denotes denoted⟩

private theorem admissible_of_denoted (denoted : List.Forall₂ (Clause.Denotes schema) clauses chain) :
    ∀ c ∈ clauses, c.Admissible schema := by
  induction denoted with
  | nil => simp
  | cons head _ ih =>
    exact List.forall_mem_cons.mpr ⟨Clause.admissible_iff_denotes.mpr ⟨_, head⟩, ih⟩

/-- A grammatical filter is accepted with what its kept clauses denote. -/
theorem Grammatical.exists_parse (grammatical : Grammatical schema raw clauses) :
    ∃ chain, parse schema raw = .ok chain ∧
      List.Forall₂ (Clause.Denotes schema) (kept clauses) chain := by
  obtain ⟨predicates, denoted⟩ := exists_denoted grammatical.admissible
  have keptAdmissible : ∀ c ∈ kept clauses, c.Admissible schema := by
    intro c member
    rw [kept] at member
    split at member
    · next found =>
      rw [List.mem_singleton.mp member]
      exact grammatical.admissible _ (List.mem_of_find?_eq_some found)
    · exact grammatical.admissible c member
  obtain ⟨chain, keptDenoted⟩ := exists_denoted keptAdmissible
  refine ⟨chain, ?_, keptDenoted⟩
  rw [parse_of_spelled grammatical.spelled denoted, retain_eq_ok_iff denoted]
  exact ⟨grammatical.identifying, keptDenoted⟩

/-- A date range is admitted without a question to the schema. -/
theorem Grammatical.consulted (grammatical : Grammatical schema raw clauses) :
    (read schema raw).consulted = clauses.flatMap Clause.consultations := by
  obtain ⟨predicates, denoted⟩ := exists_denoted grammatical.admissible
  rw [read, grammatical.spelled.splitOn]
  exact readClauses_consulted grammatical.spelled.plain denoted

/-- An accepted filter is grammatical, and its chain is what its kept clauses denote. -/
theorem exists_grammatical_of_parse (success : parse schema raw = .ok chain) :
    ∃ clauses, Grammatical schema raw clauses ∧
      List.Forall₂ (Clause.Denotes schema) (kept clauses) chain := by
  obtain ⟨clauses, predicates, spelled, denoted⟩ := exists_spelled_of_parse success
  rw [parse_of_spelled spelled denoted, retain_eq_ok_iff denoted] at success
  exact ⟨clauses, ⟨spelled, admissible_of_denoted denoted, success.1⟩, success.2⟩

/-- The accepted filters are the grammatical ones; each is spelled in one way only, has the chain of
its kept clauses, and is judged by the questions of its clauses alone. -/
theorem accepts_exactly_grammatical (schema : Schema) (raw : String) :
    ((∃ chain, parse schema raw = .ok chain) ↔ ∃ clauses, Grammatical schema raw clauses) ∧
      ∀ clauses, Grammatical schema raw clauses →
        (∀ others, Spelled raw others → others = clauses) ∧
          (read schema raw).consulted = clauses.flatMap Clause.consultations ∧
          ∃ chain, parse schema raw = .ok chain ∧
            List.Forall₂ (Clause.Denotes schema) (kept clauses) chain := by
  refine ⟨⟨?_, ?_⟩, ?_⟩
  · rintro ⟨chain, success⟩
    obtain ⟨clauses, grammatical, _⟩ := exists_grammatical_of_parse success
    exact ⟨clauses, grammatical⟩
  · rintro ⟨clauses, grammatical⟩
    obtain ⟨chain, success, _⟩ := grammatical.exists_parse
    exact ⟨chain, success⟩
  · intro clauses grammatical
    exact ⟨fun _ other => grammatical.spelled.unique other, grammatical.consulted,
      grammatical.exists_parse⟩

/-- A field and a last value may be the word `and`, and a date range needs no operator. -/
theorem accepts_exactly_grammatical_and_words :
    let schema : Schema := ⟨fun field => field == "And" || field == "Isbn", fun _ _ => true⟩
    let raw := "and_ne_x-y_and_dates_any_2020-01-01-to-2021-01-01_and_isbn_eq_and"
    let clauses : List Clause :=
      [⟨"and", "ne", "x-y"⟩, ⟨"dates", "any", "2020-01-01-to-2021-01-01"⟩, ⟨"isbn", "eq", "and"⟩]
    Grammatical schema raw clauses ∧ (∀ others, Spelled raw others → others = clauses) ∧
      (read schema raw).consulted = clauses.flatMap Clause.consultations ∧
      ∃ chain, parse schema raw = .ok chain ∧
        List.Forall₂ (Clause.Denotes schema) (kept clauses) chain := by
  intro schema raw clauses
  have plain : ∀ c ∈ clauses, c.IsPlain := by
    simp only [clauses, List.forall_mem_cons, List.not_mem_nil, false_implies, implies_true, and_true]
    exact ⟨⟨by decide, by decide, by decide⟩, ⟨by decide, by decide, by decide⟩,
      ⟨by decide, by decide, by decide⟩⟩
  have spelled : Spelled raw clauses := ⟨by decide, plain, by decide, by decide, by decide⟩
  have admissible : ∀ c ∈ clauses, c.Admissible schema := by
    simp only [clauses, List.forall_mem_cons, List.not_mem_nil, false_implies, implies_true, and_true]
    exact ⟨.inr ⟨by decide, by decide, .inr rfl, rfl⟩, .inl ⟨by decide, _, _, rfl⟩,
      .inr ⟨by decide, by decide, .inl rfl, rfl⟩⟩
  have grammatical : Grammatical schema raw clauses := by
    refine ⟨spelled, admissible, ?_⟩
    have first : identifying? clauses = some ⟨"isbn", "eq", "and"⟩ := by decide
    rw [first]
    rintro c ⟨⟩
    rfl
  exact ⟨grammatical, (accepts_exactly_grammatical schema raw).2 clauses grammatical⟩

/-- The field of a date range is never looked up: a value without two bounds is refused even by a
schema that knows a field of this name. -/
theorem dates_field_not_compared :
    let raw := "dates_eq_2020-01-01"
    ¬ ((∃ chain, parse Schema.any raw = .ok chain) ↔ ∃ clauses, Spelled raw clauses ∧
      (∀ c ∈ clauses,
        (c.name = dateRangeField ∧
            ∃ first last, splitOn rangeSeparator c.value.toList = [first, last]) ∨
          (Schema.any.hasField c.name = true ∧ (c.token = "eq" ∨ c.token = "ne") ∧
            Schema.any.accepts c.name (meant c.value) = true)) ∧
      ∀ c, identifying? clauses = some c → c.token = "eq") := by
  intro raw same
  have spelled : Spelled raw [⟨"dates", "eq", "2020-01-01"⟩] :=
    ⟨by decide, by simpa using ⟨by decide, by decide, by decide⟩, by decide, by decide, by decide⟩
  obtain ⟨chain, success⟩ := same.mpr ⟨_, spelled, by simp [Schema.any], by simp [identifying?]⟩
  have refused : parse Schema.any raw = .error .invalidDateRange := by decide
  rw [refused] at success
  cases success

end BookCatalogue.Filter

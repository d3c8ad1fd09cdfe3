import Mathlib
import BookCatalogue.Proofs.Filter.Identifier
import BookCatalogue.Proofs.Filter.Value

/-! # Which refusal wins

A filter is refused for its first clause that is refused, whatever stands behind it, and a clause for the
first reason that applies to it. The schema is asked about the clauses up to that one and about nothing
else: about a field under its camel-case name, and about a value only where the field is known and the
operator is one. -/

namespace BookCatalogue.Filter

open Text

variable {schema : Schema} {c : Clause} {raw : String} {piece : List Char} {pieces : List (List Char)}
  {e : Error}

/-! ## Reasons -/

/-- Why a schema refuses a clause. Each reason asks that none of the earlier ones applies. -/
inductive Clause.Refused (schema : Schema) (c : Clause) : Error → Prop
  | range (named : c.name = dateRangeField)
      (bounds : (splitOn rangeSeparator c.value.toList).length ≠ 2) : Refused schema c .invalidDateRange
  | field (named : c.name ≠ dateRangeField) (unknown : schema.hasField c.name = false) :
      Refused schema c (.unknownField c.name)
  | operator (named : c.name ≠ dateRangeField) (known : schema.hasField c.name = true)
      (misspelled : ¬ (c.token = "eq" ∨ c.token = "ne")) : Refused schema c (.unknownOperator c.token)
  | value (named : c.name ≠ dateRangeField) (known : schema.hasField c.name = true)
      (spelled : c.token = "eq" ∨ c.token = "ne")
      (unsuitable : schema.accepts c.name (meant c.value) = false) : Refused schema c (.typeMismatch c.name)

/-- Why a schema refuses a piece of a filter: it does not have the parts of a clause, or the clause is
refused. -/
inductive Refuses (schema : Schema) (piece : List Char) : Error → Prop
  | parts (count : (splitOn partSeparator piece).length ≠ 3) : Refuses schema piece .wrongPartCount
  | clause {c : Clause} {e : Error} (plain : c.IsPlain) (text : c.text.toList = piece)
      (refused : c.Refused schema e) : Refuses schema piece e

/-- The piece is the text of a clause that the schema admits. -/
def Accepts (schema : Schema) (piece : List Char) : Prop :=
  ∃ c : Clause, c.IsPlain ∧ c.text.toList = piece ∧ c.Admissible schema

theorem ofToken?_eq_none_iff {token : String} :
    Operator.ofToken? token = none ↔ ¬ (token = "eq" ∨ token = "ne") := by
  unfold Operator.ofToken?
  split_ifs with equals differs
  · simp [equals]
  · simp [differs]
  · simp [equals, differs]

theorem spelled_of_ofToken? {token : String} {operator : Operator}
    (spelling : Operator.ofToken? token = some operator) : token = "eq" ∨ token = "ne" := by
  by_contra misspelled
  rw [ofToken?_eq_none_iff.mpr misspelled] at spelling
  cases spelling

theorem readRange_eq_error_iff {value : List Char} :
    readRange value = .error e ↔ e = .invalidDateRange ∧ (splitOn rangeSeparator value).length ≠ 2 := by
  rw [ne_eq, List.length_eq_two]
  unfold readRange
  split
  · next first last bounds => simp [bounds]
  · next other =>
    have noBounds : ¬ ∃ first last, splitOn rangeSeparator value = [first, last] :=
      fun ⟨first, last, bounds⟩ => other first last bounds
    simp only [noBounds, not_false_iff, and_true, Except.error.injEq]
    exact eq_comm

/-- A comparison is refused for the field, then for the operator, then for the value. -/
theorem readComparison_outcome_eq_error_iff (named : c.name ≠ dateRangeField) :
    (readComparison schema c.name c.token.toList c.value.toList).outcome = .error e ↔
      c.Refused schema e := by
  unfold readComparison
  rw [String.ofList_toList, ← meant]
  split
  · next known =>
    cases spelling : Operator.ofToken? c.token with
    | none =>
      have misspelled := ofToken?_eq_none_iff.mp spelling
      constructor
      · rintro ⟨⟩
        exact .operator named known misspelled
      · rintro (⟨other, _⟩ | ⟨_, unknown⟩ | _ | ⟨_, _, spelled, _⟩)
        · exact absurd other named
        · simp [known] at unknown
        · rfl
        · exact absurd spelled misspelled
    | some operator =>
      have spelled := spelled_of_ofToken? spelling
      constructor
      · intro failure
        dsimp only at failure
        split at failure
        · cases failure
        · next unsuitable =>
          cases failure
          exact .value named known spelled (Bool.eq_false_iff.mpr unsuitable)
      · rintro (⟨other, _⟩ | ⟨_, unknown⟩ | ⟨_, _, misspelled⟩ | ⟨_, _, _, unsuitable⟩)
        · exact absurd other named
        · simp [known] at unknown
        · exact absurd spelled misspelled
        · simp [unsuitable]
  · next unknown =>
    constructor
    · rintro ⟨⟩
      exact .field named (Bool.eq_false_iff.mpr unknown)
    · rintro (⟨other, _⟩ | _ | ⟨_, known, _⟩ | ⟨_, known, _, _⟩)
      · exact absurd other named
      · rfl
      all_goals exact absurd known unknown

/-- Reading a plain clause fails with the reason for which it is refused. -/
theorem readClause_text_outcome_eq_error_iff (plain : c.IsPlain) :
    (readClause schema c.text.toList).outcome = .error e ↔ c.Refused schema e := by
  rw [readClause_text plain]
  split
  · next named =>
    rw [readRange_eq_error_iff]
    constructor
    · rintro ⟨rfl, bounds⟩
      exact .range named bounds
    · rintro (⟨_, bounds⟩ | ⟨other, _⟩ | ⟨other, _, _⟩ | ⟨other, _, _, _⟩)
      · exact ⟨rfl, bounds⟩
      all_goals exact absurd named other
  · next named => exact readComparison_outcome_eq_error_iff named

/-- A piece of three parts is the text of a clause. -/
theorem exists_clause_of_length (count : (splitOn partSeparator piece).length = 3) :
    ∃ c : Clause, c.IsPlain ∧ c.text.toList = piece := by
  obtain ⟨field, token, value, parts⟩ := List.length_eq_three.mp count
  exact ⟨_, Clause.exists_of_splitOn parts⟩

theorem readClause_of_length (count : (splitOn partSeparator piece).length ≠ 3) :
    readClause schema piece = ⟨[], .error .wrongPartCount⟩ := by
  unfold readClause
  split
  · next parts => simp [parts] at count
  · rfl

theorem length_splitOn_text (plain : c.IsPlain) : (splitOn partSeparator c.text.toList).length = 3 := by
  rw [plain.splitOn_text]
  rfl

theorem readClause_outcome_eq_error_iff :
    (readClause schema piece).outcome = .error e ↔ Refuses schema piece e := by
  by_cases count : (splitOn partSeparator piece).length = 3
  · obtain ⟨c, plain, rfl⟩ := exists_clause_of_length count
    rw [readClause_text_outcome_eq_error_iff plain]
    constructor
    · exact .clause plain rfl
    · rintro (other | ⟨plain', text, refused⟩)
      · exact absurd count other
      · rwa [Clause.eq_of_text plain plain' text.symm]
  · rw [readClause_of_length count]
    constructor
    · rintro ⟨⟩
      exact .parts count
    · rintro (_ | ⟨plain, rfl, _⟩)
      · rfl
      · exact absurd (length_splitOn_text plain) count

theorem exists_readClause_outcome_eq_ok_iff :
    (∃ p, (readClause schema piece).outcome = .ok p) ↔ Accepts schema piece := by
  constructor
  · rintro ⟨p, success⟩
    obtain ⟨c, plain, rfl⟩ := exists_plain_of_readClause success
    exact ⟨c, plain, rfl, Clause.admissible_iff_denotes.mpr ⟨p, (readClause_outcome_eq_ok_iff plain).mp success⟩⟩
  · rintro ⟨c, plain, rfl, admissible⟩
    obtain ⟨p, denotes⟩ := Clause.admissible_iff_denotes.mp admissible
    exact ⟨p, (readClause_outcome_eq_ok_iff plain).mpr denotes⟩

/-! ## Questions -/

/-- The questions that a clause puts to a schema: none for a date range, and otherwise for its field and,
if the field is known and the token spells an operator, for its value. -/
def Clause.questions (schema : Schema) (c : Clause) : List Consultation :=
  if c.name = dateRangeField then []
  else if schema.hasField c.name = true ∧ (c.token = "eq" ∨ c.token = "ne") then
    [.field c.name, .value c.name (meant c.value)]
  else [.field c.name]

/-- The questions that a piece of a filter puts to a schema: none if it does not have three parts. -/
def questions (schema : Schema) (piece : List Char) : List Consultation :=
  match splitOn partSeparator piece with
  | [field, token, value] => Clause.questions schema ⟨.ofList field, .ofList token, .ofList value⟩
  | _ => []

theorem questions_text (plain : c.IsPlain) : questions schema c.text.toList = c.questions schema := by
  rw [questions, plain.splitOn_text]
  simp only [String.ofList_toList]

theorem readClause_consulted_eq (schema : Schema) (piece : List Char) :
    (readClause schema piece).consulted = questions schema piece := by
  by_cases count : (splitOn partSeparator piece).length = 3
  · obtain ⟨c, plain, rfl⟩ := exists_clause_of_length count
    rw [questions_text plain, readClause_text plain, Clause.questions]
    split
    · rfl
    · rw [readComparison, String.ofList_toList, ← meant]
      by_cases known : schema.hasField c.name = true
      · cases spelling : Operator.ofToken? c.token with
        | none => simp [known, ofToken?_eq_none_iff.mp spelling]
        | some operator => simp [known, spelled_of_ofToken? spelling]
      · simp [known]
  · rw [readClause_of_length count, questions]
    split
    · next parts => simp [parts] at count
    · rfl

/-- The question is about a camel-case name other than that of date ranges, and a value as it is meant. -/
def Consultation.IsNormal : Consultation → Prop
  | .field name => Naming.camel name = name ∧ name ≠ dateRangeField
  | .value name meaning => Naming.camel name = name ∧ name ≠ dateRangeField ∧ meant meaning = meaning

theorem Clause.isNormal_of_mem_questions {question : Consultation} (member : question ∈ c.questions schema) :
    question.IsNormal := by
  have camel : Naming.camel c.name = c.name := Naming.camel_camel c.field
  unfold Clause.questions at member
  split_ifs at member with named asked
  · cases member
  · rcases List.mem_pair.mp member with rfl | rfl
    · exact ⟨camel, named⟩
    · exact ⟨camel, named, meant_meant c.value⟩
  · rw [List.mem_singleton.mp member]
    exact ⟨camel, named⟩

theorem isNormal_of_mem_questions {question : Consultation} (member : question ∈ questions schema piece) :
    question.IsNormal := by
  unfold questions at member
  split at member
  · exact Clause.isNormal_of_mem_questions member
  · cases member

/-! ## Reading up to the first refusal -/

/-- Pieces behind a refused one are not read. -/
theorem readClauses_of_refuses {before : List (List Char)} (accepted : ∀ q ∈ before, Accepts schema q)
    (refuses : Refuses schema piece e) (after : List (List Char)) :
    readClauses schema (before ++ piece :: after) =
      ⟨(before ++ [piece]).flatMap (questions schema), .error e⟩ := by
  induction before with
  | nil =>
    rw [List.nil_append, readClauses, readClause_outcome_eq_error_iff.mpr refuses]
    simp [readClause_consulted_eq]
  | cons first before ih =>
    obtain ⟨head, tail⟩ := List.forall_mem_cons.mp accepted
    obtain ⟨p, success⟩ := exists_readClause_outcome_eq_ok_iff.mpr head
    rw [List.cons_append, readClauses, success, ih tail]
    simp [readClause_consulted_eq, Except.map]

/-- Accepted pieces are read to the end. -/
theorem readClauses_consulted_of_accepts (accepted : ∀ q ∈ pieces, Accepts schema q) :
    (readClauses schema pieces).consulted = pieces.flatMap (questions schema) := by
  induction pieces with
  | nil => rfl
  | cons first pieces ih =>
    obtain ⟨head, tail⟩ := List.forall_mem_cons.mp accepted
    obtain ⟨p, success⟩ := exists_readClause_outcome_eq_ok_iff.mpr head
    rw [readClauses, success, List.flatMap_cons, ← ih tail, readClause_consulted_eq]

/-- Either all pieces are accepted, or one is the first to be refused. -/
theorem forall_accepts_or_exists_refuses (schema : Schema) (pieces : List (List Char)) :
    (∀ q ∈ pieces, Accepts schema q) ∨ ∃ before piece after e, pieces = before ++ piece :: after ∧
      (∀ q ∈ before, Accepts schema q) ∧ Refuses schema piece e := by
  induction pieces with
  | nil => exact .inl (by simp)
  | cons first pieces ih =>
    cases outcome : (readClause schema first).outcome with
    | error e =>
      exact .inr ⟨[], first, pieces, e, rfl, by simp, readClause_outcome_eq_error_iff.mp outcome⟩
    | ok p =>
      have head : Accepts schema first := exists_readClause_outcome_eq_ok_iff.mp ⟨p, outcome⟩
      rcases ih with all | ⟨before, piece, after, e, rfl, accepted, refuses⟩
      · exact .inl (List.forall_mem_cons.mpr ⟨head, all⟩)
      · exact .inr ⟨first :: before, piece, after, e, rfl, List.forall_mem_cons.mpr ⟨head, accepted⟩, refuses⟩

/-- Accepted pieces are the texts of clauses that spell the filter. -/
theorem exists_spelled_of_accepts
    (accepted : ∀ q ∈ splitOn clauseSeparator raw.toList, Accepts schema q) :
    ∃ clauses, Spelled raw clauses ∧ ∀ c ∈ clauses, c.Admissible schema := by
  have chosen : ∃ clauses : List Clause, (∀ c ∈ clauses, c.IsPlain ∧ c.Admissible schema) ∧
      (clauses.map fun c => c.text.toList) = splitOn clauseSeparator raw.toList := by
    generalize splitOn clauseSeparator raw.toList = pieces at accepted
    induction pieces with
    | nil => exact ⟨[], by simp, rfl⟩
    | cons first pieces ih =>
      obtain ⟨⟨c, plain, text, admissible⟩, tail⟩ := List.forall_mem_cons.mp accepted
      obtain ⟨clauses, all, texts⟩ := ih tail
      exact ⟨c :: clauses, List.forall_mem_cons.mpr ⟨⟨plain, admissible⟩, all⟩, by simp [text, texts]⟩
  obtain ⟨clauses, all, texts⟩ := chosen
  exact ⟨clauses, (spelled_iff_splitOn fun c member => (all c member).1).mpr texts.symm,
    fun c member => (all c member).2⟩

/-- A filter of accepted pieces is accepted as well, unless its first clause on the identifying field is no
equality. -/
theorem parse_of_accepts (accepted : ∀ q ∈ splitOn clauseSeparator raw.toList, Accepts schema q) :
    (∃ chain, chain ≠ [] ∧ parse schema raw = .ok chain) ∨
      parse schema raw = .error (.operatorNotAdmitted "ne" "isbn") := by
  obtain ⟨clauses, spelled, admissible⟩ := exists_spelled_of_accepts accepted
  obtain ⟨predicates, denoted⟩ := exists_denoted admissible
  rw [parse_of_spelled spelled denoted]
  cases found : identifying? clauses with
  | none =>
    have notEmpty : predicates ≠ [] := by
      rintro rfl
      exact spelled.notEmpty (List.forall₂_nil_right_iff.mp denoted)
    refine .inl ⟨predicates, notEmpty, ?_⟩
    rw [Chain.retain, get?_eq_none_of_identifying denoted found]
  | some first =>
    rcases retain_of_identifying denoted found with ⟨_, refused⟩ | ⟨_, kept⟩
    · exact .inr refused
    · exact .inl ⟨_, List.cons_ne_nil _ _, kept⟩

/-- A piece is accepted, or it is refused for one reason. -/
theorem accepts_or_refuses (schema : Schema) (piece : List Char) :
    (Accepts schema piece ∧ ∀ e, ¬ Refuses schema piece e) ∨
      (¬ Accepts schema piece ∧ ∃! e, Refuses schema piece e) := by
  simp only [← exists_readClause_outcome_eq_ok_iff, ← readClause_outcome_eq_error_iff]
  cases (readClause schema piece).outcome with
  | ok p => simp
  | error e => exact .inr (by simp)

/-- How a filter is read from the first piece on, and what the schema is asked meanwhile. -/
structure IsReadInOrder (schema : Schema) (raw : String) (pieces : List (List Char)) : Prop where
  /-- There is a piece to be read. -/
  notEmpty : pieces ≠ []
  /-- No piece is both accepted and refused, or refused for two reasons. -/
  decided : ∀ piece ∈ pieces, (Accepts schema piece ∧ ∀ e, ¬ Refuses schema piece e) ∨
    (¬ Accepts schema piece ∧ ∃! e, Refuses schema piece e)
  /-- The first refused piece decides, and no later one is asked about. -/
  refused : ∀ before piece after e, pieces = before ++ piece :: after →
    (∀ q ∈ before, Accepts schema q) → Refuses schema piece e →
      read schema raw = ⟨(before ++ [piece]).flatMap (questions schema), .error e⟩
  /-- If all are accepted, only an inequality of the identifying field can refuse the filter. -/
  accepted : (∀ q ∈ pieces, Accepts schema q) →
    (read schema raw).consulted = pieces.flatMap (questions schema) ∧
      ((∃ chain, chain ≠ [] ∧ parse schema raw = .ok chain) ∨
        parse schema raw = .error (.operatorNotAdmitted "ne" "isbn"))
  /-- Nothing else refuses a filter for the identifying field. -/
  identifying : ∀ operator field, parse schema raw = .error (.operatorNotAdmitted operator field) →
    ∀ q ∈ pieces, Accepts schema q
  noEmptyChain : parse schema raw ≠ .error .noFilters ∧ parse schema raw ≠ .ok []
  /-- Names and values are as they would be after normalizing them once more. -/
  normal : ∀ question ∈ (read schema raw).consulted, question.IsNormal

/-- No piece is refused for the operator of the identifying field, or for want of clauses. -/
theorem Refuses.ne (refuses : Refuses schema piece e) :
    e ≠ .noFilters ∧ ∀ operator field, e ≠ .operatorNotAdmitted operator field := by
  cases refuses with
  | parts => simp
  | clause _ _ refused => cases refused <;> simp

theorem isNormal_of_mem_flatMap {question : Consultation}
    (member : question ∈ pieces.flatMap (questions schema)) : question.IsNormal := by
  obtain ⟨piece, _, inside⟩ := List.mem_flatMap.mp member
  exact isNormal_of_mem_questions inside

/-- Every filter is read in order: the first refused piece refuses it for its own first reason, after the
questions of the pieces up to it and no others. -/
theorem isReadInOrder (schema : Schema) (raw : String) :
    IsReadInOrder schema raw (splitOn clauseSeparator raw.toList) := by
  have refused {before after : List (List Char)} {piece : List Char} {e : Error}
      (cut : splitOn clauseSeparator raw.toList = before ++ piece :: after)
      (accepted : ∀ q ∈ before, Accepts schema q) (refuses : Refuses schema piece e) :
      read schema raw = ⟨(before ++ [piece]).flatMap (questions schema), .error e⟩ := by
    rw [read, cut, readClauses_of_refuses accepted refuses]
    rfl
  have consulted (accepted : ∀ q ∈ splitOn clauseSeparator raw.toList, Accepts schema q) :
      (read schema raw).consulted = (splitOn clauseSeparator raw.toList).flatMap (questions schema) :=
    readClauses_consulted_of_accepts accepted
  refine ⟨splitOn_ne_nil _ _, fun piece _ => accepts_or_refuses schema piece,
    fun _ _ _ _ cut accepted refuses => refused cut accepted refuses,
    fun accepted => ⟨consulted accepted, parse_of_accepts accepted⟩, ?_, ?_, ?_⟩
  · intro operator field failure
    rcases forall_accepts_or_exists_refuses schema (splitOn clauseSeparator raw.toList) with
      all | ⟨before, piece, after, e, cut, accepted, refuses⟩
    · exact all
    · rw [parse, refused cut accepted refuses] at failure
      cases failure
      exact absurd rfl (refuses.ne.2 operator field)
  · rcases forall_accepts_or_exists_refuses schema (splitOn clauseSeparator raw.toList) with
      all | ⟨before, piece, after, e, cut, accepted, refuses⟩
    · rcases parse_of_accepts all with ⟨chain, notEmpty, success⟩ | failure
      · simp [success, notEmpty]
      · simp [failure]
    · have failure : parse schema raw = .error e := by rw [parse, refused cut accepted refuses]
      simp [failure, refuses.ne.1]
  · intro question member
    rcases forall_accepts_or_exists_refuses schema (splitOn clauseSeparator raw.toList) with
      all | ⟨before, piece, after, e, cut, accepted, refuses⟩
    · rw [consulted all] at member
      exact isNormal_of_mem_flatMap member
    · rw [refused cut accepted refuses] at member
      exact isNormal_of_mem_flatMap member

/-- The second piece is refused for its operator before its value is asked about; the third would have been
refused for its parts. -/
example :
    let reading := read ⟨fun _ => true, fun _ value => value == "x y"⟩ "TITLE_eq_x-y_and_isbn_lt_z_and_genre"
    reading.outcome = .error (.unknownOperator "lt") ∧
      reading.consulted = [.field "TITLE", .value "TITLE" "x y", .field "Isbn"] := by
  decide +kernel

end BookCatalogue.Filter

import Mathlib
import BookCatalogue.Filter.Query
import BookCatalogue.Proofs.Filter.Grammar

/-! # The identifying field

The first clause on the identifying field settles a filter of admitted clauses: an equality replaces the
filter and anything else refuses it, whatever the other clauses say of the field. A query for one
identifier is therefore read as if the identifier had been asked for after everything else, provided
that what was asked before is read to its end and does not run into the clause of the identifier. -/

namespace BookCatalogue.Filter

open Text

variable {schema : Schema} {raw : String} {clauses : List Clause} {chain predicates : Chain}

/-! ## The clause that settles a filter -/

theorem column_identifierField : Naming.column identifierField = "isbn" := by decide

/-- An identifying clause denotes a comparison of the identifying field. -/
theorem Clause.Denotes.eq_comparison {c : Clause} {p : Predicate} (denotes : c.Denotes schema p)
    (identifying : c.isIdentifying = true) :
    ∃ operator : Operator, c.token = operator.token ∧
      p = .comparison identifierField operator (meant c.value) := by
  have name : c.name = identifierField := by simpa [isIdentifying] using identifying
  cases denotes with
  | range named => exact absurd (named.symm.trans name) (by decide)
  | @comparison operator _ _ spelled => exact ⟨operator, spelled, by rw [name]⟩

/-- What becomes of a chain is told from the first clause on the identifying field. -/
theorem retain_of_identifying {first : Clause}
    (denoted : List.Forall₂ (Clause.Denotes schema) clauses predicates)
    (found : identifying? clauses = some first) :
    (first.token = "ne" ∧
        predicates.retain identifierField = .error (.operatorNotAdmitted "ne" "isbn")) ∨
      (first.token = "eq" ∧
        predicates.retain identifierField = .ok [.comparison identifierField .equals (meant first.value)]) := by
  obtain ⟨p, present, denotes⟩ := exists_get?_of_identifying denoted found
  obtain ⟨operator, spelled, rfl⟩ := denotes.eq_comparison (List.find?_some found)
  rw [Chain.retain, present, spelled, column_identifierField]
  cases operator with
  | equals => exact .inr ⟨rfl, rfl⟩
  | differs => exact .inl ⟨rfl, rfl⟩

/-- Among admitted clauses an inequality of the identifying field refuses the filter if no equality of
the field stands before it; otherwise the first equality replaces the filter. -/
theorem first_identifying_settles (spelled : Spelled raw clauses)
    (admissible : ∀ c ∈ clauses, c.Admissible schema)
    (differs : ∃ c ∈ clauses, c.name = identifierField ∧ c.token = "ne") :
    ∃ first, identifying? clauses = some first ∧
      ((first.token = "ne" ∧ parse schema raw = .error (.operatorNotAdmitted "ne" "isbn")) ∨
        (first.token = "eq" ∧
          parse schema raw = .ok [.comparison identifierField .equals (meant first.value)])) := by
  obtain ⟨c, member, name, _⟩ := differs
  have identifying : c.isIdentifying = true := by simp [Clause.isIdentifying, name]
  obtain ⟨first, found⟩ : ∃ first, identifying? clauses = some first :=
    Option.isSome_iff_exists.mp (List.find?_isSome.mpr ⟨c, member, identifying⟩)
  obtain ⟨predicates, denoted⟩ := exists_denoted admissible
  rw [parse_of_spelled spelled denoted]
  exact ⟨first, found, retain_of_identifying denoted found⟩

/-- The inequality stands before an equality of the field and after a clause on another one. -/
theorem first_identifying_settles_inequality_first :
    let raw := "title_eq_pippo_and_isbn_ne_1234_and_ISBN_eq_5"
    let clauses : List Clause :=
      [⟨"title", "eq", "pippo"⟩, ⟨"isbn", "ne", "1234"⟩, ⟨"ISBN", "eq", "5"⟩]
    Spelled raw clauses ∧ (∀ c ∈ clauses, c.Admissible Schema.any) ∧
      (∃ c ∈ clauses, c.name = identifierField ∧ c.token = "ne") ∧
      ∃ first, identifying? clauses = some first ∧
        ((first.token = "ne" ∧ parse Schema.any raw = .error (.operatorNotAdmitted "ne" "isbn")) ∨
          (first.token = "eq" ∧
            parse Schema.any raw = .ok [.comparison identifierField .equals (meant first.value)])) := by
  intro raw clauses
  have spelled : Spelled raw clauses := by decide
  have admissible : ∀ c ∈ clauses, c.Admissible Schema.any := by decide
  have differs : ∃ c ∈ clauses, c.name = identifierField ∧ c.token = "ne" := by decide
  exact ⟨spelled, admissible, differs, first_identifying_settles spelled admissible differs⟩

/-- After an equality of the field an inequality is dropped without notice; before it, the same inequality
refuses the filter. -/
theorem inequality_accepted_after_equality :
    let clauses : List Clause := [⟨"isbn", "eq", "1"⟩, ⟨"isbn", "ne", "2"⟩]
    (Spelled "isbn_eq_1_and_isbn_ne_2" clauses ∧ (∀ c ∈ clauses, c.Admissible Schema.any) ∧
        ∃ c ∈ clauses, c.name = identifierField ∧ c.token = "ne") ∧
      parse Schema.any "isbn_eq_1_and_isbn_ne_2" ≠ .error (.operatorNotAdmitted "ne" "isbn") ∧
      parse Schema.any "isbn_eq_1_and_isbn_ne_2" = .ok [.comparison "Isbn" .equals "1"] ∧
      parse Schema.any "isbn_ne_2_and_isbn_eq_1" = .error (.operatorNotAdmitted "ne" "isbn") := by
  intro clauses
  have spelled : Spelled "isbn_eq_1_and_isbn_ne_2" clauses := by decide
  have admissible : ∀ c ∈ clauses, c.Admissible Schema.any := by decide
  have differs : ∃ c ∈ clauses, c.name = identifierField ∧ c.token = "ne" := by decide
  have accepted : parse Schema.any "isbn_eq_1_and_isbn_ne_2" = .ok [.comparison "Isbn" .equals "1"] := by
    decide
  have refused : parse Schema.any "isbn_ne_2_and_isbn_eq_1" = .error (.operatorNotAdmitted "ne" "isbn") := by
    decide
  refine ⟨⟨spelled, admissible, differs⟩, ?_, accepted, refused⟩
  rw [accepted]
  rintro ⟨⟩

/-! ## Reading one filter after another -/

/-- What is refused on the left is refused first; otherwise the chain of the right follows that of the
left. -/
theorem readClauses_append (left right : List (List Char)) :
    (readClauses schema (left ++ right)).outcome =
      (readClauses schema left).outcome.bind fun first =>
        (readClauses schema right).outcome.map (first ++ ·) := by
  induction left with
  | nil =>
    rw [List.nil_append]
    cases (readClauses schema right).outcome <;> rfl
  | cons piece left ih =>
    rw [List.cons_append, readClauses, readClauses]
    cases (readClause schema piece).outcome with
    | error e => rfl
    | ok p =>
      dsimp only
      rw [ih]
      cases (readClauses schema left).outcome with
      | error e => rfl
      | ok first => cases (readClauses schema right).outcome <;> rfl

/-- Clauses on other fields do not matter to a chain that has one on the identifying field. -/
theorem settle_append {others : Chain} (absent : predicates.get? identifierField = none)
    (present : (others.get? identifierField).isSome) : settle (predicates ++ others) = settle others := by
  obtain ⟨p, found⟩ := Option.isSome_iff_exists.mp present
  have found' : (predicates ++ others).get? identifierField = some p := by
    rw [Chain.get?, List.find?_append]
    rw [Chain.get?] at absent found
    rw [absent, found, Option.none_or]
  have notEmpty : others ≠ [] := by
    rintro rfl
    cases found
  have notEmpty' : predicates ++ others ≠ [] := by simp [notEmpty]
  rw [settle, settle, if_neg (by simpa using notEmpty'), if_neg (by simpa using notEmpty), Chain.retain,
    Chain.retain, found, found']

/-- An accepted filter without an identifying predicate is what its clauses were read as. -/
theorem readClauses_of_parse (success : parse schema raw = .ok chain)
    (absent : ∀ p ∈ chain, p.field ≠ identifierField) :
    (readClauses schema (splitOn clauseSeparator raw.toList)).outcome = .ok chain ∧
      chain.get? identifierField = none := by
  rw [parse, read] at success
  cases outcome : (readClauses schema (splitOn clauseSeparator raw.toList)).outcome with
  | error e => simp [outcome, Except.bind] at success
  | ok predicates =>
    simp only [outcome, Except.bind, settle] at success
    split at success
    · cases success
    · rw [Chain.retain] at success
      split at success
      · next found =>
        cases success
        exact ⟨rfl, found⟩
      · next p found =>
        split at success
        · cases success
          have same : p.field = identifierField := by simpa using List.find?_some found
          exact absurd same (absent p (List.mem_singleton_self p))
        · cases success

/-- What begins like the clause of an identifier is refused or begins with a predicate on the identifying
field. -/
theorem isSome_get?_of_readClauses {value : String}
    (success : (readClauses schema (splitOn clauseSeparator ("isbn_eq_" ++ value).toList)).outcome =
      .ok chain) : (chain.get? identifierField).isSome := by
  obtain ⟨clauses, plain, texts⟩ := exists_plain_of_readClauses success
  have joined : joinWith clauseSeparator (clauses.map fun c => c.text.toList) =
      ("isbn_eq_" ++ value).toList := by
    rw [texts, joinWith_splitOn clauseSeparator_ne_nil]
  rw [← texts, readClauses_texts_iff plain] at success
  cases clauses with
  | nil => exact absurd texts.symm (splitOn_ne_nil _ _)
  | cons c rest =>
    have plainHead := plain c (List.mem_cons_self ..)
    have cut : ("isbn_eq_" ++ value).toList = "isbn".toList ++ '_' :: ("eq_" ++ value).toList := by
      simp
    have word : splitOn ['_'] "isbn".toList = ["isbn".toList] := by decide
    -- Both readings of the text begin with its first part.
    have field : c.field = "isbn" := by
      have parts := congrArg (splitOn partSeparator) joined
      rw [cut, partSeparator, splitOn_append_cons, word, ← partSeparator] at parts
      cases rest with
      | nil =>
        rw [List.map_singleton, joinWith, plainHead.splitOn_text] at parts
        exact String.toList_inj.mp (List.cons.inj parts).1
      | cons d rest =>
        rw [List.map_cons, joinWith_cons _ _ (by simp), plainHead.splitOn_text_append] at parts
        exact String.toList_inj.mp (List.cons.inj parts).1
    have identifying : c.isIdentifying = true := by
      rw [Clause.isIdentifying, Clause.name, field]
      decide
    obtain ⟨p, present, _⟩ := exists_get?_of_identifying success (List.find?_cons_of_pos identifying)
    exact Option.isSome_of_eq_some present

/-! ## A query for one identifier -/

theorem Query.clause_isbn (id : String) :
    clause "isbn" .equals id = "isbn_eq_" ++ encodeValue id := by
  have field : encodeField "isbn" = "isbn" := by decide
  simp [clause, field, Operator.token]

theorem Query.encode_withIdentifier (q : Query) (id : String) :
    (q.withIdentifier id).encode = "isbn_eq_" ++ encodeValue id := rfl

/-- Asking for equality with an identifier first of all is asking for that identifier. -/
theorem Query.encode_equals_of_eq_nil {q : Query} (without : q.identifier = none) (first : q.clauses = [])
    (id : String) : (q.equals "isbn" id).encode = (q.withIdentifier id).encode := by
  rw [encode_withIdentifier, ← clause_isbn, equals, compare, encode, without, first]
  simp [joinStrings, joinWith]

/-- Asked for after everything else, the clause of the identifier stands behind a separator. -/
theorem Query.encode_equals_of_ne_nil {q : Query} (without : q.identifier = none)
    (notFirst : q.clauses ≠ []) (id : String) :
    (q.equals "isbn" id).encode.toList =
      q.encode.toList ++ clauseSeparator ++ (q.withIdentifier id).encode.toList := by
  rw [encode_withIdentifier, ← clause_isbn, equals, compare, encode, encode, without]
  simp only [joinStrings, Option.getD_none, String.toList_ofList, List.map_append]
  exact joinWith_append (by simpa using notFirst) (by simp)

/-- A query for one identifier is read as the query that asks for equality with it after everything else,
provided that everything else is read without a predicate on the identifying field and does not end in
what could begin a separator. -/
theorem parse_withIdentifier_eq_parse_equals {q : Query} (without : q.identifier = none)
    (harmless : q.clauses = [] ∨
      (∃ chain, parse schema q.encode = .ok chain ∧ ∀ p ∈ chain, p.field ≠ identifierField) ∧
        ¬ "_and".toList <:+ q.encode.toList)
    (id : String) :
    parse schema (q.withIdentifier id).encode = parse schema (q.equals "isbn" id).encode := by
  by_cases first : q.clauses = []
  · rw [q.encode_equals_of_eq_nil without first]
  obtain ⟨⟨chain, accepted, absent⟩, ending⟩ := harmless.resolve_left first
  obtain ⟨read, unidentified⟩ := readClauses_of_parse accepted absent
  have pieces : splitOn clauseSeparator (q.equals "isbn" id).encode.toList =
      splitOn clauseSeparator q.encode.toList ++
        splitOn clauseSeparator (q.withIdentifier id).encode.toList := by
    rw [q.encode_equals_of_ne_nil without first]
    exact splitOn_append_sep_append clauseSeparator_ne_nil (by decide) ending _
  rw [parse, parse, Filter.read, Filter.read, pieces]
  dsimp only
  rw [readClauses_append, read]
  -- What refuses the clause of the identifier does so behind everything else, too.
  cases outcome : (readClauses schema
    (splitOn clauseSeparator (q.withIdentifier id).encode.toList)).outcome with
  | error e => rfl
  | ok others => exact (settle_append unidentified (isSome_get?_of_readClauses outcome)).symm

/-- An identifier that holds a separator and another clause, after a title and a range of dates. -/
theorem parse_withIdentifier_eq_parse_equals_clause_inside :
    let q := (Query.empty.equals "title" "The Tempest").dates "1600-01-01" "1610-12-31"
    let chain : Chain := [.comparison "Title" .equals "The Tempest", .dateRange "1600-01-01" "1610-12-31"]
    let id := "1234_and_genre_ne_drama"
    q.identifier = none ∧
      (parse Schema.any q.encode = .ok chain ∧ ∀ p ∈ chain, p.field ≠ identifierField) ∧
      ¬ "_and".toList <:+ q.encode.toList ∧
      parse Schema.any (q.withIdentifier id).encode = parse Schema.any (q.equals "isbn" id).encode := by
  intro q chain id
  have accepted : parse Schema.any q.encode = .ok chain := by decide
  have absent : ∀ p ∈ chain, p.field ≠ identifierField := by decide
  have ending : ¬ "_and".toList <:+ q.encode.toList := by decide
  exact ⟨rfl, ⟨accepted, absent⟩, ending,
    parse_withIdentifier_eq_parse_equals rfl (.inr ⟨⟨chain, accepted, absent⟩, ending⟩) id⟩

end BookCatalogue.Filter

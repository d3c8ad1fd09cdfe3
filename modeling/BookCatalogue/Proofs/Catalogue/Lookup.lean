import Mathlib
import BookCatalogue.Proofs.Catalogue.Consistency
import BookCatalogue.Proofs.Filter.Encoding

/-! # Looking a book up by its identifier

The filter for an identifier is read as an equality of ISBNs, and finding its books is asking for the one
book with the ISBN that was read. That is the ISBN that was written unless it mixes dashes or blanks with
other characters in a way that is not told from the filter: dashes stand for blanks there, except in
values of digits and dashes alone. -/

namespace BookCatalogue

open BookCatalogue.Filter (Chain Clause Query Schema isDigitOrDash meant trimmed)
open Text (FoldedKey)

/-! ## Reading the filter for an identifier -/

namespace Filter

theorem underscore_not_mem_encodeValue {value : String} (isTrimmed : trimmed value = value)
    (noUnderscore : '_' ∉ value.toList) : '_' ∉ (Query.encodeValue value).toList := by
  rw [toList_encodeValue isTrimmed, dashedChars, List.mem_map]
  rintro ⟨c, member, written⟩
  split_ifs at written
  · exact absurd written (by decide)
  · exact noUnderscore (written ▸ member)

def identifierClause (id : String) : Clause := ⟨"isbn", "eq", Query.encodeValue id⟩

theorem name_identifierClause (id : String) : (identifierClause id).name = identifierField := by
  have named : Naming.camel "isbn" = identifierField := by decide
  exact named

/-- Whatever else a query asks, its filter is the clause of its identifier. -/
theorem spelled_withIdentifier {id : String} (plain : '_' ∉ (Query.encodeValue id).toList) (q : Query) :
    Spelled (q.withIdentifier id).encode [identifierClause id] := by
  have field : '_' ∉ "isbn".toList := by decide
  have token : '_' ∉ "eq".toList := by decide
  have notAnd : "eq" ≠ "and" := by decide
  refine ⟨List.cons_ne_nil _ _, ?_, ?_, ?_, by simp⟩
  · rw [List.forall_mem_singleton]
    exact ⟨field, token, plain⟩
  · simp [Query.encode, Query.withIdentifier, Text.joinStrings, Text.joinWith, identifierClause,
      Clause.text, ← String.toList_inj]
  · rw [List.forall_mem_singleton]
    exact notAnd

/-- It is read as an equality of the identifying field. -/
theorem parse_withIdentifier {schema : Schema} {id : String} (known : schema.hasField identifierField = true)
    (suits : schema.accepts identifierField (meant (Query.encodeValue id)) = true)
    (plain : '_' ∉ (Query.encodeValue id).toList) (q : Query) :
    parse schema (q.withIdentifier id).encode =
      .ok [.comparison identifierField .equals (meant (Query.encodeValue id))] := by
  have named := name_identifierClause id
  have denotes : (identifierClause id).Denotes schema
      (.comparison (identifierClause id).name .equals (meant (Query.encodeValue id))) := by
    refine .comparison ?_ ?_ rfl ?_ <;> rw [named]
    · decide
    · exact known
    · exact suits
  rw [named] at denotes
  rw [parse_of_spelled (spelled_withIdentifier plain q) (.cons denotes .nil)]
  simp [Chain.retain, Chain.get?, Predicate.field, Predicate.operator?]

/-! ## What is read of what was written -/

/-- Putting another character of the same size in the place of one changes the key of a text if that one
occurs before the first NUL, and only then. -/
theorem of_map_replace_eq_of_iff {a b : Char} (size : b.utf8Size = a.utf8Size)
    (notNul : a ≠ '\x00' ∧ b ≠ '\x00') (different : b.toLower ≠ a.toLower) (s : String) :
    FoldedKey.of (String.ofList (s.toList.map fun c => if c = a then b else c)) = .of s ↔
      a ∉ Text.beforeNul s := by
  have sameNul (c : Char) : (if c = a then b else c) = '\x00' ↔ c = '\x00' := by
    split_ifs with same
    · simp [same, notNul]
    · rfl
  have chars : Text.beforeNul (String.ofList (s.toList.map fun c => if c = a then b else c)) =
      (Text.beforeNul s).map fun c => if c = a then b else c := by
    simp only [Text.beforeNul, String.toList_ofList, List.takeWhile_map, Function.comp_def, ne_eq, sameNul]
  have bytes : (String.ofList (s.toList.map fun c => if c = a then b else c)).utf8ByteSize =
      s.utf8ByteSize := by
    rw [← String.ofList_toList (s := s), String.utf8ByteSize_ofList, String.utf8ByteSize_ofList,
      String.toList_ofList]
    induction s.toList with
    | nil => rfl
    | cons c cs ih =>
      have sameSize : (if c = a then b else c).utf8Size = c.utf8Size := by
        split_ifs with same
        · rw [size, same]
        · rfl
      simp [ih, sameSize]
  simp only [FoldedKey.of, chars, bytes, FoldedKey.mk.injEq, and_true, List.map_map, List.map_inj_left,
    Function.comp_apply]
  constructor
  · intro unchanged member
    have lower := unchanged a member
    rw [if_pos rfl] at lower
    exact different lower
  · intro absent c member
    have notSame : c ≠ a := fun same => absent (same ▸ member)
    rw [if_neg notSame]

/-- Blanks do not survive among digits and dashes. -/
theorem of_meant_encodeValue_of_numericOrBlank {value : String} (isTrimmed : trimmed value = value)
    (numericOrBlank : ∀ c ∈ value.toList, isDigitOrDash c = true ∨ c = ' ') :
    FoldedKey.of (meant (Query.encodeValue value)) = .of value ↔ ' ' ∉ value.toList := by
  have whole : Text.beforeNul value = value.toList := by
    refine List.takeWhile_eq_self_iff.mpr fun c member => ?_
    rw [decide_eq_true_eq]
    rintro rfl
    rcases numericOrBlank _ member with digit | blank
    · exact absurd digit (by decide)
    · exact absurd blank (by decide)
  have size : '-'.utf8Size = ' '.utf8Size := rfl
  have unchanged := of_map_replace_eq_of_iff size (by decide) (by decide) value
  rw [whole] at unchanged
  rwa [meant, toList_encodeValue isTrimmed, meantChars_dashedChars_of_numericOrBlank numericOrBlank]

/-- Dashes do not survive beside any other character. -/
theorem of_meant_encodeValue_of_other {value : String} {c : Char} (isTrimmed : trimmed value = value)
    (member : c ∈ value.toList) (notNumeric : isDigitOrDash c = false) (notBlank : c ≠ ' ') :
    FoldedKey.of (meant (Query.encodeValue value)) = .of value ↔ '-' ∉ Text.beforeNul value := by
  have size : ' '.utf8Size = '-'.utf8Size := rfl
  rw [meant, toList_encodeValue isTrimmed, meantChars_dashedChars_of_other member notNumeric notBlank]
  exact of_map_replace_eq_of_iff size (by decide) (by decide) value

/-- Without case, the value is read as it was written: it is of digits and dashes alone, or has no dash
before its first NUL and is not of digits and blanks alone. -/
def IsSearchable (value : String) : Prop :=
  (∀ c ∈ value.toList, isDigitOrDash c = true) ∨
    ('-' ∉ Text.beforeNul value ∧ ∃ c ∈ value.toList, isDigitOrDash c = false ∧ c ≠ ' ')

instance : DecidablePred IsSearchable := fun _ => inferInstanceAs (Decidable (_ ∨ _ ∧ _))

theorem of_meant_encodeValue_eq_iff {value : String} (isTrimmed : trimmed value = value) :
    FoldedKey.of (meant (Query.encodeValue value)) = .of value ↔ IsSearchable value := by
  by_cases other : ∃ c ∈ value.toList, isDigitOrDash c = false ∧ c ≠ ' '
  · obtain ⟨c, member, notNumeric, notBlank⟩ := other
    have mixed : ¬ ∀ d ∈ value.toList, isDigitOrDash d = true := by
      intro numeric
      rw [numeric c member] at notNumeric
      cases notNumeric
    rw [of_meant_encodeValue_of_other isTrimmed member notNumeric notBlank, IsSearchable, or_iff_right mixed]
    exact (and_iff_left ⟨c, member, notNumeric, notBlank⟩).symm
  · have numericOrBlank : ∀ c ∈ value.toList, isDigitOrDash c = true ∨ c = ' ' := by
      intro c member
      by_contra neither
      rw [not_or, Bool.not_eq_true] at neither
      exact other ⟨c, member, neither⟩
    rw [of_meant_encodeValue_of_numericOrBlank isTrimmed numericOrBlank, IsSearchable,
      or_iff_left fun searchable => other searchable.2]
    constructor
    · intro noBlank c member
      exact (numericOrBlank c member).resolve_right fun blank => noBlank (blank ▸ member)
    · intro numeric member
      exact absurd (numeric ' ' member) (by decide)

end Filter

namespace Catalogue

variable {c : Catalogue}

/-! ## The row of a key -/

theorem row?_eq_some_iff (distinct : c.HasDistinctKeys) {key : FoldedKey} {r : Row} :
    c.row? key = some r ↔ r ∈ c.rows ∧ r.key = key := by
  constructor
  · intro found
    exact ⟨List.mem_of_find?_eq_some found, key_of_row? found⟩
  · rintro ⟨member, rfl⟩
    cases found : c.row? r.key with
    | none => exact absurd (List.mem_map_of_mem member) (row?_eq_none_iff.mp found)
    | some other =>
      have stored : other ∈ c.rows := List.mem_of_find?_eq_some found
      rw [List.inj_on_of_nodup_map distinct stored member (key_of_row? found)]

theorem get?_eq_ok_some_iff (isOpen : c.isOpen = true) {isbn : String} {b : Book} :
    c.get? isbn = .ok (some b) ↔ c.row? (.of isbn) = some (Row.ofBook b) := by
  rw [get?, isOpen]
  cases c.row? (.of isbn) with
  | none => simp
  | some r =>
    simp only [Option.some.injEq, ← readRow_eq_ok_iff]
    cases readRow r <;> simp [Except.map]

/-! ## Finding by ISBN -/

/-- The listing of an ISBN is its row. -/
theorem lists_isbn (distinct : c.HasDistinctKeys) (isbn : String) :
    c.Lists [.comparison Filter.identifierField .equals isbn] (c.row? (.of isbn)).toList := by
  constructor
  · have rows : c.rows.Nodup := distinct.of_map
    have one : (c.row? (.of isbn)).toList.Nodup := by cases c.row? (.of isbn) <;> simp
    refine (List.perm_ext_iff_of_nodup one (rows.filter _)).mpr fun r => ?_
    simp [row?_eq_some_iff distinct, Row.meets, Row.agrees, Filter.identifierField, Row.key]
  · cases c.row? (.of isbn) <;> simp

/-- To find the books of an ISBN is to ask for its book. -/
theorem find_isbn (isOpen : c.isOpen = true) (distinct : c.HasDistinctKeys) (isbn : String) :
    c.find [.comparison Filter.identifierField .equals isbn] = (c.get? isbn).map Option.toList := by
  have onBooks : ∀ p ∈ [Filter.Predicate.comparison Filter.identifierField .equals isbn], p.IsOnBooks :=
    List.forall_mem_singleton.mpr rfl
  rw [(lists_isbn distinct isbn).find_eq isOpen onBooks, get?, isOpen]
  cases c.row? (.of isbn) with
  | none => rfl
  | some r =>
    simp only [Option.toList_some, List.mapM_cons, List.mapM_nil]
    cases readRow r <;> rfl

/-- The filter for the ISBN of a stored book is read, and finds the book of the ISBN that was read. That is
the stored book just when its ISBN is searchable. -/
theorem find_withIdentifier (calls : List Call) {b : Book}
    (stored : Row.ofBook b ∈ (replay perform .empty calls).1.rows) (noUnderscore : '_' ∉ b.isbn.toList)
    (isTrimmed : trimmed b.isbn = b.isbn) (q : Query) :
    let c := (replay perform .empty calls).1
    ∃ chain found, Book.parseFilter (q.withIdentifier b.isbn).encode = .ok chain ∧
      c.get? (meant (Query.encodeValue b.isbn)) = .ok found ∧ c.find chain = .ok found.toList ∧
      (c.find chain = .ok [b] ↔ Filter.IsSearchable b.isbn) := by
  intro c
  obtain ⟨isOpen, consistent⟩ := isConsistent_replay calls
  have plain := Filter.underscore_not_mem_encodeValue isTrimmed noUnderscore
  have parsed : Book.parseFilter (q.withIdentifier b.isbn).encode =
      .ok [.comparison Filter.identifierField .equals (meant (Query.encodeValue b.isbn))] :=
    Filter.parse_withIdentifier rfl rfl plain q
  obtain ⟨found, got⟩ := consistent.exists_get? isOpen (meant (Query.encodeValue b.isbn))
  have finds : c.find [.comparison Filter.identifierField .equals (meant (Query.encodeValue b.isbn))] =
      .ok found.toList := by
    rw [find_isbn isOpen consistent.distinct, got]
    rfl
  refine ⟨_, found, parsed, got, finds, ?_⟩
  calc
    _ ↔ c.get? (meant (Query.encodeValue b.isbn)) = .ok (some b) := by
      rw [finds, got]
      cases found <;> simp
    _ ↔ FoldedKey.of b.isbn = .of (meant (Query.encodeValue b.isbn)) := by
      rw [get?_eq_ok_some_iff isOpen, row?_eq_some_iff consistent.distinct, and_iff_right stored,
        Row.key_ofBook]
    _ ↔ Filter.IsSearchable b.isbn := by
      rw [eq_comm, Filter.of_meant_encodeValue_eq_iff isTrimmed]

/-- An ISBN of words, of a book stored once and replaced under another spelling. -/
theorem find_withIdentifier_words :
    let b : Book := ⟨"Emma", "Austen", "Isbn 0 306", ⟨1815, 12, 23, by decide⟩, 1, "", ""⟩
    let calls : List Call := [.create { b with title := "Ema" }, .create b, .update { b with isbn := "ISBN 0 306" }]
    let q := Query.empty.equals "title" "Persuasion"
    let c := (replay perform .empty calls).1
    (Row.ofBook b ∈ c.rows ∧ '_' ∉ b.isbn.toList ∧ trimmed b.isbn = b.isbn) ∧
      ∃ chain found, Book.parseFilter (q.withIdentifier b.isbn).encode = .ok chain ∧
        c.get? (meant (Query.encodeValue b.isbn)) = .ok found ∧ c.find chain = .ok found.toList ∧
        (c.find chain = .ok [b] ↔ Filter.IsSearchable b.isbn) := by
  intro b calls q c
  have stored : Row.ofBook b ∈ c.rows := by decide +kernel
  have noUnderscore : '_' ∉ b.isbn.toList := by decide
  have isTrimmed : trimmed b.isbn = b.isbn := by decide
  exact ⟨⟨stored, noUnderscore, isTrimmed⟩, find_withIdentifier calls stored noUnderscore isTrimmed q⟩

/-- A dash beside a letter is read as a blank: the filter for this stored ISBN finds nothing. -/
theorem find_withIdentifier_misses_dashes_beside_letter :
    let b : Book := ⟨"Foundation", "Asimov", "0-306-40615-X", ⟨1951, 6, 1, by decide⟩, 1, "", ""⟩
    let c := (replay perform .empty [.create b]).1
    (Row.ofBook b ∈ c.rows ∧ '_' ∉ b.isbn.toList ∧ trimmed b.isbn = b.isbn) ∧
      ¬ ∃ chain, Book.parseFilter (Query.empty.withIdentifier b.isbn).encode = .ok chain ∧
        c.find chain = .ok [b] := by
  intro b c
  refine ⟨⟨by decide +kernel, by decide, by decide⟩, ?_⟩
  rintro ⟨chain, parsed, finds⟩
  have read : Book.parseFilter (Query.empty.withIdentifier b.isbn).encode =
      .ok [.comparison "Isbn" .equals "0 306 40615 X"] := by decide
  rw [read] at parsed
  cases parsed
  obtain ⟨isOpen, consistent⟩ := isConsistent_replay [.create b]
  have nothing : c.get? "0 306 40615 X" = .ok none := by decide +kernel
  have found := find_isbn isOpen consistent.distinct "0 306 40615 X"
  rw [nothing] at found
  have different : (.ok [b] : Except Error (List Book)) = .ok [] := finds.symm.trans found
  cases different

end Catalogue

end BookCatalogue

import Mathlib
import BookCatalogue.Filter.Reader
import BookCatalogue.Proofs.Naming

/-! # The clauses of a filter

A clause has three parts without `_`. A list of clauses is recovered from its join by `_and_` unless
a token, or a value before the last clause, is itself the word `and`: it would join with the
characters around it to one more separator. What a clause denotes is stated here without reference
to the reader, which is then shown to compute it. -/

namespace BookCatalogue.Filter

open Text

/-- The three parts of a clause. -/
structure Clause where
  field : String
  token : String
  value : String
deriving DecidableEq, Repr

namespace Clause

def text (c : Clause) : String := c.field ++ "_" ++ c.token ++ "_" ++ c.value

def name (c : Clause) : String := Naming.camel c.field

/-- No part holds the character that joins the parts. -/
structure IsPlain (c : Clause) : Prop where
  field : '_' ∉ c.field.toList
  token : '_' ∉ c.token.toList
  value : '_' ∉ c.value.toList

theorem isPlain_iff {c : Clause} :
    c.IsPlain ↔ '_' ∉ c.field.toList ∧ '_' ∉ c.token.toList ∧ '_' ∉ c.value.toList :=
  ⟨fun plain => ⟨plain.field, plain.token, plain.value⟩, fun ⟨field, token, value⟩ => ⟨field, token, value⟩⟩

instance : DecidablePred IsPlain := fun _ => decidable_of_iff _ isPlain_iff.symm

/-- What a clause says about a record, given that the schema admits it. -/
inductive Denotes (schema : Schema) (c : Clause) : Predicate → Prop
  | range {first last : List Char} (named : c.name = dateRangeField)
      (bounds : splitOn rangeSeparator c.value.toList = [first, last]) :
      Denotes schema c (.dateRange (String.ofList first) (String.ofList last))
  | comparison {operator : Operator} (named : c.name ≠ dateRangeField)
      (known : schema.hasField c.name = true) (spelled : c.token = operator.token)
      (suits : schema.accepts c.name (meant c.value) = true) :
      Denotes schema c (.comparison c.name operator (meant c.value))

def isIdentifying (c : Clause) : Bool := c.name == identifierField

end Clause

/-- The filter joins these clauses, and its separators are exactly those of the join. -/
structure Spelled (raw : String) (clauses : List Clause) : Prop where
  notEmpty : clauses ≠ []
  plain : ∀ c ∈ clauses, c.IsPlain
  joined : raw = joinStrings "_and_" (clauses.map Clause.text)
  tokens : ∀ c ∈ clauses, c.token ≠ "and"
  values : ∀ c ∈ clauses.dropLast, c.value ≠ "and"

variable {schema : Schema} {c : Clause} {p : Predicate} {raw : String} {clauses : List Clause}

theorem spelled_iff : Spelled raw clauses ↔ clauses ≠ [] ∧ (∀ c ∈ clauses, c.IsPlain) ∧
    raw = joinStrings "_and_" (clauses.map Clause.text) ∧ (∀ c ∈ clauses, c.token ≠ "and") ∧
    ∀ c ∈ clauses.dropLast, c.value ≠ "and" :=
  ⟨fun ⟨notEmpty, plain, joined, tokens, values⟩ => ⟨notEmpty, plain, joined, tokens, values⟩,
    fun ⟨notEmpty, plain, joined, tokens, values⟩ => ⟨notEmpty, plain, joined, tokens, values⟩⟩

instance : Decidable (Spelled raw clauses) := decidable_of_iff _ spelled_iff.symm

/-! ## Cutting a clause into its parts -/

namespace Clause

theorem toList_text (c : Clause) :
    c.text.toList = joinWith partSeparator [c.field.toList, c.token.toList, c.value.toList] := by
  simp [text, joinWith, partSeparator]

theorem IsPlain.parts (plain : c.IsPlain) :
    ∀ part ∈ [c.field.toList, c.token.toList, c.value.toList], '_' ∉ part := by
  simpa using ⟨plain.field, plain.token, plain.value⟩

theorem IsPlain.splitOn_text (plain : c.IsPlain) :
    splitOn partSeparator c.text.toList = [c.field.toList, c.token.toList, c.value.toList] :=
  splitOn_singleton_eq_iff.mpr ⟨⟨List.cons_ne_nil _ _, plain.parts⟩, c.toList_text.symm⟩

/-- Three parts make up a plain clause. -/
theorem exists_of_splitOn {piece field token value : List Char}
    (parts : splitOn partSeparator piece = [field, token, value]) :
    (⟨.ofList field, .ofList token, .ofList value⟩ : Clause).IsPlain ∧
      (⟨.ofList field, .ofList token, .ofList value⟩ : Clause).text.toList = piece := by
  obtain ⟨⟨_, plain⟩, joined⟩ := splitOn_singleton_eq_iff.mp parts
  refine ⟨⟨?_, ?_, ?_⟩, ?_⟩
  · simpa using plain field (by simp)
  · simpa using plain token (by simp)
  · simpa using plain value (by simp)
  · rw [toList_text, partSeparator]
    simpa only [String.toList_ofList] using joined

/-- Equal texts of plain clauses are texts of the same clause. -/
theorem eq_of_text {d : Clause} (plain : c.IsPlain) (plain' : d.IsPlain)
    (same : c.text.toList = d.text.toList) : c = d := by
  have parts := plain.splitOn_text
  rw [same, plain'.splitOn_text] at parts
  simp only [List.cons.injEq, String.toList_inj, and_true] at parts
  obtain ⟨field, token, value⟩ := parts
  cases c
  cases d
  simp_all

theorem IsPlain.splitOn_text_append (plain : c.IsPlain) (rest : List Char) :
    splitOn partSeparator (c.text.toList ++ clauseSeparator ++ rest) =
      c.field.toList :: c.token.toList :: c.value.toList :: ['a', 'n', 'd'] ::
        splitOn partSeparator rest := by
  have cut : c.text.toList ++ clauseSeparator ++ rest =
      c.text.toList ++ '_' :: (['a', 'n', 'd'] ++ '_' :: rest) := by
    simp [clauseSeparator]
  have word : splitOn partSeparator ['a', 'n', 'd'] = [['a', 'n', 'd']] := by decide
  rw [partSeparator] at word ⊢
  rw [cut, splitOn_append_cons, splitOn_append_cons, word, ← partSeparator, plain.splitOn_text]
  rfl

/-! ## Separators inside a clause -/

private theorem and_infix_iff {pieces : List (List Char)} (plain : ∀ piece ∈ pieces, '_' ∉ piece) :
    clauseSeparator <:+: joinWith ['_'] pieces ↔ ['a', 'n', 'd'] ∈ pieces.tail.dropLast :=
  enclosed_infix_joinWith_iff plain (show '_' ∉ ['a', 'n', 'd'] by decide)

private theorem toList_eq_and {s : String} : s.toList = ['a', 'n', 'd'] ↔ s = "and" := by
  rw [← String.toList_inj]
  rfl

theorem IsPlain.and_infix_text (plain : c.IsPlain) :
    clauseSeparator <:+: c.text.toList ↔ c.token = "and" := by
  rw [toList_text, partSeparator, and_infix_iff plain.parts, ← toList_eq_and]
  simp [eq_comm]

/-- Before another clause, a value may also complete a separator. -/
theorem IsPlain.and_infix_text_append (plain : c.IsPlain) :
    clauseSeparator <:+: c.text.toList ++ clauseSeparator.dropLast ↔
      c.token = "and" ∨ c.value = "and" := by
  have longer : c.text.toList ++ clauseSeparator.dropLast =
      joinWith ['_'] [c.field.toList, c.token.toList, c.value.toList, ['a', 'n', 'd']] := by
    simp [toList_text, joinWith, partSeparator, clauseSeparator]
  rw [longer, and_infix_iff, ← toList_eq_and, ← toList_eq_and]
  · simp [eq_comm]
  · intro part member
    rcases List.mem_append.mp (show part ∈ [_, _, _] ++ [['a', 'n', 'd']] from member) with own | last
    · exact plain.parts part own
    · rw [List.mem_singleton.mp last]
      decide

end Clause

/-! ## Cutting a filter into its clauses -/

theorem clauseSeparator_ne_nil : clauseSeparator ≠ [] := by decide

private theorem separated_texts_iff (notEmpty : clauses ≠ []) (plain : ∀ c ∈ clauses, c.IsPlain) :
    Separated clauseSeparator (clauses.map fun c => c.text.toList) ↔
      (∀ c ∈ clauses, c.token ≠ "and") ∧ ∀ c ∈ clauses.dropLast, c.value ≠ "and" := by
  induction clauses with
  | nil => exact absurd rfl notEmpty
  | cons c clauses ih =>
    obtain ⟨plainHead, plainTail⟩ := List.forall_mem_cons.mp plain
    cases clauses with
    | nil => simp [Separated, plainHead.and_infix_text]
    | cons d clauses =>
      rw [List.map_cons, separated_cons (by simp), plainHead.and_infix_text_append,
        ih (List.cons_ne_nil d clauses) plainTail]
      simp only [List.dropLast_cons_cons, List.forall_mem_cons]
      grind

theorem toList_joined (clauses : List Clause) :
    (joinStrings "_and_" (clauses.map Clause.text)).toList =
      joinWith clauseSeparator (clauses.map fun c => c.text.toList) := by
  rw [joinStrings, String.toList_ofList, List.map_map]
  rfl

/-- The clauses of a spelling are what the reader cuts the filter into. -/
theorem spelled_iff_splitOn (plain : ∀ c ∈ clauses, c.IsPlain) :
    Spelled raw clauses ↔
      splitOn clauseSeparator raw.toList = clauses.map fun c => c.text.toList := by
  rw [splitOn_eq_iff clauseSeparator_ne_nil]
  have joined : raw = joinStrings "_and_" (clauses.map Clause.text) ↔
      joinWith clauseSeparator (clauses.map fun c => c.text.toList) = raw.toList := by
    rw [← String.toList_inj, toList_joined, eq_comm]
  constructor
  · intro spelled
    exact ⟨(separated_texts_iff spelled.notEmpty plain).mpr ⟨spelled.tokens, spelled.values⟩,
      joined.mp spelled.joined⟩
  · rintro ⟨separated, same⟩
    have notEmpty : clauses ≠ [] := by simpa using separated.ne_nil
    obtain ⟨tokens, values⟩ := (separated_texts_iff notEmpty plain).mp separated
    exact ⟨notEmpty, plain, joined.mpr same, tokens, values⟩

theorem Spelled.splitOn (spelled : Spelled raw clauses) :
    splitOn clauseSeparator raw.toList = clauses.map fun c => c.text.toList :=
  (spelled_iff_splitOn spelled.plain).mp spelled

/-- A filter is spelled in at most one way. -/
theorem Spelled.unique {others : List Clause} (spelled : Spelled raw clauses)
    (other : Spelled raw others) : others = clauses := by
  have texts := other.splitOn.symm.trans spelled.splitOn
  have plain := spelled.plain
  have plainOther := other.plain
  clear spelled other
  induction others generalizing clauses with
  | nil => exact (List.map_eq_nil_iff.mp texts.symm).symm
  | cons d others ih =>
    cases clauses with
    | nil => simp at texts
    | cons c clauses =>
      rw [List.map_cons, List.map_cons, List.cons.injEq] at texts
      rw [List.forall_mem_cons] at plain plainOther
      rw [Clause.eq_of_text plainOther.1 plain.1 texts.1, ih texts.2 plain.2 plainOther.2]

end BookCatalogue.Filter

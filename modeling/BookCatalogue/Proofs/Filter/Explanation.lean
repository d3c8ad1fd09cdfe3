import Mathlib
import BookCatalogue.Book.Field
import BookCatalogue.Proofs.Filter.Rendering
import BookCatalogue.Proofs.Text.Quoted

/-! # Explanations are unambiguous

The condition of a chain holds no line break and neither does a quoted parameter, so an explanation has one
line for the condition and one for each parameter. The parameters can be read off their lines: whatever
characters a value holds, it forges no line, no parameter and no condition. -/

namespace BookCatalogue

open Text

namespace Filter

theorem Predicate.newline_not_mem_fragment (p : Predicate) : '\n' ∉ p.fragment.toList := by
  cases p with
  | comparison field operator value =>
    have absent : '\n' ∉ (Naming.column field).toList := Naming.not_mem_column (by decide) field
    cases operator <;> simp [fragment, column, Predicate.field, Operator.symbol, absent]
  | dateRange first last =>
    rw [fragment_dateRange]
    decide

namespace Chain

theorem newline_not_mem_fragment (chain : Chain) : '\n' ∉ chain.fragment.toList := by
  rw [fragment, joinStrings, String.toList_ofList]
  intro member
  rcases mem_joinWith member with separator | ⟨piece, present, inside⟩
  · exact absurd separator (by decide)
  · obtain ⟨text, condition, rfl⟩ := List.mem_map.mp present
    obtain ⟨p, _, rfl⟩ := List.mem_map.mp condition
    exact p.newline_not_mem_fragment inside

/-! ## Lines -/

def paramLine (number : Nat) (param : String) : List Char :=
  ("  ?" ++ toString number ++ " = ").toList ++ (quote param).toList

/-- The line about the condition and the lines about the parameters, counted from one. -/
def explanationLines (chain : Chain) : List (List Char) :=
  ("WHERE " ++ chain.fragment).toList :: chain.params.mapIdx fun i param => paramLine (i + 1) param

theorem toList_explainParam (number : Nat) (param : String) :
    (explainParam number param).toList = '\n' :: paramLine number param := by
  simp [explainParam, paramLine]

theorem newline_not_mem_paramLine (number : Nat) (param : String) : '\n' ∉ paramLine number param := by
  have absent : '\n' ∉ Nat.toDigits 10 number := fun member => by
    simpa using Nat.isDigit_of_mem_toDigits (by decide) (by decide) member
  simp [paramLine, newline_not_mem_quote, absent, toString, Nat.toList_repr]

/-- Each parameter adds a line. -/
theorem splitOn_append_explainParams {line : List Char} (absent : '\n' ∉ line) (number : Nat)
    (params : List String) :
    splitOn ['\n'] (line ++ (explainParams number params).toList) =
      line :: params.mapIdx fun i param => paramLine (number + i) param := by
  induction params generalizing line number with
  | nil =>
    have none : (explainParams number []).toList = [] := rfl
    rw [none, List.append_nil, splitOn_of_not_mem absent, List.mapIdx_nil]
  | cons param params ih =>
    rw [explainParams, String.toList_append, toList_explainParam, List.cons_append,
      splitOn_append_cons_of_not_mem absent, ih (newline_not_mem_paramLine number param), List.mapIdx_cons]
    simp [Nat.add_assoc, Nat.add_comm 1]

theorem splitOn_explain (chain : Chain) : splitOn ['\n'] chain.explain.toList = chain.explanationLines := by
  have absent : '\n' ∉ ("WHERE " ++ chain.fragment).toList := by
    simp [newline_not_mem_fragment]
  rw [explain, String.toList_append, splitOn_append_explainParams absent]
  simp [explanationLines, Nat.add_comm 1]

/-! ## Reading an explanation -/

theorem paramLine_injective (number : Nat) : Function.Injective (paramLine number) := by
  intro param param' same
  have quoted : (quote param).toList = (quote param').toList := List.append_cancel_left same
  exact quote_injective (String.toList_inj.mp quoted)

theorem mapIdx_paramLine_inj {params params' : List String} :
    (params.mapIdx fun i param => paramLine (i + 1) param) =
      (params'.mapIdx fun i param => paramLine (i + 1) param) ↔ params = params' := by
  refine ⟨fun same => ?_, congrArg _⟩
  have lengths := congrArg List.length same
  rw [List.length_mapIdx, List.length_mapIdx] at lengths
  apply List.ext_getElem lengths
  intro i inside inside'
  have line := congrArg (·[i]?) same
  simpa [inside, inside', (paramLine_injective _).eq_iff] using line

theorem explanationLines_inj {chain chain' : Chain} :
    chain.explanationLines = chain'.explanationLines ↔
      chain.fragment = chain'.fragment ∧ chain.params = chain'.params := by
  have first : ("WHERE " ++ chain.fragment).toList = ("WHERE " ++ chain'.fragment).toList ↔
      chain.fragment = chain'.fragment := by
    simp [← String.toList_inj]
  rw [explanationLines, explanationLines, List.cons.injEq, first, mapIdx_paramLine_inj]

theorem explain_inj {chain chain' : Chain} :
    chain.explain = chain'.explain ↔ chain.fragment = chain'.fragment ∧ chain.params = chain'.params := by
  rw [← explanationLines_inj, ← splitOn_explain, ← splitOn_explain]
  constructor
  · intro same
    rw [same]
  · intro same
    exact String.toList_inj.mp (splitOn_injective (List.cons_ne_nil _ _) same)

end Chain

end Filter

namespace Book

open BookCatalogue.Filter (Chain)

variable {raw : String} {chain : Chain}

theorem explainFilter_of_parseFilter (accepted : parseFilter raw = .ok chain) :
    explainFilter raw = .ok chain.explain := by
  rw [explainFilter, accepted]
  rfl

/-- The explanation of an accepted filter has a line for its condition and one for each parameter, and two
accepted filters have the same explanation just when they have the same condition and parameters. -/
theorem explainFilter_unambiguous (accepted : parseFilter raw = .ok chain) :
    (∃ text, explainFilter raw = .ok text ∧
      splitOn ['\n'] text.toList = ("WHERE " ++ chain.fragment).toList ::
        chain.params.mapIdx (fun i param => ("  ?" ++ toString (i + 1) ++ " = " ++ quote param).toList) ∧
      (splitOn ['\n'] text.toList).length = 1 + chain.params.length) ∧
    ∀ raw' chain', parseFilter raw' = .ok chain' →
      (explainFilter raw = explainFilter raw' ↔
        chain.fragment = chain'.fragment ∧ chain.params = chain'.params) := by
  refine ⟨⟨chain.explain, explainFilter_of_parseFilter accepted, ?_, ?_⟩, ?_⟩
  · simp [chain.splitOn_explain, Chain.explanationLines, Chain.paramLine]
  · rw [chain.splitOn_explain, Chain.explanationLines, List.length_cons, List.length_mapIdx, Nat.add_comm]
  · intro raw' chain' accepted'
    rw [explainFilter_of_parseFilter accepted, explainFilter_of_parseFilter accepted', Except.ok.injEq,
      Chain.explain_inj]

/-- A title that spells the end of its own line and the whole line of another parameter. -/
theorem explainFilter_unambiguous_forged_line :
    let raw := "title_eq_Emma\"\n  ?2 = \"Austen"
    let raw' := "title_eq_Emma_and_author_eq_Austen"
    (parseFilter raw = .ok [.comparison "Title" .equals "Emma\"\n  ?2 = \"Austen"] ∧
        parseFilter raw' = .ok [.comparison "Title" .equals "Emma", .comparison "Author" .equals "Austen"]) ∧
      (∃ text, explainFilter raw = .ok text ∧ (splitOn ['\n'] text.toList).length = 2) ∧
      explainFilter raw ≠ explainFilter raw' := by
  intro raw raw'
  have accepted : parseFilter raw = .ok [.comparison "Title" .equals "Emma\"\n  ?2 = \"Austen"] := by decide
  have accepted' : parseFilter raw' =
      .ok [.comparison "Title" .equals "Emma", .comparison "Author" .equals "Austen"] := by decide
  obtain ⟨⟨text, explained, _, count⟩, told⟩ := explainFilter_unambiguous accepted
  refine ⟨⟨accepted, accepted'⟩, ⟨text, explained, count⟩, fun same => ?_⟩
  have params := ((told raw' _ accepted').mp same).2
  exact absurd params (by decide)

end Book

end BookCatalogue

import Mathlib
import BookCatalogue.Proofs.Json.Draft
import BookCatalogue.Proofs.Json.Literal

/-! # Every text of a draft is read as the draft

Blanks are no tokens, and what stands between them has the tokens of the draft that it writes. -/

namespace BookCatalogue.Json

theorem tokensFrom_blanks {blanks : List Char} (areBlanks : AreBlanks blanks) (rest : List (Option Char)) :
    tokensFrom .between (blanks.map some ++ rest) = tokensFrom .between rest := by
  induction blanks with
  | nil => rfl
  | cons c blanks ih =>
    obtain ⟨blank, others⟩ := List.forall_mem_cons.mp areBlanks
    have skipped : Mode.between.step (some c) = (.between, []) := by
      rcases blank with rfl | rfl | rfl | rfl <;> rfl
    simpa [tokensFrom, skipped] using ih others

section Tokens

variable {rest : List (Option Char)} {cs : List Char}

/-- Blanks around a text do not change its tokens. -/
theorem tokensFrom_padded {kind : List Char → Prop} (ts : List Token)
    (reads : ∀ {inner}, kind inner → ∀ {more}, IsDelimited more →
      tokensFrom .between (inner.map some ++ more) = ts ++ tokensFrom .between more)
    (padded : Padded kind cs) (delimited : IsDelimited rest) :
    tokensFrom .between (cs.map some ++ rest) = ts ++ tokensFrom .between rest := by
  obtain ⟨before, inner, after, rfl, blanksBefore, isKind, blanksAfter⟩ := padded
  rw [List.map_append, List.map_append, List.append_assoc, List.append_assoc, tokensFrom_blanks blanksBefore,
    reads isKind (isDelimited_blanks blanksAfter delimited), tokensFrom_blanks blanksAfter]

theorem tokensFrom_comma :
    tokensFrom .between (some ',' :: rest) = .comma :: tokensFrom .between rest := rfl

/-- A key and the colon after it. -/
theorem tokensFrom_key {key : Option String} (padded : Padded (IsString key) cs) :
    tokensFrom .between (cs.map some ++ some ':' :: rest) =
      .string key :: .colon :: tokensFrom .between rest := by
  have colon : IsDelimited (some ':' :: rest) := isDelimited_cons (by decide) rest
  have read := tokensFrom_padded [.string key] (fun string more _ => tokensFrom_isString string more) padded colon
  exact read

mutual

/-- A text of a draft has the tokens of the draft. -/
theorem tokensFrom_draft (d : Draft) {cs : List Char} (written : d.IsWritten cs) {rest : List (Option Char)}
    (delimited : IsDelimited rest) :
    tokensFrom .between (cs.map some ++ rest) = d.tokens ++ tokensFrom .between rest := by
  match d with
  | .null | .bool true | .bool false =>
    rw [Draft.IsWritten] at written
    rw [written]
    rfl
  | .number n => exact tokensFrom_isWritten written delimited
  | .string content => exact tokensFrom_isString written rest
  | .array items =>
    obtain ⟨inner, rfl, areItems⟩ := written
    have close : IsDelimited (some ']' :: rest) := isDelimited_cons (by decide) rest
    have read := tokensFrom_items items areItems close
    have opened : tokensFrom .between (('[' :: inner ++ [']']).map some ++ rest) =
        .openBracket :: tokensFrom .between (inner.map some ++ some ']' :: rest) := by
      simp [tokensFrom, Mode.step, begins]
    have closed : tokensFrom .between (some ']' :: rest) = .closeBracket :: tokensFrom .between rest := rfl
    rw [opened, read, closed]
    simp [Draft.tokens]
  | .object members =>
    obtain ⟨inner, rfl, areMembers⟩ := written
    have close : IsDelimited (some '\x7d' :: rest) := isDelimited_cons (by decide) rest
    have read := tokensFrom_members members areMembers close
    have opened : tokensFrom .between (('\x7b' :: inner ++ ['\x7d']).map some ++ rest) =
        .openBrace :: tokensFrom .between (inner.map some ++ some '\x7d' :: rest) := by
      simp [tokensFrom, Mode.step, begins]
    have closed : tokensFrom .between (some '\x7d' :: rest) = .closeBrace :: tokensFrom .between rest := rfl
    rw [opened, read, closed]
    simp [Draft.tokens]
  | .cut => cases written

/-- Texts of items with commas between them have the tokens of the items. -/
theorem tokensFrom_items (items : List Draft) {cs : List Char} (written : itemsWritten items cs)
    {rest : List (Option Char)} (delimited : IsDelimited rest) :
    tokensFrom .between (cs.map some ++ rest) = itemTokens items ++ tokensFrom .between rest := by
  match items with
  | [] => exact tokensFrom_blanks written rest
  | [item] =>
    have read := tokensFrom_padded item.tokens (tokensFrom_draft item) written delimited
    exact read
  | item :: next :: more =>
    obtain ⟨first, others, rfl, isFirst, areOthers⟩ := written
    have comma : IsDelimited (some ',' :: (others.map some ++ rest)) := isDelimited_cons (by decide) _
    have read := tokensFrom_padded item.tokens (tokensFrom_draft item) isFirst comma
    rw [tokensFrom_comma, tokensFrom_items (next :: more) areOthers delimited] at read
    simpa [itemTokens] using read

/-- Texts of members with commas between them have the tokens of the members. -/
theorem tokensFrom_members (members : List (Option String × Draft)) {cs : List Char}
    (written : membersWritten members cs) {rest : List (Option Char)} (delimited : IsDelimited rest) :
    tokensFrom .between (cs.map some ++ rest) = memberTokens members ++ tokensFrom .between rest := by
  match members with
  | [] => exact tokensFrom_blanks written rest
  | [(key, value)] =>
    obtain ⟨name, content, rfl, isName, isContent⟩ := written
    have read := tokensFrom_padded value.tokens (tokensFrom_draft value) isContent delimited
    rw [List.map_append, List.append_assoc, List.map_cons, List.cons_append, tokensFrom_key isName, read]
    rfl
  | (key, value) :: next :: more =>
    obtain ⟨name, content, others, rfl, isName, isContent, areOthers⟩ := written
    have comma : IsDelimited (some ',' :: (others.map some ++ rest)) := isDelimited_cons (by decide) _
    have read := tokensFrom_padded value.tokens (tokensFrom_draft value) isContent comma
    rw [tokensFrom_comma, tokensFrom_members (next :: more) areOthers delimited] at read
    rw [List.map_append, List.map_append, List.append_assoc, List.append_assoc, List.map_cons, List.cons_append,
      tokensFrom_key isName, List.map_cons, List.cons_append, read]
    simp [memberTokens]

end

end Tokens

/-- Every text of a draft is read as the draft, and ends after it. -/
theorem ofString_of_isText {d : Draft} {text : String} (isText : d.IsText text) :
    Document.ofString text = ⟨d, true⟩ := by
  have read := tokensFrom_padded d.tokens (tokensFrom_draft d) isText isDelimited_nil
  have ended : tokensFrom .between [] = [] := rfl
  rw [List.append_nil, ended, List.append_nil] at read
  obtain ⟨inner, written⟩ := isText.exists_inner
  rw [Document.ofString, Document.ofChars, tokens, read, readTokens_tokens_nil (isWhole_of_isWritten d written)]

end BookCatalogue.Json

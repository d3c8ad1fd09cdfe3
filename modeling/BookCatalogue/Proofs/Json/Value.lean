import Mathlib
import BookCatalogue.Proofs.Json.Reading

/-! # Written values are read back

What is written for a JSON value is a text of its draft, in which strings have their characters, numbers
their digits, and items and members their order. -/

namespace BookCatalogue.Json

mutual

/-- The draft that a value is read as. -/
def Value.draft : Value → Draft
  | .null => .null
  | .bool b => .bool b
  | .number n => .number ⟨false, Nat.toDigits 10 n, [], none⟩
  | .string s => .string (some s)
  | .array items => .array (itemDrafts items)
  | .object members => .object (memberDrafts members)

def itemDrafts : List Value → List Draft
  | [] => []
  | item :: items => item.draft :: itemDrafts items

def memberDrafts : List (String × Value) → List (Option String × Draft)
  | [] => []
  | (key, value) :: members => (some key, value.draft) :: memberDrafts members

end

mutual

/-- What is written for a value is a text of its draft. -/
theorem isWritten_toChars (v : Value) : v.draft.IsWritten v.toChars := by
  match v with
  | .null | .bool true | .bool false => rfl
  | .number n => exact isWritten_toString n
  | .string s => exact isString_stringChars s
  | .array items => exact ⟨_, rfl, itemsWritten_itemChars items⟩
  | .object members => exact ⟨_, rfl, membersWritten_memberChars members⟩

theorem itemsWritten_itemChars (items : List Value) :
    itemsWritten (itemDrafts items) (Text.joinWith [','] (itemChars items)) := by
  match items with
  | [] => exact fun _ member => absurd member List.not_mem_nil
  | [item] => exact .of_kind (isWritten_toChars item)
  | item :: next :: more =>
    have others := itemsWritten_itemChars (next :: more)
    refine ⟨item.toChars, _, ?_, .of_kind (isWritten_toChars item), others⟩
    simp [itemChars, Text.joinWith]

theorem membersWritten_memberChars (members : List (String × Value)) :
    membersWritten (memberDrafts members) (Text.joinWith [','] (memberChars members)) := by
  match members with
  | [] => exact fun _ member => absurd member List.not_mem_nil
  | [(key, value)] =>
    exact ⟨stringChars key, value.toChars, rfl, .of_kind (isString_stringChars key),
      .of_kind (isWritten_toChars value)⟩
  | (key, value) :: next :: more =>
    have others := membersWritten_memberChars (next :: more)
    refine ⟨stringChars key, value.toChars, _, ?_, .of_kind (isString_stringChars key),
      .of_kind (isWritten_toChars value), others⟩
    simp [memberChars, Text.joinWith]

end

theorem isText_print (v : Value) : v.draft.IsText v.print := by
  rw [Draft.IsText, Value.print, String.toList_ofList]
  exact .of_kind (isWritten_toChars v)

/-- The text of a value is read as its draft. -/
theorem ofString_print (v : Value) : Document.ofString v.print = ⟨v.draft, true⟩ :=
  ofString_of_isText (isText_print v)

end BookCatalogue.Json

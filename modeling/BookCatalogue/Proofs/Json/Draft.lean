import Mathlib
import BookCatalogue.Json.Draft

/-! # Reading whole drafts

A draft in which nothing is cut off has tokens of its own. They are read as that draft inside whatever
containers, and the reading goes on with what follows them. -/

namespace BookCatalogue.Json

mutual

/-- The tokens of a draft. -/
def Draft.tokens : Draft → List Token
  | .null => [.null]
  | .bool b => [.bool b]
  | .number n => [.number n]
  | .string content => [.string content]
  | .array items => .openBracket :: itemTokens items ++ [.closeBracket]
  | .object members => .openBrace :: memberTokens members ++ [.closeBrace]
  | .cut => []

def itemTokens : List Draft → List Token
  | [] => []
  | [item] => item.tokens
  | item :: next :: more => item.tokens ++ .comma :: itemTokens (next :: more)

def memberTokens : List (Option String × Draft) → List Token
  | [] => []
  | [(key, value)] => .string key :: .colon :: value.tokens
  | (key, value) :: next :: more =>
    .string key :: .colon :: value.tokens ++ .comma :: memberTokens (next :: more)

end

/-! ## Values inside containers -/

/-- A value may be read inside these containers. -/
def takesValue : List Frame → Bool
  | .object _ :: _ => false
  | _ => true

/-- Reads on after a value inside these containers. -/
def readAfter (value : Draft) : List Frame → List Token → Document
  | [], rest => ⟨value, rest.isEmpty⟩
  | .array items :: frames, rest => readTokens (.array (value :: items) :: frames) .next rest
  | .member members key :: frames, rest =>
    readTokens (.object ((key, value) :: members) :: frames) .next rest
  | .object members :: frames, _ => ⟨abandon (.object members :: frames), true⟩

/-- A token that completes a value is followed by what is read after it. -/
theorem readTokens_of_put {inner frames : List Frame} {place : Place} {token : Token} {value : Draft}
    (takes : takesValue frames = true) (completes : advance inner place token = put value frames)
    (rest : List Token) : readTokens inner place (token :: rest) = readAfter value frames rest := by
  rw [readTokens, completes]
  rcases frames with _ | ⟨items | members | ⟨members, key⟩, frames⟩
  · rfl
  · rfl
  · cases takes
  · rfl

/-- A whole draft does not begin with the end of an array. -/
theorem readTokens_firstItem {item : Draft} (whole : item.isWhole = true) (items : List Draft)
    (frames : List Frame) (rest : List Token) :
    readTokens frames .firstItem (itemTokens (item :: items) ++ rest) =
      readTokens frames .value (itemTokens (item :: items) ++ rest) := by
  obtain ⟨more, tokens⟩ : ∃ more, itemTokens (item :: items) ++ rest = item.tokens ++ more := by
    cases items with
    | nil => exact ⟨rest, rfl⟩
    | cons next items =>
      rw [itemTokens, List.append_assoc]
      exact ⟨_, rfl⟩
  rw [tokens]
  cases item with
  | cut => simp [Draft.isWhole] at whole
  | _ => rfl

/-- The first key of an object is read like any other. -/
theorem readTokens_firstKey (member : Option String × Draft) (members : List (Option String × Draft))
    (frames : List Frame) (rest : List Token) :
    readTokens (.object [] :: frames) .firstKey (memberTokens (member :: members) ++ rest) =
      readTokens (.object [] :: frames) .key (memberTokens (member :: members) ++ rest) := by
  cases members <;> rfl

/-! ## Reading -/

mutual

/-- The tokens of a whole draft are read as the draft. -/
theorem readTokens_tokens (d : Draft) (whole : d.isWhole = true) {frames : List Frame}
    (takes : takesValue frames = true) (rest : List Token) :
    readTokens frames .value (d.tokens ++ rest) = readAfter d frames rest := by
  match d with
  | .null => exact readTokens_of_put takes rfl rest
  | .bool b => exact readTokens_of_put takes rfl rest
  | .number n => exact readTokens_of_put takes rfl rest
  | .string content => exact readTokens_of_put takes rfl rest
  | .array [] =>
    have opened : readTokens frames .value (.openBracket :: .closeBracket :: rest) =
        readTokens (.array [] :: frames) .firstItem (.closeBracket :: rest) := rfl
    exact opened.trans (readTokens_of_put takes rfl rest)
  | .array (item :: items) =>
    have wholeItems : itemsWhole (item :: items) = true := whole
    have wholeItem : item.isWhole = true := (Bool.and_eq_true_iff.mp wholeItems).1
    have opened : readTokens frames .value ((Draft.array (item :: items)).tokens ++ rest) =
        readTokens (.array [] :: frames) .firstItem (itemTokens (item :: items) ++ .closeBracket :: rest) := by
      simp [Draft.tokens, readTokens, advance, beginValue]
    rw [opened, readTokens_firstItem wholeItem]
    exact readTokens_itemTokens (item :: items) (List.cons_ne_nil _ _) wholeItems [] takes rest
  | .object [] =>
    have opened : readTokens frames .value (.openBrace :: .closeBrace :: rest) =
        readTokens (.object [] :: frames) .firstKey (.closeBrace :: rest) := rfl
    exact opened.trans (readTokens_of_put takes rfl rest)
  | .object ((key, value) :: members) =>
    have opened : readTokens frames .value ((Draft.object ((key, value) :: members)).tokens ++ rest) =
        readTokens (.object [] :: frames) .firstKey
          (memberTokens ((key, value) :: members) ++ .closeBrace :: rest) := by
      simp [Draft.tokens, readTokens, advance, beginValue]
    rw [opened, readTokens_firstKey]
    exact readTokens_memberTokens ((key, value) :: members) (List.cons_ne_nil _ _) whole [] takes rest
  | .cut => simp [Draft.isWhole] at whole

/-- Items are read one after another up to the end of their array. -/
theorem readTokens_itemTokens (items : List Draft) (nonempty : items ≠ []) (whole : itemsWhole items = true)
    (earlier : List Draft) {frames : List Frame} (takes : takesValue frames = true) (rest : List Token) :
    readTokens (.array earlier :: frames) .value (itemTokens items ++ .closeBracket :: rest) =
      readAfter (.array (earlier.reverse ++ items)) frames rest := by
  match items with
  | [] => exact absurd rfl nonempty
  | [item] =>
    have wholeItem : item.isWhole = true := by simpa [itemsWhole] using whole
    rw [itemTokens, readTokens_tokens item wholeItem rfl, readAfter, readTokens_of_put takes rfl,
      List.reverse_cons]
  | item :: next :: more =>
    obtain ⟨wholeItem, wholeItems⟩ : item.isWhole = true ∧ itemsWhole (next :: more) = true :=
      Bool.and_eq_true_iff.mp whole
    rw [itemTokens, List.append_assoc, readTokens_tokens item wholeItem rfl, readAfter, List.cons_append]
    have continued :=
      readTokens_itemTokens (next :: more) (List.cons_ne_nil _ _) wholeItems (item :: earlier) takes rest
    rw [List.reverse_cons, List.append_assoc] at continued
    exact continued

/-- Members are read one after another up to the end of their object. -/
theorem readTokens_memberTokens (members : List (Option String × Draft)) (nonempty : members ≠ [])
    (whole : membersWhole members = true) (earlier : List (Option String × Draft))
    {frames : List Frame} (takes : takesValue frames = true) (rest : List Token) :
    readTokens (.object earlier :: frames) .key (memberTokens members ++ .closeBrace :: rest) =
      readAfter (.object (earlier.reverse ++ members)) frames rest := by
  have valueNext (key : Option String) (tokens : List Token) :
      readTokens (.object earlier :: frames) .key (.string key :: .colon :: tokens) =
        readTokens (.member earlier key :: frames) .value tokens := rfl
  match members with
  | [] => exact absurd rfl nonempty
  | [(key, value)] =>
    have wholeValue : value.isWhole = true := by simpa [membersWhole] using whole
    rw [memberTokens, List.cons_append, List.cons_append, valueNext, readTokens_tokens value wholeValue rfl,
      readAfter, readTokens_of_put takes rfl, List.reverse_cons]
  | (key, value) :: next :: more =>
    obtain ⟨wholeValue, wholeMembers⟩ : value.isWhole = true ∧ membersWhole (next :: more) = true :=
      Bool.and_eq_true_iff.mp whole
    rw [memberTokens, List.append_assoc, List.cons_append, List.cons_append, valueNext,
      readTokens_tokens value wholeValue rfl, readAfter, List.cons_append]
    have continued := readTokens_memberTokens (next :: more) (List.cons_ne_nil _ _) wholeMembers
      ((key, value) :: earlier) takes rest
    rw [List.reverse_cons, List.append_assoc] at continued
    exact continued

end

/-- A text of the tokens of a whole draft is read as the draft, and ends after it. -/
theorem readTokens_tokens_nil {d : Draft} (whole : d.isWhole = true) :
    readTokens [] .value d.tokens = ⟨d, true⟩ := by
  have read : readTokens [] .value (d.tokens ++ []) = ⟨d, true⟩ := readTokens_tokens d whole rfl []
  rwa [List.append_nil] at read

end BookCatalogue.Json

import Mathlib
import BookCatalogue.Filter.Query
import BookCatalogue.Proofs.Naming
import BookCatalogue.Proofs.Text.Words

/-! # Field names through the builder

The builder writes a field name as its words in lower case. White space and dashes separate words for the
camel-case name alike, so nothing but the capitals can be lost: the name stays the same just when every
capital of the spelling stands where the camel-case name has one anyway. -/

namespace BookCatalogue.Filter

open Naming Text

/-- A character is the first of a word after these: no letter or digit, a separator last, or a digit last. -/
inductive StartsWord (before : List Char) : Prop
  | first (nothing : ∀ c ∈ before, c.isAlphanum = false)
  | separated {c : Char} (last : before.getLast? = some c) (separator : c.isAlphanum = false)
  | numbered {c : Char} (last : before.getLast? = some c) (digit : c.isDigit = true)

theorem startsWord_iff (before : List Char) : StartsWord before ↔ opensAfter true before = true := by
  induction before using List.reverseRecOn with
  | nil => exact ⟨fun _ => rfl, fun _ => .first (by simp)⟩
  | append_singleton before c =>
    rw [opensAfter_concat, Bool.or_eq_true, Bool.not_eq_true']
    constructor
    · rintro (nothing | ⟨last, separator⟩ | ⟨last, digit⟩)
      · exact .inl (nothing c (by simp))
      · rw [List.getLast?_concat, Option.some.injEq] at last
        exact .inl (last ▸ separator)
      · rw [List.getLast?_concat, Option.some.injEq] at last
        exact .inr (last ▸ digit)
    · rintro (separator | digit)
      · exact .separated List.getLast?_concat separator
      · exact .numbered List.getLast?_concat digit

namespace Query

/-- Dashes between the words of a text open words just as its white space does. -/
theorem camelFrom_joinWith_wordsFrom (started cs : List Char) :
    camelFrom true ((joinWith ['-'] (wordsFrom started cs)).map Char.toLower) =
      camelFrom true ((started.reverse ++ cs).map Char.toLower) := by
  induction cs generalizing started with
  | nil =>
    rw [wordsFrom]
    split
    · next none => simp [List.isEmpty_iff.mp none, joinWith]
    · simp [joinWith]
  | cons c rest ih =>
    rw [wordsFrom]
    split
    · next space =>
      have separator : c.toLower.isAlphanum = false := by
        rw [isAlphanum_toLower]
        exact isAlphanum_of_isSpace space
      have dash : '-'.toLower.isAlphanum = false := by decide
      have later := ih []
      rw [List.reverse_nil, List.nil_append] at later
      rw [List.map_append, List.map_cons, camelFrom_append_cons separator, ← later]
      split
      · next none => simp [List.isEmpty_iff.mp none, camelFrom]
      · by_cases last : wordsFrom [] rest = []
        · simp [last, joinWith, camelFrom]
        · rw [joinWith_cons _ _ last, List.append_assoc, List.singleton_append, List.map_append,
            List.map_cons, camelFrom_append_cons dash]
    · rw [ih, List.reverse_cons, List.append_assoc, List.singleton_append]

variable {field : String}

theorem camel_encodeField_of_ascii (ascii : ∀ c ∈ field.toList, c.toNat < 128) :
    camel (encodeField field) = String.ofList (camelFrom true (field.toList.map Char.toLower)) := by
  have asciiWords : ∀ c ∈ joinWith ['-'] (words field.toList), c.toNat < 128 := by
    intro c member
    rcases mem_joinWith member with dash | ⟨word, found, inside⟩
    · rw [List.mem_singleton.mp dash]
      decide
    · exact ascii c (mem_of_mem_words found inside)
  have spelled := camelFrom_joinWith_wordsFrom [] field.toList
  rw [List.reverse_nil, List.nil_append, ← words] at spelled
  rw [camel, encodeField, String.toList_ofList, lower_of_ascii asciiWords, spelled]

/-- The name of an ASCII spelling survives the builder just when each of its capitals is the first character
of a word. -/
theorem camel_encodeField_eq_iff (ascii : ∀ c ∈ field.toList, c.toNat < 128) :
    camel (encodeField field) = camel field ↔
      ∀ before c after, field.toList = before ++ c :: after → c.isUpper = true → StartsWord before := by
  rw [camel_encodeField_of_ascii ascii, camel, String.ofList_inj, camelFrom_map_toLower_eq_iff]
  simp only [startsWord_iff]

/-- Capitals after a point, after a digit and after a control character are kept. -/
theorem camel_encodeField_eq_iff_kept_capitals :
    let field := " .Isbn13Code  of\x01Book\t"
    (∀ c ∈ field.toList, c.toNat < 128) ∧ camel (encodeField field) = "Isbn13CodeOfBook" ∧
      camel field = "Isbn13CodeOfBook" ∧
      ∀ before c after, field.toList = before ++ c :: after → c.isUpper = true → StartsWord before := by
  intro field
  have ascii : ∀ c ∈ field.toList, c.toNat < 128 := by simp [field]
  have encoded : camel (encodeField field) = "Isbn13CodeOfBook" := by decide
  have spelled : camel field = "Isbn13CodeOfBook" := by decide
  exact ⟨ascii, encoded, spelled, (camel_encodeField_eq_iff ascii).mp (encoded.trans spelled.symm)⟩

-- The canonical name of a field of two words does not survive.
example : camel (encodeField "PublishedDate") = "Publisheddate" := by decide

end Query

end BookCatalogue.Filter

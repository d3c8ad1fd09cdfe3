import Mathlib
import BookCatalogue.Proofs.Text.Digits
import BookCatalogue.Text.Quoted

/-! # Reading quoted texts

No quoted character begins another one, and none begins with the closing quote. A quoted text can therefore
be read off whatever it stands in front of, and it stays on one line. Which characters are shown as they
are does not matter for this. -/

namespace BookCatalogue.Text

/-- The character that a letter after a backslash stands for. -/
def shortQuoted? : Char → Option Char
  | '0' => some '\x00'
  | 't' => some '\t'
  | 'r' => some '\r'
  | 'n' => some '\n'
  | '"' => some '"'
  | '\\' => some '\\'
  | _ => none

/-- The three ways in which a character is quoted. -/
inductive IsQuoted (c : Char) : List Char → Prop
  | short {letter : Char} (means : shortQuoted? letter = some c) : IsQuoted c ['\\', letter]
  | plain (notQuote : c ≠ '"') (notBackslash : c ≠ '\\') (notLine : c ≠ '\n') : IsQuoted c [c]
  | code : IsQuoted c ('\\' :: 'u' :: '\x7b' :: (hexDigits c.toNat ++ ['\x7d']))

theorem isQuoted_quoteChar (c : Char) : IsQuoted c (quoteChar c) := by
  unfold quoteChar
  split_ifs with nul tab carriageReturn newline quote backslash printable
  · exact .short (by rw [nul]; rfl)
  · exact .short (by rw [tab]; rfl)
  · exact .short (by rw [carriageReturn]; rfl)
  · exact .short (by rw [newline]; rfl)
  · exact .short (by rw [quote]; rfl)
  · exact .short (by rw [backslash]; rfl)
  · exact .plain quote backslash newline
  · exact .code

namespace IsQuoted

variable {c d : Char} {text text' rest rest' : List Char}

/-- A character can be told from what follows it. -/
theorem append_inj (quoted : IsQuoted c text) (quoted' : IsQuoted d text')
    (same : text ++ rest = text' ++ rest') : c = d ∧ rest = rest' := by
  cases quoted with
  | short means =>
    cases quoted' with
    | short means' =>
      simp only [List.cons_append, List.nil_append, List.cons.injEq, true_and] at same
      obtain ⟨rfl, rests⟩ := same
      exact ⟨Option.some.inj (means.symm.trans means'), rests⟩
    | plain _ notBackslash => exact absurd (List.cons.inj same).1.symm notBackslash
    | code =>
      simp only [List.cons_append, List.nil_append, List.cons.injEq, true_and] at same
      rw [same.1] at means
      cases means
  | plain _ notBackslash =>
    cases quoted' with
    | short => exact absurd (List.cons.inj same).1 notBackslash
    | plain => exact List.cons.inj same
    | code => exact absurd (List.cons.inj same).1 notBackslash
  | code =>
    cases quoted' with
    | short means =>
      simp only [List.cons_append, List.nil_append, List.cons.injEq, true_and] at same
      rw [← same.1] at means
      cases means
    | plain _ notBackslash => exact absurd (List.cons.inj same).1.symm notBackslash
    | code =>
      simp only [List.cons_append, List.append_assoc, List.nil_append, List.cons.injEq, true_and] at same
      obtain ⟨codes, rests⟩ := hexDigits_append_cons_inj (by decide) same
      exact ⟨Char.toNat_inj.mp codes, rests⟩

theorem head?_append_ne (quoted : IsQuoted c text) (rest : List Char) : (text ++ rest).head? ≠ some '"' := by
  cases quoted with
  | short => simp
  | plain notQuote => simpa using notQuote
  | code => simp

theorem newline_not_mem (quoted : IsQuoted c text) : '\n' ∉ text := by
  cases quoted with
  | short means =>
    intro member
    rcases List.mem_cons.mp member with backslash | letter
    · cases backslash
    · rw [← List.mem_singleton.mp letter] at means
      cases means
  | plain _ _ notLine => simpa using notLine.symm
  | code => simp [not_mem_hexDigits (by decide : hexValue? '\n' = none)]

end IsQuoted

/-! ## Whole texts -/

/-- The closing quote is the first one that belongs to no character. -/
theorem flatMap_quoteChar_append_inj {cs ds rest rest' : List Char}
    (same : cs.flatMap quoteChar ++ '"' :: rest = ds.flatMap quoteChar ++ '"' :: rest') :
    cs = ds ∧ rest = rest' := by
  induction cs generalizing ds with
  | nil =>
    cases ds with
    | nil => exact ⟨rfl, (List.cons.inj same).2⟩
    | cons d ds =>
      rw [List.flatMap_cons, List.append_assoc] at same
      exact absurd (congrArg List.head? same).symm ((isQuoted_quoteChar d).head?_append_ne _)
  | cons c cs ih =>
    cases ds with
    | nil =>
      rw [List.flatMap_cons, List.append_assoc] at same
      exact absurd (congrArg List.head? same) ((isQuoted_quoteChar c).head?_append_ne _)
    | cons d ds =>
      rw [List.flatMap_cons, List.flatMap_cons, List.append_assoc, List.append_assoc] at same
      obtain ⟨rfl, others⟩ := (isQuoted_quoteChar c).append_inj (isQuoted_quoteChar d) same
      obtain ⟨rfl, rests⟩ := ih others
      exact ⟨rfl, rests⟩

/-- A quoted text can be told from what follows it. -/
theorem quote_append_inj {s t : String} {rest rest' : List Char}
    (same : (quote s).toList ++ rest = (quote t).toList ++ rest') : s = t ∧ rest = rest' := by
  simp only [quote, String.toList_ofList, List.cons_append, List.append_assoc, List.cons.injEq, true_and,
    List.nil_append] at same
  obtain ⟨chars, rests⟩ := flatMap_quoteChar_append_inj same
  exact ⟨String.toList_inj.mp chars, rests⟩

theorem quote_injective : Function.Injective quote := by
  intro s t same
  have texts : (quote s).toList ++ [] = (quote t).toList ++ [] := by rw [same]
  exact (quote_append_inj texts).1

theorem newline_not_mem_quote (s : String) : '\n' ∉ (quote s).toList := by
  have absent : '\n' ∉ s.toList.flatMap quoteChar := by
    intro member
    obtain ⟨c, _, inside⟩ := List.mem_flatMap.mp member
    exact (isQuoted_quoteChar c).newline_not_mem inside
  simp [quote, absent]

end BookCatalogue.Text

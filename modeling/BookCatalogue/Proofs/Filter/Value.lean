import Mathlib
import BookCatalogue.Filter.Reader

/-! # The value that is meant

Only dashes are ever replaced, and where one is replaced all are. A value that is meant is therefore meant
by itself. Writing dashes for blanks is undone for values of digits and dashes alone, which lose nothing by
it, and for values without dashes in which something else shows that the dashes were blanks. -/

namespace BookCatalogue.Filter

variable {cs : List Char}

/-- One character in the place of another changes a text in which that one occurs. -/
theorem map_replace_eq_self_iff {a b : Char} (different : b ≠ a) :
    (cs.map fun c => if c = a then b else c) = cs ↔ a ∉ cs := by
  have pointwise : cs.map (fun c => if c = a then b else c) = cs.map id ↔
      ∀ c ∈ cs, (if c = a then b else c) = id c := List.map_inj_left
  rw [List.map_id] at pointwise
  rw [pointwise]
  constructor
  · intro same member
    have replaced := same a member
    rw [if_pos rfl] at replaced
    exact different replaced
  · intro absent c member
    have other : c ≠ a := fun equal => absent (equal ▸ member)
    exact if_neg other

/-! ## What is meant -/

theorem meantChars_of_numeric (numeric : ∀ c ∈ cs, isDigitOrDash c = true) : meantChars cs = cs := by
  cases cs with
  | nil => rfl
  | cons c cs => rw [meantChars, if_pos (by simpa [isNumeric] using numeric)]

theorem meantChars_of_not_numeric {c : Char} (member : c ∈ cs) (other : isDigitOrDash c = false) :
    meantChars cs = cs.map fun c => if c = '-' then ' ' else c := by
  have notAll : cs.all isDigitOrDash = false := List.all_eq_false.mpr ⟨c, member, by simp [other]⟩
  rw [meantChars, if_neg (by simp [isNumeric, notAll])]

/-- A value is meant as it is written, or with blanks for its dashes because of some other character. -/
theorem meantChars_cases (cs : List Char) :
    meantChars cs = cs ∨ (∃ c ∈ cs, isDigitOrDash c = false) ∧
      meantChars cs = cs.map fun c => if c = '-' then ' ' else c := by
  by_cases other : ∃ c ∈ cs, isDigitOrDash c = false
  · obtain ⟨c, member, notNumeric⟩ := other
    exact .inr ⟨⟨c, member, notNumeric⟩, meantChars_of_not_numeric member notNumeric⟩
  · apply Or.inl
    apply meantChars_of_numeric
    intro c member
    by_contra notNumeric
    exact other ⟨c, member, Bool.eq_false_iff.mpr notNumeric⟩

/-- Without dashes there is nothing to replace. -/
theorem meantChars_of_not_mem (noDash : '-' ∉ cs) : meantChars cs = cs := by
  rcases meantChars_cases cs with same | ⟨_, replaced⟩
  · exact same
  · rwa [replaced, map_replace_eq_self_iff (by decide)]

theorem meantChars_meantChars (cs : List Char) : meantChars (meantChars cs) = meantChars cs := by
  rcases meantChars_cases cs with same | ⟨_, replaced⟩
  · rw [same]
    exact same
  · apply meantChars_of_not_mem
    rw [replaced]
    intro member
    obtain ⟨c, _, written⟩ := List.mem_map.mp member
    split_ifs at written with dash
    · exact absurd written (by decide)
    · exact dash written

@[simp] theorem meant_meant (written : String) : meant (meant written) = meant written := by
  rw [meant, meant, String.toList_ofList, meantChars_meantChars]

/-! ## Dashes for blanks -/

/-- The characters of a text with dashes for blanks. -/
def dashedChars (cs : List Char) : List Char := cs.map fun c => if c = ' ' then '-' else c

def dashed (value : String) : String := String.ofList (dashedChars value.toList)

/-- Among digits nothing tells the dashes that were blanks. -/
theorem meantChars_dashedChars_of_numericOrBlank
    (numericOrBlank : ∀ c ∈ cs, isDigitOrDash c = true ∨ c = ' ') :
    meantChars (dashedChars cs) = dashedChars cs := by
  apply meantChars_of_numeric
  intro c member
  obtain ⟨d, present, rfl⟩ := List.mem_map.mp member
  split_ifs with blank
  · decide
  · exact (numericOrBlank d present).resolve_right blank

/-- Beside any other character all dashes are read as blanks, those that were written as dashes too. -/
theorem meantChars_dashedChars_of_other {c : Char} (member : c ∈ cs) (notNumeric : isDigitOrDash c = false)
    (notBlank : c ≠ ' ') :
    meantChars (dashedChars cs) = cs.map fun c => if c = '-' then ' ' else c := by
  have kept : c ∈ dashedChars cs := List.mem_map.mpr ⟨c, member, if_neg notBlank⟩
  rw [meantChars_of_not_numeric kept notNumeric, dashedChars, List.map_map]
  apply List.map_congr_left
  intro d _
  by_cases blank : d = ' ' <;> simp [blank]

theorem meantChars_dashedChars_eq_iff :
    meantChars (dashedChars cs) = cs ↔
      (∀ c ∈ cs, isDigitOrDash c = true) ∨ ('-' ∉ cs ∧ ∃ c ∈ cs, c.isDigit = false ∧ c ≠ ' ') := by
  by_cases other : ∃ c ∈ cs, isDigitOrDash c = false ∧ c ≠ ' '
  · obtain ⟨c, member, notNumeric, notBlank⟩ := other
    have mixed : ¬ ∀ d ∈ cs, isDigitOrDash d = true := by
      intro numeric
      rw [numeric c member] at notNumeric
      cases notNumeric
    have notDigit : c.isDigit = false := (Bool.or_eq_false_iff.mp notNumeric).1
    rw [meantChars_dashedChars_of_other member notNumeric notBlank, map_replace_eq_self_iff (by decide),
      or_iff_right mixed]
    exact (and_iff_left ⟨c, member, notDigit, notBlank⟩).symm
  · have numericOrBlank : ∀ c ∈ cs, isDigitOrDash c = true ∨ c = ' ' := by
      intro c member
      by_contra neither
      rw [not_or, Bool.not_eq_true] at neither
      exact other ⟨c, member, neither⟩
    rw [meantChars_dashedChars_of_numericOrBlank numericOrBlank, dashedChars,
      map_replace_eq_self_iff (by decide)]
    constructor
    · intro noBlank
      apply Or.inl
      intro c member
      exact (numericOrBlank c member).resolve_right fun blank => noBlank (blank ▸ member)
    · rintro (numeric | ⟨noDash, c, member, notDigit, notBlank⟩) blank
      · exact absurd (numeric ' ' blank) (by decide)
      · have dash : c = '-' := by simpa [isDigitOrDash, notDigit, notBlank] using numericOrBlank c member
        exact noDash (dash ▸ member)

/-- Dashes for blanks are undone for values of digits and dashes, and for values without dashes that are
empty or hold something besides digits and blanks, and for no others. What is meant is settled at once, has
as many characters as are written, and differs from them only in blanks for dashes, only where something
besides digits and dashes is written. -/
theorem meant_dashed (value : String) :
    (meant (dashed value) = value ↔
      (value ≠ "" ∧ ∀ c ∈ value.toList, c.isDigit = true ∨ c = '-') ∨
        ('-' ∉ value.toList ∧ (value = "" ∨ ∃ c ∈ value.toList, c.isDigit = false ∧ c ≠ ' '))) ∧
      meant (meant value) = meant value ∧ (meant value).length = value.length ∧
      List.Forall₂ (fun c d => d = c ∨
        (c = '-' ∧ d = ' ' ∧ ∃ e ∈ value.toList, e.isDigit = false ∧ e ≠ '-'))
        value.toList (meant value).toList := by
  have chars : (meant value).toList = meantChars value.toList := String.toList_ofList
  refine ⟨?_, meant_meant value, ?_, ?_⟩
  · have undone : meant (dashed value) = value ↔ meantChars (dashedChars value.toList) = value.toList := by
      rw [← String.toList_inj, meant, dashed, String.toList_ofList, String.toList_ofList]
    rw [undone, meantChars_dashedChars_eq_iff]
    by_cases empty : value = ""
    · subst empty
      simp
    · simp [empty, isDigitOrDash]
  · rw [← String.length_toList, ← String.length_toList, chars]
    rcases meantChars_cases value.toList with same | ⟨_, replaced⟩
    · rw [same]
    · rw [replaced, List.length_map]
  · rw [chars]
    rcases meantChars_cases value.toList with same | ⟨⟨e, member, notNumeric⟩, replaced⟩
    · rw [same, List.forall₂_same]
      exact fun c _ => .inl rfl
    · have other : e.isDigit = false ∧ e ≠ '-' := by simpa [isDigitOrDash] using notNumeric
      rw [replaced, List.forall₂_map_right_iff, List.forall₂_same]
      intro c _
      split_ifs with dash
      · exact .inr ⟨dash, rfl, e, member, other⟩
      · exact .inl rfl

/-- Blanks among digits are lost. -/
example : meant (dashed "12 3") = "12-3" := by decide

end BookCatalogue.Filter

import Mathlib
import BookCatalogue.Filter.Predicate
import BookCatalogue.Proofs.Naming
import BookCatalogue.Proofs.Text.Words

/-! # Canonical names

A camel-case name is any text of letters and digits in which no small letter stands first or after a
digit, and such a text is its own camel-case name. A column name is its own column name, and its
camel-case form has the same words, so a field that is spelled as its column has this column again. -/

namespace BookCatalogue.Naming

open BookCatalogue.Filter (Predicate)
open Text (isLowercase joinWith toNat_of_isAlphanum)

/-! ## Camel-case names -/

/-- Letters and digits, without a small letter where a word starts: first, if a word `opens` there, or
after a digit. -/
structure IsCamel (opens : Bool) (cs : List Char) : Prop where
  chars : ∀ c ∈ cs, c.isAlphanum = true
  first : opens = true → ∀ c ∈ cs.head?, c.isLower = false
  afterDigit : cs.IsChain fun d c => d.isDigit = true → c.isLower = false

variable {opens : Bool} {c : Char} {cs : List Char}

theorem isCamel_nil (opens : Bool) : IsCamel opens [] := ⟨by simp, by simp, .nil⟩

theorem isCamel_cons : IsCamel opens (c :: cs) ↔
    c.isAlphanum = true ∧ (opens = true → c.isLower = false) ∧ IsCamel c.isDigit cs := by
  constructor
  · rintro ⟨chars, first, afterDigit⟩
    obtain ⟨alphanum, others⟩ := List.forall_mem_cons.mp chars
    obtain ⟨next, later⟩ := List.isChain_cons.mp afterDigit
    exact ⟨alphanum, fun opening => first opening c rfl, others, fun digit d head => next d head digit, later⟩
  · rintro ⟨alphanum, first, others, next, later⟩
    refine ⟨List.forall_mem_cons.mpr ⟨alphanum, others⟩, ?_, List.isChain_cons.mpr ⟨?_, later⟩⟩
    · rintro opening _ ⟨⟩
      exact first opening
    · exact fun d head digit => next digit d head

theorem isCamel_camelFrom (opens : Bool) (cs : List Char) : IsCamel opens (camelFrom opens cs) := by
  induction cs generalizing opens with
  | nil => exact isCamel_nil opens
  | cons c rest ih =>
    by_cases alphanum : c.isAlphanum = true
    · have others := ih c.isDigit
      rw [camelFrom, if_pos alphanum]
      cases opens <;> exact isCamel_cons.mpr ⟨by simpa using alphanum, by simp, by simpa using others⟩
    · rw [camelFrom, if_neg alphanum]
      exact { ih true with first := fun _ => (ih true).first rfl }

theorem IsCamel.camelFrom_eq (isCamel : IsCamel opens cs) : camelFrom opens cs = cs := by
  induction cs generalizing opens with
  | nil => rfl
  | cons c rest ih =>
    obtain ⟨alphanum, first, others⟩ := isCamel_cons.mp isCamel
    rw [camelFrom, if_pos alphanum, ih others]
    cases opens with
    | true => simp [Char.toUpper_eq_of_not_isLower, first]
    | false => rfl

theorem camel_eq_self_iff (name : String) : camel name = name ↔ IsCamel true name.toList := by
  constructor
  · intro same
    rw [← same, camel, String.toList_ofList]
    exact isCamel_camelFrom true _
  · intro isCamel
    rw [camel, isCamel.camelFrom_eq, String.ofList_toList]

/-- Taking the camel-case name is a projection onto the camel-case names, and separators do nothing in it
but part words. -/
theorem camel_projects :
    (∀ spelling, camel (camel spelling) = camel spelling) ∧
      (∀ name, (∃ spelling, camel spelling = name) ↔ IsCamel true name.toList) ∧
      (∀ name, camel name = name ↔ IsCamel true name.toList) ∧
      (∀ (a b : String) (c : Char), c.isAlphanum = false →
        camel (a ++ String.singleton c ++ b) = camel a ++ camel b) ∧
      ∀ before spelling after : String, (∀ c ∈ before.toList ++ after.toList, c.isAlphanum = false) →
        camel (before ++ spelling ++ after) = camel spelling := by
  refine ⟨camel_camel, ?image, camel_eq_self_iff, ?between, ?around⟩
  case image =>
    intro name
    rw [← camel_eq_self_iff]
    constructor
    · rintro ⟨spelling, rfl⟩
      exact camel_camel spelling
    · exact fun same => ⟨name, same⟩
  case between =>
    intro a b c separator
    simp [camel, camelFrom_append_cons separator]
  case around =>
    intro before spelling after separators
    obtain ⟨leading, trailing⟩ := List.forall_mem_append.mp separators
    simp [camel, camelFrom_append, opensAfter_of_separators leading, camelFrom_of_separators leading,
      camelFrom_of_separators trailing]

/-- A letter outside ASCII parts words like a dash, and what is no letter or digit around a spelling does not
show. -/
theorem camel_projects_isbn_code :
    '-'.isAlphanum = false ∧ (∀ c ∈ " \u2003".toList ++ "\t.".toList, c.isAlphanum = false) ∧
      camel ("isbn13" ++ String.singleton '-' ++ "codé7b") = "Isbn13" ++ "Cod7B" ∧
      camel (" \u2003" ++ "isbn13code" ++ "\t.") = "Isbn13Code" ∧
      IsCamel true "Isbn13Code".toList := by
  obtain ⟨_, image, _, between, around⟩ := camel_projects
  have dash : '-'.isAlphanum = false := by decide
  have blanks : ∀ c ∈ " \u2003".toList ++ "\t.".toList, c.isAlphanum = false := by simp
  have named : camel "isbn13code" = "Isbn13Code" := by decide
  refine ⟨dash, blanks, ?_, ?_, ?_⟩
  · rw [between _ _ '-' dash]
    decide
  · rw [around _ _ _ blanks, named]
  · exact (image "Isbn13Code").mp ⟨"isbn13code", named⟩

/-! ## Reading a column name -/

theorem columnFrom_opening {before : Before} (alphanum : c.isAlphanum = true)
    (opening : before.opensWord c cs = true) :
    columnFrom before (c :: cs) = '_' :: c.toLower :: columnFrom (.wordChar c) cs := by
  rw [columnFrom, if_pos alphanum, if_pos opening]

theorem columnFrom_inside {before : Before} (alphanum : c.isAlphanum = true)
    (inside : before.opensWord c cs = false) :
    columnFrom before (c :: cs) = c.toLower :: columnFrom (.wordChar c) cs := by
  rw [columnFrom, if_pos alphanum, if_neg (by simp [inside])]

/-- Every letter and digit is kept, in lower case. -/
theorem filter_columnFrom (before : Before) (cs : List Char) :
    (columnFrom before cs).filter (· ≠ '_') = (cs.filter Char.isAlphanum).map Char.toLower := by
  induction cs generalizing before with
  | nil => rfl
  | cons c rest ih =>
    by_cases alphanum : c.isAlphanum = true
    · have notSeparator : c.toLower ≠ '_' := by
        intro same
        have small : c.toLower.isAlphanum = true := by simpa using alphanum
        rw [same] at small
        cases small
      cases opening : before.opensWord c rest with
      | true => simp [columnFrom_opening alphanum opening, alphanum, notSeparator, ← ih (.wordChar c)]
      | false => simp [columnFrom_inside alphanum opening, alphanum, notSeparator, ← ih (.wordChar c)]
    · rw [columnFrom, if_neg alphanum, ih, List.filter_cons_of_neg alphanum]

/-- Once a word has begun, a separator is what stands between words. -/
theorem columnFrom_gap {before : Before} (begun : before ≠ .nothing) (cs : List Char) :
    columnFrom before ('_' :: cs) = columnFrom .gap cs := by
  have separator : '_'.isAlphanum = false := by decide
  cases before with
  | nothing => exact absurd rfl begun
  | gap | wordChar => simp [columnFrom, separator, Before.separated]

/-- Only capitals open words where no separator stands. -/
theorem opensWord_toLower {before : Before} (joined : before ≠ .gap) (c : Char) (rest : List Char) :
    before.opensWord c.toLower rest = false := by
  cases before with
  | nothing => rfl
  | gap => exact absurd rfl joined
  | wordChar => simp [Before.opensWord]

/-- A column name is read as it was written: it has a separator where its spelling opened a word, and no
capitals that could open others. -/
theorem columnFrom_columnFrom {before again : Before} (begun : again = .nothing ↔ before = .nothing)
    (joined : again ≠ .gap) (cs : List Char) :
    columnFrom again (columnFrom before cs) = columnFrom before cs := by
  induction cs generalizing before again with
  | nil => rfl
  | cons c rest ih =>
    by_cases alphanum : c.isAlphanum = true
    · have small : c.toLower.isAlphanum = true := by simpa using alphanum
      have others : columnFrom (.wordChar c.toLower) (columnFrom (.wordChar c) rest) =
          columnFrom (.wordChar c) rest := ih (by simp) (by simp)
      cases opening : before.opensWord c rest with
      | true =>
        have written : again ≠ .nothing := by
          intro nothing
          rw [begun.mp nothing] at opening
          cases opening
        rw [columnFrom_opening alphanum opening, columnFrom_gap written, columnFrom_opening small rfl,
          Char.toLower_toLower_eq_toLower, others]
      | false =>
        rw [columnFrom_inside alphanum opening, columnFrom_inside small (opensWord_toLower joined c _),
          Char.toLower_toLower_eq_toLower, others]
    · have separated : again = .nothing ↔ before.separated = .nothing := by
        cases before <;> simp [Before.separated, begun]
      rw [columnFrom, if_neg alphanum]
      exact ih separated joined

/-! ## The column of a camel-case name -/

/-- A word of a column name begins with a capital in its camel-case form. -/
theorem camelFrom_gap (opens : Bool) (alphanum : c.isAlphanum = true) (cs : List Char) :
    camelFrom opens ('_' :: c.toLower :: cs) = c.toUpper :: camelFrom c.isDigit cs := by
  have separator : '_'.isAlphanum = false := by decide
  simp [camelFrom, separator, alphanum]

/-- A small letter after a capital is still there in the camel-case form of the column. -/
theorem head_camelFrom_columnFrom (upper : c.isUpper = true) (isCamel : IsCamel c.isDigit cs)
    (next : cs.head?.any isLowercase = true) :
    (camelFrom c.isDigit (columnFrom (.wordChar c) cs)).head?.any isLowercase = true := by
  cases cs with
  | nil => cases next
  | cons n rest =>
    have alphanum : n.isAlphanum = true := (isCamel_cons.mp isCamel).1
    have ascii : n.toNat < 128 := by
      have range := toNat_of_isAlphanum alphanum
      omega
    have lower : n.isLower = true := by simpa [isLowercase, ascii] using next
    have notUpper : n.isUpper = false := by simpa using Char.not_isUpper_of_isLower lower
    have joined : (Before.wordChar c).opensWord n rest = false := by simp [Before.opensWord, notUpper]
    rw [columnFrom_inside alphanum joined, (toLower_eq_self_iff n).mpr notUpper, isDigit_of_isUpper upper]
    simpa [camelFrom, alphanum] using next

variable {p q : Char}

/-- A capital that opens a word after `p` opens one again after `q`, which the camel-case form of the column
has in place of `p`. -/
theorem opensWord_again (isCamel : IsCamel c.isDigit cs) (echo : q = p ∨ q = p.toLower)
    (opening : (Before.wordChar p).opensWord c cs = true) :
    (Before.wordChar q).opensWord c (camelFrom c.isDigit (columnFrom (.wordChar c) cs)) = true := by
  simp only [Before.opensWord, Bool.and_eq_true, Bool.or_eq_true] at opening ⊢
  obtain ⟨upper, boundary⟩ := opening
  refine ⟨upper, ?_⟩
  rcases boundary with (lower | digit) | ⟨capital, next⟩
  · have same : q = p := by simpa [(toLower_eq_self_iff p).mpr, Char.not_isUpper_of_isLower lower] using echo
    exact .inl (.inl (same ▸ lower))
  · have same : q.isDigit = p.isDigit := by rcases echo with rfl | rfl <;> simp
    exact .inl (.inr (same ▸ digit))
  · rcases echo with rfl | rfl
    · exact .inr ⟨capital, head_camelFrom_columnFrom upper isCamel next⟩
    · exact .inl (.inl (by simp [Char.isAlpha, capital]))

/-- The camel-case form of a column differs from the name in capitals that open no word, so its words open
where those of the name do. -/
theorem columnFrom_camelFrom_columnFrom (isCamel : IsCamel p.isDigit cs) (echo : q = p ∨ q = p.toLower) :
    columnFrom (.wordChar q) (camelFrom p.isDigit (columnFrom (.wordChar p) cs)) =
      columnFrom (.wordChar p) cs := by
  induction cs generalizing p q with
  | nil => rfl
  | cons c rest ih =>
    obtain ⟨alphanum, first, others⟩ := isCamel_cons.mp isCamel
    cases opening : (Before.wordChar p).opensWord c rest with
    | true =>
      have upper : c.isUpper = true := (Bool.and_eq_true_iff.mp opening).1
      have capital : c.toUpper = c := Char.toUpper_eq_of_not_isLower (Char.not_isLower_of_isUpper upper)
      rw [columnFrom_opening alphanum opening, camelFrom_gap _ alphanum, capital,
        columnFrom_opening alphanum (opensWord_again others echo opening), ih others (.inl rfl)]
    | false =>
      have small : c.toLower.isAlphanum = true := by simpa using alphanum
      have kept : camelFrom p.isDigit (c.toLower :: columnFrom (.wordChar c) rest) =
          c.toLower :: camelFrom c.isDigit (columnFrom (.wordChar c) rest) := by
        cases digit : p.isDigit with
        | false => simp [camelFrom, alphanum]
        | true =>
          -- A digit is followed by a capital, which would open a word, or by another digit.
          have notUpper : c.isUpper = false := by simpa [Before.opensWord, digit] using opening
          have notLower : ¬ c.isLower = true := by simp [first digit]
          simp [camelFrom, alphanum, (toLower_eq_self_iff c).mpr notUpper,
            Char.toUpper_eq_of_not_isLower notLower]
      rw [columnFrom_inside alphanum opening, kept, columnFrom_inside small (opensWord_toLower (by simp) c _),
        Char.toLower_toLower_eq_toLower, ih others (.inr rfl)]

theorem column_column (spelling : String) : column (column spelling) = column spelling := by
  rw [column, column, String.toList_ofList, columnFrom_columnFrom Iff.rfl (by simp)]

theorem column_camel_column_camel (spelling : String) :
    column (camel (column (camel spelling))) = column (camel spelling) := by
  simp only [column, camel, String.toList_ofList]
  have isCamel := isCamel_camelFrom true spelling.toList
  generalize camelFrom true spelling.toList = cs at isCamel ⊢
  cases cs with
  | nil => rfl
  | cons c rest =>
    obtain ⟨alphanum, first, others⟩ := isCamel_cons.mp isCamel
    have notLower : ¬ c.isLower = true := by simp [first rfl]
    have kept : camelFrom true (c.toLower :: columnFrom (.wordChar c) rest) =
        c :: camelFrom c.isDigit (columnFrom (.wordChar c) rest) := by
      simp [camelFrom, alphanum, Char.toUpper_eq_of_not_isLower notLower]
    rw [columnFrom_inside alphanum rfl, kept, columnFrom_inside alphanum rfl,
      columnFrom_camelFrom_columnFrom others (.inl rfl)]

/-- A column name consists of words of small letters and digits with a `_` between each two of them, which
are the letters and digits of the spelling; it is its own column name; and as the spelling of a field it
names this column again. -/
theorem column_names_itself (spelling : String) :
    (∃ words, (column spelling).toList = joinWith ['_'] words ∧ ∀ word ∈ words, IsColumnWord word) ∧
      (column spelling).toList.filter (· ≠ '_') =
        (spelling.toList.filter Char.isAlphanum).map Char.toLower ∧
      column (column spelling) = column spelling ∧
      column (camel (column (camel spelling))) = column (camel spelling) ∧
      ∀ operator value, (Predicate.compare (column (camel spelling)) operator value).fragment =
        (Predicate.compare spelling operator value).fragment := by
  have again := column_camel_column_camel spelling
  refine ⟨exists_column_eq_join spelling, ?_, column_column spelling, again, ?_⟩
  · rw [column, String.toList_ofList, filter_columnFrom]
  · intro operator value
    simp only [Predicate.compare, Predicate.fragment, Predicate.column, Predicate.field, again]

-- Words of one letter are joined to the next word unless a small letter follows its first.
example : column (camel "a-b") = "ab" ∧ column (camel "a-bc") = "a_bc" ∧ column "a-b" = "a_b" := by decide

end BookCatalogue.Naming

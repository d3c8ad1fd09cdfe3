import Mathlib
import BookCatalogue.Naming
import BookCatalogue.Proofs.Text.Split

/-! # Camel-case names and column names

Reading a camel-case name once more changes nothing, so a field keeps the name under which it was
first looked up. Nor does it change when a spelling is put in lower case whose capitals all start words.
A column name consists of words of small letters and digits with one `_` between each two of them,
whatever characters the spelling holds. -/

namespace BookCatalogue.Naming

open Text

@[simp] theorem isDigit_toUpper (c : Char) : c.toUpper.isDigit = c.isDigit := by
  by_cases lower : c.isLower = true
  · have upper : c.toUpper.isUpper = true := by simp [Char.isAlpha, lower]
    simp only [Char.isLower, Char.isUpper, Char.isDigit, UInt32.le_iff_toNat_le] at lower upper ⊢
    grind
  · rw [Char.toUpper_eq_of_not_isLower lower]

@[simp] theorem isAlphanum_toUpper (c : Char) : c.toUpper.isAlphanum = c.isAlphanum := by
  simp [Char.isAlphanum]

@[simp] theorem isDigit_toLower (c : Char) : c.toLower.isDigit = c.isDigit := by
  by_cases upper : c.isUpper = true
  · have lower : c.toLower.isLower = true := by simp [Char.isAlpha, upper]
    simp only [Char.isLower, Char.isUpper, Char.isDigit, UInt32.le_iff_toNat_le] at lower upper ⊢
    grind
  · rw [Char.toLower_eq_of_not_isUpper upper]

@[simp] theorem isAlphanum_toLower (c : Char) : c.toLower.isAlphanum = c.isAlphanum := by
  simp [Char.isAlphanum]

theorem toLower_eq_self_iff (c : Char) : c.toLower = c ↔ c.isUpper = false := by
  constructor
  · intro same
    rw [← same]
    exact Char.isUpper_toLower_eq_false c
  · intro notUpper
    exact Char.toLower_eq_of_not_isUpper (by simp [notUpper])

theorem isDigit_of_isUpper {c : Char} (upper : c.isUpper = true) : c.isDigit = false := by
  simp only [Char.isUpper, Char.isDigit, UInt32.le_iff_toNat_le] at upper ⊢
  grind

/-- A camel-case text is left as it is by a reader that opens no word which it did not open. -/
theorem camelFrom_camelFrom {opens opened : Bool} (implied : opens = true → opened = true)
    (cs : List Char) : camelFrom opens (camelFrom opened cs) = camelFrom opened cs := by
  induction cs generalizing opens opened with
  | nil => rfl
  | cons c rest ih =>
    by_cases alphanum : c.isAlphanum = true
    · cases opened with
      | true => cases opens <;> simp [camelFrom, alphanum, ih]
      | false =>
        have : opens = false := by simpa using implied
        subst this
        simp [camelFrom, alphanum, ih]
    · simpa [camelFrom, alphanum] using ih fun _ => rfl

/-- A camel-case name is its own camel-case name. -/
@[simp] theorem camel_camel (spelling : String) : camel (camel spelling) = camel spelling := by
  simp [camel, camelFrom_camelFrom]

/-! ## The words of a camel-case name -/

/-- Whether a word starts after these characters; `opens` tells whether one starts before them. -/
def opensAfter (opens : Bool) (before : List Char) : Bool :=
  before.foldl (fun _ c => !c.isAlphanum || c.isDigit) opens

@[simp] theorem opensAfter_nil (opens : Bool) : opensAfter opens [] = opens := rfl

@[simp] theorem opensAfter_cons (opens : Bool) (c : Char) (before : List Char) :
    opensAfter opens (c :: before) = opensAfter (!c.isAlphanum || c.isDigit) before := rfl

@[simp] theorem opensAfter_concat (opens : Bool) (before : List Char) (c : Char) :
    opensAfter opens (before ++ [c]) = (!c.isAlphanum || c.isDigit) := by
  simp [opensAfter]

/-- The rest of a spelling is read from where its beginning leaves off. -/
theorem camelFrom_append (opens : Bool) (before after : List Char) :
    camelFrom opens (before ++ after) =
      camelFrom opens before ++ camelFrom (opensAfter opens before) after := by
  induction before generalizing opens with
  | nil => rfl
  | cons c before ih =>
    by_cases alphanum : c.isAlphanum = true <;> simp [camelFrom, alphanum, ih]

/-- A separator is dropped and a word starts after it. -/
theorem camelFrom_append_cons {c : Char} (separator : c.isAlphanum = false) (opens : Bool)
    (before after : List Char) :
    camelFrom opens (before ++ c :: after) = camelFrom opens before ++ camelFrom true after := by
  simp [camelFrom_append, camelFrom, separator]

/-- Separators by themselves name nothing. -/
theorem camelFrom_of_separators {cs : List Char} (separators : ∀ c ∈ cs, c.isAlphanum = false) (opens : Bool) :
    camelFrom opens cs = [] := by
  induction cs generalizing opens with
  | nil => rfl
  | cons c rest ih =>
    obtain ⟨separator, others⟩ := List.forall_mem_cons.mp separators
    rw [camelFrom, if_neg (by simp [separator]), ih others]

theorem opensAfter_of_separators {cs : List Char} (separators : ∀ c ∈ cs, c.isAlphanum = false) :
    opensAfter true cs = true := by
  cases cs using List.reverseRecOn with
  | nil => rfl
  | append_singleton before c =>
    have separator : c.isAlphanum = false := separators c (by simp)
    rw [opensAfter_concat, separator]
    rfl

private theorem forall_split_cons {P : List Char → Char → Prop} {c : Char} {cs : List Char} :
    (∀ before d after, c :: cs = before ++ d :: after → P before d) ↔
      P [] c ∧ ∀ before d after, cs = before ++ d :: after → P (c :: before) d := by
  constructor
  · intro all
    refine ⟨all [] c cs rfl, ?_⟩
    rintro before d after rfl
    exact all (c :: before) d after rfl
  · rintro ⟨first, others⟩ before d after same
    cases before with
    | nil =>
      obtain ⟨rfl, _⟩ := List.cons.inj same
      exact first
    | cons e before =>
      obtain ⟨rfl, rest⟩ := List.cons.inj same
      exact others before d after rest

/-- Lower case makes no difference to the camel-case form just when every capital starts a word. -/
theorem camelFrom_map_toLower_eq_iff {opens : Bool} {cs : List Char} :
    camelFrom opens (cs.map Char.toLower) = camelFrom opens cs ↔
      ∀ before c after, cs = before ++ c :: after → c.isUpper = true → opensAfter opens before = true := by
  induction cs generalizing opens with
  | nil => simp [camelFrom]
  | cons c cs ih =>
    rw [forall_split_cons (P := fun before d => d.isUpper = true → opensAfter opens before = true)]
    simp only [opensAfter_nil, opensAfter_cons]
    rw [← ih, List.map_cons, camelFrom, camelFrom, isAlphanum_toLower, isDigit_toLower]
    by_cases alphanum : c.isAlphanum = true
    · cases opens <;> simp [alphanum, toLower_eq_self_iff]
    · have notUpper : ¬ c.isUpper = true := fun upper => alphanum (by simp [Char.isAlphanum, Char.isAlpha, upper])
      simp [alphanum, notUpper]

/-! ## The words of a column name -/

/-- One or more small letters and digits. -/
def IsColumnWord (word : List Char) : Prop :=
  word ≠ [] ∧ ∀ c ∈ word, c.isLower = true ∨ c.isDigit = true

private theorem toLower_mem_column {c : Char} (alphanum : c.isAlphanum = true) :
    c.toLower.isLower = true ∨ c.toLower.isDigit = true := by
  rw [Char.isLower_toLower_eq_isAlpha]
  by_cases alpha : c.isAlpha = true
  · exact .inl alpha
  · have digit : c.isDigit = true := by simpa [Char.isAlphanum, alpha] using alphanum
    have notUpper : ¬ c.isUpper = true := fun upper => alpha (by simp [Char.isAlpha, upper])
    exact .inr (by rwa [Char.toLower_eq_of_not_isUpper notUpper])

theorem IsColumnWord.not_mem {word : List Char} (isWord : IsColumnWord word) : '_' ∉ word :=
  fun member => by simpa using isWord.2 '_' member

/-- Once a word has begun, the rest of the name continues it and adds whole words. -/
private theorem columnFrom_continues {before : Before} (begun : before ≠ .nothing)
    (cs : List Char) :
    ∃ first words, columnFrom before cs = joinWith ['_'] (first :: words) ∧
      (∀ c ∈ first, c.isLower = true ∨ c.isDigit = true) ∧
      ∀ word ∈ words, IsColumnWord word := by
  induction cs generalizing before with
  | nil => exact ⟨[], [], rfl, by simp, by simp⟩
  | cons c rest ih =>
    by_cases alphanum : c.isAlphanum = true
    · obtain ⟨first, words, same, chars, isWord⟩ :=
        ih (show Before.wordChar c ≠ .nothing by simp)
      have word : ∀ d ∈ c.toLower :: first, d.isLower = true ∨ d.isDigit = true :=
        List.forall_mem_cons.mpr ⟨toLower_mem_column alphanum, chars⟩
      by_cases opening : before.opensWord c rest = true
      · refine ⟨[], (c.toLower :: first) :: words, ?_, by simp, ?_⟩
        · cases words <;> simp [columnFrom, alphanum, opening, same, joinWith]
        · exact List.forall_mem_cons.mpr ⟨⟨List.cons_ne_nil _ _, word⟩, isWord⟩
      · refine ⟨c.toLower :: first, words, ?_, word, isWord⟩
        cases words <;> simp [columnFrom, alphanum, opening, same, joinWith]
    · have still : before.separated ≠ .nothing := by cases before <;> simp_all [Before.separated]
      simpa [columnFrom, alphanum] using ih still

/-- A column name is made of words joined by `_`. -/
theorem exists_column_eq_join (spelling : String) :
    ∃ words, (column spelling).toList = joinWith ['_'] words ∧
      ∀ word ∈ words, IsColumnWord word := by
  rw [column, String.toList_ofList]
  induction spelling.toList with
  | nil => exact ⟨[], rfl, by simp⟩
  | cons c rest ih =>
    by_cases alphanum : c.isAlphanum = true
    · obtain ⟨first, words, same, chars, isWord⟩ :=
        columnFrom_continues (show Before.wordChar c ≠ .nothing by simp) rest
      refine ⟨(c.toLower :: first) :: words, ?_, ?_⟩
      · cases words <;> simp [columnFrom, alphanum, Before.opensWord, same, joinWith]
      · refine List.forall_mem_cons.mpr ⟨⟨List.cons_ne_nil _ _, ?_⟩, isWord⟩
        exact List.forall_mem_cons.mpr ⟨toLower_mem_column alphanum, chars⟩
    · simpa [columnFrom, alphanum, Before.separated] using ih

/-! ## What a column name may look like -/

/-- Small letters, digits and single `_`, of which none stands first or last. -/
structure IsColumnName (name : String) : Prop where
  chars : ∀ c ∈ name.toList, c.isLower = true ∨ c.isDigit = true ∨ c = '_'
  leading : name.toList.head? ≠ some '_'
  trailing : name.toList.getLast? ≠ some '_'
  doubled : ¬ ['_', '_'] <:+: name.toList

/-- Words joined by `_` leave no empty piece when they are cut at `_`. -/
private theorem nil_not_mem_splitOn {words : List (List Char)}
    (isWord : ∀ word ∈ words, IsColumnWord word) (notEmpty : words ≠ []) :
    [] ∉ splitOn ['_'] (joinWith ['_'] words) := by
  rw [splitOn_singleton_eq_iff.mpr
    ⟨⟨notEmpty, fun word member => (isWord word member).not_mem⟩, rfl⟩]
  exact fun member => (isWord [] member).1 rfl

theorem isColumnName_column (spelling : String) : IsColumnName (column spelling) := by
  obtain ⟨words, same, isWord⟩ := exists_column_eq_join spelling
  by_cases notEmpty : words = []
  · subst notEmpty
    constructor <;> simp [same, joinWith]
  have pieces := nil_not_mem_splitOn isWord notEmpty
  rw [← same] at pieces
  refine ⟨?_, ?_, ?_, ?_⟩
  · intro c member
    rw [same] at member
    rcases mem_joinWith member with separator | ⟨word, present, inside⟩
    · exact .inr (.inr (by simpa using separator))
    · exact ((isWord word present).2 c inside).imp_right .inl
  · intro leading
    obtain ⟨rest, text⟩ : ∃ rest, (column spelling).toList = [] ++ '_' :: rest :=
      ⟨_, (List.head?_eq_some_iff.mp leading).choose_spec⟩
    rw [text, splitOn_append_cons] at pieces
    simp [splitOn, splitAfter] at pieces
  · intro trailing
    obtain ⟨rest, text⟩ := List.getLast?_eq_some_iff.mp trailing
    rw [text, splitOn_append_cons] at pieces
    simp [splitOn, splitAfter] at pieces
  · rintro ⟨before, after, text⟩
    have twice : (column spelling).toList = before ++ '_' :: ([] ++ '_' :: after) := by
      simpa using text.symm
    rw [twice, splitOn_append_cons, splitOn_append_cons] at pieces
    simp [splitOn, splitAfter] at pieces

theorem not_mem_column {c : Char} (other : ¬ (c.isLower = true ∨ c.isDigit = true ∨ c = '_'))
    (spelling : String) : c ∉ (column spelling).toList :=
  fun member => other ((isColumnName_column spelling).chars c member)

end BookCatalogue.Naming

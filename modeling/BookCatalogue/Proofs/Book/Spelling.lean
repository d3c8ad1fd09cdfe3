import Mathlib
import BookCatalogue.Proofs.Book.Json
import BookCatalogue.Proofs.Prelude

/-! # The spellings of a book

A book has many JSON texts. Which book an object is read as depends only on the values under each key of an
attribute: not on the order of its members, not on members with other keys, and not on members that hold a
default. The array of the attributes is read as that book too, also without the defaults at its end. -/

namespace BookCatalogue.Book

open Json (Draft)

/-- The members of an object as they are read. -/
abbrev Members := List (Option String × Draft)

def attributeKeys : List String :=
  ["title", "author", "isbn", "published_date", "edition", "description", "genre"]

/-- The values under a key, in order. -/
def valuesOf (members : Members) (key : String) : List Draft :=
  members.filterMap fun (name, value) => if name = some key then some value else none

theorem valuesOf_append (members others : Members) (key : String) :
    valuesOf (members ++ others) key = valuesOf members key ++ valuesOf others key :=
  List.filterMap_append

theorem valuesOf_cons_self (key : String) (value : Draft) (members : Members) :
    valuesOf ((some key, value) :: members) key = value :: valuesOf members key := by
  simp [valuesOf]

/-- There are no values under a key that no member has. -/
theorem valuesOf_of_not_mem {members : Members} {key : String} (absent : some key ∉ members.map Prod.fst) :
    valuesOf members key = [] := by
  refine List.filterMap_eq_nil_iff.mpr fun member isMember => if_neg ?_
  intro named
  exact absent (List.mem_map.mpr ⟨member, isMember, named⟩)

theorem valuesOf_cons_of_ne {name key : String} (other : name ≠ key) (value : Draft) (members : Members) :
    valuesOf ((some name, value) :: members) key = valuesOf members key := by
  simp [valuesOf, other]

/-! ## What an object is read as -/

/-- An attribute stays as it is without a value for it, and one that is not set takes the only value that there
is. -/
inductive Fills {α : Type} (read : Draft → Except Fault α) : Option α → List Draft → Option α → Prop
  | kept (seen : Option α) : Fills read seen [] seen
  | taken {value : Draft} {x : α} (reads : read value = .ok x) : Fills read none [value] (some x)

section Fills

variable {α : Type} {read : Draft → Except Fault α} {seen after : Option α} {values others : List Draft}

@[simp] theorem fills_nil_iff : Fills read seen [] after ↔ seen = after := by
  constructor
  · rintro ⟨⟩
    rfl
  · rintro rfl
    exact .kept seen

theorem fills_singleton_iff {value : Draft} :
    Fills read seen [value] after ↔ seen = none ∧ ∃ x, read value = .ok x ∧ some x = after := by
  constructor
  · rintro (_ | reads)
    exact ⟨rfl, _, reads, rfl⟩
  · rintro ⟨rfl, x, reads, rfl⟩
    exact .taken reads

/-- Values are taken one after another. -/
theorem fills_append_iff :
    Fills read seen (values ++ others) after ↔
      ∃ between, Fills read seen values between ∧ Fills read between others after := by
  constructor
  · intro fills
    cases values with
    | nil => exact ⟨seen, .kept seen, fills⟩
    | cons value values =>
      cases values with
      | nil =>
        cases others with
        | nil => exact ⟨after, fills, .kept after⟩
        | cons other others => cases fills
      | cons next values => cases fills
  · rintro ⟨between, fills, fillsOn⟩
    cases fills with
    | kept => exact fillsOn
    | taken reads =>
      cases fillsOn
      exact .taken reads

/-- The order of the values does not matter, as there is at most one. -/
theorem Fills.of_perm (fills : Fills read seen values after) (perm : values.Perm others) :
    Fills read seen others after := by
  cases fills with
  | kept =>
    rw [List.nil_perm.mp perm]
    exact .kept seen
  | taken reads =>
    rw [← List.singleton_perm.mp perm]
    exact .taken reads

end Fills

namespace Attributes

/-- Each attribute is filled by the values under its key. -/
structure Filled (before : Attributes) (values : String → List Draft) (after : Attributes) : Prop where
  title : Fills (readText (some "title")) before.title (values "title") after.title
  author : Fills (readText (some "author")) before.author (values "author") after.author
  isbn : Fills (readText (some "isbn")) before.isbn (values "isbn") after.isbn
  publishedDate : Fills (readDate (some "published_date")) before.publishedDate (values "published_date")
    after.publishedDate
  edition : Fills (readEdition (some "edition")) before.edition (values "edition") after.edition
  description : Fills (readText (some "description")) before.description (values "description") after.description
  genre : Fills (readText (some "genre")) before.genre (values "genre") after.genre

variable {a after : Attributes}

theorem filled_iff {values : String → List Draft} :
    a.Filled values after ↔
      Fills (readText (some "title")) a.title (values "title") after.title ∧
      Fills (readText (some "author")) a.author (values "author") after.author ∧
      Fills (readText (some "isbn")) a.isbn (values "isbn") after.isbn ∧
      Fills (readDate (some "published_date")) a.publishedDate (values "published_date") after.publishedDate ∧
      Fills (readEdition (some "edition")) a.edition (values "edition") after.edition ∧
      Fills (readText (some "description")) a.description (values "description") after.description ∧
      Fills (readText (some "genre")) a.genre (values "genre") after.genre :=
  ⟨fun ⟨h₁, h₂, h₃, h₄, h₅, h₆, h₇⟩ => ⟨h₁, h₂, h₃, h₄, h₅, h₆, h₇⟩,
    fun ⟨h₁, h₂, h₃, h₄, h₅, h₆, h₇⟩ => ⟨h₁, h₂, h₃, h₄, h₅, h₆, h₇⟩⟩

theorem once_eq_ok_iff {α : Type} {seen found : Option α} {key : String}
    {read : Option String → Draft → Except Fault α} {value : Draft} :
    once seen key read value = .ok found ↔ Fills (read (some key)) seen [value] found := by
  rw [fills_singleton_iff]
  cases seen with
  | some x => simp [once]
  | none =>
    simp only [once, true_and]
    cases read (some key) value <;> simp [Except.map]

/-- A member fills the attribute of its key. A member with another key must only be whole. -/
theorem readMember_eq_ok_iff {key : String} {value : Draft} :
    a.readMember key value = .ok after ↔
      (key ∉ attributeKeys → value.isWhole = true) ∧ a.Filled (valuesOf [(some key, value)]) after := by
  rw [filled_iff]
  rcases a with ⟨title, author, isbn, publishedDate, edition, description, genre⟩
  rcases after with ⟨title', author', isbn', publishedDate', edition', description', genre'⟩
  by_cases known : key ∈ attributeKeys
  · have keys := known
    simp only [attributeKeys, List.mem_cons, List.not_mem_nil, or_false] at keys
    rcases keys with rfl | rfl | rfl | rfl | rfl | rfl | rfl <;>
      simp [readMember, Functor.map, map_eq_ok_iff, once_eq_ok_iff, valuesOf, known] <;> tauto
  · have others := known
    simp only [attributeKeys, List.mem_cons, List.not_mem_nil, or_false, not_or] at others
    simp only [readMember, others, if_false, known, not_false_eq_true, true_implies]
    split_ifs with whole <;> simp [valuesOf, others, whole]

theorem filled_append_iff {values others : String → List Draft} :
    a.Filled (fun key => values key ++ others key) after ↔
      ∃ between, a.Filled values between ∧ between.Filled others after := by
  constructor
  · intro filled
    obtain ⟨title, titleFirst, titleNext⟩ := fills_append_iff.mp filled.title
    obtain ⟨author, authorFirst, authorNext⟩ := fills_append_iff.mp filled.author
    obtain ⟨isbn, isbnFirst, isbnNext⟩ := fills_append_iff.mp filled.isbn
    obtain ⟨date, dateFirst, dateNext⟩ := fills_append_iff.mp filled.publishedDate
    obtain ⟨edition, editionFirst, editionNext⟩ := fills_append_iff.mp filled.edition
    obtain ⟨description, descriptionFirst, descriptionNext⟩ := fills_append_iff.mp filled.description
    obtain ⟨genre, genreFirst, genreNext⟩ := fills_append_iff.mp filled.genre
    exact ⟨⟨title, author, isbn, date, edition, description, genre⟩,
      ⟨titleFirst, authorFirst, isbnFirst, dateFirst, editionFirst, descriptionFirst, genreFirst⟩,
      ⟨titleNext, authorNext, isbnNext, dateNext, editionNext, descriptionNext, genreNext⟩⟩
  · rintro ⟨between, first, next⟩
    exact ⟨fills_append_iff.mpr ⟨_, first.title, next.title⟩,
      fills_append_iff.mpr ⟨_, first.author, next.author⟩, fills_append_iff.mpr ⟨_, first.isbn, next.isbn⟩,
      fills_append_iff.mpr ⟨_, first.publishedDate, next.publishedDate⟩,
      fills_append_iff.mpr ⟨_, first.edition, next.edition⟩,
      fills_append_iff.mpr ⟨_, first.description, next.description⟩,
      fills_append_iff.mpr ⟨_, first.genre, next.genre⟩⟩

/-- Every key is a text, and the values of those that are no attributes are whole. -/
def Acceptable (members : Members) : Prop :=
  ∀ member ∈ members, ∃ key, member.1 = some key ∧ (key ∉ attributeKeys → member.2.isWhole = true)

/-- Members are read just when each attribute is filled by the values under its key. -/
theorem readMembers_eq_ok_iff {members : Members} :
    a.readMembers members = .ok after ↔ Acceptable members ∧ a.Filled (valuesOf members) after := by
  induction members generalizing a with
  | nil =>
    rw [filled_iff]
    rcases a with ⟨title, author, isbn, publishedDate, edition, description, genre⟩
    rcases after with ⟨title', author', isbn', publishedDate', edition', description', genre'⟩
    simp [readMembers, Acceptable, valuesOf]
  | cons member members ih =>
    obtain ⟨_ | key, value⟩ := member
    · simp [readMembers, Acceptable]
    · have step : a.readMembers ((some key, value) :: members) = .ok after ↔
          ∃ between, a.readMember key value = .ok between ∧ between.readMembers members = .ok after := by
        rw [readMembers]
        cases a.readMember key value <;> simp [bind, Except.bind]
      have values : valuesOf ((some key, value) :: members) =
          fun name => valuesOf [(some key, value)] name ++ valuesOf members name := by
        funext name
        exact valuesOf_append [(some key, value)] members name
      have acceptable : Acceptable ((some key, value) :: members) ↔
          (key ∉ attributeKeys → value.isWhole = true) ∧ Acceptable members := by
        simp [Acceptable]
      rw [step, values, filled_append_iff, acceptable]
      simp only [readMember_eq_ok_iff, ih]
      constructor
      · rintro ⟨between, ⟨whole, first⟩, others, next⟩
        exact ⟨⟨whole, others⟩, between, first, next⟩
      · rintro ⟨⟨whole, others⟩, between, first, next⟩
        exact ⟨between, ⟨whole, first⟩, others, next⟩

theorem Filled.of_perm {values others : String → List Draft} (filled : a.Filled values after)
    (perm : ∀ key ∈ attributeKeys, (values key).Perm (others key)) : a.Filled others after where
  title := filled.title.of_perm (perm _ (by decide))
  author := filled.author.of_perm (perm _ (by decide))
  isbn := filled.isbn.of_perm (perm _ (by decide))
  publishedDate := filled.publishedDate.of_perm (perm _ (by decide))
  edition := filled.edition.of_perm (perm _ (by decide))
  description := filled.description.of_perm (perm _ (by decide))
  genre := filled.genre.of_perm (perm _ (by decide))

theorem toBook_eq_ok_iff {b : Book} :
    a.toBook = .ok b ↔ a.title = some b.title ∧ a.author.getD "" = b.author ∧ a.isbn = some b.isbn ∧
      a.publishedDate = some b.publishedDate ∧ a.edition.getD 0 = b.edition ∧
      a.description.getD "" = b.description ∧ a.genre.getD "" = b.genre := by
  rcases a with ⟨title, author, isbn, publishedDate, edition, description, genre⟩
  rcases b with ⟨title', author', isbn', date', edition', description', genre'⟩
  cases title <;> cases isbn <;> cases publishedDate <;>
    simp [toBook, need, bind, Except.bind, pure, Except.pure]

end Attributes

/-! ## Defaults -/

/-- The digits of the edition that stands for none. -/
def zero : Json.Numeral := ⟨false, ['0'], [], none⟩

/-- The keys that may be missing, and what they hold then. -/
def defaults : List (String × Draft) :=
  [("author", .string (some "")), ("edition", .number zero), ("description", .string (some "")),
    ("genre", .string (some ""))]

/-- The values under a key, or else its default. -/
def orDefault (key : String) : List Draft → List Draft
  | [] => (defaults.lookup key).toList
  | values => values

theorem orDefault_perm {values others : List Draft} (perm : values.Perm others) (key : String) :
    (orDefault key values).Perm (orDefault key others) := by
  cases values with
  | nil => rw [List.nil_perm.mp perm]
  | cons value values =>
    cases others with
    | nil => exact absurd (List.perm_nil.mp perm) (List.cons_ne_nil value values)
    | cons => exact perm

theorem lookup_defaults {key : String} {value : Draft} (isDefault : (key, value) ∈ defaults) :
    defaults.lookup key = some value := by
  simp only [defaults, List.mem_cons, List.not_mem_nil, or_false, Prod.mk.injEq] at isDefault
  rcases isDefault with ⟨rfl, rfl⟩ | ⟨rfl, rfl⟩ | ⟨rfl, rfl⟩ | ⟨rfl, rfl⟩ <;> rfl

theorem mem_attributeKeys_of_mem_defaults {key : String} {value : Draft} (isDefault : (key, value) ∈ defaults) :
    key ∈ attributeKeys := by
  simp only [defaults, List.mem_cons, List.not_mem_nil, or_false, Prod.mk.injEq] at isDefault
  rcases isDefault with ⟨rfl, -⟩ | ⟨rfl, -⟩ | ⟨rfl, -⟩ | ⟨rfl, -⟩ <;> decide

/-- A needed attribute has no default. -/
theorem Fills.orDefault_iff_of_needed {α : Type} {read : Draft → Except Fault α} {values : List Draft} {x : α}
    {key : String} (needed : defaults.lookup key = none) :
    Fills read none (orDefault key values) (some x) ↔ Fills read none values (some x) := by
  cases values with
  | nil => simp [orDefault, needed]
  | cons => rfl

/-- Any other attribute is filled by its default just when it is not set. -/
theorem Fills.orDefault_iff {α : Type} {read : Draft → Except Fault α} {values : List Draft} {x default : α}
    {key : String} {value : Draft} (isDefault : (key, value) ∈ defaults) (reads : read value = .ok default) :
    Fills read none (orDefault key values) (some x) ↔
      ∃ found, Fills read none values found ∧ found.getD default = x := by
  cases values with
  | nil =>
    rw [orDefault, lookup_defaults isDefault, Option.toList_some, fills_singleton_iff]
    simp [reads]
  | cons value values =>
    constructor
    · intro fills
      exact ⟨some x, fills, rfl⟩
    · rintro ⟨found, fills, rfl⟩
      cases fills with
      | taken reads => exact .taken reads

theorem Fills.orDefault_text_iff {values : List Draft} {x key : String}
    (isDefault : (key, Draft.string (some "")) ∈ defaults) :
    Fills (readText (some key)) none (orDefault key values) (some x) ↔
      ∃ found, Fills (readText (some key)) none values found ∧ found.getD "" = x :=
  Fills.orDefault_iff isDefault (readText_string (some key) "")

theorem readEdition_zero (place : Option String) : readEdition place (.number zero) = .ok 0 := by
  have value : zero.value? = some (.natural 0) := by decide
  rw [readEdition, value]
  rfl

/-- An object is read as a book just when its members are acceptable, and each attribute of the book is filled by
the values under its key or by its default. -/
theorem ofDraft_object_eq_ok_iff {members : Members} {b : Book} :
    ofDraft (.object members) = .ok b ↔ Attributes.Acceptable members ∧
      Attributes.none.Filled (fun key => orDefault key (valuesOf members key)) (.ofBook b) := by
  have read : ofDraft (.object members) = .ok b ↔
      ∃ a, Attributes.none.readMembers members = .ok a ∧ a.toBook = .ok b := by
    rw [ofDraft]
    cases Attributes.none.readMembers members <;> simp [bind, Except.bind]
  have authorDefault : ("author", Draft.string (some "")) ∈ defaults := by simp [defaults]
  have editionDefault : ("edition", Draft.number zero) ∈ defaults := by simp [defaults]
  have editionReads := readEdition_zero (some "edition")
  have descriptionDefault : ("description", Draft.string (some "")) ∈ defaults := by simp [defaults]
  have genreDefault : ("genre", Draft.string (some "")) ∈ defaults := by simp [defaults]
  rw [read]
  simp only [Attributes.readMembers_eq_ok_iff, Attributes.toBook_eq_ok_iff]
  constructor
  · rintro ⟨a, ⟨acceptable, filled⟩, title, author, isbn, date, edition, description, genre⟩
    refine ⟨acceptable, ⟨?_, ?_, ?_, ?_, ?_, ?_, ?_⟩⟩
    · exact (Fills.orDefault_iff_of_needed rfl).mpr (title ▸ filled.title)
    · exact (Fills.orDefault_text_iff authorDefault).mpr ⟨_, filled.author, author⟩
    · exact (Fills.orDefault_iff_of_needed rfl).mpr (isbn ▸ filled.isbn)
    · exact (Fills.orDefault_iff_of_needed rfl).mpr (date ▸ filled.publishedDate)
    · exact (Fills.orDefault_iff editionDefault editionReads).mpr ⟨_, filled.edition, edition⟩
    · exact (Fills.orDefault_text_iff descriptionDefault).mpr ⟨_, filled.description, description⟩
    · exact (Fills.orDefault_text_iff genreDefault).mpr ⟨_, filled.genre, genre⟩
  · rintro ⟨acceptable, filled⟩
    have title := (Fills.orDefault_iff_of_needed rfl).mp filled.title
    obtain ⟨author, authorFills, isAuthor⟩ := (Fills.orDefault_text_iff authorDefault).mp filled.author
    have isbn := (Fills.orDefault_iff_of_needed rfl).mp filled.isbn
    have date := (Fills.orDefault_iff_of_needed rfl).mp filled.publishedDate
    obtain ⟨edition, editionFills, isEdition⟩ :=
      (Fills.orDefault_iff editionDefault editionReads).mp filled.edition
    obtain ⟨description, descriptionFills, isDescription⟩ :=
      (Fills.orDefault_text_iff descriptionDefault).mp filled.description
    obtain ⟨genre, genreFills, isGenre⟩ := (Fills.orDefault_text_iff genreDefault).mp filled.genre
    exact ⟨⟨some b.title, author, some b.isbn, some b.publishedDate, edition, description, genre⟩,
      ⟨acceptable, title, authorFills, isbn, date, editionFills, descriptionFills, genreFills⟩,
      rfl, isAuthor, rfl, rfl, isEdition, isDescription, isGenre⟩

/-! ## Other members for the same book -/

/-- The members of an object, and other members for the same book. A member that is put in front gets to any
other place when members change places. -/
inductive Respelled : Members → Members → Prop
  | permuted {members others : Members} (perm : members.Perm others) : Respelled members others
  | unknownAdded {key : String} {value : Draft} (unknown : key ∉ attributeKeys) (whole : value.isWhole = true)
      (members : Members) : Respelled members ((some key, value) :: members)
  | defaultAdded {key : String} {value : Draft} {members : Members} (isDefault : (key, value) ∈ defaults)
      (absent : some key ∉ members.map Prod.fst) : Respelled members ((some key, value) :: members)

section Respelled

variable {members others : Members} {b : Book}

/-- Only the values under the keys of attributes count, and their order does not. -/
theorem ofDraft_object_iff_of_perm (acceptable : Attributes.Acceptable members ↔ Attributes.Acceptable others)
    (sameValues : ∀ key ∈ attributeKeys,
      (orDefault key (valuesOf members key)).Perm (orDefault key (valuesOf others key))) :
    ofDraft (.object members) = .ok b ↔ ofDraft (.object others) = .ok b := by
  rw [ofDraft_object_eq_ok_iff, ofDraft_object_eq_ok_iff, acceptable]
  apply and_congr_right'
  constructor
  · intro filled
    exact filled.of_perm sameValues
  · intro filled
    exact filled.of_perm fun key known => (sameValues key known).symm

/-- One change leaves the book as it is. -/
theorem Respelled.ofDraft_iff (respelled : Respelled members others) :
    ofDraft (.object members) = .ok b ↔ ofDraft (.object others) = .ok b := by
  cases respelled with
  | permuted perm =>
    apply ofDraft_object_iff_of_perm
    · simp only [Attributes.Acceptable, perm.mem_iff]
    · intro key _
      exact orDefault_perm (perm.filterMap _) key
  | @unknownAdded name value unknown whole =>
    apply ofDraft_object_iff_of_perm
    · simp [Attributes.Acceptable, whole]
    · intro key known
      have other : name ≠ key := fun same => unknown (same ▸ known)
      rw [valuesOf_cons_of_ne other]
  | @defaultAdded name value _ isDefault absent =>
    have nameKnown : name ∈ attributeKeys := mem_attributeKeys_of_mem_defaults isDefault
    apply ofDraft_object_iff_of_perm
    · simp [Attributes.Acceptable, nameKnown]
    · intro key _
      by_cases same : name = key
      -- Without the member the key has no values, and then its default stands for them.
      · subst same
        have filled : orDefault name [] = [value] := by
          rw [orDefault, lookup_defaults isDefault, Option.toList_some]
        rw [valuesOf_cons_self, valuesOf_of_not_mem absent, filled]
        exact .refl _
      · rw [valuesOf_cons_of_ne same]

/-- So do any number of them, in either direction. -/
theorem ofDraft_iff_of_eqvGen (respelled : Relation.EqvGen Respelled members others) :
    ofDraft (.object members) = .ok b ↔ ofDraft (.object others) = .ok b := by
  induction respelled with
  | rel members others step => exact step.ofDraft_iff
  | refl members => rfl
  | symm members others _ ih => exact ih.symm
  | trans members between others _ _ first next => exact first.trans next

end Respelled

/-! ## Arrays -/

section Items

variable (b : Book)

def attributeItems : List Draft :=
  [.string (some b.title), .string (some b.author), .string (some b.isbn),
    .string (some b.publishedDate.render), .number ⟨false, Nat.toDigits 10 b.edition.toNat, [], none⟩,
    .string (some b.description), .string (some b.genre)]

/-- The attributes from the fifth on may be left out at the end if they hold their defaults. -/
structure MayEndAfter (n : Nat) : Prop where
  needed : 4 ≤ n
  edition : n < 5 → b.edition = 0
  description : n < 6 → b.description = ""
  genre : n < 7 → b.genre = ""

end Items

theorem item?_take {α : Type} {items : List Draft} {index : Nat} {value : Draft} {x : α}
    {read : Option String → Draft → Except Fault α} (present : items[index]? = some value)
    (reads : ∀ place, read place value = .ok x) (n : Nat) :
    item? (items.take n) index read = .ok (if index < n then some x else none) := by
  unfold item?
  rw [List.getElem?_take]
  split_ifs with within
  · rw [present]
    simp [reads, Except.map]
  · rfl

theorem item_take {α : Type} {items : List Draft} {index n : Nat} {value : Draft} {x : α}
    {read : Option String → Draft → Except Fault α} (present : items[index]? = some value)
    (reads : ∀ place, read place value = .ok x) (within : index < n) :
    item (items.take n) index read = .ok x := by
  rw [item, item?_take present reads, if_pos within]
  rfl

/-- The attributes are read as the book, with or without defaults at the end. -/
theorem ofItems_take {b : Book} {n : Nat} (complete : b.MayEndAfter n) :
    ofItems (b.attributeItems.take n) = .ok b := by
  have needed := complete.needed
  have few : ¬ 7 < (b.attributeItems.take n).length := by simp [attributeItems]
  have edition : (if 4 < n then some b.edition else none).getD 0 = b.edition := by
    split_ifs with present
    · rfl
    · exact (complete.edition (by omega)).symm
  have description : (if 5 < n then some b.description else none).getD "" = b.description := by
    split_ifs with present
    · rfl
    · exact (complete.description (by omega)).symm
  have genre : (if 6 < n then some b.genre else none).getD "" = b.genre := by
    split_ifs with present
    · rfl
    · exact (complete.genre (by omega)).symm
  rw [ofItems, item_take rfl (readText_string · b.title) (by omega),
    item?_take rfl (readText_string · b.author), if_pos (by omega),
    item_take rfl (readText_string · b.isbn) (by omega),
    item_take rfl (readDate_render · b.publishedDate) (by omega),
    item?_take rfl (readEdition_toNat · b.edition), item?_take rfl (readText_string · b.description),
    item?_take rfl (readText_string · b.genre)]
  simp only [bind, Except.bind, pure, Except.pure, few, if_false, edition, description, genre, Option.getD_some]

/-! ## Texts -/

theorem ofJson_of_isText {d : Draft} {text : String} (isText : d.IsText text) : ofJson text = ofDraft d := by
  rw [ofJson, Json.ofString_of_isText isText, ofDocument]
  cases ofDraft d <;> rfl

/-- The spellings of a book. Whatever text of an object is read as a book, every text of an object with the same
members up to their order, members with other keys, and members that hold a default, is read as the same book, and
so is every text of the array of the attributes, which may end before defaults. As the first text is read as a book,
no attribute occurs twice in it. -/
theorem ofJson_spellings {members : Members} {text : String} {b : Book}
    (isText : (Draft.object members).IsText text) (read : ofJson text = .ok b) :
    (∀ others other, Relation.EqvGen Respelled members others → (Draft.object others).IsText other →
      ofJson other = .ok b) ∧
    (∀ n other, b.MayEndAfter n → (Draft.array (b.attributeItems.take n)).IsText other →
      ofJson other = .ok b) := by
  rw [ofJson_of_isText isText] at read
  constructor
  · intro others other respelled otherIsText
    rw [ofJson_of_isText otherIsText]
    exact (ofDraft_iff_of_eqvGen respelled).mp read
  · intro n other complete otherIsText
    rw [ofJson_of_isText otherIsText]
    exact ofItems_take complete

theorem ofJson_spellings_emma :
    let emma : Book := ⟨"Emma", "Austen", "42", ⟨1815, 12, 23, by decide⟩, 1, "", ""⟩
    ofJson emma.toJson.print = .ok emma ∧
    ofJson (Json.Value.print (.object [("genre", .string ""), ("edition", .number 1),
      ("published_date", .string emma.publishedDate.render), ("isbn", .string "42"), ("author", .string "Austen"),
      ("title", .string "Emma"), ("note", .array [.null, .object []]), ("note", .bool true)])) = .ok emma ∧
    ofJson (Json.Value.print (.array [.string "Emma", .string "Austen", .string "42",
      .string emma.publishedDate.render, .number 1])) = .ok emma := by
  intro emma
  have spellings := ofJson_spellings (Json.isText_print emma.toJson) (ofJson_print emma)
  -- The description goes to the front and is dropped, the notes are added in front, and all is turned around.
  let kept : Members := [(some "title", .string (some "Emma")), (some "author", .string (some "Austen")),
    (some "isbn", .string (some "42")), (some "published_date", .string (some emma.publishedDate.render)),
    (some "edition", .number ⟨false, Nat.toDigits 10 1, [], none⟩), (some "genre", .string (some ""))]
  let note : Option String × Draft := (some "note", .bool true)
  let nested : Option String × Draft := (some "note", .array [.null, .object []])
  have moved : Respelled (kept.take 5 ++ (some "description", .string (some "")) :: kept.drop 5)
      ((some "description", .string (some "")) :: kept) := .permuted List.perm_middle
  have dropped : Respelled kept ((some "description", .string (some "")) :: kept) :=
    .defaultAdded (by simp [defaults]) (by simp [kept])
  have noted : Respelled kept (nested :: kept) := .unknownAdded (by decide) rfl kept
  have notedAgain : Respelled (nested :: kept) (note :: nested :: kept) := .unknownAdded (by decide) rfl _
  have reversed : Respelled (note :: nested :: kept) (note :: nested :: kept).reverse :=
    .permuted (List.reverse_perm _).symm
  have shortened : Relation.EqvGen Respelled _ kept := .trans _ _ _ (.rel _ _ moved) (.symm _ _ (.rel _ _ dropped))
  have annotated : Relation.EqvGen Respelled kept (note :: nested :: kept) :=
    .trans _ _ _ (.rel _ _ noted) (.rel _ _ notedAgain)
  have all := shortened.trans _ _ _ (annotated.trans _ _ _ (.rel _ _ reversed))
  refine ⟨ofJson_print emma, spellings.1 _ _ all (Json.isText_print (.object _)), ?_⟩
  exact spellings.2 5 _ ⟨by decide, by decide, fun _ => rfl, fun _ => rfl⟩ (Json.isText_print (.array _))

end BookCatalogue.Book

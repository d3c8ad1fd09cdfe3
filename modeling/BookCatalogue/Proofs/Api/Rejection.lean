import Mathlib
import BookCatalogue.Api.Problem
import BookCatalogue.Proofs.Text.Order

/-! # Rejections for broken rules

A report holds every violation once, whatever the order of its fields, and its texts are sorted before
they are joined. So the answer to a request that breaks rules is the same in whatever order the
violations are found and the fields of the report are gone through. -/

namespace BookCatalogue

open Text (bytes bytes_le_iff joinStrings)

namespace Violation

variable {entries : Entries} {r : Report} {found : List Violation}

/-! ## What a report holds -/

/-- What the entry of a field says; a field without an entry says nothing. -/
def Entries.messages (entries : Entries) (field : String) : List (Option String) :=
  (entries.lookup field).getD []

namespace Entries

theorem messages_cons_self (field : String) (messages : List (Option String)) (rest : Entries) :
    Entries.messages ((field, messages) :: rest) field = messages := by
  simp [Entries.messages]

theorem messages_cons_of_ne {field other : String} (different : field ≠ other)
    (messages : List (Option String)) (rest : Entries) :
    Entries.messages ((other, messages) :: rest) field = rest.messages field := by
  simp [Entries.messages, List.lookup_cons, beq_eq_false_iff_ne.mpr different]

theorem messages_of_not_mem {field : String} (unknown : field ∉ entries.map Prod.fst) :
    entries.messages field = [] := by
  have missing : entries.lookup field = none := by
    rw [List.lookup_eq_none_iff]
    intro entry member
    exact bne_iff_ne.mpr fun same => unknown (List.mem_map.mpr ⟨entry, member, same.symm⟩)
  rw [Entries.messages, missing, Option.getD_none]

theorem messages_of_mem (distinct : (entries.map Prod.fst).Nodup) {entry : String × List (Option String)}
    (member : entry ∈ entries) : entries.messages entry.1 = entry.2 := by
  induction entries with
  | nil => cases member
  | cons first rest ih =>
    obtain ⟨new, distinct⟩ := List.nodup_cons.mp distinct
    rcases List.mem_cons.mp member with rfl | later
    · exact messages_cons_self ..
    · have different : entry.1 ≠ first.1 := fun same => new (same ▸ List.mem_map_of_mem later)
      rw [messages_cons_of_ne different, ih distinct later]

/-- What a field says does not depend on the place of its entry. -/
theorem messages_of_perm {others : Entries} (reordered : others.Perm entries)
    (distinct : (entries.map Prod.fst).Nodup) (field : String) :
    others.messages field = entries.messages field := by
  have fields := reordered.map Prod.fst
  by_cases known : field ∈ entries.map Prod.fst
  · obtain ⟨entry, member, rfl⟩ := List.mem_map.mp known
    rw [messages_of_mem distinct member,
      messages_of_mem (fields.nodup_iff.mpr distinct) (reordered.mem_iff.mpr member)]
  · rw [messages_of_not_mem known, messages_of_not_mem fun also => known (fields.mem_iff.mp also)]

/-- A violation that is added comes last among those of its field and leaves the other fields alone. -/
theorem messages_add (v : Violation) (entries : Entries) (field : String) :
    (entries.add v).messages field =
      entries.messages field ++ if v.field = field then [v.message] else [] := by
  induction entries with
  | nil =>
    by_cases own : v.field = field
    · subst own
      simp [add, Entries.messages]
    · rw [if_neg own, add, messages_cons_of_ne (Ne.symm own), List.append_nil]
  | cons entry rest ih =>
    obtain ⟨other, messages⟩ := entry
    by_cases here : field = other
    · subst here
      by_cases own : field = v.field
      · simp [add, own, messages_cons_self]
      · simp [add, own, Ne.symm own, messages_cons_self]
    · rw [messages_cons_of_ne here, add]
      split
      · next own =>
        have elsewhere : v.field ≠ field := fun same => here (same ▸ own.symm)
        rw [messages_cons_of_ne here, if_neg elsewhere, List.append_nil]
      · rw [messages_cons_of_ne here, ih]

/-- Fields with one entry each hold a violation as often as the entry of its field says it. -/
theorem count_violations (distinct : (entries.map Prod.fst).Nodup) (v : Violation) :
    entries.violations.count v = (entries.messages v.field).count v.message := by
  induction entries with
  | nil => rfl
  | cons entry rest ih =>
    obtain ⟨field, messages⟩ := entry
    obtain ⟨new, distinct⟩ := List.nodup_cons.mp distinct
    have split : Entries.violations ((field, messages) :: rest) =
        messages.map (Violation.mk field) ++ Entries.violations rest := rfl
    rw [split, List.count_append, ih distinct]
    by_cases own : v.field = field
    · have inside : (messages.map (Violation.mk field)).count v = messages.count v.message := by
        obtain ⟨_, message⟩ := v
        subst own
        exact List.count_map_of_injective messages _ (fun _ _ same => (Violation.mk.inj same).2) message
      rw [inside, own, messages_cons_self, messages_of_not_mem new, List.count_nil, Nat.add_zero]
    · have absent : v ∉ messages.map (Violation.mk field) := by
        rintro member
        obtain ⟨message, _, rfl⟩ := List.mem_map.mp member
        exact own rfl
      rw [List.count_eq_zero.mpr absent, messages_cons_of_ne own, Nat.zero_add]

end Entries

namespace Report

/-- Every field has what was found for it, in the order in which it was found. The fields themselves may
come in any order. -/
def Collects (r : Report) (found : List Violation) : Prop :=
  ∀ field, r.entries.messages field = (found.filter fun v => v.field = field).map Violation.message

theorem Collects.add (collects : r.Collects found) (v : Violation) : (r.add v).Collects (found ++ [v]) := by
  intro field
  rw [Report.add, Entries.messages_add, collects field]
  by_cases own : v.field = field <;> simp [own]

theorem collects_ofList (found : List Violation) : (ofList found).Collects found := by
  induction found using List.reverseRecOn with
  | nil => exact fun _ => rfl
  | append_singleton before v ih =>
    rw [ofList, List.foldl_append]
    exact ih.add v

/-- Gathering by field neither loses nor repeats a violation. -/
theorem Collects.perm (collects : r.Collects found) : r.entries.violations.Perm found := by
  rw [List.perm_iff_count]
  intro v
  calc r.entries.violations.count v
      = (r.entries.messages v.field).count v.message := Entries.count_violations r.distinct v
    _ = found.countP fun w => w.message == v.message && decide (w.field = v.field) := by
        rw [collects v.field, List.count_eq_countP, List.countP_map, List.countP_filter]
        rfl
    _ = found.count v := by
        rw [List.count_eq_countP]
        refine List.countP_congr fun w _ => ?_
        cases v
        cases w
        simp [and_comm]

/-- The order of the fields makes no difference to what they say. -/
theorem Collects.of_perm {others : Report} (collects : r.Collects found)
    (reordered : others.entries.Perm r.entries) : others.Collects found := fun field =>
  (Entries.messages_of_perm reordered r.distinct field).trans (collects field)

/-! ## The summary -/

/-- In the order of the bytes. -/
def IsSorted (texts : List String) : Prop := texts.Pairwise fun a b => bytes a ≤ bytes b

theorem isSorted_mergeSort (texts : List String) : IsSorted (texts.mergeSort fun a b => a ≤ b) := by
  have sorted : (texts.mergeSort fun a b => a ≤ b).Pairwise fun a b => decide (a ≤ b) = true := by
    apply List.pairwise_mergeSort
    · intro a b c first second
      exact decide_eq_true (le_trans (of_decide_eq_true first) (of_decide_eq_true second))
    · intro a b
      simpa using le_total a b
  exact sorted.imp fun order => bytes_le_iff.mpr (of_decide_eq_true order)

theorem IsSorted.eq_of_perm {texts others : List String} (sorted : IsSorted texts) (also : IsSorted others)
    (same : texts.Perm others) : texts = others :=
  same.eq_of_pairwise
    (fun _ _ _ _ forth back => le_antisymm (bytes_le_iff.mp forth) (bytes_le_iff.mp back)) sorted also

theorem Collects.summary_eq {texts : List String} (collects : r.Collects found) (sorted : IsSorted texts)
    (all : texts.Perm (found.map text)) : r.summary = joinStrings "; " texts := by
  have held : (r.entries.violations.map text).Perm (found.map text) := collects.perm.map text
  have sameTexts := (isSorted_mergeSort _).eq_of_perm sorted
    ((List.mergeSort_perm _ _).trans (held.trans all.symm))
  rw [summary, sameTexts]

end Report

end Violation

namespace Api

open Violation (Report text)

/-- Whatever rules are broken, there is one sorted list with a text for each violation. In whatever order the
violations are found and the fields of their report come, the rejection and its answer hold these texts. -/
theorem rejection_determined (found : List Violation) :
    ∃ texts, texts.Perm (found.map text) ∧ Report.IsSorted texts ∧
      Rejection.ofViolations found = ⟨400, "VALIDATION_ERROR", joinStrings "; " texts⟩ ∧
      ∀ (others : List Violation) (report : Report), others.Perm found → report.Collects others →
        Rejection.ofReport report = Rejection.ofViolations found ∧
          (Rejection.ofReport report).toResponse =
            problemResponse 400 "bad_request" "VALIDATION_ERROR" (joinStrings "; " texts) := by
  let texts := (found.map text).mergeSort fun a b => a ≤ b
  have all : texts.Perm (found.map text) := List.mergeSort_perm _ _
  have sorted : Report.IsSorted texts := Report.isSorted_mergeSort _
  have gathered {others : List Violation} {report : Report} (reordered : others.Perm found)
      (collects : report.Collects others) :
      Rejection.ofReport report = ⟨400, "VALIDATION_ERROR", joinStrings "; " texts⟩ := by
    rw [Rejection.ofReport, collects.summary_eq sorted (all.trans (reordered.map text).symm)]
  have inOrder := gathered (.refl found) (Report.collects_ofList found)
  refine ⟨texts, all, sorted, inOrder, ?_⟩
  intro others report reordered collects
  have same := gathered reordered collects
  exact ⟨same.trans inOrder.symm, same ▸ rfl⟩

/-- Two fields gone through in the other order, with a repeated text, a text of its own and one that sorts
behind all ASCII texts. -/
theorem rejection_determined_two_fields :
    let found : List Violation := [⟨"title", some "é"⟩, ⟨"isbn", none⟩, ⟨"title", none⟩, ⟨"isbn", none⟩]
    let others : List Violation := [⟨"isbn", none⟩, ⟨"isbn", none⟩, ⟨"title", none⟩, ⟨"title", some "é"⟩]
    let report : Report := ⟨[("title", [none, some "é"]), ("isbn", [none, none])], by decide⟩
    (others.Perm found ∧ report.Collects others) ∧
      Rejection.ofReport report = Rejection.ofViolations found ∧
      (Rejection.ofReport report).toResponse = problemResponse 400 "bad_request" "VALIDATION_ERROR"
        "isbn: validation failed; isbn: validation failed; title: validation failed; é" := by
  intro found others report
  have reordered : others.Perm found := by decide
  have collects : report.Collects others := (Report.collects_ofList others).of_perm (by decide)
  obtain ⟨texts, all, sorted, _, determined⟩ := rejection_determined found
  have inOrder : texts =
      ["isbn: validation failed", "isbn: validation failed", "title: validation failed", "é"] := by
    refine sorted.eq_of_perm ?_ (all.trans (by decide))
    exact List.Pairwise.imp bytes_le_iff.mpr (by decide)
  have joined : joinStrings "; " texts =
      "isbn: validation failed; isbn: validation failed; title: validation failed; é" := by
    rw [inOrder]
    decide
  obtain ⟨same, answered⟩ := determined others report reordered collects
  exact ⟨⟨reordered, collects⟩, same, joined ▸ answered⟩

end Api

end BookCatalogue

import BookCatalogue.Text.Separated

/-! # Broken rules

A violation names the field of a record whose rule is broken. Violations are gathered by field and
reported together, in the order of their texts, so that the report does not depend on the order in
which they were found, nor on the order in which the fields are gone through. -/

namespace BookCatalogue

/-- A broken rule: the field, and what the rule says. -/
structure Violation where
  field : String
  message : Option String
deriving DecidableEq, Repr

namespace Violation

def text (v : Violation) : String := v.message.getD (v.field ++ ": validation failed")

/-- Fields, each with what its broken rules say. -/
abbrev Entries := List (String × List (Option String))

namespace Entries

/-- The entries with one more violation: it comes last in the entry of its field, which is a new one if
there is none yet. -/
def add (v : Violation) : Entries → Entries
  | [] => [(v.field, [v.message])]
  | (field, messages) :: rest =>
    if field = v.field then (field, messages ++ [v.message]) :: rest
    else (field, messages) :: add v rest

/-- The violations, field by field. -/
def violations (entries : Entries) : List Violation :=
  entries.flatMap fun (field, messages) => messages.map (Violation.mk field)

theorem fields_add (v : Violation) (entries : Entries) :
    (entries.add v).map Prod.fst =
      if v.field ∈ entries.map Prod.fst then entries.map Prod.fst
      else entries.map Prod.fst ++ [v.field] := by
  induction entries with
  | nil => rfl
  | cons entry rest ih =>
    obtain ⟨field, messages⟩ := entry
    by_cases same : field = v.field
    · simp [add, same]
    · have other : ¬ v.field = field := fun eq => same eq.symm
      by_cases known : v.field ∈ rest.map Prod.fst <;> simp_all [add]

end Entries

/-- Violations by field. -/
structure Report where
  /-- The fields, in an order that means nothing, each with what its broken rules say in the order in
  which they were found. -/
  entries : Entries
  /-- A field has one entry. -/
  distinct : (entries.map Prod.fst).Nodup

namespace Report

def empty : Report := ⟨[], List.nodup_nil⟩

def add (r : Report) (v : Violation) : Report where
  entries := r.entries.add v
  distinct := by
    rw [Entries.fields_add]
    split
    · exact r.distinct
    · next new =>
      refine List.nodup_append.mpr ⟨r.distinct, by simp, ?_⟩
      intro field known other single same
      rw [List.mem_singleton.mp single] at same
      exact new (same ▸ known)

/-- The report on violations that are found one after another. -/
def ofList (violations : List Violation) : Report := violations.foldl add empty

/-- The texts of all violations in order, joined. -/
def summary (r : Report) : String :=
  Text.joinStrings "; " ((r.entries.violations.map text).mergeSort fun a b => a ≤ b)

end Report

/-- The summary of violations that are found one after another. -/
def summary (violations : List Violation) : String := (Report.ofList violations).summary

end Violation

end BookCatalogue

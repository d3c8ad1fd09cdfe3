/-! # Comparison operators of the filter language -/

namespace BookCatalogue.Filter

/-- How a field is compared with a value. -/
inductive Operator where
  | equals
  | differs
deriving DecidableEq, Repr

namespace Operator

/-- The operator as a filter spells it. -/
def token : Operator → String
  | equals => "eq"
  | differs => "ne"

/-- The operator as a condition spells it. -/
def symbol : Operator → String
  | equals => "="
  | differs => "<>"

def ofToken? (token : String) : Option Operator :=
  if token = "eq" then some equals else if token = "ne" then some differs else none

@[simp] theorem ofToken?_token (operator : Operator) : ofToken? operator.token = some operator := by
  cases operator <;> rfl

theorem ofToken?_eq_some_iff {token : String} {operator : Operator} :
    ofToken? token = some operator ↔ token = operator.token := by
  constructor
  · intro h
    unfold ofToken? at h
    split at h
    · next eq => cases h; exact eq
    · split at h
      · next eq => cases h; exact eq
      · cases h
  · rintro rfl
    exact ofToken?_token operator

end Operator

end BookCatalogue.Filter

import BookCatalogue.Filter.Predicate
import BookCatalogue.Text.Quoted
import BookCatalogue.Text.Separated

/-! # Chains of predicates

A chain holds the predicates of one filter in their order; a record passes when it meets all of
them. A predicate on the identifying field makes the others superfluous. A chain is explained by its
condition on one line and each parameter, quoted, on a line of its own. -/

namespace BookCatalogue.Filter

/-- The predicates of a filter, in order. -/
abbrev Chain := List Predicate

namespace Chain

/-- The first predicate on the field of this very name. -/
def get? (chain : Chain) (field : String) : Option Predicate :=
  chain.find? fun p => p.field == field

def fragment (chain : Chain) : String :=
  Text.joinStrings " AND " (chain.map Predicate.fragment)

def params (chain : Chain) : List String := chain.flatMap Predicate.params

/-- Keeps only the first predicate on the identifying field, if there is one. It has to be an
equality. -/
def retain (identifier : String) (chain : Chain) : Except Error Chain :=
  match chain.get? identifier with
  | none => .ok chain
  | some p =>
    if p.operator? = some .equals then .ok [p]
    else
      .error (.operatorNotAdmitted ((p.operator?.map Operator.token).getD "")
        (Naming.column identifier))

/-! ## Explaining a chain -/

/-- The line of the parameter with this number, counted from one. -/
def explainParam (number : Nat) (param : String) : String :=
  "\n  ?" ++ toString number ++ " = " ++ Text.quote param

/-- The lines of the parameters, of which the first has this number. -/
def explainParams (number : Nat) : List String → String
  | [] => ""
  | param :: params => explainParam number param ++ explainParams (number + 1) params

def explain (chain : Chain) : String :=
  "WHERE " ++ chain.fragment ++ explainParams 1 chain.params

end Chain

end BookCatalogue.Filter

import BookCatalogue.Filter.Error
import BookCatalogue.Filter.Operator
import BookCatalogue.Naming

/-! # Predicates on a record

A predicate compares a field with a value or keeps a date between two bounds. As a condition it is
a text with a `?` for each value; the values travel beside the text as its parameters. -/

namespace BookCatalogue.Filter

def dateRangeColumn : String := "published_date"

/-- A condition on one record. -/
inductive Predicate where
  /-- The field of this camel-case name compared with a value. -/
  | comparison (field : String) (operator : Operator) (value : String)
  /-- The date lies between both bounds, which belong to the range. -/
  | dateRange (first last : String)
deriving DecidableEq, Repr

namespace Predicate

/-- A comparison of the field with any spelling of its name. -/
def compare (field : String) (operator : Operator) (value : String) : Predicate :=
  .comparison (Naming.camel field) operator value

/-- A comparison whose operator is given by its token. -/
def compare? (field token value : String) : Except Error Predicate :=
  match Operator.ofToken? token with
  | some operator => .ok (compare field operator value)
  | none => .error (.unknownOperator token)

/-- The restricted field: a camel-case name, or the column of a date range. -/
def field : Predicate → String
  | comparison field _ _ => field
  | dateRange _ _ => dateRangeColumn

def operator? : Predicate → Option Operator
  | comparison _ operator _ => some operator
  | dateRange _ _ => none

def value? : Predicate → Option String
  | comparison _ _ value => some value
  | dateRange _ _ => none

def range? : Predicate → Option (String × String)
  | comparison _ _ _ => none
  | dateRange first last => some (first, last)

def column (p : Predicate) : String := Naming.column p.field

/-- The condition with a `?` for each parameter. -/
def fragment (p : Predicate) : String :=
  match p with
  | comparison _ operator _ => p.column ++ " " ++ operator.symbol ++ " ?"
  | dateRange _ _ => p.column ++ " >= ? AND " ++ p.column ++ " <= ?"

/-- The values that the condition is about, in the order of its `?`. -/
def params : Predicate → List String
  | comparison _ _ value => [value]
  | dateRange first last => [first, last]

end Predicate

end BookCatalogue.Filter

import BookCatalogue.Catalogue.Column
import BookCatalogue.Text.Separated

/-! # Conditions on rows

A condition is a text: comparisons of a name with a `?`, joined by ` AND `. Its parameters take the
places of the `?` from left to right. A name that denotes nothing makes the whole condition senseless,
and so does an order of anything but dates. The empty text is the condition that every row meets. -/

namespace BookCatalogue.Catalogue

open BookCatalogue.Filter (Operator)

/-- What joins the comparisons of a condition. -/
def conjunction : List Char := [' ', 'A', 'N', 'D', ' ']

/-- A comparison that can be put to rows. -/
inductive Test where
  | comparison (column : Column) (operator : Operator) (value : String)
  /-- The text of the date is the given one or comes after it. -/
  | notBefore (first : String)
  /-- The text of the date is the given one or comes before it. -/
  | notAfter (last : String)
deriving DecidableEq, Repr

namespace Test

/-- The test that compares what a name denotes with a value, in the way that a sign spells. -/
def named? (name sign value : String) : Option Test :=
  (Column.named? name).bind fun column =>
    if sign = Operator.equals.symbol then some (.comparison column .equals value)
    else if sign = Operator.differs.symbol then some (.comparison column .differs value)
    else if column ≠ .publishedDate then none
    else if sign = ">=" then some (.notBefore value)
    else if sign = "<=" then some (.notAfter value)
    else none

/-- The row with this number passes. Dates are put in the order of their characters. -/
def passes (times : Times) (number : Nat) (row : Row) : Test → Bool
  | .comparison column operator value => holds operator (column.equals? times number row value)
  | .notBefore first => first ≤ row.publishedDate
  | .notAfter last => row.publishedDate ≤ last

end Test

/-- The name and the sign of one comparison with a `?`. -/
def comparison? (text : List Char) : Option (String × String) :=
  match Text.splitOn [' '] text with
  | [name, sign, ['?']] => some (String.ofList name, String.ofList sign)
  | _ => none

def comparisons? (condition : String) : Option (List (String × String)) :=
  if condition = "" then some []
  else (Text.splitOn conjunction condition.toList).mapM comparison?

/-- The tests that comparisons become by their parameters, of which there has to be one for each. -/
def bind? : List (String × String) → List String → Option (List Test)
  | [], [] => some []
  | (name, sign) :: comparisons, value :: values => do
    return (← Test.named? name sign value) :: (← bind? comparisons values)
  | _, _ => none

/-- The tests of a condition with its parameters. -/
def tests? (condition : String) (params : List String) : Option (List Test) :=
  (comparisons? condition).bind (bind? · params)

end BookCatalogue.Catalogue

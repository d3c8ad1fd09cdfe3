import BookCatalogue.Filter.Operator
import BookCatalogue.Text.Case
import BookCatalogue.Text.Separated
import BookCatalogue.Text.Space

/-! # Building filters

A query collects clauses from field names and values as people write them, and encodes them as a
filter. A query for one identifier is that one clause, whatever else was asked. -/

namespace BookCatalogue.Filter

/-- The clauses of a filter under construction, in order, and the clause of the identifier. -/
structure Query where
  clauses : List String
  identifier : Option String
deriving DecidableEq, Repr

namespace Query

def empty : Query := ⟨[], none⟩

/-- The words of a field name in lower case, joined by dashes. -/
def encodeField (field : String) : String :=
  String.ofList (Text.lower (Text.joinWith ['-'] (Text.words field.toList)))

/-- A value without surrounding white space and with dashes for blanks. -/
def encodeValue (value : String) : String :=
  String.ofList ((Text.trim value.toList).map fun c => if c = ' ' then '-' else c)

def clause (field : String) (operator : Operator) (value : String) : String :=
  encodeField field ++ "_" ++ operator.token ++ "_" ++ encodeValue value

def compare (q : Query) (field : String) (operator : Operator) (value : String) : Query :=
  { q with clauses := q.clauses ++ [clause field operator value] }

/-- Asks for records whose field equals the value. -/
def equals (q : Query) (field value : String) : Query := q.compare field .equals value

/-- Asks for records whose field differs from the value. -/
def differs (q : Query) (field value : String) : Query := q.compare field .differs value

/-- Asks for records published between two dates, both included. -/
def dates (q : Query) (first last : String) : Query :=
  let trimmed (s : String) := String.ofList (Text.trim s.toList)
  { q with clauses := q.clauses ++ ["dates_eq_" ++ trimmed first ++ "-to-" ++ trimmed last] }

/-- Asks for the record with this identifier and for nothing else. -/
def withIdentifier (q : Query) (id : String) : Query :=
  { q with identifier := some ("isbn_eq_" ++ encodeValue id) }

def isEmpty (q : Query) : Bool := q.identifier.isNone && q.clauses.isEmpty

/-- The filter of a query; empty for the empty query. -/
def encode (q : Query) : String :=
  q.identifier.getD (Text.joinStrings "_and_" q.clauses)

end Query

end BookCatalogue.Filter

import BookCatalogue.Filter.Chain

/-! # Reading filters

A filter is a list of clauses joined by `_and_`; a clause is a field, an operator and a value joined
by `_`. Clauses are read from the left, and the first refused one decides the outcome. Two fields
are special: `dates` introduces a range of dates, and an equality of the ISBN replaces the
filter. A schema tells which fields and values there are; the questions put to it while a filter is
read are themselves a result of reading.

A filter cannot hold blanks, so dashes stand for them, except in a value that consists of digits and
dashes alone, such as a date or an ISBN. -/

namespace BookCatalogue.Filter

/-! ## Schemas -/

/-- The fields of a kind of record, by their camel-case names, and the values that suit them. -/
structure Schema where
  hasField : String → Bool
  accepts : String → String → Bool

def Schema.any : Schema := ⟨fun _ => true, fun _ _ => true⟩

/-- A question put to a schema. -/
inductive Consultation where
  | field (name : String)
  | value (field value : String)
deriving DecidableEq, Repr

/-! ## Values -/

/-- A character of a date or a number. -/
def isDigitOrDash (c : Char) : Bool := c.isDigit || c == '-'

def isNumeric (cs : List Char) : Bool := !cs.isEmpty && cs.all isDigitOrDash

/-- The value meant by the characters of a filter's value. -/
def meantChars (cs : List Char) : List Char :=
  if isNumeric cs then cs else cs.map fun c => if c = '-' then ' ' else c

/-- The value meant by a filter's value. -/
def meant (written : String) : String := String.ofList (meantChars written.toList)

/-! ## Clauses -/

def clauseSeparator : List Char := ['_', 'a', 'n', 'd', '_']

def partSeparator : List Char := ['_']

def rangeSeparator : List Char := ['-', 't', 'o', '-']

/-- The name that introduces a date range in place of a field. -/
def dateRangeField : String := "Dates"

def identifierField : String := "Isbn"

/-- The outcome of reading, with the questions put to the schema on the way. -/
structure Reading (α : Type) where
  consulted : List Consultation
  outcome : Except Error α

def readRange (value : List Char) : Except Error Predicate :=
  match Text.splitOn rangeSeparator value with
  | [first, last] => .ok (.dateRange (String.ofList first) (String.ofList last))
  | _ => .error .invalidDateRange

/-- Reads the parts of a comparison of the field with this camel-case name. -/
def readComparison (schema : Schema) (name : String) (token value : List Char) :
    Reading Predicate :=
  if schema.hasField name then
    match Operator.ofToken? (String.ofList token) with
    | none => ⟨[.field name], .error (.unknownOperator (String.ofList token))⟩
    | some operator =>
      let value := String.ofList (meantChars value)
      ⟨[.field name, .value name value],
        if schema.accepts name value then .ok (.compare name operator value)
        else .error (.typeMismatch name)⟩
  else ⟨[.field name], .error (.unknownField name)⟩

def readClause (schema : Schema) (clause : List Char) : Reading Predicate :=
  match Text.splitOn partSeparator clause with
  | [field, token, value] =>
    let name := Naming.camel (String.ofList field)
    if name = dateRangeField then ⟨[], readRange value⟩
    else readComparison schema name token value
  | _ => ⟨[], .error .wrongPartCount⟩

/-- Reads clauses up to the first refused one. -/
def readClauses (schema : Schema) : List (List Char) → Reading Chain
  | [] => ⟨[], .ok []⟩
  | clause :: clauses =>
    let first := readClause schema clause
    match first.outcome with
    | .error e => ⟨first.consulted, .error e⟩
    | .ok p =>
      let others := readClauses schema clauses
      ⟨first.consulted ++ others.consulted, others.outcome.map (p :: ·)⟩

/-- Settles a chain that is not empty: it is reduced by the identifying field. -/
def settle (chain : Chain) : Except Error Chain :=
  if chain.isEmpty then .error .noFilters else chain.retain identifierField

/-- Reads a filter and keeps the questions put to the schema. -/
def read (schema : Schema) (raw : String) : Reading Chain :=
  let clauses := readClauses schema (Text.splitOn clauseSeparator raw.toList)
  ⟨clauses.consulted, clauses.outcome.bind settle⟩

def parse (schema : Schema) (raw : String) : Except Error Chain := (read schema raw).outcome

end BookCatalogue.Filter

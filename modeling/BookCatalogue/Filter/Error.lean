/-! # Reasons for refusing a filter -/

namespace BookCatalogue.Filter

/-- Why a filter is refused. -/
inductive Error where
  /-- A clause does not have three parts. -/
  | wrongPartCount
  /-- The named field does not exist. -/
  | unknownField (field : String)
  /-- The token spells no operator. -/
  | unknownOperator (token : String)
  /-- A date range does not have two bounds. -/
  | invalidDateRange
  /-- The value does not suit the named field. -/
  | typeMismatch (field : String)
  /-- There is no clause at all. -/
  | noFilters
  /-- The operator may not be used on the identifying field. -/
  | operatorNotAdmitted (operator : String) (field : String)
deriving DecidableEq, Repr

namespace Error

/-- What is wrong, without the common beginning of all messages. -/
def detail : Error → String
  | wrongPartCount => "wrong number of filter parts"
  | unknownField field => field ++ " does not exist"
  | unknownOperator token => token ++ " does not exist"
  | invalidDateRange => "invalid date range"
  | typeMismatch field => field ++ " has a mismatching type"
  | noFilters => "no filters"
  | operatorNotAdmitted operator field => operator ++ " not admitted for " ++ field ++ " filter"

def message (e : Error) : String := "invalid filter: " ++ e.detail

def code : Error → String
  | wrongPartCount => "INVALID_FILTER_SHAPE"
  | unknownField _ => "INVALID_FILTER_FIELD"
  | unknownOperator _ => "INVALID_FILTER_OPERATOR"
  | invalidDateRange => "INVALID_FILTER_DATE_RANGE"
  | typeMismatch _ => "INVALID_FILTER_VALUE"
  | noFilters => "INVALID_FILTER_EMPTY"
  | operatorNotAdmitted _ _ => "INVALID_FILTER_IDENTIFIER"

end Error

end BookCatalogue.Filter

import BookCatalogue.Catalogue.Basic
import BookCatalogue.Filter.Error
import BookCatalogue.Http.Message

/-! # Answers about problems

The JSON answers that tell a client what went wrong: the kind of the problem, a stable code and a
message. A request that is refused before it reaches the catalogue is a rejection. -/

namespace BookCatalogue.Api

open Http (Response)

def problemResponse (status : Nat) (kind code message : String) : Response :=
  .json status (.object [("error", .string kind), ("code", .string code),
    ("message", .string message)])

inductive Problem where
  | badRequest (code message : String)
  | notFound (code message : String)
  | conflict (code message : String)
  | internal (message : String)
deriving DecidableEq, Repr

namespace Problem

def ofFilter (e : Filter.Error) : Problem := .badRequest e.code e.message

def bookExists (message : String) : Problem := .conflict "BOOK_EXISTS" message

def bookMissing (message : String) : Problem := .notFound "BOOK_NOT_FOUND" message

/-- The catalogue could not be used. Clients are not told why. -/
def databaseFailed : Problem := .internal "Database operation failed"

def ofCatalogue (e : Catalogue.Error) : Problem :=
  match e with
  | .conflict _ => bookExists e.detail
  | .notFound _ => bookMissing e.detail
  | .engine | .corrupt _ => databaseFailed

def toResponse : Problem → Response
  | badRequest code message => problemResponse 400 "bad_request" code message
  | notFound code message => problemResponse 404 "not_found" code message
  | conflict code message => problemResponse 409 "conflict" code message
  | internal message => problemResponse 500 "internal_error" "INTERNAL" message

end Problem

/-- A request that is refused by its form. -/
structure Rejection where
  status : Nat
  code : String
  message : String
deriving DecidableEq, Repr

namespace Rejection

def ofQuery (message : String) : Rejection := ⟨400, "QUERY_PARSE_ERROR", message⟩

def ofBody (status : Nat) (message : String) : Rejection := ⟨status, "JSON_PARSE_ERROR", message⟩

/-- Rules are broken: one message for each violation, in the order of their characters. -/
def ofReport (report : Violation.Report) : Rejection := ⟨400, "VALIDATION_ERROR", report.summary⟩

/-- The rejection for violations that are found one after another. -/
def ofViolations (violations : List Violation) : Rejection := ofReport (.ofList violations)

def toResponse (r : Rejection) : Response :=
  problemResponse r.status (if r.status = 400 then "bad_request" else "invalid_body") r.code
    r.message

end Rejection

/-- The answer to a successful change. -/
def confirmation (metadata : String) : Json.Value :=
  .object [("status", .string "success"), ("code", .number 200), ("metadata", .string metadata)]

end BookCatalogue.Api

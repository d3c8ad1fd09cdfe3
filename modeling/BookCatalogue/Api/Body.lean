import BookCatalogue.Api.Problem
import BookCatalogue.Book.Json
import BookCatalogue.Http.MediaType
import BookCatalogue.Text.Utf8

/-! # The body of a change

A book to be added or replaced comes as a JSON body. The checks come in this order: the type of the
body, its size, its JSON, the record, and the rules for books. -/

namespace BookCatalogue.Api

open Http (Request)

/-- The largest body in bytes. -/
def bodyLimit : Nat := 64 * 1024

def saysJson (r : Request) : Bool :=
  ((r.asciiHeader? "content-type").bind Http.MediaType.parse?).any Http.MediaType.isJson

def Rejection.ofFault : Book.Fault → Rejection
  | .malformed => .ofBody 400 "Failed to parse the request body as JSON"
  | .unsuitable place message =>
    .ofBody 422 ("Failed to deserialize the JSON body into the target type: " ++
      Book.Fault.located place message)

/-- The book in the body of a request. -/
def readBook (r : Request) : Except Rejection Book := do
  if !saysJson r then throw (.ofBody 415 "Expected request with `Content-Type: application/json`")
  if bodyLimit < r.body.length then
    throw (.ofBody 413 "Failed to buffer the request body: length limit exceeded")
  let book ← (Book.ofDocument (.ofChars (Text.utf8Decode r.body))).mapError .ofFault
  if book.isValid then return book else throw (.ofViolations book.violations)

end BookCatalogue.Api

import BookCatalogue.Api.Problem
import BookCatalogue.Http.Form
import BookCatalogue.Text.Space

/-! # The query of a listing

A listing is asked for with the field `filter` of the query, which may be given once and may not be
too long. A blank filter counts as none. -/

namespace BookCatalogue.Api

/-- What a client asks for. -/
structure ListingQuery where
  filter : Option String
deriving DecidableEq, Repr

namespace ListingQuery

/-- The filter without surrounding white space; none if nothing is left. -/
def chosen (q : ListingQuery) : Option String :=
  (q.filter.map fun f => String.ofList (Text.trim f.toList)).filter (· ≠ "")

def violations (q : ListingQuery) : List Violation :=
  if (q.filter.getD "").length ≤ 1024 then []
  else [⟨"filter", some "Filter must be at most 1024 characters"⟩]

def read (query : Option String) : Except Rejection ListingQuery :=
  let filters := (Http.formFields (query.getD "")).filterMap fun (name, value) =>
    if name = "filter" then some value else none
  match filters with
  | _ :: _ :: _ =>
    .error (.ofQuery "Failed to deserialize query string: duplicate field `filter`")
  | filters =>
    let q : ListingQuery := ⟨filters.head?⟩
    if q.violations.isEmpty then .ok q else .error (.ofViolations q.violations)

end ListingQuery

end BookCatalogue.Api

import BookCatalogue.Api.Body
import BookCatalogue.Api.Description
import BookCatalogue.Api.DocsPage
import BookCatalogue.Api.Query
import BookCatalogue.Book.Field
import BookCatalogue.Http.Origin

/-! # Answering requests

The routes of the server and what each method does on them. Only a change that is answered with
success touches the catalogue. Every answer to an allowed origin names that origin. -/

namespace BookCatalogue.Api

open Http (Origins Request Response)

inductive Route where
  | health
  | description
  | docs
  | books
deriving DecidableEq, Repr

namespace Route

def ofPath? (path : String) : Option Route :=
  if path = apiPath ++ "/health" then some health
  else if path = "/api/openapi.json" then some description
  else if path = "/api/docs" ∨ path = "/api/docs/" then some docs
  else if path = apiPath ++ "/books" then some books
  else none

/-- The methods of a route, as its header `allow` names them. -/
def allow : Route → String
  | health | description | docs => "GET,HEAD"
  | books => "GET,HEAD,POST,PUT"

end Route

def healthReport : Json.Value :=
  .object [("status", .string "ok"), ("service", .string programName),
    ("version", .string version)]

/-- The books that a query asks for. -/
def list (c : Catalogue) (r : Request) : Response :=
  match ListingQuery.read r.query with
  | .error rejection => rejection.toResponse
  | .ok query =>
    match query.chosen with
    | none =>
      (Problem.badRequest "MISSING_FILTER" "The filter query parameter is required").toResponse
    | some filter =>
      match Book.parseFilter filter with
      | .error e => (Problem.ofFilter e).toResponse
      | .ok chain =>
        match c.find chain with
        | .error e => (Problem.ofCatalogue e).toResponse
        | .ok books => .json 200 (.object [("data", .array (books.map Book.toJson))])

/-- Adds the book in the body. -/
def add (c : Catalogue) (r : Request) : Response × Catalogue :=
  match readBook r with
  | .error rejection => (rejection.toResponse, c)
  | .ok book =>
    match c.create book with
    | .error e => ((Problem.ofCatalogue e).toResponse, c)
    | .ok c => (.json 201 (confirmation ("Created book " ++ book.summary)), c)

/-- Replaces the book with the ISBN of the book in the body. -/
def replace (c : Catalogue) (r : Request) : Response × Catalogue :=
  match readBook r with
  | .error rejection => (rejection.toResponse, c)
  | .ok book =>
    match c.update book with
    | .error e => ((Problem.ofCatalogue e).toResponse, c)
    | .ok c => (.json 200 (confirmation ("Updated book " ++ book.summary)), c)

/-- The answer to a method that a route does not have. -/
def methodRefused (route : Route) : Response := ⟨405, [("allow", route.allow)], ""⟩

def view (c : Catalogue) (r : Request) : Route → Response
  | .health => .json 200 healthReport
  | .description => .json 200 description
  | .docs => ⟨200, [("content-type", "text/html; charset=utf-8")], docsPage⟩
  | .books => list c r

def onRoute (c : Catalogue) (r : Request) (route : Route) : Response × Catalogue :=
  if r.method = "GET" then (view c r route, c)
  else if r.method = "HEAD" then ((view c r route).withoutBody, c)
  else if route = .books ∧ r.method = "POST" then add c r
  else if route = .books ∧ r.method = "PUT" then replace c r
  else (methodRefused route, c)

def noRoute (r : Request) : Response :=
  let response := problemResponse 404 "not_found" "ROUTE_NOT_FOUND"
    ("No route for " ++ r.method ++ " " ++ r.path)
  if r.method = "HEAD" then response.withoutBody else response

/-- The answer to the question which requests from other origins are possible. -/
def preflight (r : Request) : Response :=
  ⟨200, [("access-control-allow-methods", "GET,POST,PUT,OPTIONS"),
    ("access-control-allow-headers", "content-type,accept,origin")] ++
      ((Route.ofPath? r.path).toList.map fun route => ("allow", route.allow)), ""⟩

/-- The answer before the headers about origins. -/
def handle (c : Catalogue) (r : Request) : Response × Catalogue :=
  if r.method = "OPTIONS" then (preflight r, c)
  else
    match Route.ofPath? r.path with
    | some route => onRoute c r route
    | none => (noRoute r, c)

def originHeaders (origins : Origins) (r : Request) : List (String × String) :=
  ("vary", "origin, access-control-request-method, access-control-request-headers") ::
    (((r.header? "origin").filter origins.headerValues.contains).toList.map fun origin =>
      ("access-control-allow-origin", origin))

/-- The answer to a request, and the catalogue after it. -/
def answer (origins : Origins) (c : Catalogue) (r : Request) : Response × Catalogue :=
  let (response, after) := handle c r
  (response.withHeaders (originHeaders origins r), after)

end BookCatalogue.Api

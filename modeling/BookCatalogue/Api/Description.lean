import BookCatalogue.Json.Value
import BookCatalogue.Program

/-! # The description of the interface

The OpenAPI document that describes the paths of the interface and the records they exchange. -/

namespace BookCatalogue.Api

open Json (Value)

/-- The schema of a text, with more members in front. -/
def textSchema (more : List (String × Value)) : Value :=
  .object (more ++ [("type", .string "string")])

/-- The schema of a number that is not negative. -/
def numberSchema : Value :=
  .object [("type", .string "integer"), ("format", .string "int32"), ("minimum", .number 0)]

def textList (texts : List String) : Value := .array (texts.map .string)

/-- The schema of a record, of which some properties are required. -/
def recordSchema (description : Option String) (required : List String)
    (properties : List (String × Value)) : Value :=
  .object ((description.toList.map fun d => ("description", .string d)) ++
    [("type", .string "object"), ("required", textList required),
      ("properties", .object properties)])

def describedAs (text : String) : String × Value := ("description", .string text)

def schemaRef (name : String) : Value :=
  .object [("$ref", .string ("#/components/schemas/" ++ name))]

def schemas : Value := .object
  [("Book", recordSchema (some "A book record") ["title", "isbn", "published_date"]
      [("title", textSchema []), ("author", textSchema []),
       ("isbn", textSchema [describedAs "Unique identifier of the book"]),
       ("published_date",
         textSchema [("format", .string "date"), ("example", .string "1603-01-01")]),
       ("edition", numberSchema), ("description", textSchema []), ("genre", textSchema [])]),
   ("BookListResponse", recordSchema (some "Books matching a filter") ["data"]
      [("data", .object [("type", .string "array"), ("items", schemaRef "Book")])]),
   ("HealthResponse", recordSchema none ["status", "service", "version"]
      [("status", textSchema []), ("service", textSchema []), ("version", textSchema [])]),
   ("MessageResponse", recordSchema (some "Result envelope for write operations")
      ["status", "code", "metadata"]
      [("status", textSchema [describedAs "Always `success` for 2xx responses"]),
       ("code", numberSchema),
       ("metadata", textSchema [describedAs "Human readable description of what happened"])])]

def jsonContent (name : String) : String × Value :=
  ("content",
    .object [("application/json", .object [("schema", schemaRef name)])])

/-- An operation on a path; more members stand before its responses. -/
def operation (tag id summary : String) (more : List (String × Value))
    (responses : List (String × List (String × Value))) : Value :=
  .object ([("tags", textList [tag]), ("summary", .string summary), ("operationId", .string id)] ++
    more ++ [("responses", .object (responses.map fun (status, r) => (status, .object r)))])

def bookBody : String × Value :=
  ("requestBody", .object [jsonContent "Book", ("required", .bool true)])

def filterParameter : Value := .object
  [("name", .string "filter"), ("in", .string "query"),
   describedAs "Filter, e.g. author_eq_William-Shakespeare_and_edition_ne_2",
   ("required", .bool true), ("schema", textSchema [])]

def bookOperations : Value := .object
  [("get", operation "books" "find_books" "Find books matching a filter"
      [("parameters", .array [filterParameter])]
      [("200", [describedAs "Matching books", jsonContent "BookListResponse"]),
       ("400", [describedAs "Missing or invalid filter"])]),
   ("post", operation "books" "create_book" "Create a book" [bookBody]
      [("201", [describedAs "Book created", jsonContent "MessageResponse"]),
       ("400", [describedAs "Invalid book"]),
       ("409", [describedAs "A book with this ISBN already exists"])]),
   ("put", operation "books" "update_book" "Update a book identified by its ISBN" [bookBody]
      [("200", [describedAs "Book updated", jsonContent "MessageResponse"]),
       ("400", [describedAs "Invalid book"]),
       ("404", [describedAs "No book with this ISBN"])])]

def healthOperations : Value := .object
  [("get", operation "health" "health" "Report that the service is up" []
      [("200", [describedAs "Service is healthy", jsonContent "HealthResponse"])])]

/-- The document. -/
def description : Value := .object
  [("openapi", .string "3.1.0"),
   ("info", .object
      [("title", .string "Book Management API"),
       describedAs "Book catalogue with a filter query language",
       ("license", .object [("name", .string "")]), ("version", .string version)]),
   ("paths", .object
      [(apiPath ++ "/health", healthOperations), (apiPath ++ "/books", bookOperations)]),
   ("components", .object [("schemas", schemas)]),
   ("tags", .array
      [.object [("name", .string "health"), describedAs "Health check endpoint"],
       .object [("name", .string "books"), describedAs "Book catalogue"]])]

end BookCatalogue.Api

import BookCatalogue.Http.Uri
import BookCatalogue.Json.Value

/-! # Requests and responses -/

namespace BookCatalogue.Http

/-- A request. Header names are in lower case; the body consists of bytes. -/
structure Request where
  method : String
  path : String
  query : Option String
  headers : List (String × String)
  body : List Nat
deriving DecidableEq, Repr

/-- A response. Header names are in lower case. -/
structure Response where
  status : Nat
  headers : List (String × String)
  body : String
deriving DecidableEq, Repr

/-- Why parts do not make up a request. -/
inductive BadRequest where
  | method
  | uri (fault : UriFault)
  | headerName
  | headerValue
deriving DecidableEq, Repr

def BadRequest.message : BadRequest → String
  | .method => "invalid HTTP method"
  | .uri fault => fault.message
  | .headerName => "invalid HTTP header name"
  | .headerValue => "failed to parse header value"

def isTokenChar (c : Char) : Bool := c.isAlphanum || "!#$%&'*+-.^_`|~".toList.contains c

/-- A method or a header name. -/
def isToken (s : String) : Bool := !s.isEmpty && s.toList.all isTokenChar

def isHeaderChar (c : Char) : Bool := c = '\t' || (0x20 ≤ c.toNat && c.toNat ≠ 0x7F)

def isHeaderValue (s : String) : Bool := s.toList.all isHeaderChar

namespace Request

/-- Checks a header and puts its name in lower case. -/
def header (h : String × String) : Except BadRequest (String × String) :=
  if !isToken h.1 then .error .headerName
  else if !isHeaderValue h.2 then .error .headerValue
  else .ok (String.ofList (h.1.toList.map Char.toLower), h.2)

def ofParts (method uri : String) (headers : List (String × String)) (body : List Nat) :
    Except BadRequest Request := do
  if !isToken method then throw .method
  let uri ← (Uri.parse uri).mapError .uri
  let headers ← headers.mapM header
  return ⟨method, uri.path, uri.query, headers, body⟩

/-- The first header of a name. -/
def header? (r : Request) (name : String) : Option String := r.headers.lookup name

/-- The first header of a name, if it is written in ASCII. -/
def asciiHeader? (r : Request) (name : String) : Option String :=
  (r.header? name).filter fun value => value.toList.all fun c => c.toNat < 0x80

end Request

namespace Response

def json (status : Nat) (value : Json.Value) : Response :=
  ⟨status, [("content-type", "application/json")], value.print⟩

/-- The values of a header in order. -/
def headerValues (r : Response) (name : String) : List String :=
  (r.headers.filter fun h => h.1 == name).map Prod.snd

def withHeaders (r : Response) (headers : List (String × String)) : Response :=
  { r with headers := r.headers ++ headers }

def withoutBody (r : Response) : Response := { r with body := "" }

end Response

end BookCatalogue.Http

import BookCatalogue.Http.Message

/-! # Hosts and origins

The host a server listens on, the address under which clients reach it, and the origins whose pages may
use the server: its host with and without the port. A server on all interfaces or on the local one goes
by two names. An answer to a request can only name an origin that a header can hold. -/

namespace BookCatalogue.Http

/-- The host stands for every network interface. -/
def isAllInterfaces (host : String) : Bool := host == "0.0.0.0" || host == "::" || host == "[::]"

/-- The address that clients use; a server on all interfaces is reached as `localhost`. -/
def baseUrl (host : String) (port : Nat) : String :=
  "http://" ++ (if isAllInterfaces host then "localhost" else host) ++ ":" ++ toString port

/-- The host goes by the names of the local interface. -/
def isLocal (host : String) : Bool :=
  isAllInterfaces host || host == "127.0.0.1" || host == "localhost"

structure Origins where
  allowed : List String
deriving DecidableEq, Repr

namespace Origins

/-- Both origins of a host name. -/
def ofHost (host : String) (port : Nat) : List String :=
  ["http://" ++ host ++ ":" ++ toString port, "http://" ++ host]

def ofServer (host : String) (port : Nat) : Origins :=
  ⟨(if isLocal host then ["localhost", "127.0.0.1"] else [host]).flatMap fun h => ofHost h port⟩

def isAllowed (o : Origins) (origin : String) : Bool := o.allowed.contains origin

/-- The allowed origins that a header can hold; the others are left out. -/
def headerValues (o : Origins) : List String := o.allowed.filter isHeaderValue

end Origins

end BookCatalogue.Http

import BookCatalogue.Http.Origin
import BookCatalogue.Program

/-! # The banner

What the server shows before it listens: its addresses and its database, in colours. -/

namespace BookCatalogue.Banner

inductive Style where
  | bold
  | green
  | cyan
  | grey
deriving DecidableEq, Repr

def Style.code : Style → String
  | .bold => "1"
  | .green => "32"
  | .cyan => "36"
  | .grey => "90"

/-- Switches a style on. -/
def begins (style : Style) : String := "\x1b[" ++ style.code ++ "m"

def ends : String := "\x1b[0m"

/-- A label, filled up to ten characters. -/
def label (text : String) : String :=
  text ++ String.ofList (List.replicate (10 - text.length) ' ')

def link (name address : String) : String :=
  "  " ++ begins .green ++ "➜" ++ ends ++ "  " ++ begins .bold ++ label name ++ ends ++ " "
    ++ address ++ "\n"

def remark (name text : String) : String :=
  "  " ++ begins .grey ++ "➜  " ++ label name ++ " " ++ text ++ ends ++ "\n"

/-- The banner of a server with this host, port and database. -/
def text (host : String) (port : Nat) (database : String) : String :=
  let base := Http.baseUrl host port
  "\n  " ++ begins .bold ++ begins .cyan ++ displayName ++ ends
    ++ " " ++ begins .grey ++ "v" ++ version ++ ends ++ "\n\n"
    ++ link "Books:" (base ++ apiPath ++ "/books")
    ++ link "Docs:" (base ++ "/api/docs")
    ++ remark "Database:" database
    ++ (if host = "127.0.0.1" ∨ host = "localhost" then
          remark "Network:" "use --host 0.0.0.0 to expose"
        else "")
    ++ "\n"

end BookCatalogue.Banner

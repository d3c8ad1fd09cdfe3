import BookCatalogue.Config.Settings
import BookCatalogue.Json.Draft

/-! # Configuration files

A configuration file is a JSON object with the optional members `server`, `database` and `debug`,
each at most once. Other members are of no account, but their values must be readable: numbers
within range, strings that are texts, and nesting within a limit. -/

namespace BookCatalogue

namespace Json

mutual

/-- Every number in the draft has a value, every string and key is a text, and nothing is cut. -/
def Draft.isReadable : Draft → Bool
  | .number n => n.value?.isSome
  | .string content => content.isSome
  | .array items => itemsReadable items
  | .object members => membersReadable members
  | .cut => false
  | _ => true

def itemsReadable : List Draft → Bool
  | [] => true
  | item :: items => item.isReadable && itemsReadable items

def membersReadable : List (Option String × Draft) → Bool
  | [] => true
  | (key, value) :: members => key.isSome && value.isReadable && membersReadable members

end

mutual

/-- How many arrays and objects are nested in one another. -/
def Draft.depth : Draft → Nat
  | .array items => itemsDepth items + 1
  | .object members => membersDepth members + 1
  | _ => 0

def itemsDepth : List Draft → Nat
  | [] => 0
  | item :: items => max item.depth (itemsDepth items)

def membersDepth : List (Option String × Draft) → Nat
  | [] => 0
  | (_, value) :: members => max value.depth (membersDepth members)

end

end Json

namespace FileSettings

open Json (Draft)

/-- The members of an object as they are read. -/
abbrev Members := List (Option String × Draft)

/-- The value of a key that must not be repeated; null for an absent key. -/
def value? (members : Members) (key : String) : Option Draft :=
  match members.filter (·.1 == some key) with
  | [] => some .null
  | [(_, value)] => some value
  | _ => none

/-- Every key is a text, and the members with other keys than these satisfy a condition. -/
def othersAre (known : List String) (condition : Draft → Bool) (members : Members) : Bool :=
  members.all fun (key, value) =>
    match key with
    | some key => known.contains key || condition value
    | none => false

/-- A text or null. -/
def text? : Draft → Option (Option String)
  | .null => some none
  | .string (some s) => some (some s)
  | _ => none

/-- A port number or null. -/
def port? : Draft → Option (Option UInt16)
  | .null => some none
  | .number n =>
    match n.value? with
    | some (.natural port) => if port < 65536 then some (some (UInt16.ofNat port)) else none
    | _ => none
  | _ => none

/-- A truth value or null. -/
def flag? : Draft → Option (Option Bool)
  | .null => some none
  | .bool b => some (some b)
  | _ => none

/-- The section of the server or null: an object with these members, or an array of both. -/
def server? : Draft → Option (Option ServerSection)
  | .null => some none
  | .object members => do
    guard (othersAre ["host", "port"] Draft.isWhole members)
    return some ⟨← text? (← value? members "host"), ← port? (← value? members "port")⟩
  | .array [host, port] => do return some ⟨← text? host, ← port? port⟩
  | _ => none

/-- The section of the database or null: an object with this member, or an array of it. -/
def database? : Draft → Option (Option DatabaseSection)
  | .null => some none
  | .object members => do
    guard (othersAre ["path"] Draft.isWhole members)
    return some ⟨← text? (← value? members "path")⟩
  | .array [path] => do return some ⟨← text? path⟩
  | _ => none

/-- The most containers nested in a member of the file that is of no account. -/
def depthLimit : Nat := 126

/-- The settings that a file makes whose members these are. -/
def ofMembers? (members : Members) : Option FileSettings := do
  guard (othersAre ["server", "database", "debug"]
    (fun value => value.isReadable && value.depth ≤ depthLimit) members)
  return ⟨← server? (← value? members "server"), ← database? (← value? members "database"),
    ← flag? (← value? members "debug")⟩

def ofText? (text : String) : Option FileSettings :=
  let document := Json.Document.ofString text
  match document.value with
  | .object members => if document.ends then ofMembers? members else none
  | _ => none

end FileSettings

end BookCatalogue

import BookCatalogue.Text.Digits
import BookCatalogue.Text.Separated

/-! # Writing JSON

JSON values and their compact text: no blanks, members in order, and in strings an escape for
quotes, backslashes and the characters below the blank only. -/

namespace BookCatalogue.Json

inductive Value where
  | null
  | bool (b : Bool)
  | number (n : Nat)
  | string (s : String)
  | array (items : List Value)
  | object (members : List (String × Value))

def escapeChar (c : Char) : List Char :=
  if c = '"' then ['\\', '"']
  else if c = '\\' then ['\\', '\\']
  else if c = '\x08' then ['\\', 'b']
  else if c = '\t' then ['\\', 't']
  else if c = '\n' then ['\\', 'n']
  else if c = '\x0c' then ['\\', 'f']
  else if c = '\r' then ['\\', 'r']
  else if c.toNat < 0x20 then ['\\', 'u'] ++ Text.hexPadded 4 c.toNat
  else [c]

def stringChars (s : String) : List Char := '"' :: s.toList.flatMap escapeChar ++ ['"']

mutual

def Value.toChars : Value → List Char
  | .null => ['n', 'u', 'l', 'l']
  | .bool true => ['t', 'r', 'u', 'e']
  | .bool false => ['f', 'a', 'l', 's', 'e']
  | .number n => (toString n).toList
  | .string s => stringChars s
  | .array items => '[' :: Text.joinWith [','] (itemChars items) ++ [']']
  | .object members => '\x7b' :: Text.joinWith [','] (memberChars members) ++ ['\x7d']

def itemChars : List Value → List (List Char)
  | [] => []
  | item :: items => item.toChars :: itemChars items

def memberChars : List (String × Value) → List (List Char)
  | [] => []
  | (key, value) :: members =>
    (stringChars key ++ ':' :: value.toChars) :: memberChars members

end

def Value.print (v : Value) : String := String.ofList v.toChars

end BookCatalogue.Json

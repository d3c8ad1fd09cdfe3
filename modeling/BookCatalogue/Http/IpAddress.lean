import BookCatalogue.Text.Digits

/-! # Texts of IP addresses

Version 4 is four decimal numbers without leading zeros; version 6 is eight groups of hexadecimal
digits, of which the last two may be written as an address of version 4. Two colons stand for one or
more groups of zero, once. -/

namespace BookCatalogue.Http

/-- What follows a number from 0 to 255 at the start of a text. -/
def afterOctet? (cs : List Char) : Option (List Char) :=
  let digits := cs.takeWhile Char.isDigit
  if digits.isEmpty || 3 < digits.length || (digits.head? == some '0' && 1 < digits.length)
      || 255 < Text.decimalValue digits then none
  else some (cs.dropWhile Char.isDigit)

/-- What follows a character at the start of a text. -/
def after? (c : Char) : List Char → Option (List Char)
  | [] => none
  | d :: rest => if d = c then some rest else none

/-- What follows an address of version 4 at the start of a text. -/
def afterIpv4? (cs : List Char) : Option (List Char) := do
  let cs ← after? '.' (← afterOctet? cs)
  let cs ← after? '.' (← afterOctet? cs)
  let cs ← after? '.' (← afterOctet? cs)
  afterOctet? cs

/-- What follows a group of up to four hexadecimal digits at the start of a text. -/
def afterGroup? (cs : List Char) : Option (List Char) :=
  let isDigit (c : Char) : Bool := (Text.hexValue? c).isSome
  let digits := cs.takeWhile isDigit
  if digits.isEmpty || 4 < digits.length then none else some (cs.dropWhile isDigit)

structure Groups where
  count : Nat
  /-- The last two groups are an address of version 4. -/
  endsInIpv4 : Bool
  rest : List Char

/-- Reads up to `limit` groups with colons between them; a colon also precedes the first one unless
`atStart`. -/
def readGroups (atStart : Bool) : Nat → List Char → Groups
  | 0, cs => ⟨0, false, cs⟩
  | limit + 1, cs =>
    match if atStart then some cs else after? ':' cs with
    | none => ⟨0, false, cs⟩
    | some body =>
      match if limit = 0 then none else afterIpv4? body with
      | some rest => ⟨2, true, rest⟩
      | none =>
        match afterGroup? body with
        | some rest =>
          let groups := readGroups false limit rest
          { groups with count := groups.count + 1 }
        | none => ⟨0, false, cs⟩

def isIpv4 (cs : List Char) : Bool := afterIpv4? cs == some []

def isIpv6 (cs : List Char) : Bool :=
  let head := readGroups true 8 cs
  if head.count = 8 then head.rest.isEmpty
  else
    match head.endsInIpv4, head.rest with
    | false, ':' :: ':' :: rest => (readGroups true (7 - head.count) rest).rest.isEmpty
    | _, _ => false

def isIpAddress (text : String) : Bool := isIpv4 text.toList || isIpv6 text.toList

end BookCatalogue.Http

import BookCatalogue.Text.Digits
import BookCatalogue.Text.Utf8

/-! # Form fields in queries

A query is a list of fields joined by `&`, each a name and a value joined by `=`. A plus sign stands
for a blank and `%` with two hexadecimal digits for a byte; what is no UTF-8 is replaced. -/

namespace BookCatalogue.Http

/-- The byte that a percent sign and two characters stand for. -/
def percentByte? (high low : Nat) : Option Nat := do
  let digit? (b : Nat) := if b < 128 then Text.hexValue? (Char.ofNat b) else none
  return (← digit? high) * 16 + (← digit? low)

/-- Decodes a name or a value: the bytes it stands for, where `skip` bytes belong to an escape. -/
def decodeBytes (skip : Nat) : List Nat → List Nat
  | [] => []
  | b :: rest =>
    match skip with
    | n + 1 => decodeBytes n rest
    | 0 =>
      if b = '+'.toNat then ' '.toNat :: decodeBytes 0 rest
      else if b = '%'.toNat then
        match rest with
        | high :: low :: _ =>
          match percentByte? high low with
          | some byte => byte :: decodeBytes 2 rest
          | none => b :: decodeBytes 0 rest
        | _ => b :: decodeBytes 0 rest
      else b :: decodeBytes 0 rest

def decodeText (bytes : List Nat) : String := String.ofList (Text.utf8Lossy (decodeBytes 0 bytes))

/-- The pieces between the occurrences of a byte. -/
def splitBytes (separator : Nat) : List Nat → List (List Nat)
  | [] => [[]]
  | b :: rest =>
    if b = separator then [] :: splitBytes separator rest
    else
      match splitBytes separator rest with
      | [] => [[b]]
      | piece :: pieces => (b :: piece) :: pieces

/-- The fields of a query in order. -/
def formFields (query : String) : List (String × String) :=
  ((splitBytes '&'.toNat (Text.utf8Encode query.toList)).filter (!·.isEmpty)).map fun piece =>
    let name := piece.takeWhile (· ≠ '='.toNat)
    (decodeText name, decodeText ((piece.dropWhile (· ≠ '='.toNat)).drop 1))

end BookCatalogue.Http

import BookCatalogue.Decimal.Shortest
import BookCatalogue.Text.Digits

/-! # Numbers in JSON

A numeral is what a text writes; its value is an integer of 64 bits or a floating-point number, or
none at all where the number is too large. Digits that do not fit into a significand of 64 bits only
count by their number. -/

namespace BookCatalogue.Json

open Decimal Text

/-- A number as a text writes it: sign, digits before and after the point, and exponent. -/
structure Numeral where
  isNegative : Bool
  integer : List Char
  fraction : List Char
  /-- The sign of the exponent, true for a minus, and its digits. -/
  exponent : Option (Bool × List Char)
deriving DecidableEq, Repr

/-- A number that a numeral can denote. -/
inductive Number where
  | natural (n : Nat)
  /-- The integer `-n`. -/
  | negative (n : Nat)
  | real (isNegative : Bool) (magnitude : Binary64)
deriving DecidableEq, Repr

/-- Appends digits to a number as long as it has at most 64 bits; also the digits left over. -/
def takeDigits (n : Nat) : List Char → Nat × List Char
  | [] => (n, [])
  | d :: rest =>
    if n * 10 + digitValue d < Nat.pow 2 64 then takeDigits (n * 10 + digitValue d) rest
    else (n, d :: rest)

/-- The magnitude nearest to `significand * 10 ^ exponent`, rounded at each step of the scaling;
none if it is too large. -/
def scaled? (significand : Nat) (exponent : Int) : Option Binary64 := do
  let start ← Binary64.ofRatio? significand 1
  if significand = 0 then return .zero
  if 308 < exponent then none
  else if 0 ≤ exponent then start.mul? (← Binary64.powerOfTen? exponent.toNat)
  else if -308 ≤ exponent then start.div? (← Binary64.powerOfTen? (-exponent).toNat)
  else if -616 ≤ exponent then
    let most ← start.div? (← Binary64.powerOfTen? 308)
    most.div? (← Binary64.powerOfTen? (-exponent - 308).toNat)
  else return .zero

/-- The magnitude of a numeral with the given significand and exponent so far and a written
exponent. -/
def Numeral.magnitude? (significand : Nat) (start : Int) :
    Option (Bool × List Char) → Option Binary64
  | none => scaled? significand start
  | some (isNegative, digits) =>
    let e := decimalValue digits
    if Nat.pow 2 31 ≤ e then
      if significand = 0 ∨ isNegative then some .zero else none
    else scaled? significand (if isNegative then start - e else start + e)

/-- The number that a numeral denotes; none if it is too large. -/
def Numeral.value? (x : Numeral) : Option Number :=
  let (whole, unread) := takeDigits 0 x.integer
  if unread.isEmpty && x.fraction.isEmpty && x.exponent.isNone then
    if !x.isNegative then some (.natural whole)
    else if 0 < whole ∧ whole ≤ Nat.pow 2 63 then some (.negative whole)
    else (scaled? whole 0).map (.real true)
  else
    let (significand, beyond) := takeDigits whole x.fraction
    let start := (unread.length : Int) - (x.fraction.length - beyond.length : Nat)
    (Numeral.magnitude? significand start x.exponent).map (.real x.isNegative)

/-- The text of shortest digits: with a point for magnitudes from `10 ^ -5` to below `10 ^ 16`, with
an exponent for others. -/
def digitsText (d : Digits) : String :=
  let count : Int := d.digits.length
  let text (cs : List Char) := String.ofList cs
  if 0 < d.point ∧ d.point ≤ 16 then
    if count ≤ d.point then
      text (d.digits ++ List.replicate (d.point - count).toNat '0') ++ ".0"
    else text (d.digits.take d.point.toNat) ++ "." ++ text (d.digits.drop d.point.toNat)
  else if -5 < d.point ∧ d.point ≤ 0 then
    "0." ++ text (List.replicate (-d.point).toNat '0' ++ d.digits)
  else
    let exponent := "e" ++ toString (d.point - 1)
    match d.digits with
    | [digit] => text [digit] ++ exponent
    | digit :: rest => text [digit] ++ "." ++ text rest ++ exponent
    | [] => exponent

def realText (isNegative : Bool) (x : Binary64) : String :=
  (if isNegative then "-" else "") ++ if x.mantissa = 0 then "0.0" else digitsText (shortest x)

end BookCatalogue.Json

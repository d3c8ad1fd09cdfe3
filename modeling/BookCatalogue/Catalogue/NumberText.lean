import BookCatalogue.Decimal.Binary64
import BookCatalogue.Text.Digits

/-! # Texts that look like numbers

A text compared with a number counts as the number that it writes: an optional sign, digits with at
most one point, an optional exponent, and blanks around it. Any other text is equal to no number. -/

namespace BookCatalogue.Catalogue

/-- A blank that may surround a number. -/
def isNumberBlank (c : Char) : Bool := c = ' ' || (9 ≤ c.toNat && c.toNat ≤ 13)

/-- The parts of a written number. -/
structure WrittenNumber where
  isNegative : Bool
  integer : List Char
  fraction : List Char
  exponent : Int
  /-- Neither point nor exponent is written. -/
  isPlain : Bool
deriving DecidableEq, Repr

/-- A sign and what follows it. -/
def readSign : List Char → Bool × List Char
  | '-' :: rest => (true, rest)
  | '+' :: rest => (false, rest)
  | cs => (false, cs)

/-- An exponent that makes up the rest of a text; nothing if the rest is anything else. -/
def readExponent? : List Char → Option Int
  | c :: rest =>
    let (isNegative, digits) := readSign rest
    if (c = 'e' ∨ c = 'E') ∧ digits ≠ [] ∧ digits.all Char.isDigit then
      let n : Int := min (Text.decimalValue digits) 10000
      some (if isNegative then -n else n)
    else none
  | [] => none

def readNumber? (s : String) : Option WrittenNumber :=
  let trimmed := ((s.toList.dropWhile isNumberBlank).reverse.dropWhile isNumberBlank).reverse
  let (isNegative, cs) := readSign trimmed
  let integer := cs.takeWhile Char.isDigit
  let (hasPoint, rest) :=
    match cs.dropWhile Char.isDigit with
    | '.' :: rest => (true, rest)
    | rest => (false, rest)
  let fraction := if hasPoint then rest.takeWhile Char.isDigit else []
  let rest := if hasPoint then rest.dropWhile Char.isDigit else rest
  if integer.isEmpty && fraction.isEmpty then none
  else if rest.isEmpty then some ⟨isNegative, integer, fraction, 0, !hasPoint⟩
  else (readExponent? rest).map fun e => ⟨isNegative, integer, fraction, e, false⟩

def equalsNatural (x : Decimal.Binary64) (n : Nat) : Bool :=
  let (num, den) := x.toRatio
  num = n * den

/-- The written number equals the integer. Plain integers of 64 bits are exact, all others are
rounded to a floating-point number first. -/
def WrittenNumber.equals (x : WrittenNumber) (n : Int) : Bool :=
  let digits : Int := Text.decimalValue x.integer
  let whole := if x.isNegative then -digits else digits
  if x.isPlain ∧ -(Nat.pow 2 63 : Int) ≤ whole ∧ whole < Nat.pow 2 63 then whole = n
  else
    let digits := x.integer ++ x.fraction
    let exponent := x.exponent - x.fraction.length
    let significand := Text.decimalValue digits
    let magnitude : Option Decimal.Binary64 :=
      if significand = 0 then some .zero
      else if exponent + digits.length < -400 then some .zero
      else if 400 < exponent then none
      else if 0 ≤ exponent then Decimal.Binary64.ofRatio? (significand * Nat.pow 10 exponent.toNat) 1
      else Decimal.Binary64.ofRatio? significand (Nat.pow 10 (-exponent).toNat)
    match magnitude with
    | some m =>
      equalsNatural m n.natAbs && (n = 0 || x.isNegative == decide (n < 0))
    | none => false

def textEqualsInteger (s : String) (n : Int) : Bool :=
  match readNumber? s with
  | some x => x.equals n
  | none => false

end BookCatalogue.Catalogue

import BookCatalogue.Decimal.Binary64

/-! # Shortest decimal digits

The fewest decimal digits that read back as a given magnitude, and of those the nearest to it. The
reals that round to a magnitude form an interval, whose ends belong to it when the mantissa is even;
the search takes the decimal grids from the coarsest one and tests the two neighbours on each. -/

namespace BookCatalogue.Decimal

/-- A positive quotient between two others, all over one denominator, and whether the outer two
count as well. -/
structure Interval where
  low : Nat
  value : Nat
  high : Nat
  den : Nat
  closed : Bool
deriving DecidableEq, Repr

/-- The numbers that round to a positive magnitude, with the magnitude itself. -/
def Interval.around (x : Binary64) : Interval :=
  let below := if x.mantissa = Nat.pow 2 52 ∧ -1074 < x.exponent then 1 else 2
  let up := Nat.pow 2 x.exponent.toNat
  let down := Nat.pow 2 (-x.exponent).toNat * 4
  ⟨(4 * x.mantissa - below) * up, 4 * x.mantissa * up, (4 * x.mantissa + 2) * up, down,
    x.mantissa % 2 = 0⟩

/-- The number `n * 10 ^ p` lies in the interval. -/
def Interval.holds (i : Interval) (n : Nat) (p : Int) : Bool :=
  let point := n * Nat.pow 10 p.toNat * i.den
  let unit := Nat.pow 10 (-p).toNat
  if i.closed then i.low * unit ≤ point && point ≤ i.high * unit
  else i.low * unit < point && point < i.high * unit

/-- The decimal exponent of the first digit of a positive quotient. -/
def leadingExponent (num den : Nat) : Int :=
  if den ≤ num then (toString (num / den)).length - 1
  else
    match (List.range 400).find? fun j => den ≤ num * Nat.pow 10 j with
    | some j => -(j : Int)
    | none => -400

/-- The nearer neighbour of the value that lies in the interval, on the grid of multiples of
`10 ^ p`. -/
def Interval.neighbour? (i : Interval) (p : Int) : Option Nat :=
  let num := i.value * Nat.pow 10 (-p).toNat
  let den := i.den * Nat.pow 10 p.toNat
  let floor := num / den
  let nearer := roundQuotient num den
  let other := if nearer = floor then floor + 1 else floor
  if i.holds nearer p then some nearer else if i.holds other p then some other else none

/-- The significant digits of a number and the exponent of the power of ten that `0.digits` is
multiplied with. -/
structure Digits where
  digits : List Char
  point : Int
deriving DecidableEq, Repr

/-- The digits of `n * 10 ^ p` without zeros at the end. -/
def Digits.ofScaled (n : Nat) (p : Int) : Digits :=
  let all := (toString n).toList
  ⟨(all.reverse.dropWhile (· == '0')).reverse, all.length + p⟩

/-- The shortest digits of a positive magnitude. -/
def shortest (x : Binary64) : Digits :=
  let i := Interval.around x
  let first := leadingExponent i.value i.den
  let found := (List.range 17).findSome? fun (count : Nat) =>
    let p := first - count
    (i.neighbour? p).map fun n => Digits.ofScaled n p
  found.getD ⟨[], 0⟩

end BookCatalogue.Decimal

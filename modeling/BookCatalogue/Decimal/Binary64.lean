/-! # Binary floating-point numbers of 64 bits

Magnitudes of finite numbers, a mantissa of at most 53 bits times a power of two, and the arithmetic
that rounds an exact quotient to the nearest of them, a tie to the even mantissa. -/

namespace BookCatalogue.Decimal

/-- The finite magnitude `mantissa * 2 ^ exponent`. -/
structure Binary64 where
  mantissa : Nat
  exponent : Int
deriving DecidableEq, Repr

/-- The integer nearest to a quotient, the even one of two. -/
def roundQuotient (num den : Nat) : Nat :=
  let q := num / den
  let r := num % den
  if den < 2 * r ∨ (2 * r = den ∧ q % 2 = 1) then q + 1 else q

/-- The quotient of two numbers divided by a power of two, as a quotient. -/
def scaleBy (num den : Nat) (exponent : Int) : Nat × Nat :=
  if 0 ≤ exponent then (num, den * Nat.pow 2 exponent.toNat)
  else (num * Nat.pow 2 (-exponent).toNat, den)

namespace Binary64

def zero : Binary64 := ⟨0, -1074⟩

/-- The magnitude nearest to `num / den`; none if it is too large. -/
def ofRatio? (num den : Nat) : Option Binary64 :=
  if num = 0 then some zero
  else
    let rough : Int := (num.log2 : Int) - den.log2 - 52
    let (n, d) := scaleBy num den rough
    let e := max (-1074) (if n < Nat.pow 2 52 * d then rough - 1 else rough)
    let (n, d) := scaleBy num den e
    let m := roundQuotient n d
    let rounded : Binary64 := if m = Nat.pow 2 53 then ⟨Nat.pow 2 52, e + 1⟩ else ⟨m, e⟩
    if 971 < rounded.exponent then none else some rounded

/-- The exact value as a quotient. -/
def toRatio (x : Binary64) : Nat × Nat :=
  if 0 ≤ x.exponent then (x.mantissa * Nat.pow 2 x.exponent.toNat, 1)
  else (x.mantissa, Nat.pow 2 (-x.exponent).toNat)

/-- The rounded product. -/
def mul? (x y : Binary64) : Option Binary64 :=
  let (a, b) := x.toRatio
  let (c, d) := y.toRatio
  ofRatio? (a * c) (b * d)

/-- The rounded quotient; the divisor is not zero. -/
def div? (x y : Binary64) : Option Binary64 :=
  let (a, b) := x.toRatio
  let (c, d) := y.toRatio
  ofRatio? (a * d) (b * c)

/-- The nearest magnitude to a power of ten. -/
def powerOfTen? (n : Nat) : Option Binary64 := ofRatio? (Nat.pow 10 n) 1

end Binary64

end BookCatalogue.Decimal

/-! # Digits

Decimal and hexadecimal digits. Hexadecimal ones are written in lower case and read in both cases. -/

namespace BookCatalogue.Text

/-! ## Decimal digits -/

def digitValue (c : Char) : Nat := c.toNat - 48

def decimalValue (digits : List Char) : Nat :=
  digits.foldl (fun n d => n * 10 + digitValue d) 0

/-- One or more decimal digits and nothing else. -/
def areDigits (cs : List Char) : Bool := !cs.isEmpty && cs.all Char.isDigit

theorem decimalValue_concat (digits : List Char) (d : Char) :
    decimalValue (digits ++ [d]) = decimalValue digits * 10 + digitValue d := by
  simp [decimalValue]

/-! ## Hexadecimal digits -/

/-- The lower-case hexadecimal digit of a number below sixteen. -/
def hexDigit (n : Nat) : Char :=
  if n < 10 then Char.ofNat (48 + n) else Char.ofNat (87 + n)

/-- The value of a hexadecimal digit of either case. -/
def hexValue? (c : Char) : Option Nat :=
  if '0' ≤ c ∧ c ≤ '9' then some (c.toNat - 48)
  else if 'a' ≤ c ∧ c ≤ 'f' then some (c.toNat - 87)
  else if 'A' ≤ c ∧ c ≤ 'F' then some (c.toNat - 55)
  else none

/-- The hexadecimal digits of a number, without leading zeros. -/
def hexDigits (n : Nat) : List Char :=
  if n < 16 then [hexDigit n] else hexDigits (n / 16) ++ [hexDigit (n % 16)]
termination_by n
decreasing_by omega

/-- The last `width` hexadecimal digits of a number, with leading zeros. -/
def hexPadded (width : Nat) (n : Nat) : List Char :=
  (List.range width).reverse.map fun i => hexDigit (n / Nat.pow 16 i % 16)

end BookCatalogue.Text

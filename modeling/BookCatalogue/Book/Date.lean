import BookCatalogue.Text.Digits
import BookCatalogue.Text.Quoted
import BookCatalogue.Text.Space

/-! # Dates of publication

Days of the proleptic Gregorian calendar in the years from -262143 to 262142. A date has one written
form, year, month and day joined by dashes: four digits for the years 0 to 9999, a sign and at least
four digits for other years, two digits for month and day. A text is first read loosely, with blanks before
the parts and digits missing or to spare, and is a date if it is also the written form of what was
read. -/

namespace BookCatalogue

def isLeapYear (year : Int) : Bool := year % 4 = 0 && (year % 100 ≠ 0 || year % 400 = 0)

def daysInMonth (year : Int) (month : Nat) : Nat :=
  if month = 2 then (if isLeapYear year then 29 else 28)
  else if month = 4 ∨ month = 6 ∨ month = 9 ∨ month = 11 then 30
  else 31

/-- Year, month and day of a day in the calendar. -/
def isCalendarDay (year : Int) (month day : Nat) : Prop :=
  (-262143 ≤ year ∧ year ≤ 262142) ∧ (1 ≤ month ∧ month ≤ 12) ∧
    (1 ≤ day ∧ day ≤ daysInMonth year month)

instance (year : Int) (month day : Nat) : Decidable (isCalendarDay year month day) := by
  unfold isCalendarDay; infer_instance

/-- A day in the calendar. -/
structure Date where
  year : Int
  month : Nat
  day : Nat
  isCalendarDay : isCalendarDay year month day
deriving DecidableEq, Repr

namespace Date

open Text (decimalValue)

/-- The decimal digits of a number, at least `width` of them. -/
def padded (width n : Nat) : List Char :=
  let digits := (toString n).toList
  List.replicate (width - digits.length) '0' ++ digits

def yearChars (year : Int) : List Char :=
  if year < 0 then '-' :: padded 4 year.natAbs
  else if year ≤ 9999 then padded 4 year.toNat
  else '+' :: padded 4 year.toNat

def toChars (d : Date) : List Char :=
  yearChars d.year ++ '-' :: padded 2 d.month ++ '-' :: padded 2 d.day

def render (d : Date) : String := String.ofList d.toChars

/-- The number that the digits at the beginning denote, no more than `most` of them, and what follows;
none if no digit comes first. -/
def readNumber? (most : Nat) (cs : List Char) : Option (Nat × List Char) :=
  let digits := (cs.take most).takeWhile Char.isDigit
  if digits.isEmpty then none else some (decimalValue digits, cs.drop digits.length)

/-- A year after blanks, and what follows: any number of digits after a sign, and four at most without
one. -/
def readYear? (cs : List Char) : Option (Int × List Char) :=
  match Text.trimStart cs with
  | '-' :: rest => (readNumber? rest.length rest).map fun (n, rest) => (-(n : Int), rest)
  | '+' :: rest => (readNumber? rest.length rest).map fun (n, rest) => ((n : Int), rest)
  | unsigned => (readNumber? 4 unsigned).map fun (n, rest) => ((n : Int), rest)

/-- A month or a day after a dash and blanks, of two digits at most, and what follows. -/
def readPart? : List Char → Option (Nat × List Char)
  | '-' :: rest => readNumber? 2 (Text.trimStart rest)
  | _ => none

/-- The date whose parts a text names in order, in whatever width. -/
def readLoosely? (cs : List Char) : Option Date := do
  let (year, cs) ← readYear? cs
  let (month, cs) ← readPart? cs
  let (day, cs) ← readPart? cs
  if h : cs = [] ∧ BookCatalogue.isCalendarDay year month day then some ⟨year, month, day, h.2⟩ else none

/-- The date with this written form. -/
def ofChars? (cs : List Char) : Option Date := (readLoosely? cs).filter fun d => d.toChars = cs

/-- The date with this written form. -/
def parse? (s : String) : Option Date := ofChars? s.toList

/-- What is wrong with a text that is no date. -/
def refusal (s : String) : String :=
  "invalid date " ++ Text.quote s ++ ", expected YYYY-MM-DD"

/-- The date with this written form, or what is wrong with the text. -/
def parse (s : String) : Except String Date :=
  match parse? s with
  | some d => .ok d
  | none => .error (refusal s)

def ordering (a b : Date) : Ordering :=
  (compare a.year b.year).then ((compare a.month b.month).then (compare a.day b.day))

instance : Ord Date := ⟨ordering⟩

/-- The dates in calendar order, each once. -/
def sorted (dates : List Date) : List Date :=
  (dates.mergeSort fun a b => (ordering a b).isLE).eraseReps

end Date

end BookCatalogue

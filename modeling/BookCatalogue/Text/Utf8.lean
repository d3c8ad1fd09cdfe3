/-! # UTF-8

Texts as bytes and bytes as texts. Reading never fails as a whole: a byte sequence becomes a list
with a character for each well-formed sequence and `none` for each maximal stretch that is none. -/

namespace BookCatalogue.Text

def utf8Char (c : Char) : List Nat :=
  let n := c.toNat
  if n < 0x80 then [n]
  else if n < 0x800 then [0xC0 + n / 64, 0x80 + n % 64]
  else if n < 0x10000 then [0xE0 + n / 4096, 0x80 + n / 64 % 64, 0x80 + n % 64]
  else [0xF0 + n / 262144, 0x80 + n / 4096 % 64, 0x80 + n / 64 % 64, 0x80 + n % 64]

def utf8Encode (cs : List Char) : List Nat := cs.flatMap utf8Char

/-- An unfinished character: how many bytes are owed, between which bounds the next one lies, and
the bits read so far. -/
structure Unfinished where
  owed : Nat
  low : Nat
  high : Nat
  bits : Nat
deriving DecidableEq, Repr

/-- What the first byte of a character begins, with the byte's own bits; nothing for a byte that
begins no character of several bytes. -/
def Unfinished.begin? (b : Nat) : Option Unfinished :=
  if 0xC2 ≤ b ∧ b ≤ 0xDF then some ⟨1, 0x80, 0xBF, b - 0xC0⟩
  else if b = 0xE0 then some ⟨2, 0xA0, 0xBF, 0⟩
  else if b = 0xED then some ⟨2, 0x80, 0x9F, 0xD⟩
  else if 0xE1 ≤ b ∧ b ≤ 0xEF then some ⟨2, 0x80, 0xBF, b - 0xE0⟩
  else if b = 0xF0 then some ⟨3, 0x90, 0xBF, 0⟩
  else if 0xF1 ≤ b ∧ b ≤ 0xF3 then some ⟨3, 0x80, 0xBF, b - 0xF0⟩
  else if b = 0xF4 then some ⟨3, 0x80, 0x8F, 4⟩
  else none

/-- Reads on after some bytes of a character, or between characters. -/
def utf8DecodeFrom : Option Unfinished → List Nat → List (Option Char)
  | none, [] => []
  | some _, [] => [none]
  | some u, b :: rest =>
    if u.low ≤ b ∧ b ≤ u.high then
      let bits := u.bits * 64 + (b - 0x80)
      if u.owed ≤ 1 then some (Char.ofNat bits) :: utf8DecodeFrom none rest
      else utf8DecodeFrom (some ⟨u.owed - 1, 0x80, 0xBF, bits⟩) rest
    else none :: begin b rest
  | none, b :: rest => begin b rest
where
  /-- Reads a byte that stands between characters. -/
  begin (b : Nat) (rest : List Nat) : List (Option Char) :=
    if b < 0x80 then some (Char.ofNat b) :: utf8DecodeFrom none rest
    else
      match Unfinished.begin? b with
      | some u => utf8DecodeFrom (some u) rest
      | none => none :: utf8DecodeFrom none rest

/-- The characters of a byte sequence, with `none` for each stretch that is not UTF-8. -/
def utf8Decode (bytes : List Nat) : List (Option Char) := utf8DecodeFrom none bytes

/-- The text of a byte sequence, with U+FFFD for each stretch that is not UTF-8. -/
def utf8Lossy (bytes : List Nat) : List Char :=
  (utf8Decode bytes).map fun c => c.getD '\uFFFD'

end BookCatalogue.Text

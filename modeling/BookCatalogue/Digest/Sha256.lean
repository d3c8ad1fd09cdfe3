import BookCatalogue.Text.Digits
import BookCatalogue.Text.Utf8

/-! # SHA-256

The digest of a byte sequence: padding to whole blocks of 64 bytes, the schedule of 64 words of a
block, and the 64 rounds that mix a block into the eight words of the state. -/

namespace BookCatalogue.Digest

/-- The round constants: the first 32 bits of the fractional parts of the cube roots of the first
64 primes. -/
def roundConstants : List UInt32 :=
  [0x428a2f98, 0x71374491, 0xb5c0fbcf, 0xe9b5dba5, 0x3956c25b, 0x59f111f1, 0x923f82a4, 0xab1c5ed5,
   0xd807aa98, 0x12835b01, 0x243185be, 0x550c7dc3, 0x72be5d74, 0x80deb1fe, 0x9bdc06a7, 0xc19bf174,
   0xe49b69c1, 0xefbe4786, 0x0fc19dc6, 0x240ca1cc, 0x2de92c6f, 0x4a7484aa, 0x5cb0a9dc, 0x76f988da,
   0x983e5152, 0xa831c66d, 0xb00327c8, 0xbf597fc7, 0xc6e00bf3, 0xd5a79147, 0x06ca6351, 0x14292967,
   0x27b70a85, 0x2e1b2138, 0x4d2c6dfc, 0x53380d13, 0x650a7354, 0x766a0abb, 0x81c2c92e, 0x92722c85,
   0xa2bfe8a1, 0xa81a664b, 0xc24b8b70, 0xc76c51a3, 0xd192e819, 0xd6990624, 0xf40e3585, 0x106aa070,
   0x19a4c116, 0x1e376c08, 0x2748774c, 0x34b0bcb5, 0x391c0cb3, 0x4ed8aa4a, 0x5b9cca4f, 0x682e6ff3,
   0x748f82ee, 0x78a5636f, 0x84c87814, 0x8cc70208, 0x90befffa, 0xa4506ceb, 0xbef9a3f7, 0xc67178f2]

structure State where
  a : UInt32
  b : UInt32
  c : UInt32
  d : UInt32
  e : UInt32
  f : UInt32
  g : UInt32
  h : UInt32
deriving DecidableEq, Repr

/-- The state before the first block: the first 32 bits of the fractional parts of the square roots
of the first eight primes. -/
def State.first : State :=
  ⟨0x6a09e667, 0xbb67ae85, 0x3c6ef372, 0xa54ff53a, 0x510e527f, 0x9b05688c, 0x1f83d9ab, 0x5be0cd19⟩

def rotate (x : UInt32) (n : UInt32) : UInt32 := (x >>> n) ||| (x <<< (32 - n))

/-- One round with its word and constant already added. -/
def State.round (s : State) (word : UInt32) : State :=
  let mixed := rotate s.e 6 ^^^ rotate s.e 11 ^^^ rotate s.e 25
  let choice := (s.e &&& s.f) ^^^ (~~~s.e &&& s.g)
  let first := s.h + mixed + choice + word
  let turned := rotate s.a 2 ^^^ rotate s.a 13 ^^^ rotate s.a 22
  let majority := (s.a &&& s.b) ^^^ (s.a &&& s.c) ^^^ (s.b &&& s.c)
  ⟨first + (turned + majority), s.a, s.b, s.c, s.d + first, s.e, s.f, s.g⟩

def State.add (s t : State) : State :=
  ⟨s.a + t.a, s.b + t.b, s.c + t.c, s.d + t.d, s.e + t.e, s.f + t.f, s.g + t.g, s.h + t.h⟩

/-- The words of a byte sequence, most significant byte first. -/
def wordsOf : List Nat → List UInt32
  | a :: b :: c :: d :: rest =>
    UInt32.ofNat (((a * 256 + b) * 256 + c) * 256 + d) :: wordsOf rest
  | _ => []

/-- The next word of a schedule whose last sixteen words are `recent`, oldest first. -/
def nextWord (recent : List UInt32) : UInt32 :=
  match recent with
  | [w0, w1, _, _, _, _, _, _, _, w9, _, _, _, _, w14, _] =>
    let low := rotate w1 7 ^^^ rotate w1 18 ^^^ (w1 >>> 3)
    let high := rotate w14 17 ^^^ rotate w14 19 ^^^ (w14 >>> 10)
    w0 + low + w9 + high
  | _ => 0

/-- Runs the rounds of one block: the words of the schedule are used from the front of `recent`
while their successors are appended. -/
def rounds (recent : List UInt32) (s : State) : List UInt32 → State
  | [] => s
  | k :: ks => rounds (recent.tail ++ [nextWord recent]) (s.round (recent.headD 0 + k)) ks

/-- Mixes one block of sixteen words into the state. -/
def compress (s : State) (block : List UInt32) : State := s.add (rounds block s roundConstants)

/-- The message with the marker byte, zeros, and its length in bits as eight bytes. -/
def padded (message : List Nat) : List Nat :=
  let size := message.length
  message ++ 0x80 :: List.replicate ((119 - size % 64) % 64) 0 ++
    (List.range 8).reverse.map fun i => size * 8 / Nat.pow 256 i % 256

/-- Mixes all blocks of a word sequence; `count` bounds their number. -/
def absorb : Nat → State → List UInt32 → State
  | 0, s, _ => s
  | count + 1, s, ws => absorb count (compress s (ws.take 16)) (ws.drop 16)

def sha256State (message : List Nat) : State :=
  let ws := wordsOf (padded message)
  absorb (ws.length / 16) State.first ws

/-- The digest of a text's UTF-8 bytes in lower-case hexadecimal digits. -/
def sha256 (text : String) : String :=
  let s := sha256State (Text.utf8Encode text.toList)
  String.ofList ([s.a, s.b, s.c, s.d, s.e, s.f, s.g, s.h].flatMap fun w => Text.hexPadded 8 w.toNat)

end BookCatalogue.Digest

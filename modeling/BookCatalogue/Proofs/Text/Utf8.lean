import Mathlib
import BookCatalogue.Text.Utf8

/-! # Texts survive UTF-8

The first byte of a written character says how many bytes it has, and between which bounds the second
lies; the bits of all of them make up the character. The bytes of a text are therefore read as the
characters of the text. -/

namespace BookCatalogue.Text

/-! ## One byte -/

section Bytes

variable {u : Unfinished} {b : Nat} (rest : List Nat)

end Bytes

/-! ## One character -/

end BookCatalogue.Text

/-! # White space in texts

The characters of the Unicode property `White_Space`, and what is done with them here: trimming a
text at both ends and cutting it into words. -/

namespace BookCatalogue.Text

/-- A character of the Unicode property `White_Space`. -/
def isSpace (c : Char) : Bool :=
  let n := c.toNat
  (9 ≤ n && n ≤ 13) || n == 0x20 || n == 0x85 || n == 0xA0 || n == 0x1680 ||
    (0x2000 ≤ n && n ≤ 0x200A) || n == 0x2028 || n == 0x2029 || n == 0x202F || n == 0x205F ||
    n == 0x3000

def trimStart (cs : List Char) : List Char := cs.dropWhile isSpace

def trimEnd (cs : List Char) : List Char := (cs.reverse.dropWhile isSpace).reverse

def trim (cs : List Char) : List Char := trimEnd (trimStart cs)

/-- Nothing but white space, or nothing at all. -/
def isBlank (cs : List Char) : Bool := cs.all isSpace

/-- The words of a text in order: `word` holds the letters of the unfinished word, last first. -/
def wordsFrom (word : List Char) : List Char → List (List Char)
  | [] => if word.isEmpty then [] else [word.reverse]
  | c :: rest =>
    if isSpace c then
      if word.isEmpty then wordsFrom [] rest else word.reverse :: wordsFrom [] rest
    else wordsFrom (c :: word) rest

/-- The maximal runs of characters other than white space. -/
def words (cs : List Char) : List (List Char) := wordsFrom [] cs

end BookCatalogue.Text

/-
White space, and trimming it off the ends of a text.

White space means the Unicode property of that name, which is wider than the ASCII
blanks: it holds the no-break space, the ideographic space and the line and paragraph
separators, but neither the zero-width space nor the byte order mark.
-/

namespace SlideDeck.Text

/-- A character with the Unicode property White_Space. -/
def isBlank (c : Char) : Bool :=
  let n := c.toNat
  (9 ≤ n && n ≤ 13) || n == 32 || n == 0x85 || n == 0xA0 || n == 0x1680 ||
    (0x2000 ≤ n && n ≤ 0x200A) || n == 0x2028 || n == 0x2029 || n == 0x202F ||
    n == 0x205F || n == 0x3000

/-- The text without the characters of a class at its end. -/
def dropEndWhile (p : Char → Bool) (s : List Char) : List Char :=
  (s.reverse.dropWhile p).reverse

/-- The text without the white space at its start. -/
def trimStart (s : List Char) : List Char := s.dropWhile isBlank

/-- The text without the white space at its end. -/
def trimEnd (s : List Char) : List Char := dropEndWhile isBlank s

/-- The text without the white space at either end. -/
def trim (s : List Char) : List Char := trimEnd (trimStart s)

/-- The text without the white space at either end. -/
def trimString (s : String) : String := String.ofList (trim s.toList)

/-- Lower-case form of the ASCII letters; every other character is kept. -/
def asciiLower (s : List Char) : List Char := s.map Char.toLower

end SlideDeck.Text

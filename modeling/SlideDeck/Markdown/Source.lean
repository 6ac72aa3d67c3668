/-
A document as an array of characters, and the small questions asked about a place in it.

Positions count characters from the start of the document.  Every function here is
total: a place past the end holds no character, and a run that starts there is empty.
Lines end in a line feed, a carriage return, or the two together.
-/
import SlideDeck.Text.Blank

namespace SlideDeck.Markdown

/-- The characters of a document. -/
abbrev Source := Array Char

/-- A blank that does not end a line. -/
def isSpace (c : Char) : Bool := c == ' ' || c == '\t' || c == '\x0b' || c == '\x0c'

/-- A character that ends a line. -/
def isLineEnd (c : Char) : Bool := c == '\n' || c == '\r'

/-- An ASCII blank, line ends included. -/
def isAsciiBlank (c : Char) : Bool := isSpace c || isLineEnd c

namespace Source

/-- Whether the character at a place is `c`. -/
def is (s : Source) (i : Nat) (c : Char) : Bool := s[i]? == some c

/-- Whether there is a character of a class at a place. -/
def has (s : Source) (i : Nat) (p : Char → Bool) : Bool := s[i]?.any p

/-- How many characters of a class stand in a row from `i` on. -/
def run (s : Source) (p : Char → Bool) (i : Nat) : Nat :=
  if h : i < s.size then
    if p s[i] then s.run p (i + 1) + 1 else 0
  else 0
termination_by s.size - i

/-- How many characters of a class stand in a row just before `i`, none before `low`. -/
def runBack (s : Source) (p : Char → Bool) (low : Nat) : Nat → Nat
  | 0 => 0
  | i + 1 => if low ≤ i && s.has i p then s.runBack p low i + 1 else 0

/-- The first place from `i` on with a character of a class, or the end. -/
def seek (s : Source) (p : Char → Bool) (i : Nat) : Nat := i + s.run (fun c => !p c) i

/-- The characters from `i` up to, but not including, `j`. -/
def slice (s : Source) (i j : Nat) : List Char := (s.extract i j).toList

/-- Whether the text at a place begins with `w`. -/
def matchesAt (s : Source) (i : Nat) (w : List Char) : Bool := s.slice i (i + w.length) == w

/-- The length of the line end at a place; the end of the document is one of length zero. -/
def lineEnd? (s : Source) (i : Nat) : Option Nat :=
  match s[i]? with
  | none => some 0
  | some '\n' => some 1
  | some '\r' => some (if s.is (i + 1) '\n' then 2 else 1)
  | some _ => none

/-- The length of the rest of the line, with its end, when only blanks are left on it. -/
def blankRest? (s : Source) (i : Nat) : Option Nat :=
  let n := s.run isSpace i
  (s.lineEnd? (i + n)).map (n + ·)

/-- The place just after the next line feed. -/
def nextLine (s : Source) (i : Nat) : Nat := min (s.seek (· == '\n') i + 1) s.size

/-- The document cut off at a place. -/
def upTo (s : Source) (i : Nat) : Source := s.extract 0 i

end Source

end SlideDeck.Markdown

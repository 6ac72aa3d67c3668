/-
Digits and the numbers that rows of them write.

Only the ASCII digits have a value here, and for hexadecimal the ASCII letters of either
case.  A digit of another script is a digit to the character classes, but nothing that
reads a number takes it.
-/

namespace SlideDeck.Text

/-- The value of a decimal digit. -/
def decimalDigit? (c : Char) : Option Nat :=
  if '0' ≤ c && c ≤ '9' then some (c.toNat - '0'.toNat) else none

/-- The value of a hexadecimal digit. -/
def hexDigit? (c : Char) : Option Nat :=
  if '0' ≤ c && c ≤ '9' then some (c.toNat - '0'.toNat)
  else if 'a' ≤ c && c ≤ 'f' then some (c.toNat - 'a'.toNat + 10)
  else if 'A' ≤ c && c ≤ 'F' then some (c.toNat - 'A'.toNat + 10)
  else none

/-- The number written by the digits of a text, most significant first. -/
def numeral (digit? : Char → Option Nat) (base : Nat) (s : List Char) : Nat :=
  s.foldl (fun n c => n * base + (digit? c).getD 0) 0

/-- The number that a text is, if it is a row of digits. -/
def numeral? (digit? : Char → Option Nat) (base : Nat) (s : List Char) : Option Nat :=
  if !s.isEmpty && s.all (fun c => (digit? c).isSome) then some (numeral digit? base s) else none

/-- The number below a limit that a text is; a plus sign may stand before the digits. -/
def boundedNumeral? (digit? : Char → Option Nat) (base limit : Nat) (s : List Char) :
    Option Nat :=
  let digits := match s with
    | '+' :: digits => digits
    | digits => digits
  (numeral? digit? base digits).filter (· < limit)

end SlideDeck.Text

/-
Reading numerals.

A numeral without a fraction and an exponent is a whole number, as long as it fits into
sixty-four bits.  Any other numeral is a number of double precision: its leading digits, as
many as fit into sixty-four bits, are converted and then multiplied or divided by a power of
ten.  Each of the two operations rounds, so the result can be a unit away from the nearest
number.  A numeral that is too large is read as an infinity, which no field takes.
-/
import SlideDeck.Json.Basic
import SlideDeck.Text.Numeral

namespace SlideDeck.Json

/-- The largest significand. -/
def maxSignificand : Nat := Nat.pow 2 64 - 1

/-- The value of a row of digits. -/
def digitsValue (s : List Char) : Nat := Text.numeral Text.decimalDigit? 10 s

/-- Appends digits to a significand as long as it fits; gives how many were appended. -/
def appendDigits (n : Nat) : List Char → Nat × Nat
  | [] => (n, 0)
  | c :: s =>
    let next := n * 10 + (c.toNat - 48)
    if maxSignificand < next then (n, 0)
    else
      let (m, count) := appendDigits next s
      (m, count + 1)

/-- The largest power of ten that a number of double precision can be multiplied by at once. -/
def maxPower : Nat := 308

/-- A power of ten. -/
def powerOfTen (e : Nat) : Float := Float.ofScientific 1 false e

/-- Divides by a power of ten, in steps if it is large; a zero stays zero. -/
def divideByPower (x : Float) (e : Nat) : Float :=
  if e ≤ maxPower then x / powerOfTen e
  else if x == 0 then x
  else divideByPower (x / powerOfTen maxPower) (e - maxPower)
termination_by e
decreasing_by
  simp only [maxPower] at *
  omega

/-- A significand times a power of ten. -/
def scaled (significand : Nat) (exponent : Int) : Float :=
  let x := (UInt64.ofNat significand).toFloat
  match exponent with
  | .ofNat e =>
    if e ≤ maxPower then x * powerOfTen e
    else if x == 0 then x
    else 1 / 0
  | .negSucc e => divideByPower x (e + 1)

/-- The parts of a numeral: its digits before and after the point, and its exponent. -/
structure Numeral where
  negative : Bool
  whole : List Char
  fraction : Option (List Char)
  exponent : Option (Bool × List Char)

/-- The largest exponent that is read; beyond it only the sign counts. -/
def maxExponent : Nat := Nat.pow 2 31 - 1

/-- The number of double precision that a numeral stands for. -/
def Numeral.toFloat (n : Numeral) : Float :=
  let (significand, used) := appendDigits 0 n.whole
  let before := n.whole.length - used
  let (significand, after) := appendDigits significand (n.fraction.getD [])
  let shift : Int := before - after
  let magnitude :=
    match n.exponent with
    | none => scaled significand shift
    | some (down, digits) =>
      let e := digitsValue digits
      if maxExponent < e then
        if significand == 0 || down then 0 else 1 / 0
      else scaled significand (if down then shift - e else shift + e)
  if n.negative then -magnitude else magnitude

/-- The number that a numeral stands for. -/
def Numeral.value (n : Numeral) : Number :=
  match n.fraction, n.exponent with
  | none, none =>
    let v := digitsValue n.whole
    if n.negative then
      if v == 0 || Nat.pow 2 63 < v then .double n.toFloat else .negative v
    else if v ≤ maxSignificand then .natural v else .double n.toFloat
  | _, _ => .double n.toFloat

end SlideDeck.Json

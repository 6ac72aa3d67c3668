/-
The shortest decimal that identifies a binary floating-point number.

A finite number is a significand times a power of two.  The reals that round to it form an
interval around it, which reaches half way to its two neighbours; the ends belong to it if
the significand is even.  The digits wanted are the fewest that name a point of the interval,
and of those the nearest to the number.  With one digit, two digits and so on, the two
points of the decimal grid next to the number are tried, until one is in the interval: if
any point of a grid is in it, one of these two is.
-/

namespace SlideDeck.Decimal

/-- A positive number `significand * 2 ^ exponent` of a binary format.  The gap to the number
below it is half the gap above if `narrow`. -/
structure Binary where
  significand : Nat
  exponent : Int
  narrow : Bool
deriving Repr, DecidableEq

/-- The decimal `digits * 10 ^ exponent`. -/
structure Digits where
  digits : Nat
  exponent : Int
deriving Repr, DecidableEq

namespace Binary

/-- The number, the lower and the upper end of its interval, each multiplied by
`4 * 10 ^ shift` and over a common denominator. -/
structure Scaled where
  value : Nat
  lower : Nat
  upper : Nat
  denominator : Nat

/-- A number and its interval on the scale of a decimal grid of spacing `10 ^ spacing`. -/
def scale (b : Binary) (spacing : Int) : Scaled :=
  let up := Nat.pow 2 b.exponent.toNat * Nat.pow 10 (-spacing).toNat
  let down := Nat.pow 2 (-b.exponent).toNat * Nat.pow 10 spacing.toNat
  ⟨4 * b.significand * up, (4 * b.significand - (if b.narrow then 1 else 2)) * up,
    (4 * b.significand + 2) * up, 4 * down⟩

/-- Whether a point of the grid is in the interval. -/
def Scaled.holds (s : Scaled) (even : Bool) (point : Nat) : Bool :=
  let p := point * s.denominator
  if even then s.lower ≤ p && p ≤ s.upper else s.lower < p && p < s.upper

/-- The point of a grid next to the number that is in its interval, the nearer if both are;
of two equally near the even one. -/
def onGrid? (b : Binary) (spacing : Int) : Option Nat :=
  let s := b.scale spacing
  let even := b.significand % 2 == 0
  let low := s.value / s.denominator
  let lowIn := 0 < low && s.holds even low
  let highIn := s.holds even (low + 1)
  let toLow := s.value - low * s.denominator
  let toHigh := (low + 1) * s.denominator - s.value
  match lowIn, highIn with
  | false, false => none
  | true, false => some low
  | false, true => some (low + 1)
  | true, true =>
    if toLow < toHigh || (toLow == toHigh && low % 2 == 0) then some low else some (low + 1)

/-- The decimal exponent of the first digit, by trying from above. -/
def leadingExponent (b : Binary) : Nat → Int → Int
  | 0, e => e
  | fuel + 1, e =>
    let s := b.scale e
    if s.denominator ≤ s.value then e else leadingExponent b fuel (e - 1)

/-- Tries grids of rising fineness. -/
def search (b : Binary) (leading : Int) : Nat → Nat → Digits
  | 0, n => ⟨0, leading - n⟩
  | fuel + 1, n =>
    match b.onGrid? (leading - n) with
    | some d => ⟨d, leading - n⟩
    | none => search b leading fuel (n + 1)

/-- The decimal without zeros at the end of its digits. -/
def stripZeros : Nat → Digits → Digits
  | 0, d => d
  | fuel + 1, d =>
    if d.digits != 0 && d.digits % 10 == 0 then
      stripZeros fuel ⟨d.digits / 10, d.exponent + 1⟩
    else d

/-- The shortest decimal that identifies a number. -/
def shortest (b : Binary) : Digits :=
  -- a first guess that is never too small
  let bits : Int := (Nat.log2 b.significand : Nat) + 1 + b.exponent
  let guess := Int.fdiv (bits * 30103) 100000 + 1
  stripZeros 20 (search b (leadingExponent b 4 guess) 20 0)

end Binary

/-- The bits of a number above its sign: `width` bits of significand under an exponent. -/
def ofBits? (width bias magnitude : Nat) : Option Binary :=
  let fraction := magnitude % Nat.pow 2 width
  let exponent := magnitude / Nat.pow 2 width
  if magnitude == 0 then none
  else if exponent == 0 then some ⟨fraction, 1 - bias - width, false⟩
  else some ⟨Nat.pow 2 width + fraction, exponent - bias - width, fraction == 0 && 1 < exponent⟩

/-- The layout of a decimal: positional as long as the point is at most sixteen places to the
right of the first digit or four to its left, with an exponent otherwise. -/
def Digits.render (d : Digits) : String :=
  let text := toString d.digits
  let n : Int := text.length
  let point := n + d.exponent
  if 0 ≤ d.exponent && point ≤ 16 then
    text ++ String.ofList (List.replicate d.exponent.toNat '0') ++ ".0"
  else if 0 < point && point ≤ 16 then
    String.ofList (text.toList.take point.toNat) ++ "." ++
      String.ofList (text.toList.drop point.toNat)
  else if -5 < point && point ≤ 0 then
    "0." ++ String.ofList (List.replicate (-point).toNat '0') ++ text
  else
    let lead := String.ofList (text.toList.take 1)
    let rest := String.ofList (text.toList.drop 1)
    (if rest.isEmpty then lead else lead ++ "." ++ rest) ++ "e" ++ toString (point - 1)

/-- The text of a number with a sign and the bits above it. -/
def render (negative : Bool) (b : Option Binary) : String :=
  (if negative then "-" else "") ++
    match b with
    | none => "0.0"
    | some b => b.shortest.render

/-- The text of a finite number of double precision. -/
def renderDouble (x : Float) : String :=
  let bits := x.toBits.toNat
  render (Nat.pow 2 63 ≤ bits) (ofBits? 52 1023 (bits % Nat.pow 2 63))

/-- The text of a finite number of single precision. -/
def renderSingle (x : Float32) : String :=
  let bits := x.toBits.toNat
  render (Nat.pow 2 31 ≤ bits) (ofBits? 23 127 (bits % Nat.pow 2 31))

end SlideDeck.Decimal

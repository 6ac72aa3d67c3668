/-
Text styles written as CSS.

A list of declarations sets the attributes that text on a slide has.  Later declarations
win over earlier ones; a colour or a font size that cannot be read takes back what an earlier
declaration of it has set.  Other properties are passed over.
-/
import SlideDeck.Style.TextStyle
import SlideDeck.Text.Blank
import SlideDeck.Text.Numeral
import SlideDeck.Text.Search

namespace SlideDeck.Html

open SlideDeck.Text

/-! ### Colours -/

/-- The channel that two hexadecimal digits give; the first may be a plus sign. -/
def hexChannel? (s : List Char) : Option Nat := boundedNumeral? hexDigit? 16 256 s

/-- A colour by three or six hexadecimal digits; three digits are each taken twice. -/
def hexColor? : List Char → Option RgbColor
  | [r, g, b] => do
    some (RgbColor.ofBytes (← hexChannel? [r, r]) (← hexChannel? [g, g]) (← hexChannel? [b, b]))
  | [r, r', g, g', b, b'] => do
    some (RgbColor.ofBytes (← hexChannel? [r, r']) (← hexChannel? [g, g'])
      (← hexChannel? [b, b']))
  | _ => none

/-- The channel that a decimal number of at most three digits gives; blanks around it are
left out. -/
def decimalChannel? (s : List Char) : Option Nat :=
  let digits := trim s
  if digits.length ≤ 3 then (numeral? decimalDigit? 10 digits).filter (· < 256) else none

/-- A colour by three decimal channels with commas between them. -/
def functionColor? (s : List Char) : Option RgbColor := do
  let (red, s) ← splitAt? [','] s
  let (green, s) ← splitAt? [','] s
  let (blue, s) ← splitAt? [')'] s
  if s.isEmpty then
    some (RgbColor.ofBytes (← decimalChannel? red) (← decimalChannel? green)
      (← decimalChannel? blue))
  else none

/-- A colour in lower case: a number sign and hexadecimal digits, or the function `rgb`.
Colours have no names here. -/
def color? (s : List Char) : Option RgbColor :=
  match s with
  | '#' :: digits => hexColor? digits
  | _ => do functionColor? (← dropLead? "rgb(".toList s)

/-! ### Numbers -/

/-- A decimal number without a sign, from its digits before and after the point. -/
def decimalFloat (whole fraction : List Char) : Float :=
  Float.ofScientific (numeral decimalDigit? 10 (whole ++ fraction)) true fraction.length

/-- A decimal number without a sign at the start of a text, with what follows it.  A point
belongs to it only if a digit follows. -/
def decimal? (s : List Char) : Option (Float × List Char) :=
  let whole := s.takeWhile Char.isDigit
  let rest := s.dropWhile Char.isDigit
  if whole.isEmpty then none
  else
    match rest with
    | '.' :: after =>
      let fraction := after.takeWhile Char.isDigit
      if fraction.isEmpty then some (decimalFloat whole [], rest)
      else some (decimalFloat whole fraction, after.dropWhile Char.isDigit)
    | _ => some (decimalFloat whole [], rest)

/-- How many points a pixel has. -/
def pointsPerPixel : Float := 0.75

/-- A font size in lower case, in points unless it says pixels. -/
def fontSize? (s : List Char) : Option Dimension := do
  let (magnitude, rest) ← decimal? s
  match String.ofList (trimStart rest) with
  | "px" => some (Dimension.pt (magnitude * pointsPerPixel))
  | "pt" | "" => some (Dimension.pt magnitude)
  | _ => none

/-- The least weight that counts as bold. -/
def boldWeight : Nat := 700

/-- Whether a font weight in lower case is bold: it says so, or it is a number of thirty-two
bits that is large enough. -/
def isBoldWeight (s : List Char) : Bool :=
  s == "bold".toList || (boundedNumeral? decimalDigit? 10 (Nat.pow 2 32) s).any (boldWeight ≤ ·)

/-! ### Declarations -/

/-- A quotation mark. -/
def isQuote (c : Char) : Bool := c == '"' || c == '\''

/-- The first font of a list of fonts, without the quotation marks around it. -/
def fontFamily (s : List Char) : List Char :=
  dropEndWhile isQuote ((trim (s.takeWhile (· != ','))).dropWhile isQuote)

/-- Sets what one declaration sets. -/
def declare (style : TextStyle) (property : String) (value : List Char) : TextStyle :=
  let lower := asciiLower value
  match property with
  | "color" => { style with foregroundColor := (color? lower).map OptionalColor.ofRgb }
  | "background-color" => { style with backgroundColor := (color? lower).map OptionalColor.ofRgb }
  | "font-family" =>
    if (fontFamily value).isEmpty then style
    else { style with fontFamily := some (String.ofList (fontFamily value)) }
  | "font-size" => { style with fontSize := fontSize? lower }
  | "font-weight" => { style with bold := some (isBoldWeight lower) }
  | "font-style" =>
    { style with italic := some (lower == "italic".toList || lower == "oblique".toList) }
  | "font-variant" => { style with smallCaps := some (lower == "small-caps".toList) }
  | "text-decoration" | "text-decoration-line" =>
    let style :=
      if contains "underline".toList lower then { style with underline := some true } else style
    if contains "line-through".toList lower then { style with strikethrough := some true }
    else style
  | _ => style

/-- Sets what the text of one declaration sets, if it is one: a property, a colon, a value. -/
def declareText (style : TextStyle) (text : List Char) : TextStyle :=
  match splitAt? [':'] text with
  | none => style
  | some (property, value) =>
    declare style (String.ofList (asciiLower (trim property))) (trim value)

/-- The style that a list of declarations sets. -/
def styleOfCss (css : String) : TextStyle :=
  (css.toList.splitOn ';').foldl declareText TextStyle.empty

end SlideDeck.Html

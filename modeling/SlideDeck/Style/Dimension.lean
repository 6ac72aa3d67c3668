/-
Lengths, sizes and placements on a page.

A length is a magnitude in points or in English metric units, of which a point has 12700.
Either part may be unset, since what a server sends need not be complete.
-/
import SlideDeck.Json.Record

namespace SlideDeck

/-- A unit of length. -/
inductive LengthUnit where
  | unspecified
  | emu
  | pt
deriving Repr, DecidableEq

namespace LengthUnit

/-- The name of a unit. -/
def name : LengthUnit → String
  | unspecified => "UNIT_UNSPECIFIED"
  | emu => "EMU"
  | pt => "PT"

/-- The units by name. -/
def table : List (String × LengthUnit) := [unspecified, emu, pt].map fun u => (u.name, u)

/-- The unit as JSON. -/
def toJson (u : LengthUnit) : Json := .string u.name

/-- Reads a unit. -/
def ofJson? (j : Json) : Option LengthUnit := j.toUnitVariant? table

end LengthUnit

/-- A length. -/
structure Dimension where
  magnitude : Option Float
  unit : Option LengthUnit
deriving DecidableEq

namespace Dimension

/-- A length in points. -/
def pt (magnitude : Float) : Dimension := ⟨some magnitude, some .pt⟩

/-- A length in English metric units. -/
def emu (magnitude : Float) : Dimension := ⟨some magnitude, some .emu⟩

/-- The length as JSON. -/
def toJson (d : Dimension) : Json :=
  .object (Json.optionalField "magnitude" Json.ofFloat d.magnitude ++
    Json.optionalField "unit" LengthUnit.toJson d.unit)

/-- Reads a length. -/
def ofJson? (j : Json) : Option Dimension :=
  match j.fields? ["magnitude", "unit"] with
  | some [magnitude, unit] => do
    some ⟨← magnitude.toOption? Json.toFloat?, ← unit.toOption? LengthUnit.ofJson?⟩
  | _ => none

end Dimension

/-- A width and a height. -/
structure Size where
  width : Option Dimension
  height : Option Dimension
deriving DecidableEq

namespace Size

/-- The size as JSON. -/
def toJson (s : Size) : Json :=
  .object (Json.optionalField "width" Dimension.toJson s.width ++
    Json.optionalField "height" Dimension.toJson s.height)

/-- Reads a size. -/
def ofJson? (j : Json) : Option Size :=
  match j.fields? ["width", "height"] with
  | some [width, height] => do
    some ⟨← width.toOption? Dimension.ofJson?, ← height.toOption? Dimension.ofJson?⟩
  | _ => none

end Size

/-- A scaling and a shift that place an element on a page. -/
structure AffineTransform where
  scaleX : Option Float
  scaleY : Option Float
  translateX : Option Float
  translateY : Option Float
  /-- The unit of the shift. -/
  unit : Option LengthUnit
deriving DecidableEq

namespace AffineTransform

/-- A placement without scaling at an offset in English metric units. -/
def translateEmu (x y : Float) : AffineTransform :=
  ⟨some 1, some 1, some x, some y, some .emu⟩

/-- The placement as JSON. -/
def toJson (t : AffineTransform) : Json :=
  .object (Json.optionalField "scaleX" Json.ofFloat t.scaleX ++
    Json.optionalField "scaleY" Json.ofFloat t.scaleY ++
    Json.optionalField "translateX" Json.ofFloat t.translateX ++
    Json.optionalField "translateY" Json.ofFloat t.translateY ++
    Json.optionalField "unit" LengthUnit.toJson t.unit)

/-- Reads a placement. -/
def ofJson? (j : Json) : Option AffineTransform :=
  match j.fields? ["scaleX", "scaleY", "translateX", "translateY", "unit"] with
  | some [scaleX, scaleY, translateX, translateY, unit] => do
    some ⟨← scaleX.toOption? Json.toFloat?, ← scaleY.toOption? Json.toFloat?,
      ← translateX.toOption? Json.toFloat?, ← translateY.toOption? Json.toFloat?,
      ← unit.toOption? LengthUnit.ofJson?⟩
  | _ => none

end AffineTransform

end SlideDeck

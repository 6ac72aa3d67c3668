/-
Colours.

A colour is three channels of single precision between zero and one.  A place that takes a
colour may also be told to be transparent.
-/
import SlideDeck.Json.Record

namespace SlideDeck

/-- A colour by its red, green and blue channels. -/
structure RgbColor where
  red : Float32
  green : Float32
  blue : Float32
deriving DecidableEq

/-- A colour that covers what is behind it. -/
structure OpaqueColor where
  rgbColor : RgbColor
deriving DecidableEq

/-- A colour, or transparency if none is set. -/
structure OptionalColor where
  opaqueColor : Option OpaqueColor
deriving DecidableEq

namespace RgbColor

/-- A channel given as a number from 0 to 255. -/
def channel (n : Nat) : Float32 := (UInt64.ofNat n).toFloat32 / 255

/-- A colour whose channels are given as numbers from 0 to 255. -/
def ofBytes (red green blue : Nat) : RgbColor := ⟨channel red, channel green, channel blue⟩

/-- The colour as JSON. -/
def toJson (c : RgbColor) : Json :=
  .object [("red", .ofFloat32 c.red), ("green", .ofFloat32 c.green), ("blue", .ofFloat32 c.blue)]

/-- Reads a colour. -/
def ofJson? (j : Json) : Option RgbColor :=
  match j.fields? ["red", "green", "blue"] with
  | some [red, green, blue] => do
    some ⟨← red.toFloat32?, ← green.toFloat32?, ← blue.toFloat32?⟩
  | _ => none

end RgbColor

namespace OpaqueColor

/-- The colour as JSON. -/
def toJson (c : OpaqueColor) : Json := .object [("rgbColor", c.rgbColor.toJson)]

/-- Reads a colour. -/
def ofJson? (j : Json) : Option OpaqueColor :=
  match j.fields? ["rgbColor"] with
  | some [rgbColor] => do some ⟨← RgbColor.ofJson? rgbColor⟩
  | _ => none

end OpaqueColor

namespace OptionalColor

/-- The colour that covers what is behind it. -/
def ofRgb (c : RgbColor) : OptionalColor := ⟨some ⟨c⟩⟩

/-- The colour as JSON. -/
def toJson (c : OptionalColor) : Json :=
  .object (Json.optionalField "opaqueColor" OpaqueColor.toJson c.opaqueColor)

/-- Reads a colour. -/
def ofJson? (j : Json) : Option OptionalColor :=
  match j.fields? ["opaqueColor"] with
  | some [opaqueColor] => do some ⟨← opaqueColor.toOption? OpaqueColor.ofJson?⟩
  | _ => none

end OptionalColor

end SlideDeck

/-
The style of a stretch of text.

Every attribute may be set or unset; an unset one is left as it is where the style is
applied.  A style is written as an object of its set attributes, in alphabetical order, so
the names of those are the fields that an update with the style touches.
-/
import SlideDeck.Style.Color
import SlideDeck.Style.Dimension

namespace SlideDeck

/-- Where text stands relative to its line. -/
inductive BaselineOffset where
  | unspecified
  | none
  | superscript
  | subscript
deriving Repr, DecidableEq

namespace BaselineOffset

/-- The name of an offset. -/
def name : BaselineOffset → String
  | unspecified => "BASELINE_OFFSET_UNSPECIFIED"
  | none => "NONE"
  | superscript => "SUPERSCRIPT"
  | subscript => "SUBSCRIPT"

/-- The offsets by name. -/
def table : List (String × BaselineOffset) :=
  [unspecified, none, superscript, subscript].map fun o => (o.name, o)

/-- The offset as JSON. -/
def toJson (o : BaselineOffset) : Json := .string o.name

/-- Reads an offset. -/
def ofJson? (j : Json) : Option BaselineOffset := j.toUnitVariant? table

end BaselineOffset

/-- A link to a web page. -/
structure Link where
  url : String
deriving Repr, DecidableEq

namespace Link

/-- The link as JSON. -/
def toJson (l : Link) : Json := .object [("url", .string l.url)]

/-- Reads a link. -/
def ofJson? (j : Json) : Option Link :=
  match j.fields? ["url"] with
  | some [url] => do some ⟨← url.toString?⟩
  | _ => none

end Link

/-- The style of a stretch of text. -/
structure TextStyle where
  backgroundColor : Option OptionalColor := none
  baselineOffset : Option BaselineOffset := none
  bold : Option Bool := none
  fontFamily : Option String := none
  fontSize : Option Dimension := none
  foregroundColor : Option OptionalColor := none
  italic : Option Bool := none
  link : Option Link := none
  smallCaps : Option Bool := none
  strikethrough : Option Bool := none
  underline : Option Bool := none
deriving DecidableEq

namespace TextStyle

/-- The style that sets nothing. -/
def empty : TextStyle := {}

instance : Inhabited TextStyle := ⟨empty⟩

/-- Whether nothing is set. -/
def isEmpty (s : TextStyle) : Bool := s == empty

/-- The set attributes with their names. -/
def fields (s : TextStyle) : List (String × Json) :=
  Json.optionalField "backgroundColor" OptionalColor.toJson s.backgroundColor ++
  Json.optionalField "baselineOffset" BaselineOffset.toJson s.baselineOffset ++
  Json.optionalField "bold" Json.bool s.bold ++
  Json.optionalField "fontFamily" Json.string s.fontFamily ++
  Json.optionalField "fontSize" Dimension.toJson s.fontSize ++
  Json.optionalField "foregroundColor" OptionalColor.toJson s.foregroundColor ++
  Json.optionalField "italic" Json.bool s.italic ++
  Json.optionalField "link" Link.toJson s.link ++
  Json.optionalField "smallCaps" Json.bool s.smallCaps ++
  Json.optionalField "strikethrough" Json.bool s.strikethrough ++
  Json.optionalField "underline" Json.bool s.underline

/-- The names of the set attributes, in alphabetical order.  An attribute that is set to
false, or to an empty text, is among them. -/
def fieldMask (s : TextStyle) : List String := s.fields.map (·.1)

/-- The style as JSON. -/
def toJson (s : TextStyle) : Json := .object s.fields

/-- Reads a style. -/
def ofJson? (j : Json) : Option TextStyle :=
  match j.fields? ["backgroundColor", "baselineOffset", "bold", "fontFamily", "fontSize",
    "foregroundColor", "italic", "link", "smallCaps", "strikethrough", "underline"] with
  | some [backgroundColor, baselineOffset, bold, fontFamily, fontSize, foregroundColor, italic,
      link, smallCaps, strikethrough, underline] => do
    some {
      backgroundColor := ← backgroundColor.toOption? OptionalColor.ofJson?
      baselineOffset := ← baselineOffset.toOption? BaselineOffset.ofJson?
      bold := ← bold.toOption? Json.toBool?
      fontFamily := ← fontFamily.toOption? Json.toString?
      fontSize := ← fontSize.toOption? Dimension.ofJson?
      foregroundColor := ← foregroundColor.toOption? OptionalColor.ofJson?
      italic := ← italic.toOption? Json.toBool?
      link := ← link.toOption? Link.ofJson?
      smallCaps := ← smallCaps.toOption? Json.toBool?
      strikethrough := ← strikethrough.toOption? Json.toBool?
      underline := ← underline.toOption? Json.toBool? }
  | _ => none

end TextStyle

end SlideDeck

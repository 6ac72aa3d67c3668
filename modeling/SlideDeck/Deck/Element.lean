/-
The elements of a page.

Only what is needed to find a place for text is kept of an element: its id, its size and
placement, and whether it is a shape, with its role as a placeholder, or a table.
-/
import SlideDeck.Style.Dimension

namespace SlideDeck

/-- The role of a placeholder, as inherited from its layout. -/
inductive PlaceholderRole where
  | none
  | body
  | chart
  | clipArt
  | centeredTitle
  | diagram
  | dateAndTime
  | footer
  | header
  | media
  | object
  | picture
  | slideNumber
  | subtitle
  | table
  | title
  | slideImage
deriving Repr, DecidableEq

namespace PlaceholderRole

/-- The name of a role. -/
def name : PlaceholderRole → String
  | none => "NONE"
  | body => "BODY"
  | chart => "CHART"
  | clipArt => "CLIP_ART"
  | centeredTitle => "CENTERED_TITLE"
  | diagram => "DIAGRAM"
  | dateAndTime => "DATE_AND_TIME"
  | footer => "FOOTER"
  | header => "HEADER"
  | media => "MEDIA"
  | object => "OBJECT"
  | picture => "PICTURE"
  | slideNumber => "SLIDE_NUMBER"
  | subtitle => "SUBTITLE"
  | table => "TABLE"
  | title => "TITLE"
  | slideImage => "SLIDE_IMAGE"

/-- All roles. -/
def all : List PlaceholderRole :=
  [none, body, chart, clipArt, centeredTitle, diagram, dateAndTime, footer, header, media, object,
    picture, slideNumber, subtitle, table, title, slideImage]

/-- The roles that take the title of a slide, the preferred one first. -/
def titles : List PlaceholderRole := [title, centeredTitle]

/-- The roles by name. -/
def byName : List (String × PlaceholderRole) := all.map fun r => (r.name, r)

/-- The role as JSON. -/
def toJson (r : PlaceholderRole) : Json := .string r.name

/-- Reads a role. -/
def ofJson? (j : Json) : Option PlaceholderRole := j.toUnitVariant? byName

end PlaceholderRole

/-- What makes a shape a placeholder. -/
structure Placeholder where
  role : Option PlaceholderRole
  index : Option Int32
  parentObjectId : Option String
deriving DecidableEq

namespace Placeholder

/-- The placeholder as JSON. -/
def toJson (p : Placeholder) : Json :=
  .object (Json.optionalField "type" PlaceholderRole.toJson p.role ++
    Json.optionalField "index" Json.ofInt32 p.index ++
    Json.optionalField "parentObjectId" Json.string p.parentObjectId)

/-- Reads a placeholder. -/
def ofJson? (j : Json) : Option Placeholder :=
  match j.fields? ["type", "index", "parentObjectId"] with
  | some [role, index, parentObjectId] => do
    some ⟨← role.toOption? PlaceholderRole.ofJson?, ← index.toOption? Json.toInt32?,
      ← parentObjectId.toOption? Json.toString?⟩
  | _ => none

end Placeholder

/-- A shape, which may be a placeholder. -/
structure Shape where
  shapeType : Option String
  placeholder : Option Placeholder
deriving DecidableEq

namespace Shape

/-- The shape as JSON. -/
def toJson (s : Shape) : Json :=
  .object (Json.optionalField "shapeType" Json.string s.shapeType ++
    Json.optionalField "placeholder" Placeholder.toJson s.placeholder)

/-- Reads a shape. -/
def ofJson? (j : Json) : Option Shape :=
  match j.fields? ["shapeType", "placeholder"] with
  | some [shapeType, placeholder] => do
    some ⟨← shapeType.toOption? Json.toString?, ← placeholder.toOption? Placeholder.ofJson?⟩
  | _ => none

/-- The role of a shape, if it is a placeholder that has one. -/
def role? (s : Shape) : Option PlaceholderRole := s.placeholder.bind (·.role)

end Shape

/-- The size of a table on a page, in cells. -/
structure TableExtent where
  rows : Int32
  columns : Int32
deriving DecidableEq

namespace TableExtent

/-- The extent as JSON. -/
def toJson (t : TableExtent) : Json :=
  .object [("rows", .ofInt32 t.rows), ("columns", .ofInt32 t.columns)]

/-- Reads an extent. -/
def ofJson? (j : Json) : Option TableExtent :=
  match j.fields? ["rows", "columns"] with
  | some [rows, columns] => do some ⟨← rows.toInt32?, ← columns.toInt32?⟩
  | _ => none

end TableExtent

/-- An element of a page. -/
structure PageElement where
  objectId : String
  size : Option Size
  transform : Option AffineTransform
  shape : Option Shape
  table : Option TableExtent
deriving DecidableEq

namespace PageElement

/-- The element as JSON. -/
def toJson (e : PageElement) : Json :=
  .object (("objectId", .string e.objectId) ::
    Json.optionalField "size" Size.toJson e.size ++
    Json.optionalField "transform" AffineTransform.toJson e.transform ++
    Json.optionalField "shape" Shape.toJson e.shape ++
    Json.optionalField "table" TableExtent.toJson e.table)

/-- Reads an element. -/
def ofJson? (j : Json) : Option PageElement :=
  match j.fields? ["objectId", "size", "transform", "shape", "table"] with
  | some [objectId, size, transform, shape, table] => do
    some ⟨← objectId.toString?, ← size.toOption? Size.ofJson?,
      ← transform.toOption? AffineTransform.ofJson?, ← shape.toOption? Shape.ofJson?,
      ← table.toOption? TableExtent.ofJson?⟩
  | _ => none

/-- The role of an element, if it is a placeholder that has one. -/
def role? (e : PageElement) : Option PlaceholderRole := e.shape.bind Shape.role?

/-- How far an element stands to the right, zero if that is not said. -/
def translateX (e : PageElement) : Float := (e.transform.bind (·.translateX)).getD 0

/-- How far down an element stands, zero if that is not said. -/
def translateY (e : PageElement) : Float := (e.transform.bind (·.translateY)).getD 0

end PageElement

end SlideDeck

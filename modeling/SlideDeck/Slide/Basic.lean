/-
Slides as the compiler makes them and the planner takes them.

A slide has an optional title and subtitle, a body for each column, tables, images and
speaker notes.  It may ask for a layout by name, and it gets an object id when its creation
is planned.
-/
import SlideDeck.Slide.TextBlock

namespace SlideDeck

/-- A table whose cells are blocks of text, row by row. -/
structure Table where
  rows : Nat
  columns : Nat
  cells : List (List TextBlock)
deriving DecidableEq

namespace Table

/-- A table with given cells, as wide as its longest row. -/
def ofCells (cells : List (List TextBlock)) : Table :=
  ⟨cells.length, (cells.map List.length).foldl max 0, cells⟩

/-- The table as JSON. -/
def toJson (t : Table) : Json :=
  .object [("rows", .ofNat t.rows), ("columns", .ofNat t.columns),
    ("cells", .ofList (Json.ofList TextBlock.toJson) t.cells)]

/-- Reads rows of cells. -/
def cellsOfJson? (j : Json) : Option (List (List TextBlock)) :=
  j.toList? (Json.toList? TextBlock.ofJson?)

/-- Reads a table. -/
def ofJson? (j : Json) : Option Table :=
  match j.fields? ["rows", "columns", "cells"] with
  | some [rows, columns, cells] => do some ⟨← rows.toNat?, ← columns.toNat?, ← cellsOfJson? cells⟩
  | _ => none

end Table

/-- The text of one column. -/
structure Body where
  text : TextBlock
deriving DecidableEq

namespace Body

/-- The body as JSON. -/
def toJson (b : Body) : Json := .object [("text", b.text.toJson)]

/-- Reads a body. -/
def ofJson? (j : Json) : Option Body :=
  match j.fields? ["text"] with
  | some [text] => do some ⟨← TextBlock.ofJson? text⟩
  | _ => none

end Body

/-- An image, which a background image covers the whole page with. -/
structure Image where
  url : String
  alt : String
  background : Bool
deriving Repr, DecidableEq

namespace Image

/-- The image as JSON. -/
def toJson (i : Image) : Json :=
  .object [("url", .string i.url), ("alt", .string i.alt), ("background", .bool i.background)]

/-- Reads an image. -/
def ofJson? (j : Json) : Option Image :=
  match j.fields? ["url", "alt", "background"] with
  | some [url, alt, background] => do
    some ⟨← url.toString?, ← alt.toString?, ← background.toBool?⟩
  | _ => none

end Image

/-- Everything on one slide. -/
structure Slide where
  title : Option TextBlock := none
  subtitle : Option TextBlock := none
  bodies : List Body := []
  tables : List Table := []
  images : List Image := []
  notes : Option String := none
  /-- The name of the layout that the author asks for. -/
  customLayout : Option String := none
  /-- Set when the creation of the slide is planned. -/
  objectId : Option String := none
deriving DecidableEq

namespace Slide

/-- A slide with nothing on it. -/
def empty : Slide := {}

instance : Inhabited Slide := ⟨empty⟩

/-- Adds speaker notes on a line of their own. -/
def appendNotes (s : Slide) (text : String) : Slide :=
  match s.notes with
  | some notes =>
    if notes.isEmpty then { s with notes := some text }
    else { s with notes := some (notes ++ "\n" ++ text) }
  | none => { s with notes := some text }

/-- Whether the title is shown in a large format. -/
def isBig (s : Slide) : Bool := s.title.any (·.big)

/-- The slide as JSON. -/
def toJson (s : Slide) : Json :=
  .object [("title", .nullable TextBlock.toJson s.title),
    ("subtitle", .nullable TextBlock.toJson s.subtitle),
    ("bodies", .ofList Body.toJson s.bodies), ("tables", .ofList Table.toJson s.tables),
    ("images", .ofList Image.toJson s.images), ("notes", .nullable .string s.notes),
    ("customLayout", .nullable .string s.customLayout),
    ("objectId", .nullable .string s.objectId)]

/-- Reads a slide. -/
def ofJson? (j : Json) : Option Slide :=
  match j.fields? ["title", "subtitle", "bodies", "tables", "images", "notes", "customLayout",
    "objectId"] with
  | some [title, subtitle, bodies, tables, images, notes, customLayout, objectId] => do
    some ⟨← title.toOption? TextBlock.ofJson?, ← subtitle.toOption? TextBlock.ofJson?,
      ← bodies.toList? Body.ofJson?, ← tables.toList? Table.ofJson?,
      ← images.toList? Image.ofJson?, ← notes.toOption? Json.toString?,
      ← customLayout.toOption? Json.toString?, ← objectId.toOption? Json.toString?⟩
  | _ => none

/-- Some slides as JSON. -/
def listToJson (slides : List Slide) : Json := .ofList toJson slides

/-- Reads some slides. -/
def listOfJson? (j : Json) : Option (List Slide) := j.toList? ofJson?

end Slide

end SlideDeck

/-
The requests of a batch update.

A request is written as an object with one field, whose name says what is to be done and
whose value says how.  A batch is a list of requests that are carried out in order.
-/
import SlideDeck.Style.TextStyle

namespace SlideDeck

/-! ### Parts of requests -/

/-- A cell of a table by its row and column, counted from zero. -/
structure CellLocation where
  rowIndex : Nat
  columnIndex : Nat
deriving Repr, DecidableEq

namespace CellLocation

/-- The location as JSON. -/
def toJson (l : CellLocation) : Json :=
  .object [("rowIndex", .ofNat l.rowIndex), ("columnIndex", .ofNat l.columnIndex)]

/-- Reads a location. -/
def ofJson? (j : Json) : Option CellLocation :=
  match j.fields? ["rowIndex", "columnIndex"] with
  | some [rowIndex, columnIndex] => do some ⟨← rowIndex.toNat?, ← columnIndex.toNat?⟩
  | _ => none

end CellLocation

/-- How the ends of a range are given. -/
inductive RangeType where
  | fixedRange
  | fromStartIndex
  | all
deriving Repr, DecidableEq

namespace RangeType

/-- The name of a type. -/
def name : RangeType → String
  | fixedRange => "FIXED_RANGE"
  | fromStartIndex => "FROM_START_INDEX"
  | all => "ALL"

/-- The types by name. -/
def table : List (String × RangeType) := [fixedRange, fromStartIndex, all].map fun t => (t.name, t)

/-- The type as JSON. -/
def toJson (t : RangeType) : Json := .string t.name

/-- Reads a type. -/
def ofJson? (j : Json) : Option RangeType := j.toUnitVariant? table

end RangeType

/-- A range of the characters of a text. -/
structure TextRange where
  startIndex : Nat
  endIndex : Nat
  type : RangeType
deriving Repr, DecidableEq

namespace TextRange

/-- The range between two given ends. -/
def fixed (startIndex endIndex : Nat) : TextRange := ⟨startIndex, endIndex, .fixedRange⟩

/-- The range as JSON. -/
def toJson (r : TextRange) : Json :=
  .object [("startIndex", .ofNat r.startIndex), ("endIndex", .ofNat r.endIndex),
    ("type", r.type.toJson)]

/-- Reads a range. -/
def ofJson? (j : Json) : Option TextRange :=
  match j.fields? ["startIndex", "endIndex", "type"] with
  | some [startIndex, endIndex, type] => do
    some ⟨← startIndex.toNat?, ← endIndex.toNat?, ← RangeType.ofJson? type⟩
  | _ => none

end TextRange

/-- The glyphs of a list, level by level. -/
inductive BulletPreset where
  | bulletDiscCircleSquare
  | numberedDigitAlphaRoman
deriving Repr, DecidableEq

namespace BulletPreset

/-- The name of a preset. -/
def name : BulletPreset → String
  | bulletDiscCircleSquare => "BULLET_DISC_CIRCLE_SQUARE"
  | numberedDigitAlphaRoman => "NUMBERED_DIGIT_ALPHA_ROMAN"

/-- The presets by name. -/
def table : List (String × BulletPreset) :=
  [bulletDiscCircleSquare, numberedDigitAlphaRoman].map fun p => (p.name, p)

/-- The preset as JSON. -/
def toJson (p : BulletPreset) : Json := .string p.name

/-- Reads a preset. -/
def ofJson? (j : Json) : Option BulletPreset := j.toUnitVariant? table

end BulletPreset

/-- How elements move in the stack of a page. -/
inductive ZOrderOperation where
  | bringToFront
  | bringForward
  | sendBackward
  | sendToBack
deriving Repr, DecidableEq

namespace ZOrderOperation

/-- The name of an operation. -/
def name : ZOrderOperation → String
  | bringToFront => "BRING_TO_FRONT"
  | bringForward => "BRING_FORWARD"
  | sendBackward => "SEND_BACKWARD"
  | sendToBack => "SEND_TO_BACK"

/-- The operations by name. -/
def table : List (String × ZOrderOperation) :=
  [bringToFront, bringForward, sendBackward, sendToBack].map fun o => (o.name, o)

/-- The operation as JSON. -/
def toJson (o : ZOrderOperation) : Json := .string o.name

/-- Reads an operation. -/
def ofJson? (j : Json) : Option ZOrderOperation := j.toUnitVariant? table

end ZOrderOperation

/-- Where an element is created, and with which size and placement. -/
structure ElementProperties where
  pageObjectId : String
  size : Option Size
  transform : Option AffineTransform
deriving DecidableEq

namespace ElementProperties

/-- An element on a page, with the size and placement that the server chooses. -/
def onPage (pageObjectId : String) : ElementProperties := ⟨pageObjectId, none, none⟩

/-- The properties as JSON. -/
def toJson (p : ElementProperties) : Json :=
  .object (("pageObjectId", .string p.pageObjectId) ::
    Json.optionalField "size" Size.toJson p.size ++
    Json.optionalField "transform" AffineTransform.toJson p.transform)

/-- Reads the properties. -/
def ofJson? (j : Json) : Option ElementProperties :=
  match j.fields? ["pageObjectId", "size", "transform"] with
  | some [pageObjectId, size, transform] => do
    some ⟨← pageObjectId.toString?, ← size.toOption? Size.ofJson?,
      ← transform.toOption? AffineTransform.ofJson?⟩
  | _ => none

end ElementProperties

/-! ### The requests one by one -/

/-- Creates a slide with a layout. -/
structure CreateSlide where
  objectId : String
  insertionIndex : Option Nat
  layoutId : String
deriving Repr, DecidableEq

namespace CreateSlide

/-- The request as JSON. -/
def toJson (r : CreateSlide) : Json :=
  .object (("objectId", .string r.objectId) ::
    Json.optionalField "insertionIndex" Json.ofNat r.insertionIndex ++
    [("slideLayoutReference", .object [("layoutId", .string r.layoutId)])])

/-- Reads a reference to a layout. -/
def layoutOfJson? (j : Json) : Option String :=
  match j.fields? ["layoutId"] with
  | some [layoutId] => layoutId.toString?
  | _ => none

/-- Reads the request. -/
def ofJson? (j : Json) : Option CreateSlide :=
  match j.fields? ["objectId", "insertionIndex", "slideLayoutReference"] with
  | some [objectId, insertionIndex, layout] => do
    some ⟨← objectId.toString?, ← insertionIndex.toOption? Json.toNat?, ← layoutOfJson? layout⟩
  | _ => none

end CreateSlide

/-- Inserts text into a shape or a cell. -/
structure InsertText where
  objectId : String
  cellLocation : Option CellLocation
  text : String
  insertionIndex : Nat
deriving Repr, DecidableEq

namespace InsertText

/-- The request as JSON. -/
def toJson (r : InsertText) : Json :=
  .object (("objectId", .string r.objectId) ::
    Json.optionalField "cellLocation" CellLocation.toJson r.cellLocation ++
    [("text", .string r.text), ("insertionIndex", .ofNat r.insertionIndex)])

/-- Reads the request. -/
def ofJson? (j : Json) : Option InsertText :=
  match j.fields? ["objectId", "cellLocation", "text", "insertionIndex"] with
  | some [objectId, cellLocation, text, insertionIndex] => do
    some ⟨← objectId.toString?, ← cellLocation.toOption? CellLocation.ofJson?, ← text.toString?,
      ← insertionIndex.toNat?⟩
  | _ => none

end InsertText

/-- Gives a stretch of text a style, as far as the fields named are concerned. -/
structure UpdateTextStyle where
  objectId : String
  cellLocation : Option CellLocation
  style : TextStyle
  textRange : TextRange
  fields : String
deriving DecidableEq

namespace UpdateTextStyle

/-- The request as JSON. -/
def toJson (r : UpdateTextStyle) : Json :=
  .object (("objectId", .string r.objectId) ::
    Json.optionalField "cellLocation" CellLocation.toJson r.cellLocation ++
    [("style", r.style.toJson), ("textRange", r.textRange.toJson), ("fields", .string r.fields)])

/-- Reads the request. -/
def ofJson? (j : Json) : Option UpdateTextStyle :=
  match j.fields? ["objectId", "cellLocation", "style", "textRange", "fields"] with
  | some [objectId, cellLocation, style, textRange, fields] => do
    some ⟨← objectId.toString?, ← cellLocation.toOption? CellLocation.ofJson?,
      ← TextStyle.ofJson? style, ← TextRange.ofJson? textRange, ← fields.toString?⟩
  | _ => none

end UpdateTextStyle

/-- Makes list items of the paragraphs in a range.  The tabs in front of a paragraph say how
deeply it is nested, and are removed. -/
structure CreateParagraphBullets where
  objectId : String
  cellLocation : Option CellLocation
  textRange : TextRange
  bulletPreset : BulletPreset
deriving Repr, DecidableEq

namespace CreateParagraphBullets

/-- The request as JSON. -/
def toJson (r : CreateParagraphBullets) : Json :=
  .object (("objectId", .string r.objectId) ::
    Json.optionalField "cellLocation" CellLocation.toJson r.cellLocation ++
    [("textRange", r.textRange.toJson), ("bulletPreset", r.bulletPreset.toJson)])

/-- Reads the request. -/
def ofJson? (j : Json) : Option CreateParagraphBullets :=
  match j.fields? ["objectId", "cellLocation", "textRange", "bulletPreset"] with
  | some [objectId, cellLocation, textRange, bulletPreset] => do
    some ⟨← objectId.toString?, ← cellLocation.toOption? CellLocation.ofJson?,
      ← TextRange.ofJson? textRange, ← BulletPreset.ofJson? bulletPreset⟩
  | _ => none

end CreateParagraphBullets

/-- Creates a table. -/
structure CreateTable where
  objectId : String
  elementProperties : ElementProperties
  rows : Nat
  columns : Nat
deriving DecidableEq

namespace CreateTable

/-- The request as JSON. -/
def toJson (r : CreateTable) : Json :=
  .object [("objectId", .string r.objectId), ("elementProperties", r.elementProperties.toJson),
    ("rows", .ofNat r.rows), ("columns", .ofNat r.columns)]

/-- Reads the request. -/
def ofJson? (j : Json) : Option CreateTable :=
  match j.fields? ["objectId", "elementProperties", "rows", "columns"] with
  | some [objectId, elementProperties, rows, columns] => do
    some ⟨← objectId.toString?, ← ElementProperties.ofJson? elementProperties, ← rows.toNat?,
      ← columns.toNat?⟩
  | _ => none

end CreateTable

/-- Creates an image from its address. -/
structure CreateImage where
  objectId : String
  url : String
  elementProperties : ElementProperties
deriving DecidableEq

namespace CreateImage

/-- The request as JSON. -/
def toJson (r : CreateImage) : Json :=
  .object [("objectId", .string r.objectId), ("url", .string r.url),
    ("elementProperties", r.elementProperties.toJson)]

/-- Reads the request. -/
def ofJson? (j : Json) : Option CreateImage :=
  match j.fields? ["objectId", "url", "elementProperties"] with
  | some [objectId, url, elementProperties] => do
    some ⟨← objectId.toString?, ← url.toString?, ← ElementProperties.ofJson? elementProperties⟩
  | _ => none

end CreateImage

/-- Deletes a page or an element. -/
structure DeleteObject where
  objectId : String
deriving Repr, DecidableEq

namespace DeleteObject

/-- The request as JSON. -/
def toJson (r : DeleteObject) : Json := .object [("objectId", .string r.objectId)]

/-- Reads the request. -/
def ofJson? (j : Json) : Option DeleteObject :=
  match j.fields? ["objectId"] with
  | some [objectId] => do some ⟨← objectId.toString?⟩
  | _ => none

end DeleteObject

/-- Moves elements in the stack of their page. -/
structure UpdateZOrder where
  elementIds : List String
  operation : ZOrderOperation
deriving Repr, DecidableEq

namespace UpdateZOrder

/-- The request as JSON. -/
def toJson (r : UpdateZOrder) : Json :=
  .object [("pageElementObjectIds", .ofList .string r.elementIds),
    ("operation", r.operation.toJson)]

/-- Reads the request. -/
def ofJson? (j : Json) : Option UpdateZOrder :=
  match j.fields? ["pageElementObjectIds", "operation"] with
  | some [elementIds, operation] => do
    some ⟨← elementIds.toList? Json.toString?, ← ZOrderOperation.ofJson? operation⟩
  | _ => none

end UpdateZOrder

/-! ### Requests and batches -/

/-- One change to a presentation. -/
inductive Request where
  | createSlide (r : CreateSlide)
  | insertText (r : InsertText)
  | updateTextStyle (r : UpdateTextStyle)
  | createParagraphBullets (r : CreateParagraphBullets)
  | createTable (r : CreateTable)
  | createImage (r : CreateImage)
  | deleteObject (r : DeleteObject)
  | updateZOrder (r : UpdateZOrder)
deriving DecidableEq

namespace Request

/-- The request as JSON. -/
def toJson : Request → Json
  | createSlide r => .object [("createSlide", r.toJson)]
  | insertText r => .object [("insertText", r.toJson)]
  | updateTextStyle r => .object [("updateTextStyle", r.toJson)]
  | createParagraphBullets r => .object [("createParagraphBullets", r.toJson)]
  | createTable r => .object [("createTable", r.toJson)]
  | createImage r => .object [("createImage", r.toJson)]
  | deleteObject r => .object [("deleteObject", r.toJson)]
  | updateZOrder r => .object [("updatePageElementsZOrder", r.toJson)]

/-- Reads a request. -/
def ofJson? (j : Json) : Option Request :=
  match j.variant? with
  | some ("createSlide", some x) => (CreateSlide.ofJson? x).map createSlide
  | some ("insertText", some x) => (InsertText.ofJson? x).map insertText
  | some ("updateTextStyle", some x) => (UpdateTextStyle.ofJson? x).map updateTextStyle
  | some ("createParagraphBullets", some x) =>
    (CreateParagraphBullets.ofJson? x).map createParagraphBullets
  | some ("createTable", some x) => (CreateTable.ofJson? x).map createTable
  | some ("createImage", some x) => (CreateImage.ofJson? x).map createImage
  | some ("deleteObject", some x) => (DeleteObject.ofJson? x).map deleteObject
  | some ("updatePageElementsZOrder", some x) => (UpdateZOrder.ofJson? x).map updateZOrder
  | _ => none

end Request

/-- Requests that are carried out together, in order. -/
structure Batch where
  requests : List Request
deriving DecidableEq

namespace Batch

/-- The batch as JSON. -/
def toJson (b : Batch) : Json := .object [("requests", .ofList Request.toJson b.requests)]

/-- Reads a batch. -/
def ofJson? (j : Json) : Option Batch :=
  match j.fields? ["requests"] with
  | some [requests] => do some ⟨← requests.toList? Request.ofJson?⟩
  | _ => none

end Batch

/-- What the server answers to a batch: a reply to each request, which is passed on as it is. -/
structure BatchReply where
  presentationId : String
  replies : List Json

namespace BatchReply

/-- The reply as JSON. -/
def toJson (r : BatchReply) : Json :=
  .object [("presentationId", .string r.presentationId), ("replies", .array r.replies)]

/-- Reads a reply. -/
def ofJson? (j : Json) : Option BatchReply :=
  let names := ["presentationId", "replies"]
  match (j.withDefault names "replies" (.array [])).fields? names with
  | some [presentationId, replies] => do
    some ⟨← presentationId.toString?, ← replies.toList? fun j => j.toAny?.map Json.distinct⟩
  | _ => none

end BatchReply

end SlideDeck

/-
Blocks of text with the styles and lists that apply to them.

All offsets count characters from the start of the block.  A run gives its style to the
characters from its start up to, but not including, its end, and a marker makes list items
of the paragraphs in its range.
-/
import SlideDeck.ListKind
import SlideDeck.Style.TextStyle
import SlideDeck.Text.Blank

namespace SlideDeck

/-- A stretch of a block with a style. -/
structure StyleRun where
  start : Nat
  stop : Nat
  style : TextStyle
deriving DecidableEq

namespace StyleRun

/-- The run as JSON. -/
def toJson (r : StyleRun) : Json :=
  .object [("start", .ofNat r.start), ("end", .ofNat r.stop), ("style", r.style.toJson)]

/-- Reads a run. -/
def ofJson? (j : Json) : Option StyleRun :=
  match j.fields? ["start", "end", "style"] with
  | some [start, stop, style] => do
    some ⟨← start.toNat?, ← stop.toNat?, ← TextStyle.ofJson? style⟩
  | _ => none

end StyleRun

namespace ListKind

/-- The name of a kind of list. -/
def name : ListKind → String
  | ordered => "ordered"
  | unordered => "unordered"

/-- The kinds by name. -/
def table : List (String × ListKind) := [ordered, unordered].map fun k => (k.name, k)

/-- The kind as JSON. -/
def toJson (k : ListKind) : Json := .string k.name

/-- Reads a kind. -/
def ofJson? (j : Json) : Option ListKind := j.toUnitVariant? table

end ListKind

/-- A range of paragraphs that form one list, which may be nested. -/
structure ListMarker where
  start : Nat
  stop : Nat
  kind : ListKind
deriving Repr, DecidableEq

namespace ListMarker

/-- The marker as JSON. -/
def toJson (m : ListMarker) : Json :=
  .object [("start", .ofNat m.start), ("end", .ofNat m.stop), ("type", m.kind.toJson)]

/-- Reads a marker. -/
def ofJson? (j : Json) : Option ListMarker :=
  match j.fields? ["start", "end", "type"] with
  | some [start, stop, kind] => do
    some ⟨← start.toNat?, ← stop.toNat?, ← ListKind.ofJson? kind⟩
  | _ => none

end ListMarker

/-- Plain text with the styles and lists that apply to it. -/
structure TextBlock where
  rawText : String := ""
  runs : List StyleRun := []
  listMarkers : List ListMarker := []
  /-- The text is shown in a large format. -/
  big : Bool := false
deriving DecidableEq

namespace TextBlock

/-- A block without text. -/
def empty : TextBlock := {}

instance : Inhabited TextBlock := ⟨empty⟩

/-- A block of plain text. -/
def ofString (s : String) : TextBlock := { rawText := s }

/-- The number of characters. -/
def length (b : TextBlock) : Nat := b.rawText.length

/-- Whether there is no text. -/
def isEmpty (b : TextBlock) : Bool := b.rawText.isEmpty

/-- Whether the text is all white space. -/
def isBlank (b : TextBlock) : Bool := b.rawText.toList.all Text.isBlank

/-- Whether the last character is a line feed. -/
def endsWithNewline (b : TextBlock) : Bool := b.rawText.toList.getLast? == some '\n'

/-- A text without the line feeds at its end. -/
def trimNewlines (s : String) : String := String.ofList (Text.dropEndWhile (· == '\n') s.toList)

/-- A run cut off at a length, if anything that it styles is left. -/
def clampRun (length : Nat) (r : StyleRun) : Option StyleRun :=
  let r := { r with stop := min r.stop length }
  if r.start < r.stop && !r.style.isEmpty then some r else none

/-- A marker cut off at a length, if anything of it is left. -/
def clampMarker (length : Nat) (m : ListMarker) : Option ListMarker :=
  let m := { m with stop := min m.stop length }
  if m.start < m.stop then some m else none

/-- Seals a block: line feeds at its end are dropped, ranges are cut off where the text now
ends, and those that are left empty, or style nothing, are dropped too. -/
def finish (b : TextBlock) : TextBlock :=
  let text := trimNewlines b.rawText
  { b with
    rawText := text
    runs := b.runs.filterMap (clampRun text.length)
    listMarkers := b.listMarkers.filterMap (clampMarker text.length) }

/-- The block as JSON. -/
def toJson (b : TextBlock) : Json :=
  .object [("rawText", .string b.rawText), ("runs", .ofList StyleRun.toJson b.runs),
    ("listMarkers", .ofList ListMarker.toJson b.listMarkers), ("big", .bool b.big)]

/-- Reads a block. -/
def ofJson? (j : Json) : Option TextBlock :=
  match j.fields? ["rawText", "runs", "listMarkers", "big"] with
  | some [rawText, runs, listMarkers, big] => do
    some ⟨← rawText.toString?, ← runs.toList? StyleRun.ofJson?,
      ← listMarkers.toList? ListMarker.ofJson?, ← big.toBool?⟩
  | _ => none

end TextBlock

end SlideDeck

/-
The requests that put a block of text into a shape or a cell.

The text is inserted first, then each run is given its style, then the lists are made.  Making
a list removes the tabs in front of its paragraphs, which moves all text after them, so the
last list is made first.
-/
import SlideDeck.Request
import SlideDeck.Slide.TextBlock

namespace SlideDeck.Plan

/-- The glyphs of a kind of list. -/
def bulletPreset : ListKind → BulletPreset
  | .ordered => .numberedDigitAlphaRoman
  | .unordered => .bulletDiscCircleSquare

/-- The names of some fields as an update takes them. -/
def maskText (names : List String) : String := String.intercalate "," names

/-- The request that gives a run its style; none if the style sets nothing. -/
def styleRequest? (objectId : String) (cell : Option CellLocation) (r : StyleRun) :
    Option Request :=
  if r.style.fieldMask.isEmpty then none
  else some (.updateTextStyle {
    objectId := objectId
    cellLocation := cell
    style := r.style
    textRange := TextRange.fixed r.start r.stop
    fields := maskText r.style.fieldMask })

/-- The request that makes a list. -/
def bulletRequest (objectId : String) (cell : Option CellLocation) (m : ListMarker) : Request :=
  .createParagraphBullets {
    objectId := objectId
    cellLocation := cell
    textRange := TextRange.fixed m.start m.stop
    bulletPreset := bulletPreset m.kind }

/-- The lists of a block in the order in which they are made: those that begin later first, and
those that begin at the same place as they are. -/
def markersFromEnd (markers : List ListMarker) : List ListMarker :=
  markers.mergeSort fun a b => b.start ≤ a.start

/-- The requests that put a block into a shape or a cell; none if there is no text. -/
def textRequests (objectId : String) (cell : Option CellLocation) (b : TextBlock) :
    List Request :=
  if b.isEmpty then []
  else
    .insertText ⟨objectId, cell, b.rawText, 0⟩ ::
      b.runs.filterMap (styleRequest? objectId cell) ++
      (markersFromEnd b.listMarkers).map (bulletRequest objectId cell)

end SlideDeck.Plan

/-
Planning what goes onto slides that were created.

The deck is taken as it is after the creation of the slides, since the ids of placeholders
are known only then.  Text goes into the placeholders of the slide, tables and images are
made beside them, and notes go into the shape for them.  What finds no place is left out with
a notice.
-/
import SlideDeck.Deck.Presentation
import SlideDeck.Plan.Basic
import SlideDeck.Plan.Text
import SlideDeck.Slide.Basic

namespace SlideDeck.Plan

/-! ### Text -/

/-- The requests for a block that goes into an element, or a notice if there is none. -/
def place (target : Option PageElement) (missing : Notice) (b : TextBlock) :
    Plan σ (List Request) :=
  match target with
  | some e => return textRequests e.objectId none b
  | none => do
    notice missing
    return []

/-- The requests for an optional block that goes into an element. -/
def placeOptional (target : Option PageElement) (missing : Notice) :
    Option TextBlock → Plan σ (List Request)
  | none => return []
  | some b => place target missing b

/-- The requests for the bodies of a slide, the first of which is for a given column.  Each goes
into one of the elements in order. -/
def placeBodies (slideId : String) (column : Nat) :
    List PageElement → List Body → Plan σ (List Request)
  | _, [] => return []
  | targets, b :: rest => do
    let here ← place targets.head? (.noBodyPlaceholder slideId column) b.text
    let there ← placeBodies slideId (column + 1) targets.tail rest
    return here ++ there

/-! ### Tables and images -/

/-- The requests for a row of cells, the first of which has a given index. -/
def rowRequests (tableId : String) (row : Nat) : Nat → List TextBlock → List Request
  | _, [] => []
  | column, cell :: rest =>
    textRequests tableId (some ⟨row, column⟩) cell ++ rowRequests tableId row (column + 1) rest

/-- The requests for rows of cells, the first of which has a given index. -/
def cellRequests (tableId : String) : Nat → List (List TextBlock) → List Request
  | _, [] => []
  | row, cells :: rest => rowRequests tableId row 0 cells ++ cellRequests tableId (row + 1) rest

/-- The requests that make a table and fill its cells. -/
def placeTable (ids : IdSource σ) (slideId : String) (t : Table) : Plan σ (List Request) := do
  let tableId ← nextId ids
  return .createTable ⟨tableId, ElementProperties.onPage slideId, t.rows, t.columns⟩ ::
    cellRequests tableId 0 t.cells

/-- The placement of an image that covers a page of given width and height. -/
def coverPage (slideId : String) (width height : Float) : ElementProperties :=
  ⟨slideId, some ⟨some (Dimension.emu width), some (Dimension.emu height)⟩,
    some (AffineTransform.translateEmu 0 0)⟩

/-- The requests that make an image.  A background covers the page and goes behind everything
else; if the size of the page is not known, it is placed as any image. -/
def placeImage (ids : IdSource σ) (deck : Presentation) (slideId : String) (image : Image) :
    Plan σ (List Request) := do
  let imageId ← nextId ids
  if image.background then
    match deck.pageDimensions? with
    | some (width, height) =>
      return [.createImage ⟨imageId, image.url, coverPage slideId width height⟩,
        .updateZOrder ⟨[imageId], .sendToBack⟩]
    | none => do
      notice (.pageSizeUnknown image.url)
      return [.createImage ⟨imageId, image.url, ElementProperties.onPage slideId⟩]
  else
    return [.createImage ⟨imageId, image.url, ElementProperties.onPage slideId⟩]

/-! ### Slides -/

/-- The requests for the notes of a slide. -/
def placeNotes (deck : Presentation) (slideId : String) (notes : Option String) :
    Plan σ (List Request) :=
  match notes.filter (!·.isEmpty) with
  | none => return []
  | some text =>
    match deck.speakerNotesId? slideId with
    | some notesId => return [.insertText ⟨notesId, none, text, 0⟩]
    | none => do
      notice (.noNotesShape slideId)
      return []

/-- The id of a slide that can be populated: it was created, it is in the deck, and it has no
more than one table. -/
def populatedId? (deck : Presentation) (s : Slide) : Except Failure String :=
  match s.objectId with
  | none => .error .notCreated
  | some slideId =>
    if (deck.findSlide? slideId).isNone then .error (.slideNotFound slideId deck.presentationId)
    else if 1 < s.tables.length then .error .severalTables
    else .ok slideId

/-- The requests that put everything onto a slide that is in the deck. -/
def placeAll (ids : IdSource σ) (deck : Presentation) (slideId : String) (s : Slide) :
    Plan σ (List Request) := do
  let title ← placeOptional (deck.findFirstPlaceholder? slideId PlaceholderRole.titles)
    (.noTitlePlaceholder slideId) s.title
  let subtitle ← placeOptional (deck.findFirstPlaceholder? slideId [.subtitle])
    (.noSubtitlePlaceholder slideId) s.subtitle
  let bodies ← placeBodies slideId 1 (deck.findPlaceholders slideId .body) s.bodies
  let table ← collect (placeTable ids slideId) (s.tables.take 1)
  let images ← collect (placeImage ids deck slideId) s.images
  let notes ← placeNotes deck slideId s.notes
  return title ++ subtitle ++ bodies ++ table ++ images ++ notes

/-- Plans what goes onto one slide. -/
def populateSlide (ids : IdSource σ) (deck : Presentation) (s : Slide) : Plan σ (List Request) :=
  match populatedId? deck s with
  | .error e => fail e
  | .ok slideId => placeAll ids deck slideId s

/-- Plans what goes onto some slides. -/
def planPopulation (ids : IdSource σ) (deck : Presentation) (slides : List Slide) :
    Plan σ Batch := do
  let requests ← collect (populateSlide ids deck) slides
  notice (.populationPlanned requests.length deck.presentationId)
  return ⟨requests⟩

end SlideDeck.Plan

/-
A presentation as the server gives it, and what the planner asks of it.

Slides are found by id, the first if an id is repeated.  The placeholders of a slide with
some role are taken in the order of their place on the page, from top to bottom and then
from left to right; those at the same place stay in the order of the page.
-/
import SlideDeck.Deck.Page

namespace SlideDeck

/-- A presentation. -/
structure Presentation where
  presentationId : String
  pageSize : Option Size
  slides : Option (List Page)
  title : Option String
  layouts : Option (List Page)
  revisionId : Option String

namespace Presentation

/-- The presentation as JSON. -/
def toJson (p : Presentation) : Json :=
  .object [("presentationId", .string p.presentationId),
    ("pageSize", .nullable Size.toJson p.pageSize),
    ("slides", .nullable (Json.ofList Page.toJson) p.slides),
    ("title", .nullable .string p.title),
    ("layouts", .nullable (Json.ofList Page.toJson) p.layouts),
    ("revisionId", .nullable .string p.revisionId)]

/-- Reads a presentation. -/
def ofJson? (j : Json) : Option Presentation :=
  match j.fields? ["presentationId", "pageSize", "slides", "title", "layouts", "revisionId"] with
  | some [presentationId, pageSize, slides, title, layouts, revisionId] => do
    some ⟨← presentationId.toString?, ← pageSize.toOption? Size.ofJson?,
      ← slides.toOption? (Json.toList? Page.ofJson?), ← title.toOption? Json.toString?,
      ← layouts.toOption? (Json.toList? Page.ofJson?), ← revisionId.toOption? Json.toString?⟩
  | _ => none

/-! ### Slides and placeholders -/

/-- The pages that are slides. -/
def slidePages (p : Presentation) : List Page := p.slides.getD []

/-- The first slide with an id. -/
def findSlide? (p : Presentation) (slideId : String) : Option Page :=
  p.slidePages.find? (·.objectId == slideId)

/-- The ids of the slides. -/
def slideIds (p : Presentation) : List String := p.slidePages.map (·.objectId)

/-- Whether an element stands no further down than another and, at the same height, no further
to the right. -/
def placedBefore (a b : PageElement) : Bool :=
  if a.translateY < b.translateY then true
  else if b.translateY < a.translateY then false
  else !(b.translateX < a.translateX)

/-- The elements of a slide with a role, from top to bottom and then from left to right. -/
def findPlaceholders (p : Presentation) (slideId : String) (role : PlaceholderRole) :
    List PageElement :=
  match p.findSlide? slideId with
  | none => []
  | some page => (page.elements.filter fun e => e.role? == some role).mergeSort placedBefore

/-- The first element with any of some roles, the first role being preferred. -/
def findFirstPlaceholder? (p : Presentation) (slideId : String) (roles : List PlaceholderRole) :
    Option PageElement :=
  roles.findSome? fun role => (p.findPlaceholders slideId role).head?

/-- The shape that holds the speaker notes of a slide. -/
def speakerNotesId? (p : Presentation) (slideId : String) : Option String := do
  let page ← p.findSlide? slideId
  let properties ← page.slideProperties
  let notes ← properties.notesPage
  let notesProperties ← notes.notesProperties
  notesProperties.speakerNotesObjectId

/-! ### Page size and layouts -/

/-- How many English metric units a point has. -/
def emuPerPoint : Float := 12700

/-- A length in English metric units, if its unit says how to convert it. -/
def dimensionInEmu? (d : Dimension) : Option Float := do
  let magnitude ← d.magnitude
  match d.unit with
  | some .pt => some (magnitude * emuPerPoint)
  | some .emu => some magnitude
  | _ => none

/-- The width and height of a page in English metric units. -/
def pageDimensions? (p : Presentation) : Option (Float × Float) := do
  let size ← p.pageSize
  let width ← dimensionInEmu? (← size.width)
  let height ← dimensionInEmu? (← size.height)
  some (width, height)

/-- The named layouts with their ids, in the order of the deck.  A name that is repeated keeps
its place and takes the later id. -/
def putLayout (layouts : List (String × String)) (name id : String) : List (String × String) :=
  match layouts with
  | [] => [(name, id)]
  | l :: ls => if l.1 == name then (name, id) :: ls else l :: putLayout ls name id

/-- The name and id of a layout that has a name. -/
def namedLayout? (page : Page) : Option (String × String) := do
  let properties ← page.layoutProperties
  let name ← properties.name
  some (name, page.objectId)

/-- The named layouts with their ids, in the order of the deck. -/
def layoutIds (p : Presentation) : List (String × String) :=
  ((p.layouts.getD []).filterMap namedLayout?).foldl (fun ls l => putLayout ls l.1 l.2) []

end Presentation

end SlideDeck

/-
The pages of a presentation.

A slide names its layout and holds a page of its own for the speaker notes; a layout has a
name; a page of notes says which shape holds the notes.  Pages and the properties of slides
therefore contain each other.
-/
import SlideDeck.Deck.Element

namespace SlideDeck

/-- What a page is for. -/
inductive PageType where
  | unspecified
  | slide
  | master
  | layout
  | notes
  | notesMaster
deriving Repr, DecidableEq

namespace PageType

/-- The name of a type. -/
def name : PageType → String
  | unspecified => "PAGE_TYPE_UNSPECIFIED"
  | slide => "SLIDE"
  | master => "MASTER"
  | layout => "LAYOUT"
  | notes => "NOTES"
  | notesMaster => "NOTES_MASTER"

/-- The types by name. -/
def table : List (String × PageType) :=
  [unspecified, slide, master, layout, notes, notesMaster].map fun t => (t.name, t)

/-- The type as JSON. -/
def toJson (t : PageType) : Json := .string t.name

/-- Reads a type. -/
def ofJson? (j : Json) : Option PageType := j.toUnitVariant? table

end PageType

/-- What is particular to a layout. -/
structure LayoutProperties where
  masterObjectId : Option String
  name : Option String
  displayName : Option String
deriving Repr, DecidableEq

namespace LayoutProperties

/-- The properties as JSON. -/
def toJson (p : LayoutProperties) : Json :=
  .object [("masterObjectId", .nullable .string p.masterObjectId),
    ("name", .nullable .string p.name), ("displayName", .nullable .string p.displayName)]

/-- Reads the properties. -/
def ofJson? (j : Json) : Option LayoutProperties :=
  match j.fields? ["masterObjectId", "name", "displayName"] with
  | some [masterObjectId, name, displayName] => do
    some ⟨← masterObjectId.toOption? Json.toString?, ← name.toOption? Json.toString?,
      ← displayName.toOption? Json.toString?⟩
  | _ => none

end LayoutProperties

/-- What is particular to a page of notes. -/
structure NotesProperties where
  speakerNotesObjectId : Option String
deriving Repr, DecidableEq

namespace NotesProperties

/-- The properties as JSON. -/
def toJson (p : NotesProperties) : Json :=
  .object [("speakerNotesObjectId", .nullable .string p.speakerNotesObjectId)]

/-- Reads the properties. -/
def ofJson? (j : Json) : Option NotesProperties :=
  match j.fields? ["speakerNotesObjectId"] with
  | some [speakerNotesObjectId] => do
    some ⟨← speakerNotesObjectId.toOption? Json.toString?⟩
  | _ => none

end NotesProperties

mutual

/-- A page of a presentation. -/
structure Page where
  objectId : String
  pageType : Option PageType
  pageElements : Option (List PageElement)
  slideProperties : Option SlideProperties
  layoutProperties : Option LayoutProperties
  notesProperties : Option NotesProperties

/-- What is particular to a slide. -/
structure SlideProperties where
  layoutObjectId : Option String
  masterObjectId : Option String
  notesPage : Option Page

end

mutual

/-- The page as JSON. -/
def Page.toJson : Page → Json
  | ⟨objectId, pageType, pageElements, slideProperties, layoutProperties, notesProperties⟩ =>
    .object [("objectId", .string objectId), ("pageType", .nullable PageType.toJson pageType),
      ("pageElements", .nullable (Json.ofList PageElement.toJson) pageElements),
      ("slideProperties",
        match slideProperties with
        | none => .null
        | some p => p.toJson),
      ("layoutProperties", .nullable LayoutProperties.toJson layoutProperties),
      ("notesProperties", .nullable NotesProperties.toJson notesProperties)]

/-- The properties as JSON. -/
def SlideProperties.toJson : SlideProperties → Json
  | ⟨layoutObjectId, masterObjectId, notesPage⟩ =>
    .object [("layoutObjectId", .nullable .string layoutObjectId),
      ("masterObjectId", .nullable .string masterObjectId),
      ("notesPage",
        match notesPage with
        | none => .null
        | some p => p.toJson)]

end

mutual

/-- Reads a page. -/
def Page.ofJson? (j : Json) : Option Page :=
  match _h : j.fields? ["objectId", "pageType", "pageElements", "slideProperties",
    "layoutProperties", "notesProperties"] with
  | some [objectId, pageType, pageElements, slideProperties, layoutProperties,
      notesProperties] => do
    some ⟨← objectId.toString?, ← pageType.toOption? PageType.ofJson?,
      ← pageElements.toOption? (Json.toList? PageElement.ofJson?),
      ← if slideProperties.isNull then some none
        else (SlideProperties.ofJson? slideProperties).map some,
      ← layoutProperties.toOption? LayoutProperties.ofJson?,
      ← notesProperties.toOption? NotesProperties.ofJson?⟩
  | _ => none
termination_by sizeOf j
decreasing_by exact Json.sizeOf_fields?_lt _h (by simp)

/-- Reads the properties of a slide. -/
def SlideProperties.ofJson? (j : Json) : Option SlideProperties :=
  match _h : j.fields? ["layoutObjectId", "masterObjectId", "notesPage"] with
  | some [layoutObjectId, masterObjectId, notesPage] => do
    some ⟨← layoutObjectId.toOption? Json.toString?, ← masterObjectId.toOption? Json.toString?,
      ← if notesPage.isNull then some none else (Page.ofJson? notesPage).map some⟩
  | _ => none
termination_by sizeOf j
decreasing_by exact Json.sizeOf_fields?_lt _h (by simp)

end

namespace Page

/-- The elements of a page, none if they are not given. -/
def elements (p : Page) : List PageElement := p.pageElements.getD []

end Page

end SlideDeck

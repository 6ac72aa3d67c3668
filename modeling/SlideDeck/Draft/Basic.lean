/-
Slides that are being written.

A draft has the slides that are complete, the slide that is being written and the block that
takes the text.  A heading or a table takes the text for itself for a while; the block that
had it is then set aside with its styles and comes back untouched.  The same rules make plain
notes of a comment; there everything flows into one block.
-/
import SlideDeck.Attributes.Basic
import SlideDeck.Draft.OpenBlock
import SlideDeck.Slide.Basic

namespace SlideDeck

/-- What is being written. -/
inductive DraftMode where
  /-- Slides, with headings, columns, tables, images and notes. -/
  | document
  /-- The notes of one comment, in a single block. -/
  | notes
deriving Repr, DecidableEq

/-- A list that is being written. -/
structure OpenList where
  kind : ListKind
  /-- How many lists are open inside the outermost one. -/
  depth : Nat
  /-- Where the outermost list begins. -/
  start : Nat
deriving Repr, DecidableEq

/-- A table that is being written: its complete rows and the cells of the next one. -/
structure OpenTable where
  rows : List (List TextBlock)
  row : List TextBlock
deriving DecidableEq

namespace OpenTable

/-- A table without rows. -/
def empty : OpenTable := ⟨[], []⟩

instance : Inhabited OpenTable := ⟨empty⟩

/-- Drops the cells of an incomplete row. -/
def openRow (t : OpenTable) : OpenTable := { t with row := [] }

/-- Adds a cell to the row. -/
def addCell (t : OpenTable) (cell : TextBlock) : OpenTable := { t with row := t.row ++ [cell] }

/-- Completes the row. -/
def closeRow (t : OpenTable) : OpenTable := ⟨t.rows ++ [t.row], []⟩

end OpenTable

/-- Slides that are being written. -/
structure Draft where
  mode : DraftMode
  /-- The complete slides. -/
  slides : List Slide := []
  /-- The slide that is being written, apart from the text that is still open. -/
  slide : Slide := Slide.empty
  /-- What takes the text. -/
  block : OpenBlock := OpenBlock.empty
  /-- What is set aside, the last one first. -/
  parked : List OpenBlock := []
  list : Option OpenList := none
  table : Option OpenTable := none
  /-- Images cover the page in the paragraph that is open. -/
  backgroundParagraph : Bool := false
  /-- A token was taken already. -/
  started : Bool := false
deriving DecidableEq

namespace Draft

/-- A draft with nothing written. -/
def empty (mode : DraftMode) : Draft := { mode := mode }

/-- Whether slides are being written. -/
def inDocument (d : Draft) : Bool := d.mode == .document

/-! ### Text -/

/-- Changes the block that takes the text. -/
def onBlock (d : Draft) (f : OpenBlock → OpenBlock) : Draft := { d with block := f d.block }

/-- Changes the block that takes the text, with notices. -/
def onBlockLogged (d : Draft) (f : OpenBlock → Logged OpenBlock) : Logged Draft := do
  return { d with block := ← f d.block }

/-- Writes text. -/
def append (d : Draft) (s : String) : Draft := d.onBlock (·.append s)

/-- Ends the paragraph, if one has begun. -/
def breakParagraph (d : Draft) : Draft := d.onBlock (·.breakParagraph)

/-- Opens a style. -/
def openStyle (d : Draft) (style : TextStyle) (element : Option String) : Draft :=
  d.onBlock (·.openStyle style element)

/-- Closes a style. -/
def closeStyle (d : Draft) (element : Option String) : Logged Draft :=
  d.onBlockLogged (·.closeStyle element)

/-- Sets the open block aside and begins one. -/
def park (d : Draft) : Draft :=
  { d with block := OpenBlock.empty, parked := d.block :: d.parked }

/-- Takes up again what was set aside last. -/
def unpark (d : Draft) : Draft :=
  { d with block := d.parked.headD OpenBlock.empty, parked := d.parked.tail }

/-! ### Slides -/

/-- Ends the slide: text that is left makes its last body, unless it is blank. -/
def closeSlide (d : Draft) : Logged Draft := do
  let body ← d.block.close
  let slide :=
    if body.isBlank then d.slide else { d.slide with bodies := d.slide.bodies ++ [⟨body⟩] }
  return { d with
    slides := d.slides ++ [slide]
    slide := Slide.empty
    block := OpenBlock.empty }

/-- Begins a slide.  Nothing that is open goes on into it. -/
def openSlide (d : Draft) : Draft :=
  { d with
    slide := Slide.empty
    block := OpenBlock.empty
    parked := []
    list := none
    table := none }

/-- Ends a column: the text so far makes a body, even if there is none. -/
def closeColumn (d : Draft) : Logged Draft := do
  let body ← d.block.close
  return { d with
    slide := { d.slide with bodies := d.slide.bodies ++ [⟨body⟩] }
    block := OpenBlock.empty }

/-- Asks for a layout, if a name is given. -/
def chooseLayout (d : Draft) (name : Option String) : Draft :=
  match name with
  | some name =>
    if d.inDocument then { d with slide := { d.slide with customLayout := some name } } else d
  | none => d

/-- Puts an image on the slide; notes have its description instead. -/
def addImage (d : Draft) (src alt : String) : Draft :=
  match d.mode with
  | .document =>
    { d with slide :=
      { d.slide with images := d.slide.images ++ [⟨src, alt, d.backgroundParagraph⟩] } }
  | .notes => d.append alt

/-! ### Headings -/

/-- Whether a heading of a level is the title or subtitle of the slide. -/
def isSlideHeading (d : Draft) (level : Nat) : Bool :=
  d.inDocument && level ≤ 2 && d.table.isNone

/-- The style of a heading that stands in the text. -/
def headingStyle (mode : DraftMode) (level : Nat) : TextStyle :=
  if mode == .notes || 2 < level then { bold := some true } else TextStyle.empty

/-- Makes a block the title or the subtitle; the last one on a slide counts. -/
def setHeading (d : Draft) (level : Nat) (heading : TextBlock) : Logged Draft := do
  let earlier := if level == 1 then d.slide.title else d.slide.subtitle
  if earlier.isSome then
    Logged.notice (.headingReplaced level)
  return { d with slide :=
    if level == 1 then { d.slide with title := some heading }
    else { d.slide with subtitle := some heading } }

/-- Begins a heading. -/
def openHeading (d : Draft) (level : Nat) (attributes : Attributes) : Draft :=
  let d :=
    if d.isSlideHeading level then
      if attributes.hasClass "big" then d.park.onBlock (·.makeBig) else d.park
    else d.breakParagraph
  (d.chooseLayout (attributes.get? "layout")).openStyle (headingStyle d.mode level) none

/-- Ends a heading. -/
def closeHeading (d : Draft) (level : Nat) : Logged Draft := do
  let d ← d.closeStyle none
  if d.isSlideHeading level then
    let heading ← d.block.close
    d.unpark.setHeading level heading
  else
    return d.breakParagraph

/-! ### Paragraphs -/

/-- Begins a paragraph, which may begin a column, a large format or a background. -/
def openParagraph (d : Draft) (attributes : Attributes) : Logged Draft := do
  if d.inDocument then
    let d ← if attributes.hasClass "column" then d.closeColumn else pure d
    let d := if attributes.hasClass "big" then d.onBlock (·.makeBig) else d
    return { d.chooseLayout (attributes.get? "layout") with
      backgroundParagraph := attributes.hasClass "background" }
  else
    return d

/-- Ends a paragraph. -/
def closeParagraph (d : Draft) : Draft := { d.breakParagraph with backgroundParagraph := false }

/-! ### Lists -/

/-- Begins a list.  Lists within lists must be of the same kind. -/
def openList (d : Draft) (kind : ListKind) : Logged Draft :=
  match d.list with
  | none =>
    let d := d.breakParagraph
    return { d with list := some ⟨kind, 0, d.block.text.length⟩ }
  | some l =>
    if l.kind == kind then return { d with list := some { l with depth := l.depth + 1 } }
    else Logged.fail .mixedLists

/-- Ends a list; the end of the outermost one marks its text. -/
def closeList (d : Draft) : Logged Draft :=
  match d.list with
  | none => do
    Logged.notice .listNotOpen
    return d
  | some l =>
    if 0 < l.depth then return { d with list := some { l with depth := l.depth - 1 } }
    else return { d.onBlock (·.mark l.start l.kind) with list := none }

/-- Begins an item, with a tab for each list around its own. -/
def openItem (d : Draft) : Draft :=
  let depth := (d.list.map (·.depth)).getD 0
  d.breakParagraph.append (String.ofList (List.replicate depth '\t'))

/-- Ends an item. -/
def closeItem (d : Draft) : Draft :=
  if d.block.text.endsWithNewline then d else d.append "\n"

/-! ### Tables -/

/-- Begins a table; notes have its rows as paragraphs. -/
def openTable (d : Draft) : Draft :=
  match d.mode with
  | .document => { d.park with table := some OpenTable.empty }
  | .notes => d.breakParagraph

/-- Begins a row. -/
def openRow (d : Draft) : Draft := { d with table := d.table.map OpenTable.openRow }

/-- Begins a cell; notes have a tab between cells. -/
def openCell (d : Draft) : Draft :=
  match d.mode with
  | .document => d.onBlock fun b => { b with text := TextBlock.empty }
  | .notes => if d.block.atParagraphStart then d else d.append "\t"

/-- Ends a cell. -/
def closeCell (d : Draft) : Logged Draft :=
  match d.table with
  | none => return d
  | some t => do
    let cell ← d.block.close
    return { d with table := some (t.addCell cell), block := OpenBlock.empty }

/-- Ends a row. -/
def closeRow (d : Draft) : Draft :=
  match d.table with
  | none => d.breakParagraph
  | some t => { d with table := some t.closeRow }

/-- Ends a table.  A slide takes one. -/
def closeTable (d : Draft) : Logged Draft :=
  match d.table with
  | none => return d
  | some t => do
    let _ ← d.block.closeStyles
    let d := { d.unpark with table := none }
    if d.slide.tables.isEmpty then
      return { d with slide := { d.slide with tables := [Table.ofCells t.rows] } }
    else
      Logged.fail .severalTables

end Draft

end SlideDeck

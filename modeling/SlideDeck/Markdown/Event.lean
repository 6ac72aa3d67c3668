/-
A document as a sequence of events.

Walking over the blocks of a document and the elements of their text, from front to back,
gives an event where something begins, where it ends, and for each thing that holds nothing
else.  The events of a document are well nested.  A tight paragraph gives no events of its
own, only those of its text.
-/
import SlideDeck.ListKind
import SlideDeck.Markdown.Reading

namespace SlideDeck.Markdown

/-- What begins. -/
inductive Tag where
  | paragraph
  /-- A heading, with its source from its first character to the end of its last line. -/
  | heading (level : Nat) (attributes : Attributes) (source : String)
  | quote
  | codeBlock (info : String)
  | htmlBlock
  | list (kind : ListKind)
  | item
  | table
  | row
  | cell
  | emphasis
  | strong
  | strikethrough
  | link (destination : String)
  | image (destination : String)
deriving Repr, DecidableEq

/-- What ends. -/
inductive TagEnd where
  | paragraph
  | heading (level : Nat)
  | quote
  | codeBlock
  | htmlBlock
  | list (kind : ListKind)
  | item
  | table
  | row
  | cell
  | emphasis
  | strong
  | strikethrough
  | link
  | image
deriving Repr, DecidableEq

/-- The end that belongs to a beginning. -/
def Tag.toEnd : Tag → TagEnd
  | paragraph => .paragraph
  | heading level _ _ => .heading level
  | quote => .quote
  | codeBlock _ => .codeBlock
  | htmlBlock => .htmlBlock
  | list kind => .list kind
  | item => .item
  | table => .table
  | row => .row
  | cell => .cell
  | emphasis => .emphasis
  | strong => .strong
  | strikethrough => .strikethrough
  | link _ => .link
  | image _ => .image

/-- One step of a walk over a document. -/
inductive Event where
  | start (tag : Tag)
  | stop (tag : TagEnd)
  | text (s : String)
  | code (s : String)
  /-- A line of a block of HTML. -/
  | html (s : String)
  | inlineHtml (s : String)
  | softBreak
  | hardBreak
  | rule
deriving Repr, DecidableEq

/-- Some events between the beginning and the end of what they belong to. -/
def Event.within (tag : Tag) (inner : List Event) : List Event :=
  .start tag :: inner ++ [.stop tag.toEnd]

mutual

/-- The events of an element of running text. -/
def Inline.events : Inline → List Event
  | .text s => [.text (String.ofList s)]
  | .marks mark count _ _ => [.text (String.ofList (List.replicate count mark))]
  | .code s => [.code (String.ofList s)]
  | .html s => [.inlineHtml (String.ofList s)]
  | .softBreak => [.softBreak]
  | .hardBreak _ => [.hardBreak]
  | .emphasis xs => Event.within .emphasis (Inline.eventsOf xs)
  | .strong xs => Event.within .strong (Inline.eventsOf xs)
  | .strikethrough xs => Event.within .strikethrough (Inline.eventsOf xs)
  | .link destination xs =>
    Event.within (.link (String.ofList destination)) (Inline.eventsOf xs)
  | .image destination xs =>
    Event.within (.image (String.ofList destination)) (Inline.eventsOf xs)

/-- The events of some elements in a row. -/
def Inline.eventsOf : List Inline → List Event
  | [] => []
  | x :: xs => x.events ++ Inline.eventsOf xs

end

/-- The events of a passage. -/
def Passage.events (s : Source) (ds : List Definition) (p : Passage) : List Event :=
  Inline.eventsOf (p.elements s ds)

/-- The events of a part of a block of HTML. -/
def HtmlPart.event : HtmlPart → Event
  | .indent columns => .text (String.ofList (List.replicate columns ' '))
  | .line text => .html (String.ofList text)

/-- The kind of list that has a number before its items, or has not. -/
def listKind (ordered : Bool) : ListKind := if ordered then .ordered else .unordered

mutual

/-- The events of a block. -/
def Block.events (s : Source) (ds : List Definition) : Block → List Event
  | .quote bs => Event.within .quote (Block.eventsOf s ds bs)
  | .list ordered bs => Event.within (.list (listKind ordered)) (Block.eventsOf s ds bs)
  | .item bs => Event.within .item (Block.eventsOf s ds bs)
  | .paragraph true p => p.events s ds
  | .paragraph false p => Event.within .paragraph (p.events s ds)
  | .heading level attributes start stop p =>
    Event.within (.heading level attributes (String.ofList (s.slice start stop))) (p.events s ds)
  | .code info lines =>
    Event.within (.codeBlock (String.ofList info))
      (lines.map fun line => .text (String.ofList line))
  | .html parts => Event.within .htmlBlock (parts.map HtmlPart.event)
  | .table rows =>
    Event.within .table (rows.flatMap fun row =>
      Event.within .row (row.flatMap fun cell => Event.within .cell (cell.events s ds)))
  | .rule => [.rule]

/-- The events of some blocks in a row. -/
def Block.eventsOf (s : Source) (ds : List Definition) : List Block → List Event
  | [] => []
  | b :: bs => b.events s ds ++ Block.eventsOf s ds bs

end

/-- The events of a document. -/
def events (text : String) : List Event :=
  let s : Source := text.toList.toArray
  let d := readDocument s
  Block.eventsOf s d.definitions d.blocks

end SlideDeck.Markdown

/-
The blocks that are open at a place in a document.

Reading goes line by line.  The containers a line is inside of form a stack; a line first
shows which of them it continues, and the others are closed.  A list is tight until a blank
line is found between two of its items or between two blocks of one item, which is noticed
when the next item or block begins; the outline therefore remembers a blank line above, and
an item whose first line was blank, which may hold nothing if the next line is blank too.
-/
import SlideDeck.Markdown.Block
import SlideDeck.Markdown.Opening

namespace SlideDeck.Markdown

/-- An open container and the blocks found in it, last first. -/
structure Frame where
  container : Container
  content : List Block

namespace Frame

/-- The block that a frame is when it is closed. -/
def block (f : Frame) : Block :=
  let content := f.content.reverse
  match f.container with
  | .quote => .quote content
  | .item _ => .item content
  | .list marker tight =>
    .list (marker == '.' || marker == ')') (if tight then content.map Block.tightenItem else content)

end Frame

/-- The blocks of a document as far as they have been read. -/
structure Outline where
  /-- The open containers, innermost first. -/
  frames : List Frame
  /-- The blocks outside of all open containers, last first. -/
  content : List Block
  /-- The innermost container is an item that began with a blank line. -/
  emptyItem : Bool
  blankAbove : Bool
  definitions : List Definition

namespace Outline

/-- Nothing has been read. -/
def empty : Outline := ⟨[], [], false, false, []⟩

/-- The open containers, outermost first. -/
def containers (o : Outline) : List Container := (o.frames.map (·.container)).reverse

/-- Adds a block to the innermost container. -/
def add (o : Outline) (b : Block) : Outline :=
  match o.frames with
  | [] => { o with content := b :: o.content }
  | f :: fs => { o with frames := { f with content := b :: f.content } :: fs }

/-- Opens a container. -/
def enter (o : Outline) (k : Container) : Outline := { o with frames := ⟨k, []⟩ :: o.frames }

/-- Closes the innermost container. -/
def close (o : Outline) : Outline :=
  match o.frames with
  | [] => o
  | f :: fs =>
    let o := { o with frames := fs }.add f.block
    match f.container with
    | .list _ true => { o with emptyItem := false }
    | _ => o

/-- Closes containers until `n` are open; at most `fuel` are closed. -/
def closeTo (n : Nat) : Nat → Outline → Outline
  | 0, o => o
  | fuel + 1, o => if n < o.frames.length then closeTo n fuel o.close else o

/-- Closes an item that began with a blank line and was followed by another. -/
def closeEmptyItem (o : Outline) : Outline :=
  let o :=
    match o.emptyItem, o.blankAbove, o.frames with
    | true, true, ⟨.item _, _⟩ :: _ => o.close
    | _, _, _ => o
  { o with emptyItem := false }

/-- Makes a list loose. -/
def loosen (f : Frame) : Frame :=
  match f.container with
  | .list marker _ => { f with container := .list marker false }
  | _ => f

/-- Ends a list before a block that is no item of it.  A blank line above parts two blocks of
one item, so the list around that item is loose. -/
def endList (o : Outline) : Outline :=
  let o := o.closeEmptyItem
  let o :=
    match o.frames with
    | ⟨.list _ _, _⟩ :: _ => o.close
    | _ => o
  if o.blankAbove then
    let frames :=
      match o.frames with
      | f :: g :: fs => f :: loosen g :: fs
      | fs => fs
    { o with frames := frames, blankAbove := false }
  else o

/-- Goes on with the innermost list if it has the same marker, or begins a new one. -/
def continueList (o : Outline) (mark : Char) : Outline :=
  let o := o.closeEmptyItem
  let fresh (o : Outline) : Outline := { o.enter (.list mark true) with blankAbove := false }
  match o.frames with
  | [] => fresh o
  | f :: fs =>
    match f.container with
    | .list marker _ =>
      if marker == mark then
        if o.blankAbove then { o with frames := loosen f :: fs, blankAbove := false } else o
      else fresh o.endList
    | _ => fresh o.endList

/-- Notes a blank line.  An item that began with a blank line takes nothing more. -/
def blank (o : Outline) : Outline :=
  match o.frames with
  | ⟨.quote, _⟩ :: _ => o
  | ⟨.item _, content⟩ :: fs =>
    if o.emptyItem then { o with frames := ⟨.item 0, content⟩ :: fs, blankAbove := true }
    else { o with blankAbove := true }
  | _ => { o with blankAbove := true }

/-- A passage in the innermost container. -/
def passage (o : Outline) (pieces : List Piece) (stop : Nat) : Passage :=
  ⟨pieces, stop, o.containers, false⟩

end Outline

/-! ### What interrupts a paragraph -/

/-- The pipes on the line at a place, if another line follows.  A backslash takes a pipe's
meaning away. -/
def pipes? (s : Source) (i : Nat) : Option Pipes :=
  let stop := s.seek isLineEnd i
  if stop < s.size then
    let places := (List.range (stop - i)).map (i + ·) |>.filter fun j =>
      s.is j '|' && !(i < j && s.is (j - 1) '\\')
    some ⟨places.length, places.getLast?.getD i, stop + (s.lineEnd? stop).getD 0⟩
  else none

/-- The table whose head is the line at a place: its number of columns, and where the lines
after its delimiter row begin. -/
def tableHead? (s : Source) (ks : List Container) (i : Nat) : Option (Nat × Nat) :=
  match pipes? s i with
  | none => none
  | some p =>
    if p.count == 0 then none
    else
      let (n, c) := Container.enterAll s ks (Cursor.start p.next)
      if n < ks.length then none
      else match delimiterRow? s c.pos with
        | none => none
        | some (stop, columns) =>
          if columns == p.columns s i then some (columns, stop) else none

/-- Whether a block other than a table begins at a place where a paragraph or a row might go
on.  Inside the containers of a paragraph only an item that has text, and is unnumbered or
numbered one, interrupts it. -/
def interruptsPlainly (s : Source) (i : Nat) (within inTable : Bool) : Bool :=
  (s.lineEnd? i).isSome || (breakEnd? s i).isSome || (headingLevel? s i).isSome ||
    (fence? s i).isSome || s.is i '>' ||
    (match interruptingMarker? s i with
      | none => false
      | some (stop, first) => !within || inTable || (first && !emptyItemRest s stop)) ||
    (s.is i '<' && ((RawHtml.closing? s (i + 1)).isSome || RawHtml.beginsElement s (i + 1)))

/-- Whether a block begins at a place where a paragraph might go on. -/
def interrupts (s : Source) (ks : List Container) (i : Nat) (within : Bool) : Bool :=
  interruptsPlainly s i within false || (s.is i '|' && (tableHead? s ks i).isSome)

end SlideDeck.Markdown

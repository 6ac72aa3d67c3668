/-
Reading a whole document into blocks.

A step begins at the start of a line.  It finds out which containers the line continues,
opens those that begin on it, and reads one leaf block, which may take several lines; the
next step begins after it.  The steps go on until the document is used up.
-/
import SlideDeck.Markdown.Leaf

namespace SlideDeck.Markdown

/-- A line after the marks of all its containers: either nothing more is on it, since it
holds the marker of an item and then only blanks, or its text begins at a cursor. -/
inductive LineText where
  | bareMarker (next : Nat)
  | at (c : Cursor)

/-- Opens the containers that begin at a cursor. -/
def openContainers (s : Source) : Nat → Outline → Cursor → Outline × LineText
  | 0, o, c => (o, .at c)
  | fuel + 1, o, c =>
    let (missing, inner) := c.skip s 4
    if missing == 0 then (o, .at c)
    else match marker? s inner (4 - missing) with
      | some m =>
        let o := (o.continueList m.mark).enter (.item m.indent)
        match s.blankRest? m.next.pos with
        | some n => ({ o with emptyItem := true }, .bareMarker (m.next.pos + n))
        | none => openContainers s fuel o m.next
      | none =>
        if s.is inner.pos '>' then
          openContainers s fuel (o.endList.enter .quote) ((inner.advance 1).skip s 1).2
        else (o, .at c)

/-- Reads definitions as long as there are any, then a paragraph, at `i`.  A definition may be
followed by lines that go on with the paragraph it might have been. -/
def readText (s : Source) : Nat → Outline → Nat → Outline × Nat
  | 0, o, i => (o, i)
  | fuel + 1, o, i =>
    let ks := o.containers
    match definition? s ks i with
    | none =>
      let o := o.endList
      let (b, next) := paragraphBlock s o.containers i
      (o.add b, next)
    | some (stop, d) =>
      let o := { o with definitions := o.definitions ++ [d] }
      match s.blankRest? stop with
      | none => (o.endList, stop)
      | some n =>
        let (entered, c) := Container.enterAll s ks (Cursor.start (stop + n))
        let (missing, c) := c.skip s 4
        if missing != 0 && interrupts s ks c.pos (entered == ks.length) then
          (o.endList, stop + n)
        else readText s fuel o (c.skipBlanks s).pos

/-- Reads the leaf block at a cursor. -/
def readLeaf (s : Source) (o : Outline) (c : Cursor) : Outline × Nat :=
  let (missing, c) := c.skip s 4
  let i := c.pos
  let indent := 4 - missing
  let ended := o.endList
  let ks := ended.containers
  let leaf (found : Block × Nat) : Outline × Nat := (ended.add found.1, found.2)
  if missing == 0 then
    let (b, next, blank) := indentedBlock s ks i c.pending
    ({ ended.add b with blankAbove := blank }, next)
  else
    let closing := if s.is i '<' then RawHtml.closing? s (i + 1) else none
    if closing.isSome then leaf (htmlBlock s ks closing i indent)
    else if s.is i '<' && (RawHtml.beginsElement s (i + 1) || RawHtml.beginsTagLine s i) then
      leaf (htmlBlock s ks none i indent)
    else match breakEnd? s i with
      | some next => leaf (.rule, next)
      | none =>
        match headingLevel? s i with
        | some level => leaf (headingBlock s ks level i)
        | none =>
          match fence? s i with
          | some fence => leaf (fencedBlock s ks fence indent i)
          | none => readText s (s.size + 1) o i

/-- Reads the line at `i`, or the block that begins on it; gives where reading goes on. -/
def readBlock (s : Source) (o : Outline) (i : Nat) : Outline × Nat :=
  let (n, c) := Container.enterAll s o.containers (Cursor.start i)
  let o := o.closeTo n o.frames.length
  match openContainers s (s.size + 1) o c with
  | (o, .bareMarker next) => (o, next)
  | (o, .at c) =>
    match s.blankRest? c.pos with
    | some n => (o.blank, c.pos + n)
    | none => readLeaf s o c

/-- Reads blocks until the document is used up.  The bound is never reached: each step uses
up a character. -/
def readBlocks (s : Source) : Nat → Outline → Nat → Outline
  | 0, o, _ => o
  | fuel + 1, o, i =>
    if s.size ≤ i then o
    else
      let (o, next) := readBlock s o i
      readBlocks s fuel o next

/-- A document: its blocks, and what its labels are defined to be. -/
structure Document where
  blocks : List Block
  definitions : List Definition

/-- Reads a document. -/
def readDocument (s : Source) : Document :=
  let o := readBlocks s (s.size + 1) Outline.empty 0
  let o := o.closeTo 0 o.frames.length
  ⟨o.content.reverse, o.definitions⟩

end SlideDeck.Markdown

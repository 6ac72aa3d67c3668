/-
A block of text that is being written.

While a block is open its text only grows at the end.  A style that is opened remembers where
the text then ended, and when it is closed it becomes a run up to where the text ends now.
Styles of the markup and styles of HTML elements are told apart, so that a stray tag closes
nothing but an element of its own name.
-/
import SlideDeck.Logged
import SlideDeck.Slide.TextBlock

namespace SlideDeck

/-- A style that is open. -/
structure OpenStyle where
  /-- Where the text ended when the style was opened. -/
  start : Nat
  style : TextStyle
  /-- The HTML element that opened the style, if one did. -/
  element : Option String
deriving DecidableEq

/-- A block that is being written, with the styles that are open, innermost first. -/
structure OpenBlock where
  text : TextBlock
  styles : List OpenStyle
deriving DecidableEq

namespace OpenBlock

/-- A block with nothing written yet. -/
def empty : OpenBlock := ⟨TextBlock.empty, []⟩

instance : Inhabited OpenBlock := ⟨empty⟩

/-! ### Writing -/

/-- Writes text at the end. -/
def append (b : OpenBlock) (s : String) : OpenBlock :=
  { b with text := { b.text with rawText := b.text.rawText ++ s } }

/-- Whether text written next would begin a paragraph. -/
def atParagraphStart (b : OpenBlock) : Bool := b.text.isEmpty || b.text.endsWithNewline

/-- Ends the paragraph, if one has begun. -/
def breakParagraph (b : OpenBlock) : OpenBlock :=
  if b.atParagraphStart then b else b.append "\n"

/-- Shows the text in a large format. -/
def makeBig (b : OpenBlock) : OpenBlock := { b with text := { b.text with big := true } }

/-- Makes list items of the paragraphs from a place to the end. -/
def mark (b : OpenBlock) (start : Nat) (kind : ListKind) : OpenBlock :=
  { b with text :=
    { b.text with listMarkers := b.text.listMarkers ++ [⟨start, b.text.length, kind⟩] } }

/-! ### Styles -/

/-- Opens a style. -/
def openStyle (b : OpenBlock) (style : TextStyle) (element : Option String) : OpenBlock :=
  { b with styles := ⟨b.text.length, style, element⟩ :: b.styles }

/-- Turns a style into a run up to the end, if it sets something and text was written. -/
def addRun (b : OpenBlock) (s : OpenStyle) : OpenBlock :=
  if s.start < b.text.length && !s.style.isEmpty then
    { b with text := { b.text with runs := b.text.runs ++ [⟨s.start, b.text.length, s.style⟩] } }
  else b

/-- Whether a style was opened by an HTML element, or by the markup if none is given. -/
def isOf (element : Option String) (s : OpenStyle) : Bool := s.element == element

/-- Closes the innermost open style of an HTML element, or of the markup if none is given. -/
def closeStyle (b : OpenBlock) (element : Option String) : Logged OpenBlock :=
  match b.styles.find? (isOf element) with
  | none => do
    Logged.notice (.styleNotOpen element)
    return b
  | some s => return { b with styles := b.styles.eraseP (isOf element) }.addRun s

/-- Closes all open styles, innermost first. -/
def closeStyles (b : OpenBlock) : Logged OpenBlock := do
  b.styles.forM fun s => Logged.notice (.styleUnclosed s.element)
  return b.styles.foldl addRun { b with styles := [] }

/-- Writes text in a style of its own. -/
def appendStyled (b : OpenBlock) (s : String) (style : TextStyle) : Logged OpenBlock :=
  ((b.openStyle style none).append s).closeStyle none

/-- Closes all open styles and seals the block. -/
def close (b : OpenBlock) : Logged TextBlock := do
  return (← b.closeStyles).text.finish

end OpenBlock

end SlideDeck

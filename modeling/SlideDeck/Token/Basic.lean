/-
The tokens of the slide dialect.

A token is what the compiler of slides sees of a document: the start or end of a block or a
style, a stretch of text, or something that stands alone.
-/
import SlideDeck.Attributes.Basic
import SlideDeck.ListKind

namespace SlideDeck

/-- A lexical unit of the slide dialect. -/
inductive Token where
  | headingOpen (level : Nat) (attributes : Attributes)
  | headingClose (level : Nat)
  | paragraphOpen (attributes : Attributes)
  | paragraphClose
  | text (s : String)
  | emphasisOpen
  | emphasisClose
  | strongOpen
  | strongClose
  | strikethroughOpen
  | strikethroughClose
  | linkOpen (href : String)
  | linkClose
  | image (src alt : String)
  | listOpen (kind : ListKind)
  | listClose (kind : ListKind)
  | listItemOpen
  | listItemClose
  | tableOpen
  | tableClose
  | tableRowOpen
  | tableRowClose
  | tableCellOpen
  | tableCellClose
  | fencedCode (info content : String)
  | inlineCode (s : String)
  | htmlBlock (s : String)
  | htmlInline (s : String)
  | horizontalRule
  | softBreak
  | hardBreak
  | emoji (shortcode glyph : String)
deriving Repr, DecidableEq

end SlideDeck

/-
The blocks of a document.

Leaf blocks keep what the later stages need: running text as pieces that have not been given
a meaning yet, code and HTML as the lines they are made of.
-/
import SlideDeck.Attributes.Basic
import SlideDeck.Markdown.RunningText

namespace SlideDeck.Markdown

/-- A part of a block of HTML. -/
inductive HtmlPart where
  /-- Columns of indentation before a line. -/
  | indent (columns : Nat)
  | line (text : List Char)

/-- A block, with the blocks or the text in it. -/
inductive Block where
  | quote (content : List Block)
  | list (ordered : Bool) (items : List Block)
  | item (content : List Block)
  /-- A paragraph; a tight one stands in a list without blank lines. -/
  | paragraph (tight : Bool) (text : Passage)
  /-- A heading, with the places where its source begins and ends. -/
  | heading (level : Nat) (attributes : Attributes) (start stop : Nat) (text : Passage)
  | code (info : List Char) (lines : List (List Char))
  | html (parts : List HtmlPart)
  | table (rows : List (List Passage))
  | rule

namespace Block

/-- A paragraph made tight; any other block as it is. -/
def tighten : Block → Block
  | paragraph _ text => paragraph true text
  | b => b

/-- An item with its own paragraphs made tight. -/
def tightenItem : Block → Block
  | item content => item (content.map tighten)
  | b => b

end Block

/-! ### Attributes of headings -/

/-- The attributes named in the braces after a heading: items parted by blanks, each with a
sign for its kind or an equals sign inside.  A sign alone names nothing. -/
def headingAttribute (a : Attributes) (item : List Char) : Attributes :=
  match item with
  | '#' :: name => if name.isEmpty then a else a.setId (String.ofList name)
  | '.' :: name => if name.isEmpty then a else a.addClass (String.ofList name)
  | _ =>
    if item.length == 1 && item.all (·.toNat < 0x80) then a
    else
      let key := item.takeWhile (· != '=')
      a.put (String.ofList key) (String.ofList (item.drop (key.length + 1)))

/-- The items of a text parted by ASCII blanks. -/
def blankParted (s : List Char) : List (List Char) :=
  (s.splitBy fun a b => !isSeparator a && !isSeparator b).filter fun item =>
    item.any fun c => !isSeparator c
where
  isSeparator (c : Char) : Bool := c == ' ' || c == '\t' || c == '\n' || c == '\x0c' || c == '\r'

/-- The attributes named in the braces after a heading. -/
def headingAttributes (s : List Char) : Attributes :=
  (blankParted s).foldl headingAttribute Attributes.empty

/-- A character that may stand between the braces after a heading. -/
def isAttributeText (c : Char) : Bool :=
  !(c == '\x7b' || c == '\x7d' || c == '<' || c == '>' || c == '\\' || c == '\n' || c == '\r')

/-- The braces at the end of the heading between two places: where its text ends before them,
and the attributes. -/
def trailingAttributes? (s : Source) (start stop : Nat) : Option (Nat × Attributes) :=
  let close := stop - s.runBack (fun c => c == '\n' || c == '\r' || c == ' ' || c == '\t') start stop
  if start < close && s.is (close - 1) '\x7d' then
    let first := close - 1 - s.runBack isAttributeText start (close - 1)
    if start < first && s.is (first - 1) '\x7b' then
      some (first - 1, headingAttributes (s.slice first (close - 1)))
    else none
  else none

/-- The pieces of a heading up to a place, where the attributes after it begin.  A backslash
that would have escaped the opening brace stands for itself. -/
def truncatePieces (s : Source) (stop : Nat) : List Piece → List Piece
  | [] => []
  | p :: ps =>
    if p.stop < stop then p :: truncatePieces s stop ps
    else if p.stop == stop then [p]
    else if p.start == stop then
      match p.lexeme with
      | .text true =>
        if 0 < stop && s.is (stop - 1) '\\' then [{ p with start := stop - 1, stop := stop }]
        else []
      | _ => []
    else [{ p with stop := stop }]

/-- The pieces with the last one ending at a given place. -/
def endLastAt (stop : Nat) : List Piece → List Piece
  | [] => []
  | [p] => [{ p with stop := stop }]
  | p :: ps => p :: endLastAt stop ps

end SlideDeck.Markdown

/-
From the events of a document to its tokens.

The lexer takes one event after the other.  It joins neighbouring stretches of text, gathers
the text of code blocks, HTML blocks and image descriptions, and when a paragraph closes it
lifts attributes in braces from the end of its text onto its opening token.  A heading that
is underlined with three or more hyphens is no heading in this dialect but a paragraph with
a slide break under it.  Emoji shortcodes are looked for last, in the joined text.
-/
import SlideDeck.Attributes.Reading
import SlideDeck.Emoji
import SlideDeck.Markdown.Event
import SlideDeck.Token.Basic

namespace SlideDeck

open SlideDeck.Text (isBlank trim trimEnd)
open SlideDeck.Markdown (Event Tag TagEnd)

/-- The tokens made so far, and what is being gathered. -/
structure Lexer where
  tokens : Array Token
  /-- Where the opening tokens of the open paragraphs stand, innermost first. -/
  paragraphs : List Nat
  /-- The info string and the text of the open code block. -/
  codeBlock : Option (String × String)
  /-- The text of the open HTML block. -/
  htmlBlock : Option String
  /-- The source and the description of the open image. -/
  image : Option (String × String)
  /-- A heading is open that is lexed as a paragraph with a rule under it. -/
  ruleHeading : Bool

namespace Lexer

/-- No event has been taken. -/
def empty : Lexer := ⟨#[], [], none, none, none, false⟩

/-- The last line of a text. -/
def lastLine (s : List Char) : List Char := (s.reverse.takeWhile (· != '\n')).reverse

/-- Whether the source of a heading ends in a line of three or more hyphens. -/
def hasRuleUnderline (source : String) : Bool :=
  let line := trim (lastLine (trimEnd source.toList))
  3 ≤ line.length && line.all (· == '-')

/-- Puts out a token. -/
def push (l : Lexer) (t : Token) : Lexer := { l with tokens := l.tokens.push t }

/-- Puts out text, joining it to text just before it. -/
def pushText (l : Lexer) (s : String) : Lexer :=
  match l.tokens.back? with
  | some (.text before) => { l with tokens := l.tokens.pop.push (.text (before ++ s)) }
  | _ => l.push (.text s)

/-- Opens a paragraph. -/
def openParagraph (l : Lexer) (attributes : Attributes) : Lexer :=
  { l.push (.paragraphOpen attributes) with paragraphs := l.tokens.size :: l.paragraphs }

/-- The tokens without the line breaks at their end. -/
def dropBreaks (tokens : Array Token) : Array Token :=
  tokens.popWhile fun t => t == .softBreak || t == .hardBreak

/-- The tokens with other attributes on the paragraph that opens at a place. -/
def setAttributes (tokens : Array Token) (i : Nat) (attributes : Attributes) : Array Token :=
  tokens.modify i fun
    | .paragraphOpen _ => .paragraphOpen attributes
    | t => t

/-- Closes the innermost paragraph: attributes at the end of its text go to its opening token.
If nothing else is left of the text, the line breaks before it go too. -/
def liftAttributes (l : Lexer) : Lexer :=
  match l.paragraphs with
  | [] => l
  | i :: outer =>
    let l := { l with paragraphs := outer }
    match l.tokens.back? with
    | some (.text s) =>
      match Attributes.splitTrailing s with
      | none => l
      | some (rest, attributes) =>
        let tokens :=
          if rest.isEmpty then dropBreaks l.tokens.pop else l.tokens.pop.push (.text rest)
        { l with tokens := setAttributes tokens i attributes }
    | _ => l

/-- Takes the beginning of something. -/
def start (l : Lexer) : Tag → Lexer
  | .paragraph => l.openParagraph Attributes.empty
  | .heading level attributes source =>
    if level == 2 && hasRuleUnderline source then
      { l with ruleHeading := true }.openParagraph attributes
    else l.push (.headingOpen level attributes)
  | .quote => l
  | .codeBlock info => { l with codeBlock := some (info, "") }
  | .htmlBlock => { l with htmlBlock := some "" }
  | .list kind => l.push (.listOpen kind)
  | .item => l.push .listItemOpen
  | .table => l.push .tableOpen
  | .row => l.push .tableRowOpen
  | .cell => l.push .tableCellOpen
  | .emphasis => l.push .emphasisOpen
  | .strong => l.push .strongOpen
  | .strikethrough => l.push .strikethroughOpen
  | .link destination => l.push (.linkOpen destination)
  | .image destination => { l with image := some (destination, "") }

/-- Takes the end of something. -/
def stop (l : Lexer) : TagEnd → Lexer
  | .paragraph => l.liftAttributes.push .paragraphClose
  | .heading level =>
    if l.ruleHeading then
      ({ l with ruleHeading := false }.liftAttributes.push .paragraphClose).push .horizontalRule
    else l.push (.headingClose level)
  | .quote => l
  | .codeBlock =>
    match l.codeBlock with
    | none => l
    | some (info, content) => { l with codeBlock := none }.push (.fencedCode info content)
  | .htmlBlock =>
    match l.htmlBlock with
    | none => l
    | some html => { l with htmlBlock := none }.push (.htmlBlock html)
  | .list kind => l.push (.listClose kind)
  | .item => l.push .listItemClose
  | .table => l.push .tableClose
  | .row => l.push .tableRowClose
  | .cell => l.push .tableCellClose
  | .emphasis => l.push .emphasisClose
  | .strong => l.push .strongClose
  | .strikethrough => l.push .strikethroughClose
  | .link => l.push .linkClose
  | .image =>
    match l.image with
    | none => l
    | some (src, alt) => { l with image := none }.push (.image src alt)

/-- Takes text: code and image descriptions gather it, otherwise it is put out. -/
def text (l : Lexer) (s : String) : Lexer :=
  match l.codeBlock, l.image with
  | some (info, content), _ => { l with codeBlock := some (info, content ++ s) }
  | none, some (src, alt) => { l with image := some (src, alt ++ s) }
  | none, none => l.pushText s

/-- Takes one event. -/
def step (l : Lexer) : Event → Lexer
  | .start tag => l.start tag
  | .stop tag => l.stop tag
  | .text s => l.text s
  | .code s => l.push (.inlineCode s)
  | .html s =>
    match l.htmlBlock with
    | none => l.push (.htmlBlock s)
    | some before => { l with htmlBlock := some (before ++ s) }
  | .inlineHtml s => l.push (.htmlInline s)
  | .softBreak => l.push .softBreak
  | .hardBreak => l.push .hardBreak
  | .rule => l.push .horizontalRule

end Lexer

/-- The token of a segment of text. -/
def Emoji.Segment.token : Emoji.Segment → Token
  | .text s => .text s
  | .emoji shortcode glyph => .emoji shortcode glyph

/-- A token with the emoji in its text made tokens of their own. -/
def Token.expandEmoji : Token → List Token
  | .text s => (Emoji.split s).map Emoji.Segment.token
  | t => [t]

/-- The tokens of a sequence of events. -/
def tokensOfEvents (events : List Event) : List Token :=
  (events.foldl Lexer.step Lexer.empty).tokens.toList.flatMap Token.expandEmoji

/-- The tokens of a document.  Every text is a document. -/
def tokenize (markdown : String) : List Token := tokensOfEvents (Markdown.events markdown)

end SlideDeck

/-
From tokens to slides.

Each token is taken by one rule.  What a comment means is given to the rules from outside:
in a document it adds speaker notes, which are written by the same rules, and within notes it
is passed over, so notes never hold notes.
-/
import SlideDeck.Draft.Basic
import SlideDeck.Html.Inline
import SlideDeck.Token.Lexer

namespace SlideDeck

namespace Draft

/-- What parts the lines of a paragraph. -/
def lineBreak : Char := '\x0b'

/-- The style of code. -/
def codeStyle : TextStyle := { fontFamily := some InlineHtml.codeFont }

/-- The lines of a text parted as the lines of a paragraph are. -/
def joinLines : List Char → List Char
  | [] => []
  | '\r' :: '\n' :: s => lineBreak :: joinLines s
  | '\n' :: s => lineBreak :: joinLines s
  | c :: s => c :: joinLines s

/-- The lines of code as one paragraph, without the line feeds at the end. -/
def codeText (content : String) : String :=
  String.ofList (joinLines (Text.dropEndWhile (· == '\n') content.toList))

/-- Takes the bodies of comments one by one. -/
def takeComments (comment : Draft → String → Logged Draft) (d : Draft) (bodies : List String) :
    Logged Draft :=
  bodies.foldlM comment d

/-- Takes a block of HTML, which counts only if it is comments. -/
def takeHtmlBlock (comment : Draft → String → Logged Draft) (d : Draft) (html : String) :
    Logged Draft := do
  match ← Html.commentBodies html with
  | some bodies => d.takeComments comment bodies
  | none =>
    Logged.notice (.htmlIgnored (Text.trimString html))
    return d

/-- Takes a fragment of HTML in running text. -/
def takeInlineHtml (comment : Draft → String → Logged Draft) (d : Draft) (html : String) :
    Logged Draft := do
  match ← InlineHtml.parse html with
  | .opening tag style => return d.openStyle style (some tag)
  | .closing tag => d.closeStyle (some tag)
  | .comment body => comment d body

/-- Takes a rule.  It parts slides, unless it is the first thing in the document; in notes it
parts paragraphs. -/
def takeRule (d : Draft) : Logged Draft :=
  match d.mode with
  | .document => if d.started then return (← d.closeSlide).openSlide else return d
  | .notes => return d.breakParagraph

/-- Takes one token. -/
def take (comment : Draft → String → Logged Draft) (d : Draft) : Token → Logged Draft
  | .headingOpen level attributes => return d.openHeading level attributes
  | .headingClose level => d.closeHeading level
  | .paragraphOpen attributes => d.openParagraph attributes
  | .paragraphClose => return d.closeParagraph
  | .text s => return d.append s
  | .emoji _ glyph => return d.append glyph
  | .emphasisOpen => return d.openStyle { italic := some true } none
  | .strongOpen => return d.openStyle { bold := some true } none
  | .strikethroughOpen => return d.openStyle { strikethrough := some true } none
  | .linkOpen href => return d.openStyle { link := some ⟨href⟩ } none
  | .emphasisClose | .strongClose | .strikethroughClose | .linkClose => d.closeStyle none
  | .image src alt => return d.addImage src alt
  | .listOpen kind => d.openList kind
  | .listClose _ => d.closeList
  | .listItemOpen => return d.openItem
  | .listItemClose => return d.closeItem
  | .tableOpen => return d.openTable
  | .tableRowOpen => return d.openRow
  | .tableCellOpen => return d.openCell
  | .tableCellClose => d.closeCell
  | .tableRowClose => return d.closeRow
  | .tableClose => d.closeTable
  | .fencedCode _ content => do
    let d ← d.breakParagraph.onBlockLogged (·.appendStyled (codeText content) codeStyle)
    return d.breakParagraph
  | .inlineCode s => d.onBlockLogged (·.appendStyled s codeStyle)
  | .htmlBlock html => d.takeHtmlBlock comment html
  | .htmlInline html => d.takeInlineHtml comment html
  | .horizontalRule => d.takeRule
  | .softBreak => return d.append " "
  | .hardBreak => return d.append (String.singleton lineBreak)

/-- Takes one token and remembers that it did. -/
def step (comment : Draft → String → Logged Draft) (d : Draft) (t : Token) : Logged Draft := do
  return { ← d.take comment t with started := true }

/-- Takes some tokens in order. -/
def run (comment : Draft → String → Logged Draft) (d : Draft) (tokens : List Token) :
    Logged Draft :=
  tokens.foldlM (step comment) d

/-! ### Notes -/

/-- Passes over a comment. -/
def skipComment (d : Draft) (_ : String) : Logged Draft := return d

/-- The text of some tokens that stand in a comment. -/
def notesOfTokens (tokens : List Token) : Logged String := do
  return (← (empty .notes).run skipComment tokens).block.text.finish.rawText

/-- Adds the text of a comment to the notes of the slide, unless it is blank. -/
def addNotes (d : Draft) (body : String) : Logged Draft := do
  let notes := Text.trimString (← notesOfTokens (tokenize body))
  if notes.isEmpty then return d
  else return { d with slide := d.slide.appendNotes notes }

end Draft

/-- The slides of some tokens. -/
def compileTokens (tokens : List Token) : Logged (List Slide) := do
  return (← (← (Draft.empty .document).run Draft.addNotes tokens).closeSlide).slides

/-- The slides of a document. -/
def compile (markdown : String) : Logged (List Slide) := compileTokens (tokenize markdown)

end SlideDeck

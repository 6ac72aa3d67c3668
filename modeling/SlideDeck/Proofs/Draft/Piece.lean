/-
Documents with properly nested tokens, piece by piece.

A piece is what may stand in a document by itself: a token of running text, a paragraph, a
heading or a table with everything in it, or one of the tokens that open and close lists and
their items.  Paragraphs, headings and cells hold running text and nothing else, a table
holds rows of cells, and rules, code and HTML blocks stand between the others.  So the token
lists of pieces are the ones that are properly nested; lists may even close what was never
opened, and styles in running text need not be paired.
-/
import SlideDeck.Token.Basic

namespace SlideDeck

/-- Whether a token belongs to running text. -/
def Token.isInline : Token → Bool
  | .text _ | .emoji _ _ | .inlineCode _ | .htmlInline _ | .image _ _ | .softBreak | .hardBreak
  | .emphasisOpen | .emphasisClose | .strongOpen | .strongClose | .strikethroughOpen
  | .strikethroughClose | .linkOpen _ | .linkClose => true
  | _ => false

/-- A token of running text. -/
abbrev InlineToken := { t : Token // t.isInline = true }

/-- The tokens of running text among some tokens. -/
def runningText (tokens : List Token) : List InlineToken :=
  tokens.filterMap fun t => if h : t.isInline = true then some ⟨t, h⟩ else none

/-- A piece of a document. -/
inductive Piece where
  | inline (t : InlineToken)
  | paragraph (attributes : Attributes) (content : List InlineToken)
  | heading (level : Nat) (positive : 0 < level) (attributes : Attributes)
    (content : List InlineToken)
  | table (rows : List (List (List InlineToken)))
  | code (info content : String)
  | html (s : String)
  | rule
  | listOpen (kind : ListKind)
  | listClose (kind : ListKind)
  | itemOpen
  | itemClose

namespace Piece

/-- The tokens of running text. -/
def inlineTokens (content : List InlineToken) : List Token := content.map (·.val)

/-- The tokens of a cell. -/
def cellTokens (cell : List InlineToken) : List Token :=
  .tableCellOpen :: (inlineTokens cell ++ [.tableCellClose])

/-- The tokens of a row. -/
def rowTokens (row : List (List InlineToken)) : List Token :=
  .tableRowOpen :: (row.flatMap cellTokens ++ [.tableRowClose])

/-- The tokens of a piece. -/
def tokens : Piece → List Token
  | inline t => [t.val]
  | paragraph attributes content =>
    .paragraphOpen attributes :: (inlineTokens content ++ [.paragraphClose])
  | heading level _ attributes content =>
    .headingOpen level attributes :: (inlineTokens content ++ [.headingClose level])
  | table rows => .tableOpen :: (rows.flatMap rowTokens ++ [.tableClose])
  | code info content => [.fencedCode info content]
  | html s => [.htmlBlock s]
  | rule => [.horizontalRule]
  | listOpen kind => [.listOpen kind]
  | listClose kind => [.listClose kind]
  | itemOpen => [.listItemOpen]
  | itemClose => [.listItemClose]

theorem tokens_ne_nil (p : Piece) : p.tokens ≠ [] := by
  cases p <;> exact List.cons_ne_nil _ _

end Piece

end SlideDeck

import SlideDeck.Attributes.Basic
import SlideDeck.Attributes.Reading
import SlideDeck.Decimal.Shortest
import SlideDeck.Deck.Element
import SlideDeck.Deck.Page
import SlideDeck.Deck.Presentation
import SlideDeck.Draft.Basic
import SlideDeck.Draft.Compile
import SlideDeck.Draft.OpenBlock
import SlideDeck.Emoji
import SlideDeck.Exchange
import SlideDeck.Failure
import SlideDeck.Html.Comment
import SlideDeck.Html.Css
import SlideDeck.Html.Inline
import SlideDeck.Json.Basic
import SlideDeck.Json.Numeral
import SlideDeck.Json.Parser
import SlideDeck.Json.Printer
import SlideDeck.Json.Record
import SlideDeck.Layout
import SlideDeck.ListKind
import SlideDeck.Logged
import SlideDeck.Markdown.Block
import SlideDeck.Markdown.Cursor
import SlideDeck.Markdown.Emphasis
import SlideDeck.Markdown.Entity
import SlideDeck.Markdown.Event
import SlideDeck.Markdown.Leaf
import SlideDeck.Markdown.Lexeme
import SlideDeck.Markdown.Opening
import SlideDeck.Markdown.Outline
import SlideDeck.Markdown.RawHtml
import SlideDeck.Markdown.Reading
import SlideDeck.Markdown.Reference
import SlideDeck.Markdown.RunningText
import SlideDeck.Markdown.Source
import SlideDeck.ObjectId
import SlideDeck.Plan.Basic
import SlideDeck.Plan.Creation
import SlideDeck.Plan.Population
import SlideDeck.Plan.Text
import SlideDeck.Proofs.Attributes.Written
import SlideDeck.Proofs.Deck.Layouts
import SlideDeck.Proofs.Deck.Order
import SlideDeck.Proofs.Deck.Placeholders
import SlideDeck.Proofs.Deck.Reading
import SlideDeck.Proofs.Deck.Units
import SlideDeck.Proofs.Draft.Aside
import SlideDeck.Proofs.Draft.Break
import SlideDeck.Proofs.Draft.Coverage
import SlideDeck.Proofs.Draft.Galley
import SlideDeck.Proofs.Draft.Indentation
import SlideDeck.Proofs.Draft.Items
import SlideDeck.Proofs.Draft.Lists
import SlideDeck.Proofs.Draft.Margin
import SlideDeck.Proofs.Draft.Markers
import SlideDeck.Proofs.Draft.Nesting
import SlideDeck.Proofs.Draft.Noted
import SlideDeck.Proofs.Draft.Notes
import SlideDeck.Proofs.Draft.Order
import SlideDeck.Proofs.Draft.Outcome
import SlideDeck.Proofs.Draft.Paragraphs
import SlideDeck.Proofs.Draft.Piece
import SlideDeck.Proofs.Draft.Reads
import SlideDeck.Proofs.Draft.Refusal
import SlideDeck.Proofs.Draft.Rows
import SlideDeck.Proofs.Draft.Script
import SlideDeck.Proofs.Draft.Sealed
import SlideDeck.Proofs.Draft.Sheet
import SlideDeck.Proofs.Draft.Signed
import SlideDeck.Proofs.Draft.Slides
import SlideDeck.Proofs.Draft.Spelling
import SlideDeck.Proofs.Draft.Styles
import SlideDeck.Proofs.Draft.Untagged
import SlideDeck.Proofs.Draft.Words
import SlideDeck.Proofs.Emoji.Segments
import SlideDeck.Proofs.Html.Cascade
import SlideDeck.Proofs.Html.Colors
import SlideDeck.Proofs.Html.Comments
import SlideDeck.Proofs.Html.Elements
import SlideDeck.Proofs.Html.Spans
import SlideDeck.Proofs.Html.Tags
import SlideDeck.Proofs.Json.RoundTrip
import SlideDeck.Proofs.Json.Style
import SlideDeck.Proofs.Json.Survival
import SlideDeck.Proofs.Logged
import SlideDeck.Proofs.Markdown.Headings
import SlideDeck.Proofs.Markdown.Nesting
import SlideDeck.Proofs.Plan.Addresses
import SlideDeck.Proofs.Plan.Basic
import SlideDeck.Proofs.Plan.Creation
import SlideDeck.Proofs.Plan.Demand
import SlideDeck.Proofs.Plan.FieldMasks
import SlideDeck.Proofs.Plan.Layers
import SlideDeck.Proofs.Plan.Lifetime
import SlideDeck.Proofs.Plan.ObjectIds
import SlideDeck.Proofs.Plan.Offsets
import SlideDeck.Proofs.Plan.Placement
import SlideDeck.Proofs.Plan.Population
import SlideDeck.Proofs.Server.TextContent
import SlideDeck.Proofs.Slide.Sealing
import SlideDeck.Proofs.Text.Search
import SlideDeck.Proofs.Token.Bracketing
import SlideDeck.Proofs.Token.Images
import SlideDeck.Proofs.Token.Recut
import SlideDeck.Proofs.Token.Underlines
import SlideDeck.Request
import SlideDeck.Slide.Basic
import SlideDeck.Slide.TextBlock
import SlideDeck.Style.Color
import SlideDeck.Style.Dimension
import SlideDeck.Style.TextStyle
import SlideDeck.Text.Blank
import SlideDeck.Text.Folding
import SlideDeck.Text.Numeral
import SlideDeck.Text.Punctuation
import SlideDeck.Text.Ranges
import SlideDeck.Text.Search
import SlideDeck.Text.Word
import SlideDeck.Token.Basic
import SlideDeck.Token.Lexer

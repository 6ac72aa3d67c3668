/-
HTML elements in running text.

A handful of elements style the text between their tags; `span` takes its style from CSS.  A
comment in running text carries speaker notes.  Anything else is a failure, so that markup
is never dropped silently.
-/
import SlideDeck.Html.Comment
import SlideDeck.Html.Css
import SlideDeck.Text.Word

namespace SlideDeck

/-- A fragment of HTML in running text. -/
inductive InlineHtml where
  | opening (tag : String) (style : TextStyle)
  | closing (tag : String)
  | comment (body : String)
deriving DecidableEq

namespace InlineHtml

open SlideDeck.Text SlideDeck.Html

/-! ### The style attribute -/

/-- Whether a character is a letter of a name of attribute, in either case; the long `s` is an
`s` too. -/
def isLetter (letter c : Char) : Bool := c.toLower == letter || (letter == 's' && c == 'ſ')

/-- The rest of a text after a name of attribute in any case. -/
def afterName? : (name s : List Char) → Option (List Char)
  | [], s => some s
  | _ :: _, [] => none
  | a :: name, c :: s => if isLetter a c then afterName? name s else none

/-- The value of the attribute at the start of a text, if it has the name `style` and a value
in quotation marks. -/
def styleValueHere? (s : List Char) : Option (List Char) := do
  match trimStart (← afterName? "style".toList s) with
  | '=' :: rest =>
    match trimStart rest with
    | '"' :: value => (splitAt? ['"'] value).map (·.1)
    | '\'' :: value => (splitAt? ['\''] value).map (·.1)
    | _ => none
  | _ => none

/-- The value of the first attribute with the name `style`, which does not begin within a word;
the flag says whether a word character stands before the text. -/
def styleValue? (afterWord : Bool) : List Char → Option (List Char)
  | [] => none
  | c :: s =>
    match if afterWord then none else styleValueHere? (c :: s) with
    | some value => some value
    | none => styleValue? (isWord c) s

/-! ### Tags -/

/-- The font of code. -/
def codeFont : String := "Courier New"

/-- The style of an element with given attributes, if it is one that styles text. -/
def style? (tag : String) (attributes : List Char) : Option TextStyle :=
  match tag with
  | "strong" | "b" => some { bold := some true }
  | "em" | "i" => some { italic := some true }
  | "code" => some { fontFamily := some codeFont }
  | "sub" => some { baselineOffset := some .subscript }
  | "sup" => some { baselineOffset := some .superscript }
  | "span" =>
    match styleValue? false attributes with
    | none => some TextStyle.empty
    | some css => some (styleOfCss (String.ofList css))
  | _ => none

/-- A tag as it is written. -/
structure WrittenTag where
  closes : Bool
  name : List Char
  attributes : List Char
deriving Repr, DecidableEq

/-- The tag that a text is, from its first character to its last.  The name must not run into
a word character, and no other closing bracket may stand in the text. -/
def writtenTag? (s : List Char) : Option WrittenTag :=
  match s with
  | '<' :: s =>
    let s := trimStart s
    let (closes, s) := match s with
      | '/' :: s => (true, trimStart s)
      | s => (false, s)
    let name := s.takeWhile Char.isAlphanum
    match splitAt? ['>'] (s.dropWhile Char.isAlphanum) with
    | some (attributes, []) =>
      if name.head?.any Char.isAlpha && !attributes.head?.any isWord then
        some ⟨closes, name, attributes⟩
      else none
    | _ => none
  | _ => none

/-- A fragment that is not a comment. -/
def element (html : List Char) : Except Failure InlineHtml :=
  match writtenTag? html with
  | none => .error (.unsupportedHtml (String.ofList html))
  | some t =>
    let tag := String.ofList (asciiLower t.name)
    match style? tag t.attributes with
    | none => .error (.unsupportedHtml tag)
    | some style => .ok (if t.closes then .closing tag else .opening tag style)

/-- Reads a fragment of HTML in running text. -/
def parse (html : String) : Logged InlineHtml := do
  match ← commentBodies html with
  | some bodies => return .comment (String.intercalate "\n" bodies)
  | none => ⟨element (trim html.toList), []⟩

end InlineHtml

end SlideDeck

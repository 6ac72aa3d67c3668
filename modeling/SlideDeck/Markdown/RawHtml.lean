/-
Raw HTML: which lines begin a block of it, and how far a tag in running text reaches.

There are seven kinds of block.  The first five begin with a fixed opening and run to
the line that holds the matching closing; the sixth begins with the name of a block
element and the seventh with any complete tag alone on its line, and both run to a blank
line.  A tag in running text may spread over several lines; the marks that enclosing
containers put at the start of those lines are not part of it.
-/
import SlideDeck.Markdown.Source

namespace SlideDeck.Markdown.RawHtml

open SlideDeck.Text

/-! ### Blocks -/

/-- The elements whose raw text runs to their own closing tag. -/
def verbatimElements : List String := ["pre", "style", "script", "textarea"]

/-- The elements that begin a block of HTML wherever their tag does. -/
def blockElements : List String := [
  "address", "article", "aside", "base", "basefont", "blockquote", "body", "caption",
  "center", "col", "colgroup", "dd", "details", "dialog", "dir", "div", "dl", "dt",
  "fieldset", "figcaption", "figure", "footer", "form", "frame", "frameset", "h1", "h2",
  "h3", "h4", "h5", "h6", "head", "header", "hr", "html", "iframe", "legend", "li", "link",
  "main", "menu", "menuitem", "nav", "noframes", "ol", "optgroup", "option", "p", "param",
  "search", "section", "summary", "table", "tbody", "td", "tfoot", "th", "thead", "title",
  "tr", "track", "ul"]

/-- The text that ends the block which the text after a `<` begins, for the first five
kinds. -/
def closing? (s : Source) (i : Nat) : Option (List Char) :=
  let verbatim := verbatimElements.find? fun name =>
    asciiLower (s.slice i (i + name.length)) == name.toList &&
      s[i + name.length]?.all fun c => isAsciiBlank c || c == '>'
  match verbatim with
  | some name => some (("</" ++ name ++ ">").toList)
  | none =>
    if s.matchesAt i "!--".toList then some "-->".toList
    else if s.is i '?' then some "?>".toList
    else if s.matchesAt i "![CDATA[".toList then some "]]>".toList
    else if s.is i '!' && s.has (i + 1) Char.isAlpha then some ">".toList
    else none

/-- Whether the text after a `<` begins a block of the sixth kind. -/
def beginsElement (s : Source) (i : Nat) : Bool :=
  let i := if s.is i '/' then i + 1 else i
  let n := s.run Char.isAlphanum i
  let name := String.ofList (asciiLower (s.slice i (i + n)))
  blockElements.contains name &&
    match s[i + n]? with
    | none => true
    | some c => c == ' ' || c == '\t' || c == '\r' || c == '\n' || c == '>' ||
        (c == '/' && s.is (i + n + 1) '>')

/-! ### Tags

A tag is read from left to right.  At every line end the rest of the scan goes on after
the marks of the containers, whose places are remembered so that they can be left out. -/

/-- A place in a tag, and the stretches before it that are not part of it, last first. -/
structure Scan where
  pos : Nat
  skipped : List (Nat × Nat)

/-- What to do at a line end: where the line's own text begins, or nothing if a tag may not
run over lines. -/
abbrev Continuation := Option (Nat → Nat)

/-- Passes a line end of a given length. -/
def Scan.passLine (k : Continuation) (c : Scan) (n : Nat) : Option Scan :=
  k.map fun textStart =>
    let next := c.pos + n
    let stop := textStart next
    if next < stop then ⟨stop, (next, stop) :: c.skipped⟩ else { c with pos := next }

/-- Passes blanks and line ends.  The bound is never reached: each round passes something. -/
def Scan.passBlanks (s : Source) (k : Continuation) : Nat → Scan → Option Scan
  | 0, c => some c
  | fuel + 1, c =>
    match s[c.pos]? with
    | none => some c
    | some x =>
      if isLineEnd x then
        (c.passLine k ((s.lineEnd? c.pos).getD 1)).bind (passBlanks s k fuel)
      else if isSpace x then passBlanks s k fuel { c with pos := c.pos + 1 }
      else some c

/-- Passes the text up to and including a closing quote, with any line ends in it. -/
def Scan.passQuoted (s : Source) (k : Continuation) (quote : Char) : Nat → Scan → Option Scan
  | 0, _ => none
  | fuel + 1, c =>
    match s[c.pos]? with
    | none => none
    | some x =>
      if x == quote then some { c with pos := c.pos + 1 }
      else if isLineEnd x then
        (c.passLine k ((s.lineEnd? c.pos).getD 1)).bind (passQuoted s k quote fuel)
      else passQuoted s k quote fuel { c with pos := c.pos + 1 }

/-- A character that an attribute value without quotes may hold. -/
def isBareValue (c : Char) : Bool :=
  !(c == '\'' || c == '"' || c == ' ' || c == '=' || c == '>' || c == '<' || c == '`' ||
    c == '\n' || c == '\r')

/-- Passes an attribute value. -/
def Scan.passValue (s : Source) (k : Continuation) (c : Scan) : Option Scan :=
  match s[c.pos]? with
  | none => none
  | some x =>
    if x == '"' || x == '\'' then passQuoted s k x (s.size + 1) { c with pos := c.pos + 1 }
    else if isBareValue x then some { c with pos := c.pos + s.run isBareValue c.pos }
    else none

/-- A character that may begin the name of an attribute. -/
def isNameStart (c : Char) : Bool := c.isAlpha || c == '_' || c == ':'

/-- A character that the name of an attribute may hold. -/
def isNameRest (c : Char) : Bool :=
  c.isAlphanum || c == '_' || c == '.' || c == ':' || c == '-'

/-- Passes an attribute, with its value if it has one.  Blanks after a name without a value
are left for what follows. -/
def Scan.passAttribute (s : Source) (k : Continuation) (c : Scan) : Option Scan :=
  if s.has c.pos isNameStart then
    let named := { c with pos := c.pos + 1 + s.run isNameRest (c.pos + 1) }
    match passBlanks s k (s.size + 1) named with
    | none => none
    | some before =>
      if s.is before.pos '=' then
        (passBlanks s k (s.size + 1) { before with pos := before.pos + 1 }).bind (passValue s k)
      else some named
  else none

/-- Passes the attributes of an opening tag, each of which follows a blank, up to the slash
or the sign that ends the tag. -/
def Scan.passAttributes (s : Source) (k : Continuation) : Nat → Scan → Option Scan
  | 0, _ => none
  | fuel + 1, c =>
    match passBlanks s k (s.size + 1) c with
    | none => none
    | some c' =>
      if s.is c'.pos '/' || s.is c'.pos '>' then some c'
      else if c'.pos == c.pos then none
      else (passAttribute s k c').bind (passAttributes s k fuel)

/-- The tag that begins with the `<` at a place: where it ends, with the stretches that are
not part of it. -/
def tag? (s : Source) (k : Continuation) (i : Nat) : Option Scan :=
  let closes := s.is (i + 1) '/'
  let name := if closes then i + 2 else i + 1
  if s.has name Char.isAlpha then
    let after : Scan := ⟨name + s.run (fun c => c.isAlphanum || c == '-') name, []⟩
    match if closes then some after else Scan.passAttributes s k (s.size + 1) after with
    | none => none
    | some c =>
      let stop := c.pos + s.run isSpace c.pos
      let stop := if !closes && s.is stop '/' then stop + 1 else stop
      if s.is stop '>' then some { c with pos := stop + 1 } else none
  else none

/-- Whether a block of the seventh kind begins with the `<` at a place. -/
def beginsTagLine (s : Source) (i : Nat) : Bool :=
  match tag? s none i with
  | none => false
  | some c => (s.blankRest? c.pos).isSome

/-- The text of a tag, without the stretches that are not part of it. -/
def Scan.text (s : Source) (c : Scan) (i : Nat) : List Char :=
  go i c.skipped.reverse
where
  go (i : Nat) : List (Nat × Nat) → List Char
    | [] => s.slice i c.pos
    | (a, b) :: rest => s.slice i a ++ go b rest

/-! ### Comments, declarations and the like -/

/-- The place after a comment's closing, looked for from its second hyphen on. -/
def commentEnd? (s : Source) (i : Nat) : Option Nat :=
  ((List.range (s.size - i)).find? fun d => s.matchesAt (i + d) "-->".toList).map (i + · + 3)

/-- The place after the comment, declaration or character data that begins with `<!`, where
`i` is the place after that. -/
def declarationEnd? (s : Source) (i : Nat) : Option Nat :=
  if s.is i '-' then
    if s.is (i + 1) '-' then commentEnd? s i else none
  else if s.matchesAt i "[CDATA[".toList then
    let first := s.seek (· == ']') (i + 7)
    let n := s.run (· == ']') first
    if n == 0 || !s.is (first + n) '>' then none else some (first + n + 1)
  else if s.has i Char.isAlpha then
    let stop := s.seek (· == '>') (i + 1)
    if stop < s.size then some (stop + 1) else none
  else none

/-- The place after the processing instruction that begins with `<?`, where `i` is the place
after that. -/
def instructionEnd? (s : Source) (i : Nat) : Option Nat :=
  ((List.range (s.size - i)).find? fun d => s.matchesAt (i + d) "?>".toList).map (i + · + 2)

/-- The raw HTML that begins with the `<` at a place in running text: where it ends, and its
text. -/
def inline? (s : Source) (k : Nat → Nat) (i : Nat) : Option (Nat × List Char) :=
  let whole (stop : Nat) := (stop, s.slice i stop)
  if s.is (i + 1) '!' then (declarationEnd? s (i + 2)).map whole
  else if s.is (i + 1) '?' then (instructionEnd? s (i + 2)).map whole
  else (tag? s (some k) i).map fun c => (c.pos, c.text s i)

end SlideDeck.Markdown.RawHtml

/-
The parts of a link: its destination, its title, and the label that names a definition.

A destination stands between angle brackets or runs to the first blank, with its
parentheses balanced.  A title stands between quotes or parentheses; nothing downstream
shows titles, so only their extent is kept.  A label stands between square brackets, and
two labels agree when their texts do after blanks are collapsed and case is folded.
-/
import SlideDeck.Markdown.Entity
import SlideDeck.Markdown.Source
import SlideDeck.Text.Folding
import SlideDeck.Text.Punctuation

namespace SlideDeck.Markdown

open SlideDeck.Text

/-! ### Escapes -/

/-- A text without its backslash escapes, with character references replaced.  In a table an
escaped backslash before a pipe loses both backslashes, since the pipe was escaped by the
second of them.  The bound is never reached: each round uses up a character. -/
def unescapeWithin (inTable : Bool) : Nat → List Char → List Char
  | 0, s => s
  | _, [] => []
  | fuel + 1, c :: s =>
    if c == '\\' then
      match s with
      | '\\' :: '|' :: rest =>
        if inTable then '|' :: unescapeWithin inTable fuel rest
        else '\\' :: unescapeWithin inTable fuel ('|' :: rest)
      | d :: rest =>
        if isAsciiPunctuation d then d :: unescapeWithin inTable fuel rest
        else c :: unescapeWithin inTable fuel s
      | [] => [c]
    else if c == '&' then
      match Entity.afterAmpersand? s with
      | some (value, rest) => value ++ unescapeWithin inTable fuel rest
      | none => c :: unescapeWithin inTable fuel s
    else if c == '\r' then unescapeWithin inTable fuel s
    else c :: unescapeWithin inTable fuel s

/-- A text without its backslash escapes, with character references replaced. -/
def unescape (inTable : Bool) (s : List Char) : List Char :=
  unescapeWithin inTable (s.length + 1) s

/-! ### Destinations and titles -/

/-- How many parentheses may be open inside one another in a destination. -/
def maxOpenParentheses : Nat := 6

/-- Whether a backslash at a place escapes the next character. -/
def escapesNext (s : Source) (i : Nat) : Bool := s.is i '\\' && s.has (i + 1) isAsciiPunctuation

/-- The closing angle bracket of a destination, looked for from a place on. -/
def angleEnd? (s : Source) : Nat → Nat → Option Nat
  | 0, _ => none
  | fuel + 1, i =>
    match s[i]? with
    | none => none
    | some c =>
      if c == '\n' || c == '\r' || c == '<' then none
      else if c == '>' then some i
      else if escapesNext s i then angleEnd? s fuel (i + 2)
      else angleEnd? s fuel (i + 1)

/-- The end of a destination without angle brackets, with `depth` parentheses open. -/
def bareEnd? (s : Source) : Nat → Nat → Nat → Option Nat
  | 0, _, _ => none
  | fuel + 1, depth, i =>
    let close := if depth == 0 then some i else none
    match s[i]? with
    | none => close
    | some c =>
      if c.toNat ≤ 0x20 then close
      else if c == '(' then
        if maxOpenParentheses ≤ depth then none else bareEnd? s fuel (depth + 1) (i + 1)
      else if c == ')' then
        if depth == 0 then some i else bareEnd? s fuel (depth - 1) (i + 1)
      else if escapesNext s i then bareEnd? s fuel depth (i + 2)
      else bareEnd? s fuel depth (i + 1)

/-- The destination at a place: where it ends, and its text as written. -/
def destination? (s : Source) (i : Nat) : Option (Nat × List Char) :=
  if s.is i '<' then
    (angleEnd? s (s.size + 1) (i + 1)).map fun j => (j + 1, s.slice (i + 1) j)
  else (bareEnd? s (s.size + 1) 0 i).map fun j => (j, s.slice i j)

/-- The character that closes a title which another one opens. -/
def titleClose? (c : Char) : Option Char :=
  if c == '"' || c == '\'' then some c else if c == '(' then some ')' else none

/-- The place after the title of a link in running text, looked for from inside it. -/
def titleEndFrom? (s : Source) (inTable : Bool) (opening closing : Char) :
    Nat → Nat → Option Nat
  | 0, _ => none
  | fuel + 1, i =>
    match s[i]? with
    | none => none
    | some c =>
      if c == closing then some (i + 1)
      else if c == opening then none
      else
        let i := if inTable && c == '\\' && s.is (i + 1) '\\' && s.is (i + 2) '|' then i + 2 else i
        if c == '\\' && s.has (i + 1) isAsciiPunctuation then
          titleEndFrom? s inTable opening closing fuel (i + 2)
        else titleEndFrom? s inTable opening closing fuel (i + 1)

/-- The place after the title of a link in running text. -/
def titleEnd? (s : Source) (inTable : Bool) (i : Nat) : Option Nat :=
  match s[i]? with
  | none => none
  | some c => (titleClose? c).bind fun closing =>
      titleEndFrom? s inTable c closing (s.size + 1) (i + 1)

/-- The place after the title of a definition, looked for from inside it.  A title may run
over lines, whose own text begins where `textStart` says, but not over a blank one. -/
def definitionTitleEndFrom? (s : Source) (textStart : Nat → Nat) (closing : Char) :
    Nat → Nat → Option Nat
  | 0, _ => none
  | fuel + 1, i =>
    match s[i]? with
    | none => none
    | some c =>
      if c == closing then some (i + 1)
      else if c == '(' && closing == ')' then none
      else if isLineEnd c then
        let next := textStart (i + (s.lineEnd? i).getD 1)
        if (s.blankRest? next).isSome then none
        else definitionTitleEndFrom? s textStart closing fuel next
      else if c == '\\' && s.has (i + 1) (fun d => !isLineEnd d) then
        definitionTitleEndFrom? s textStart closing fuel (i + 2)
      else definitionTitleEndFrom? s textStart closing fuel (i + 1)

/-- The place after the title of a definition. -/
def definitionTitleEnd? (s : Source) (textStart : Nat → Nat) (i : Nat) : Option Nat :=
  match s[i]? with
  | none => none
  | some c => (titleClose? c).bind fun closing =>
      definitionTitleEndFrom? s textStart closing (s.size + 1) (i + 1)

/-! ### Labels -/

/-- How far the scan of a label has come. -/
structure LabelScan where
  pos : Nat
  /-- The label so far, last character first. -/
  text : List Char
  /-- Only blanks and escapes have been seen. -/
  vacant : Bool
  size : Nat

/-- The longest label that names anything. -/
def maxLabelSize : Nat := 1000

/-- The blanks inside a label from a place on: where they end, and how many count.  A label
holds at most one line end in a row, and the text after it begins where `textStart` says. -/
def labelBlanks? (s : Source) (textStart : Nat → Option Nat) :
    Nat → Bool → Nat → Option Nat
  | 0, _, i => some i
  | fuel + 1, broken, i =>
    match s[i]? with
    | none => some i
    | some c =>
      if isLineEnd c then
        if broken then none
        else (textStart (i + (s.lineEnd? i).getD 1)).bind (labelBlanks? s textStart fuel true)
      else if isSpace c then labelBlanks? s textStart fuel broken (i + 1)
      else some i

/-- Reads a label from inside its opening bracket to its closing one. -/
def LabelScan.scan (s : Source) (textStart : Nat → Option Nat) (inTable : Bool) :
    Nat → LabelScan → Option LabelScan
  | 0, _ => none
  | fuel + 1, l =>
    if maxLabelSize ≤ l.size then none
    else match s[l.pos]? with
      | none => none
      | some c =>
        if c == '[' then none
        else if c == ']' then some l
        else if c == '\\' then
          if inTable && s.is (l.pos + 1) '|' then
            scan s textStart inTable fuel
              { l with pos := l.pos + 2, text := '|' :: l.text, size := l.size + 1 }
          else
            scan s textStart inTable fuel
              { l with
                pos := l.pos + 2
                text := (s.slice l.pos (l.pos + 2)).reverse ++ l.text
                size := l.size + 2 }
        else if isAsciiBlank c then
          match labelBlanks? s textStart (s.size + 1) false l.pos with
          | none => none
          | some next =>
            scan s textStart inTable fuel
              { l with pos := next, text := ' ' :: l.text, size := l.size + (next - l.pos) }
        else
          scan s textStart inTable fuel
            { l with
              pos := l.pos + 1
              text := c :: l.text
              vacant := false
              size := l.size + 1 }

/-- The label that begins with the `[` at a place: where it ends, and the key under which its
definition is kept. -/
def label? (s : Source) (textStart : Nat → Option Nat) (inTable : Bool) (i : Nat) :
    Option (Nat × List Char) :=
  if s.is i '[' then
    match LabelScan.scan s textStart inTable (s.size + 1) ⟨i + 1, [], true, 0⟩ with
    | none => none
    | some l => if l.vacant then none else some (l.pos + 1, fold (trim l.text.reverse))
  else none

/-- A definition: the key of its label and the destination it gives. -/
structure Definition where
  key : List Char
  destination : List Char

/-- The destination that a key is defined to have; the first definition counts. -/
def Definition.find? (ds : List Definition) (key : List Char) : Option (List Char) :=
  (ds.find? (·.key == key)).map (·.destination)

end SlideDeck.Markdown

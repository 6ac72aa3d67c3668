/-
Reading one leaf block: code, HTML, a heading, a table or a paragraph.

Each function is given the open containers and the place where the block begins, and gives
the block with the place where reading goes on.  A block of several lines goes on as long
as its containers do; a paragraph alone may go on without them.
-/
import SlideDeck.Markdown.Outline
import SlideDeck.Text.Search

namespace SlideDeck.Markdown

/-! ### Lines taken as they are -/

/-- A line of code or HTML with its line end made a line feed. -/
def rawLine (s : Source) (start stop : Nat) : List Char :=
  if s.is (stop - 2) '\r' && s.has (stop - 1) (·.toNat < 0x80) then
    s.slice start (stop - 2) ++ s.slice (stop - 1) stop
  else s.slice start stop

/-- A line of code after the columns of a tab that are left of its indentation. -/
def codeLine (s : Source) (start stop pending : Nat) : List Char :=
  List.replicate pending ' ' ++ rawLine s start stop

/-- The lines of a fenced block from `i` on, and where reading goes on after it. -/
def fencedLines (s : Source) (ks : List Container) (fence : Fence) (indent : Nat) :
    Nat → Nat → List (List Char) × Nat
  | 0, i => ([], i)
  | fuel + 1, i =>
    let (n, c) := Container.enterAll s ks (Cursor.start i)
    if n < ks.length then ([], i)
    else
      let c := (c.skip s indent).2
      let (missing, close) := c.skip s (4 - indent)
      match if missing == 0 then none else closingFence? s fence close.pos with
      | some stop => ([], stop + (s.blankRest? stop).getD 0)
      | none =>
        let next := s.nextLine c.pos
        let (lines, stop) := fencedLines s ks fence indent fuel next
        (codeLine s c.pos next c.pending :: lines, stop)

/-- The fenced block whose fence stands at `i`. -/
def fencedBlock (s : Source) (ks : List Container) (fence : Fence) (indent i : Nat) :
    Block × Nat :=
  let info := i + fence.length
  let info := info + s.run isSpace info
  let next := s.nextLine info
  let infoEnd := next - s.runBack isAsciiBlank info next
  let (lines, stop) := fencedLines s ks fence indent (s.size + 1) next
  (.code (unescape false (s.slice info infoEnd)) lines, stop)

/-- The lines of an indented block from `i` on, each with whether it is blank; where reading
goes on after it, and whether the last line was blank. -/
def indentedLines (s : Source) (ks : List Container) :
    Nat → Nat → Nat → Bool → List (List Char × Bool) × Nat × Bool
  | 0, i, _, blank => ([], i, blank)
  | fuel + 1, i, pending, blank =>
    let next := s.nextLine i
    let line := (codeLine s i next pending, blank)
    let (n, c) := Container.enterAll s ks (Cursor.start next)
    let (missing, c) := c.skip s 4
    if n < ks.length || !(missing == 0 || c.atLineEnd s) || c.pos == s.size then
      ([line], next, blank)
    else
      let blank := (s.blankRest? c.pos).isSome
      let (lines, stop, last) := indentedLines s ks fuel c.pos c.pending blank
      (line :: lines, stop, last)

/-- The indented block whose text begins at `i`: blank lines at its end are no part of it. -/
def indentedBlock (s : Source) (ks : List Container) (i pending : Nat) : Block × Nat × Bool :=
  let (lines, stop, blank) := indentedLines s ks (s.size + 1) i pending false
  let kept := (lines.reverse.dropWhile (·.2)).reverse
  (.code [] (kept.map (·.1)), stop, blank)

/-- A line of HTML after its indentation. -/
def htmlLine (s : Source) (start stop indent : Nat) : List HtmlPart :=
  (if indent == 0 then [] else [.indent indent]) ++ [.line (rawLine s start stop)]

/-- The lines of a block of HTML from `i` on.  It ends with the line that holds its closing
text, or before a blank line if it has none. -/
def htmlLines (s : Source) (ks : List Container) (closing : Option (List Char)) :
    Nat → Nat → Nat → List HtmlPart × Nat
  | 0, i, _ => ([], i)
  | fuel + 1, i, indent =>
    let next := s.nextLine i
    let line := htmlLine s i next indent
    let (n, c) := Container.enterAll s ks (Cursor.start next)
    let ends :=
      n < ks.length || c.pos == s.size ||
        (match closing with
          | some mark => Text.contains mark (s.slice i next)
          | none => c.atLineEnd s || (s.blankRest? c.pos).isSome)
    if ends then (line, next)
    else
      let (lines, stop) := htmlLines s ks closing fuel c.pos c.pending
      (line ++ lines, stop)

/-- The block of HTML that begins at `i`, indented by some columns. -/
def htmlBlock (s : Source) (ks : List Container) (closing : Option (List Char))
    (i indent : Nat) : Block × Nat :=
  let (parts, stop) := htmlLines s ks closing (s.size + 1) i indent
  (.html parts, stop)

/-! ### Headings -/

/-- Where the text of a heading ends: number signs at the end of the line close the heading
if a space stands before them. -/
def headingTextEnd (s : Source) (start stop : Nat) : Nat :=
  let limit := stop - s.runBack (fun c => c == '\n' || c == '\r' || c == ' ') start stop
  let closer := limit - s.runBack (· == '#') start limit
  if closer == start then start
  else
    let spaces := s.runBack (· == ' ') start closer
    if 0 < spaces then closer - spaces else limit

/-- The pieces of a heading whose text begins at `start` and ends at `limit`.  A run of marks
keeps its length; any other last piece takes in the tabs that stand before the end. -/
def endHeadingAt (start limit : Nat) (pieces : List Piece) : List Piece :=
  if limit == start then []
  else
    match pieces.getLast? with
    | none => []
    | some last => endLastAt (if last.lexeme.isRun then min last.stop limit else limit) pieces

/-- The heading of a level whose number signs begin at `i`. -/
def headingBlock (s : Source) (ks : List Container) (level i : Nat) : Block × Nat :=
  let text := i + level
  let text := text + s.run isSpace text
  match s.lineEnd? text with
  | some n => (.heading level Attributes.empty i (text + n) ⟨[], text + n, ks, false⟩, text + n)
  | none =>
    let stop := s.nextLine text
    let (textStop, attributes) := (trailingAttributes? s text stop).getD (stop, Attributes.empty)
    let pieces := (cutLine s .flow text textStop).pieces
    let limit := headingTextEnd s text textStop
    (.heading level attributes i stop ⟨endHeadingAt text limit pieces, stop, ks, false⟩, stop)

/-- The pieces of a heading that is underlined, and its attributes; `kept` if a backslash
follows them. -/
def underlinedPieces (s : Source) (start : Nat) (kept : Bool) (pieces : List Piece) :
    List Piece × Attributes :=
  match pieces.getLast? with
  | none => (pieces, Attributes.empty)
  | some last =>
    let found := trailingAttributes? s start last.stop
    let textStop := (found.map (·.1)).getD last.stop
    let stop := if kept then textStop else textStop - s.runBack isSpace start textStop
    match found with
    | none => (endLastAt stop pieces, Attributes.empty)
    | some (_, attributes) => (endLastAt stop (truncatePieces s stop pieces), attributes)

/-! ### Tables -/

/-- The cells of a row from `i` on, and where its line ends. -/
def rowCells (s : Source) (ks : List Container) : Nat → Nat → List Passage × Nat
  | 0, i => ([], i)
  | fuel + 1, i =>
    let i := if s.is i '|' then i + 1 else i
    let i := i + s.run isSpace i
    match s.lineEnd? i with
    | some n => ([], i + n)
    | none =>
      let line := cutLine s .cell i s.size
      let (cells, stop) := rowCells s ks fuel line.next
      (⟨line.pieces, line.next, ks, true⟩ :: cells, stop)

/-- A row with as many cells as the table has columns.  Without columns nothing is left
out. -/
def fitRow (ks : List Container) (columns stop : Nat) (cells : List Passage) : List Passage :=
  if columns == 0 then cells
  else cells.take columns ++ List.replicate (columns - cells.length) ⟨[], stop, ks, true⟩

/-- The rows of a table from the line at `i` on, and where reading goes on after it. -/
def tableRows (s : Source) (ks : List Container) (columns : Nat) :
    Nat → Nat → List (List Passage) × Nat
  | 0, i => ([], i)
  | fuel + 1, i =>
    let (n, c) := Container.enterAll s ks (Cursor.start i)
    let start := (c.skipBlanks s).pos
    if n < ks.length || interruptsPlainly s start true true then ([], i)
    else match rowCells s ks (s.size + 1) start with
      | ([], _) => ([], i)
      | (cells, stop) =>
        let (rows, last) := tableRows s ks columns fuel stop
        (fitRow ks columns stop cells :: rows, last)

/-- The table whose head begins at `i` and whose other rows begin at `body`. -/
def tableBlock (s : Source) (ks : List Container) (columns i body : Nat) : Block × Nat :=
  let (head, stop) := rowCells s ks (s.size + 1) i
  let (rows, last) := tableRows s ks columns (s.size + 1) body
  (.table (fitRow ks columns stop head :: rows), last)

/-! ### Paragraphs -/

/-- The lines of a paragraph that begins at `start`, from `i` on; `above` are the pieces of the
lines above.  An underline makes a heading of it. -/
def paragraphLines (s : Source) (ks : List Container) (start : Nat) :
    Nat → Nat → List Piece → Block × Nat
  | 0, i, above => (.paragraph false ⟨above, i, ks, false⟩, i)
  | fuel + 1, i, above =>
    let line := cutLine s .flow i s.size
    let pieces := above ++ line.pieces
    let backslash : List Piece :=
      match line.lineBreak with
      | some ⟨at_, _, .hardBreak true⟩ => [⟨at_, at_ + 1, .text false⟩]
      | _ => []
    let (n, c) := Container.enterAll s ks (Cursor.start line.next)
    let within := n == ks.length
    let (missing, c) := c.skip s 4
    let paragraph := (.paragraph false ⟨pieces ++ backslash, line.next, ks, false⟩, line.next)
    match if within && missing != 0 then underline? s c.pos else none with
    | some (stop, level) =>
      let (pieces, attributes) := underlinedPieces s start (!backslash.isEmpty) pieces
      (.heading level attributes start stop ⟨pieces ++ backslash, stop, ks, false⟩, stop)
    | none =>
      if missing != 0 && interrupts s ks c.pos within then paragraph
      else
        let c := c.skipBlanks s
        if c.atLineEnd s then paragraph
        else paragraphLines s ks start fuel c.pos (pieces ++ line.lineBreak.toList)

/-- Whether a backslash at the end of the line at `i` breaks the line. -/
def endsInBackslash (s : Source) (i : Nat) : Bool :=
  s.runBack (· == '\\') i (s.seek isLineEnd i) % 2 == 1

/-- The paragraph or table that begins at `i`.  The head of a table does not end in a line break
of its own. -/
def paragraphBlock (s : Source) (ks : List Container) (i : Nat) : Block × Nat :=
  match if endsInBackslash s i then none else tableHead? s ks i with
  | some (columns, body) => tableBlock s ks columns i body
  | none => paragraphLines s ks i (s.size + 1) i []

/-! ### Definitions -/

/-- The blanks between the parts of a definition: where they end, and how many line ends are
among them, which is at most one.  A line that would interrupt a paragraph is no part of a
definition. -/
def definitionBlanks? (s : Source) (ks : List Container) (i : Nat) : Option (Nat × Nat) :=
  let i := i + s.run isSpace i
  match s.lineEnd? i with
  | none => some (i, 0)
  | some n =>
    match continuation? (i + n) with
    | none => none
    | some j =>
      let j := j + s.run isSpace j
      if (s.lineEnd? j).isSome then none else some (j, 1)
where
  continuation? (i : Nat) : Option Nat :=
    let (n, c) := Container.enterAll s ks (Cursor.start i)
    let (missing, c) := c.skip s 4
    if missing != 0 && (interrupts s ks c.pos (n == ks.length) || (underline? s c.pos).isSome) then
      none
    else some c.pos

/-- The definition that begins at `i`: where it ends, and what it defines. -/
def definition? (s : Source) (ks : List Container) (i : Nat) : Option (Nat × Definition) :=
  let labelLine (i : Nat) : Option Nat :=
    let (n, c) := Container.enterAll s ks (Cursor.start i)
    let within := n == ks.length
    if interrupts s ks c.pos within || (within && (underline? s c.pos).isSome) then none
    else some c.pos
  match label? s labelLine false i with
  | none => none
  | some (stop, key) =>
    if !s.is stop ':' then none
    else match definitionBlanks? s ks (stop + 1) with
      | none => none
      | some (j, _) =>
        match destination? s j with
        | none => none
        | some (k, destination) =>
          if k == j then none
          else
            let found : Definition := ⟨key, unescape false destination⟩
            match definitionBlanks? s ks k with
            | none => some (k, found)
            | some (t, newlines) =>
              let newlines := if k == s.size then newlines + 1 else newlines
              if t == k && newlines == 0 then none
              else if 1 < newlines then some (k, found)
              else
                let untitled := if 0 < newlines then some (k, found) else none
                match definitionTitleEnd? s (Container.textStart s ks) t with
                | none => untitled
                | some stop =>
                  if (s.blankRest? stop).isSome then some (stop, found) else untitled

end SlideDeck.Markdown

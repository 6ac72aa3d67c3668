/-
The marks by which a block announces itself at the start of a line.

Each function looks at one place and says whether a mark of its kind stands there: a
thematic break, a heading of either style, a code fence, a list marker, or the row of
dashes and pipes under the head of a table.  None of them looks at the blocks around.
-/
import SlideDeck.Markdown.Cursor

namespace SlideDeck.Markdown

/-! ### Breaks, headings and fences -/

/-- The place after a thematic break: three or more of one mark, with blanks between. -/
def breakEnd? (s : Source) (i : Nat) : Option Nat :=
  match s[i]? with
  | none => none
  | some mark =>
    if mark == '*' || mark == '-' || mark == '_' then
      let stop := i + s.run (fun c => c == mark || c == ' ' || c == '\t') i
      match s.lineEnd? stop with
      | none => none
      | some n => if 3 ≤ (s.slice i stop).count mark then some (stop + n) else none
    else none

/-- The level of a heading that begins with number signs. -/
def headingLevel? (s : Source) (i : Nat) : Option Nat :=
  let level := s.run (· == '#') i
  if 1 ≤ level && level ≤ 6 && (s[i + level]?.all isAsciiBlank) then some level else none

/-- The underline of a heading: the place after its line, and the level it gives. -/
def underline? (s : Source) (i : Nat) : Option (Nat × Nat) :=
  match s[i]? with
  | none => none
  | some mark =>
    if mark == '=' || mark == '-' then
      let stop := i + s.run (· == mark) i
      (s.blankRest? stop).map fun n => (stop + n, if mark == '=' then 1 else 2)
    else none

/-- A code fence: how many marks it has, and which. -/
structure Fence where
  length : Nat
  mark : Char

/-- The fence that opens a code block.  The line of a backtick fence holds no other. -/
def fence? (s : Source) (i : Nat) : Option Fence :=
  match s[i]? with
  | none => none
  | some mark =>
    if mark == '`' || mark == '~' then
      let n := s.run (· == mark) i
      if n < 3 then none
      else if mark == '`' && (s.slice (i + n) (s.nextLine (i + n))).contains '`' then none
      else some ⟨n, mark⟩
    else none

/-- The place after a fence that closes a code block; the end of the document closes any. -/
def closingFence? (s : Source) (fence : Fence) (i : Nat) : Option Nat :=
  if s.size ≤ i then some i
  else
    let n := s.run (· == fence.mark) i
    if n < fence.length then none
    else
      let stop := i + n + s.run (· == ' ') (i + n)
      (s.lineEnd? stop).map fun _ => stop

/-! ### List markers -/

/-- A list marker: its last character, its number, and how far its item is indented. -/
structure Marker where
  mark : Char
  indent : Nat
  next : Cursor

/-- Adds the blanks after a marker to the indent, unless the rest of the line is blank or
they begin indented code. -/
def Marker.settle (s : Source) (mark : Char) (indent : Nat) (c : Cursor) : Marker :=
  if (s.blankRest? c.pos).isSome then ⟨mark, indent, c⟩
  else
    let (missing, c') := c.skip s 4
    if missing == 0 then ⟨mark, indent, c⟩ else ⟨mark, indent + (4 - missing), c'⟩

/-- Whether a marker may end at a cursor, and the cursor after its first blank. -/
def Marker.gap? (s : Source) (c : Cursor) : Option Cursor :=
  let (missing, c') := c.skip s 1
  if missing == 0 || c'.atLineEnd s then some c' else none

/-- The digits of an ordered marker at a place, and the character that follows them. -/
def orderedMark? (s : Source) (i : Nat) : Option (List Char × Char) :=
  let n := s.run Char.isDigit i
  if 1 ≤ n && n ≤ 9 then
    match s[i + n]? with
    | some '.' => some (s.slice i (i + n), '.')
    | some ')' => some (s.slice i (i + n), ')')
    | _ => none
  else none

/-- The list marker at a cursor that stands `outer` columns into the line.  A line that is a
thematic break is no list item. -/
def marker? (s : Source) (c : Cursor) (outer : Nat) : Option Marker :=
  match s[c.pos]? with
  | none => none
  | some mark =>
    if mark == '-' || mark == '+' || mark == '*' then
      if (breakEnd? s c.pos).isSome then none
      else (gap? (c.advance 1)).map fun c' => Marker.settle s mark (outer + 2) c'
    else
      match orderedMark? s c.pos with
      | none => none
      | some (digits, mark) =>
        let width := digits.length + 1
        (gap? (c.advance width)).map fun c' => Marker.settle s mark (outer + 1 + width) c'
where
  gap? := Marker.gap? s

/-- Whether the next two lines from a place are blank, as they are for an item with nothing
in it. -/
def emptyItemRest (s : Source) (i : Nat) : Bool :=
  match s.blankRest? i with
  | none => false
  | some n => (s.blankRest? (i + n)).isSome

/-- The list marker at a place: where it ends, and whether it may interrupt a paragraph of
its own container, which an ordered marker may only with the number one. -/
def interruptingMarker? (s : Source) (i : Nat) : Option (Nat × Bool) :=
  let found :=
    match s[i]? with
    | none => none
    | some mark =>
      if mark == '-' || mark == '+' || mark == '*' then some (i + 1, true)
      else (orderedMark? s i).map fun (digits, _) =>
        (i + digits.length + 1, digits.dropWhile (· == '0') == ['1'])
  match found with
  | none => none
  | some (stop, first) =>
    if s.has stop (fun c => c == ' ' || c == '\t') || (s.lineEnd? stop).isSome then
      some (stop, first)
    else none

/-! ### Tables -/

/-- How far the scan of a delimiter row has come. -/
structure DelimiterScan where
  columns : Nat
  /-- Nothing of the current column has been seen. -/
  fresh : Bool
  pipe : Bool
  hyphen : Bool
  hyphenHere : Bool

/-- The row ends at a place: it needs a pipe and a hyphen somewhere. -/
def DelimiterScan.stop (d : DelimiterScan) (i : Nat) : Option (Nat × Nat) :=
  if d.pipe && d.hyphen then some (i, if d.fresh then d.columns else d.columns + 1) else none

/-- Reads the characters of a delimiter row from a place on.  A column that a pipe closes
needs a hyphen.  A character that no such row has ends it without columns, so that it can
only stand under a head that has none either. -/
def DelimiterScan.scan (s : Source) : List Char → Nat → DelimiterScan → Option (Nat × Nat)
  | [], i, d => d.stop (i + (s.lineEnd? i).getD 0)
  | c :: cs, i, d =>
    if c == ' ' then scan s cs (i + 1) d
    else if c == ':' then scan s cs (i + 1) { d with fresh := false }
    else if c == '-' then
      scan s cs (i + 1) { d with fresh := false, hyphen := true, hyphenHere := true }
    else if c == '|' then
      if d.hyphenHere then
        scan s cs (i + 1)
          { d with columns := d.columns + 1, fresh := true, pipe := true, hyphenHere := false }
      else none
    else { d with columns := 0, fresh := true }.stop i

/-- The delimiter row at a place: where it ends, and how many columns it has.  It may begin
with a pipe only in the first column of its line. -/
def delimiterRow? (s : Source) (i : Nat) : Option (Nat × Nat) :=
  let (missing, _) := (Cursor.start i).skip s 4
  if missing == 0 || s.size ≤ i then none
  else
    let lead := s.is i '|'
    let first := if lead then i + 1 else i
    DelimiterScan.scan s (s.slice first (s.seek isLineEnd first)) first
      ⟨0, true, lead, false, false⟩

/-- The pipes on a line: how many there are, where the last one stands, and the next line. -/
structure Pipes where
  count : Nat
  last : Nat
  next : Nat

/-- How many columns a row has, given its pipes: a pipe before the first cell and one after
the last only frame the row. -/
def Pipes.columns (s : Source) (p : Pipes) (start : Nat) : Nat :=
  let framed := s.is (start + s.run isSpace start) '|'
  let inner := if framed then p.count - 1 else p.count
  if (s.blankRest? (p.last + 1)).isSome then inner else inner + 1

end SlideDeck.Markdown

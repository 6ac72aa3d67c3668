/-
Cutting a line of running text into lexemes.

A lexeme is a stretch of plain text or a mark that may turn out to mean something: a run of
emphasis marks, a run of backticks, a bracket, an angle bracket, a character reference or
the end of the line.  Cutting needs no look at other lines, so it is done while blocks are
being found; what the marks mean is decided when the whole block is known.
-/
import SlideDeck.Markdown.Entity
import SlideDeck.Markdown.Source
import SlideDeck.Text.Punctuation

namespace SlideDeck.Markdown

open SlideDeck.Text

/-- What a stretch of a line may be. -/
inductive Lexeme where
  /-- Plain text; `escaped` if a backslash before it was used up. -/
  | text (escaped : Bool)
  /-- A run of one emphasis mark. -/
  | emphasis (mark : Char) (canOpen canClose : Bool)
  /-- A run of backticks; `escaped` if a backslash stands before it. -/
  | backticks (escaped : Bool)
  | angle
  | imageOpen
  | linkOpen
  /-- A closing bracket; `mayRefer` unless it has closed a label that names nothing. -/
  | linkClose (mayRefer : Bool)
  /-- A character reference and the text it stands for. -/
  | reference (value : List Char)
  | softBreak
  /-- A line break that is kept; `backslash` if one made it so, rather than blanks. -/
  | hardBreak (backslash : Bool)

namespace Lexeme

/-- Whether the meaning of a lexeme depends on the lexemes around it. -/
def isOpen : Lexeme → Bool
  | emphasis .. | backticks _ | angle | imageOpen | linkOpen | linkClose _ => true
  | text _ | reference _ | softBreak | hardBreak _ => false

/-- Whether a lexeme is a run of one mark, whose length counts. -/
def isRun : Lexeme → Bool
  | emphasis .. | backticks _ => true
  | _ => false

end Lexeme

/-- A lexeme and where it stands. -/
structure Piece where
  start : Nat
  stop : Nat
  lexeme : Lexeme

/-- Whether a line belongs to a paragraph or heading, or to a cell of a table, which ends
at the next pipe. -/
inductive LineKind where
  | flow
  | cell
deriving DecidableEq

/-! ### Emphasis marks

A run may open emphasis if text follows it and may close emphasis if text stands before it.
Which characters count as text depends on the mark: an underscore inside a word does
neither, an asterisk or a pair of tildes inside a word does both. -/

/-- The neighbours of a run of marks: the characters on its two sides, the first if the run
does not begin its line. -/
structure Flank where
  mark : Char
  length : Nat
  before : Option Char
  after : Option Char
  /-- In a cell: an unescaped pipe stands right before the run. -/
  afterPipe : Bool
  kind : LineKind

/-- Whether a run may open emphasis. -/
def Flank.canOpen (f : Flank) : Bool :=
  match f.after, f.before with
  | none, _ => false
  | some after, none => !isBlank after
  | some after, some before =>
    if isBlank after then false
    else if f.kind == .cell && f.afterPipe then true
    else if f.kind == .cell && after == '|' then false
    else if f.mark == '*' && !isPunctuation after then true
    else if f.mark == '~' && 1 < f.length then true
    else if f.mark == '~' && before == '~' && !isPunctuation after then true
    else isBlank before || isPunctuation before

/-- Whether a run may close emphasis. -/
def Flank.canClose (f : Flank) : Bool :=
  match f.before, f.after with
  | none, _ => false
  | some before, none => !isBlank before
  | some before, some after =>
    if isBlank before then false
    else if f.kind == .cell && f.afterPipe then false
    else if f.kind == .cell && after == '|' then true
    else if (f.mark == '*' || (f.mark == '~' && 1 < f.length)) && !isPunctuation before then true
    else if f.mark == '~' && before == '~' then true
    else isBlank after || isPunctuation after

/-- The neighbours of the run of marks at `i` in a line that begins at `start`. -/
def flankAt (s : Source) (kind : LineKind) (start i : Nat) (mark : Char) (length : Nat) :
    Flank where
  mark := mark
  length := length
  before := if i ≤ start then none else s[i - 1]?
  after := s[i + length]?
  afterPipe := start < i && s.is (i - 1) '|' && !(start + 1 < i && s.is (i - 2) '\\')
  kind := kind

/-! ### Lines -/

/-- How far the cutting of a line has come. -/
structure Cutting where
  pos : Nat
  /-- Where the plain text begins that has not been put out yet. -/
  textFrom : Nat
  escaped : Bool
  /-- The pieces found, last first. -/
  pieces : List Piece

namespace Cutting

/-- Puts out the plain text up to a place, if there is any. -/
def flush (c : Cutting) (stop : Nat) : Cutting :=
  if c.textFrom < stop then
    { c with pieces := ⟨c.textFrom, stop, .text c.escaped⟩ :: c.pieces, escaped := false }
  else { c with escaped := false }

/-- Puts out the plain text before a mark, then the mark, and goes on after it. -/
def mark (c : Cutting) (start stop : Nat) (lexeme : Lexeme) : Cutting :=
  let c := c.flush start
  { c with pos := stop, textFrom := stop, pieces := ⟨start, stop, lexeme⟩ :: c.pieces }

/-- Puts out the plain text before a backslash, drops the backslash, and lets plain text
begin after it. -/
def escape (c : Cutting) (start textFrom next : Nat) (escaped : Bool) : Cutting :=
  let c := c.flush start
  { c with pos := next, textFrom := textFrom, escaped := escaped }

/-- Goes on after `n` characters of plain text. -/
def pass (c : Cutting) (n : Nat) : Cutting := { c with pos := c.pos + n }

end Cutting

/-- A line cut into pieces: what is on it, where it ends, and the break at its end. -/
structure CutLine where
  pieces : List Piece
  next : Nat
  lineBreak : Option Piece

/-- The end of a line that no line end closes: blanks at the end of its text are dropped. -/
def Cutting.finish (s : Source) (c : Cutting) (stop : Nat) : CutLine :=
  let c := c.flush (stop - s.runBack isSpace c.textFrom stop)
  ⟨c.pieces.reverse, stop, none⟩

/-- The end of a line of running text.  A backslash before it, or two blanks, make the break
one that is kept; the blanks are dropped. -/
def Cutting.finishLine (s : Source) (c : Cutting) : CutLine :=
  let i := c.pos
  let next := i + (s.lineEnd? i).getD 1
  let stop (at_ : Nat) (lexeme : Lexeme) : CutLine :=
    ⟨(c.flush at_).pieces.reverse, next, some ⟨at_, next, lexeme⟩⟩
  if s.runBack (· == '\\') 0 i % 2 == 1 && next < s.size then stop (i - 1) (.hardBreak true)
  else
    let blanks := s.runBack isSpace 0 i
    if 2 ≤ blanks then stop (i - blanks) (.hardBreak false) else stop (i - blanks) .softBreak

/-- What one character of a line leads to: the end of the line, or a cutting that has come
further. -/
inductive CutStep where
  | done (line : CutLine)
  | more (c : Cutting)

/-- Cuts at the backslash at the current place, if it escapes the next character. -/
def Cutting.backslash (s : Source) (kind : LineKind) (c : Cutting) : Cutting :=
  let i := c.pos
  if !s.has (i + 1) isAsciiPunctuation then c.pass 1
  else if s.is (i + 1) '`' then
    let stop := i + 1 + s.run (· == '`') (i + 1)
    let c := c.flush i
    { c with
      pos := stop
      textFrom := stop
      pieces := ⟨i + 1, stop, .backticks true⟩ :: c.pieces }
  else if kind == .cell && s.is (i + 1) '|' then c.escape i (i + 1) (i + 2) false
  else if kind == .cell && s.is (i + 1) '\\' && s.is (i + 2) '|' then
    c.escape i (i + 2) (i + 3) true
  else c.escape i (i + 1) (i + 2) true

/-- Cuts at the run of emphasis marks at the current place.  The characters around it are
those of the whole document, even where the line has been cut short. -/
def Cutting.marks (whole : Source) (kind : LineKind) (start : Nat) (c : Cutting) (mark : Char) :
    Cutting :=
  let i := c.pos
  let n := whole.run (· == mark) i
  let flank := flankAt whole kind start i mark n
  if (flank.canOpen || flank.canClose) && (mark != '~' || n ≤ 2) then
    c.mark i (i + n) (.emphasis mark flank.canOpen flank.canClose)
  else c.pass n

/-- Looks at one character of a line. -/
def Cutting.step (whole s : Source) (kind : LineKind) (start : Nat) (c : Cutting) : CutStep :=
  let i := c.pos
  match s[i]? with
  | none => .done (c.finish s i)
  | some x =>
    if isLineEnd x then
      .done (match kind with | .cell => c.finish s i | .flow => c.finishLine s)
    else if x == '\\' then .more (c.backslash s kind)
    else if x == '*' || x == '_' || x == '~' then .more (c.marks whole kind start x)
    else if x == '`' then .more (c.mark i (i + s.run (· == '`') i) (.backticks false))
    else if x == '<' && !s.is (i + 1) '\\' then .more (c.mark i (i + 1) .angle)
    else if x == '!' && s.is (i + 1) '[' then .more (c.mark i (i + 2) .imageOpen)
    else if x == '[' then .more (c.mark i (i + 1) .linkOpen)
    else if x == ']' then .more (c.mark i (i + 1) (.linkClose true))
    else if x == '&' then
      -- no reference is longer than this
      let ahead := s.slice (i + 1) (i + 48)
      match Entity.afterAmpersand? ahead with
      | some (value, rest) =>
        .more (c.mark i (i + 1 + (ahead.length - rest.length)) (.reference value))
      | none => .more (c.pass 1)
    else if x == '|' && kind == .cell && !(0 < i && s.is (i - 1) '\\') then .done (c.finish s i)
    else .more (c.pass 1)

/-- Looks at the characters of a line until it ends. -/
def Cutting.run (whole s : Source) (kind : LineKind) (start : Nat) : Nat → Cutting → CutLine
  | 0, c => c.finish s c.pos
  | fuel + 1, c =>
    match c.step whole s kind start with
    | .done line => line
    | .more c => run whole s kind start fuel c

/-- Cuts the line that begins at `start`, in a document that may be read up to `stop`. -/
def cutLine (s : Source) (kind : LineKind) (start stop : Nat) : CutLine :=
  let cut := if stop < s.size then s.upTo stop else s
  Cutting.run s cut kind start (s.size + 1) ⟨start, start, false, []⟩

end SlideDeck.Markdown

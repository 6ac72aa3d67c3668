/-
What the marks in running text mean.

The pieces of a block are taken from left to right.  Code spans, raw HTML and automatic
links are recognised first, since no other mark means anything inside them; a closing
bracket then looks for what makes a link of the text since its opening bracket: a
destination in parentheses, a label, or a label that is the text itself.  What is left are
runs of emphasis marks, which are paired last, inside a link apart from outside.
-/
import SlideDeck.Markdown.Cursor
import SlideDeck.Markdown.Emphasis
import SlideDeck.Markdown.Lexeme
import SlideDeck.Markdown.RawHtml
import SlideDeck.Markdown.Reference

namespace SlideDeck.Markdown

open SlideDeck.Text

/-- The running text of a block: its pieces, where the block ends, the containers around it,
and whether it is a cell of a table. -/
structure Passage where
  pieces : List Piece
  stop : Nat
  containers : List Container
  inTable : Bool

/-! ### Automatic links -/

/-- The place after the address of an automatic link that names its scheme. -/
def schemeAddressEnd? (s : Source) (i : Nat) : Option Nat :=
  if s.has i Char.isAlpha then
    let n := 1 + s.run (fun c => c.isAlphanum || c == '.' || c == '-' || c == '+') (i + 1)
    if 2 ≤ n && n ≤ 32 && s.is (i + n) ':' then
      let stop := s.seek (fun c => c == '>' || c == '<' || c.toNat ≤ 0x20) (i + n + 1)
      if s.is stop '>' then some stop else none
    else none
  else none

/-- A character that may stand before the at sign of a mail address. -/
def isMailName (c : Char) : Bool :=
  c.isAlphanum || ".!#$%&'*+/=?^_\x60\x7b|\x7d~-".contains c

/-- The place after the host of a mail address, which is a row of names with points between
them. -/
def hostEnd? (s : Source) : Nat → Nat → Option Nat
  | 0, _ => none
  | fuel + 1, i =>
    let n := s.run (fun c => c.isAlphanum || c == '-') i
    if n == 0 || 63 < n || s.is i '-' || s.is (i + n - 1) '-' then none
    else if s.is (i + n) '.' then hostEnd? s fuel (i + n + 1)
    else some (i + n)

/-- The place after the address of an automatic link that is a mail address. -/
def mailAddressEnd? (s : Source) (i : Nat) : Option Nat :=
  let n := s.run isMailName i
  if 1 ≤ n && s.is (i + n) '@' then
    match hostEnd? s (s.size + 1) (i + n + 1) with
    | none => none
    | some stop => if s.is stop '>' then some stop else none
  else none

/-- The place after the address of an automatic link. -/
def addressEnd? (s : Source) (i : Nat) : Option Nat :=
  (schemeAddressEnd? s i).orElse fun _ => mailAddressEnd? s i

/-! ### Code spans -/

/-- The text of a code span: a line end is a space, the marks of containers after it are no
part of the text, and in a table a backslash before a pipe is dropped. -/
def codeText (s : Source) (p : Passage) (stop : Nat) : Nat → Nat → List Char
  | 0, _ => []
  | fuel + 1, i =>
    if stop ≤ i then []
    else match s[i]? with
      | none => []
      | some c =>
        if isLineEnd c then
          ' ' :: codeText s p stop fuel (Container.textStart s p.containers (i + 1))
        else if c == '\\' && p.inTable && s.is (i + 1) '|' then
          '|' :: codeText s p stop fuel (i + 2)
        else c :: codeText s p stop fuel (i + 1)

/-- A code span without one space at either end, if it has one at both and is not blank. -/
def trimCode (s : List Char) : List Char :=
  if s.head? == some ' ' && s.getLast? == some ' ' && !s.all (· == ' ') then
    (s.drop 1).dropLast
  else s

/-- The code span between two places. -/
def codeSpan (s : Source) (p : Passage) (start stop : Nat) : Inline :=
  .code (trimCode (codeText s p stop (s.size + 1) start))

/-- The pieces after the next run of exactly `count` backticks, and that run. -/
def closingBackticks? (count : Nat) : List Piece → Option (Piece × List Piece)
  | [] => none
  | p :: ps =>
    match p.lexeme with
    | .backticks _ =>
      if p.stop - p.start == count then some (p, ps) else closingBackticks? count ps
    | _ => closingBackticks? count ps

/-! ### Brackets -/

/-- What an opening bracket may still open. -/
inductive BracketKind where
  | link
  | image
  /-- Nothing, since a link inside it has been found: links hold no links. -/
  | disabled
deriving DecidableEq

/-- An open bracket and what came after it, last first. -/
structure Bracket where
  kind : BracketKind
  start : Nat
  stop : Nat
  content : List Inline

/-- Elements that are done, last first, under the brackets that are open, top first. -/
structure Bracketing where
  base : List Inline
  brackets : List Bracket

namespace Bracketing

/-- Puts an element on top. -/
def push (b : Bracketing) (x : Inline) : Bracketing :=
  match b.brackets with
  | [] => { b with base := x :: b.base }
  | k :: ks => { b with brackets := { k with content := x :: k.content } :: ks }

/-- A bracket given up: it is plain text before what it holds. -/
def flatten (s : Source) (k : Bracket) : List Inline :=
  k.content ++ [.text (s.slice k.start k.stop)]

/-- Gives up the topmost bracket. -/
def abandon (s : Source) (b : Bracketing) : Bracketing :=
  match b.brackets with
  | [] => b
  | k :: ks => (flatten s k).reverse.foldl push { b with brackets := ks }

/-- Everything taken so far, with the open brackets given up. -/
def finish (s : Source) (b : Bracketing) : List Inline :=
  (b.brackets.flatMap (flatten s) ++ b.base).reverse

/-- Makes a link or an image of the topmost bracket.  A link disables the brackets around it
that might open one. -/
def linked (b : Bracketing) (k : Bracket) (ks : List Bracket) (destination : List Char) :
    Bracketing :=
  let content := k.content.reverse
  let content := pairMarks (content.any Inline.isMarks) content
  if k.kind == .image then push { b with brackets := ks } (.image destination content)
  else
    let ks := ks.map fun k => if k.kind == .link then { k with kind := .disabled } else k
    push { b with brackets := ks } (.link destination content)

end Bracketing

/-- The pieces that are not used up when everything before a place is. -/
def dropTo (i : Nat) (ps : List Piece) : List Piece :=
  match ps.dropWhile (·.stop ≤ i) with
  | [] => []
  | p :: rest => { p with start := max p.start i } :: rest

/-- The blanks between the parts of a link, with at most one line end among them. -/
def passSeparator (s : Source) (p : Passage) (i : Nat) : Nat :=
  let i := i + s.run isSpace i
  let i :=
    match s.lineEnd? i with
    | none => i
    | some n => Container.textStart s p.containers (i + n)
  i + s.run isSpace i

/-- The destination and title in parentheses at a place: where they end, and the destination. -/
def inlineTarget? (s : Source) (p : Passage) (i : Nat) : Option (Nat × List Char) :=
  if s.is i '(' then
    match destination? s (passSeparator s p (i + 1)) with
    | none => none
    | some (j, destination) =>
      let j := passSeparator s p j
      let j :=
        match titleEnd? s p.inTable j with
        | none => j
        | some k => passSeparator s p k
      if s.is j ')' then some (j + 1, unescape p.inTable destination) else none
  else none

/-- Marks the closing bracket of a label, so that it is not tried again as a label of its
own. -/
def refuseLabel (i : Nat) : List Piece → List Piece
  | [] => []
  | p :: ps =>
    if p.stop ≤ i then p :: refuseLabel i ps
    else { p with lexeme := .linkClose false } :: ps

/-- What a closing bracket leads to: a link to a destination with the pieces after it, or
plain text with the pieces that are left. -/
inductive Closing where
  | linked (destination : List Char) (rest : List Piece)
  | plain (rest : List Piece)

/-- Looks up what the text in brackets refers to. -/
def referTo (s : Source) (ds : List Definition) (p : Passage) (k : Bracket) (closing : Piece)
    (mayRefer : Bool) (rest : List Piece) : Closing :=
  let textStart (i : Nat) : Option Nat := some (Container.textStart s p.containers i)
  let byKey (key : List Char) (after rest : List Piece) : Closing :=
    match Definition.find? ds key with
    | some destination => .linked destination after
    | none => .plain rest
  let byText (after : List Piece) : Closing :=
    if !mayRefer then .plain rest
    else match label? (s.upTo closing.stop) textStart p.inTable (k.stop - 1) with
      | none => .plain rest
      | some (stop, key) => if stop == closing.stop then byKey key after rest else .plain rest
  match rest with
  | [] => byText rest
  | next :: _ =>
    if s.matchesAt next.start ['[', ']'] then byText (rest.drop 2)
    else match label? s textStart p.inTable next.start with
      | none => byText rest
      | some (stop, key) =>
        match rest.dropWhile (·.stop ≤ stop - 1) with
        | [] => .plain rest
        | _ :: after => byKey key after (refuseLabel (stop - 1) rest)

/-- What a closing bracket leads to, given the bracket it closes. -/
def closeBracket (s : Source) (ds : List Definition) (p : Passage) (k : Bracket)
    (closing : Piece) (mayRefer : Bool) (rest : List Piece) : Closing :=
  match inlineTarget? s p closing.stop with
  | some (stop, destination) => .linked destination (dropTo stop rest)
  | none => referTo s ds p k closing mayRefer rest

/-! ### Pieces -/

/-- Takes one piece; gives the pieces that are left. -/
def takePiece (s : Source) (ds : List Definition) (p : Passage) (b : Bracketing) (x : Piece)
    (rest : List Piece) : Bracketing × List Piece :=
  let plain := (b.push (.text (s.slice x.start x.stop)), rest)
  match x.lexeme with
  | .text _ => plain
  | .reference value => (b.push (.text value), rest)
  | .softBreak => (b.push .softBreak, rest)
  | .hardBreak backslash => (b.push (.hardBreak backslash), rest)
  | .emphasis mark canOpen canClose =>
    (b.push (.marks mark (x.stop - x.start) canOpen canClose), rest)
  | .backticks escaped =>
    let count := x.stop - x.start
    if escaped then
      match if count == 1 then none else closingBackticks? (count - 1) rest with
      | none => plain
      | some (closing, after) =>
        ((b.push (.text ['`'])).push (codeSpan s p x.stop closing.start), after)
    else
      match closingBackticks? count rest with
      | none => plain
      | some (closing, after) => (b.push (codeSpan s p x.stop closing.start), after)
  | .angle =>
    match rest with
    | [] => plain
    | next :: _ =>
      match addressEnd? s next.start with
      | some stop =>
        let address := s.slice next.start stop
        (b.push (.link address [.text address]), dropTo (stop + 1) rest)
      | none =>
        match RawHtml.inline? s (Container.textStart s p.containers) x.start with
        | some (stop, html) => (b.push (.html html), dropTo stop rest)
        | none => plain
  | .imageOpen => ({ b with brackets := ⟨.image, x.start, x.stop, []⟩ :: b.brackets }, rest)
  | .linkOpen => ({ b with brackets := ⟨.link, x.start, x.stop, []⟩ :: b.brackets }, rest)
  | .linkClose mayRefer =>
    match b.brackets with
    | [] => plain
    | k :: ks =>
      let refused (rest : List Piece) :=
        ((b.abandon s).push (.text (s.slice x.start x.stop)), rest)
      if k.kind == .disabled then refused rest
      else match closeBracket s ds p k x mayRefer rest with
        | .linked destination rest => (b.linked k ks destination, rest)
        | .plain rest => refused rest

/-- Takes the pieces of a passage one after the other.  The bound is their number. -/
def takePieces (s : Source) (ds : List Definition) (p : Passage) :
    Nat → Bracketing → List Piece → Bracketing
  | 0, b, _ => b
  | _, b, [] => b
  | fuel + 1, b, x :: rest =>
    let (b, rest) := takePiece s ds p b x rest
    takePieces s ds p fuel b rest

/-- The elements of a passage. -/
def Passage.elements (s : Source) (ds : List Definition) (p : Passage) : List Inline :=
  let block := s.upTo p.stop
  let found := takePieces block ds p p.pieces.length ⟨[], []⟩ p.pieces
  pairMarks (p.pieces.any (·.lexeme.isOpen)) (found.finish block)

end SlideDeck.Markdown

/-
Walking over the indentation of a line, column by column.

A tab stands for the columns up to the next multiple of four, and a construct may need
only some of them.  The cursor therefore remembers, beside its place, how many columns of
the last tab are still to be used.  Tab stops are counted from the place where the walk
began or from just after the last tab.
-/
import SlideDeck.Markdown.Source

namespace SlideDeck.Markdown

/-- A place in a line, with the columns of a tab before it that are not used up. -/
structure Cursor where
  pos : Nat
  tabStart : Nat
  pending : Nat

namespace Cursor

/-- A cursor at the start of a line. -/
def start (i : Nat) : Cursor := ⟨i, i, 0⟩

/-- Passes at most `n` columns of blanks; gives the columns that were missing. -/
def skip (s : Source) (c : Cursor) : Nat → Nat × Cursor
  | 0 => (0, c)
  | n + 1 =>
    match c.pending with
    | k + 1 => skip s { c with pending := k } n
    | 0 =>
      if s.is c.pos ' ' then skip s { c with pos := c.pos + 1 } n
      else if s.is c.pos '\t' then
        let width := 4 - (c.pos - c.tabStart) % 4
        skip s ⟨c.pos + 1, c.pos + 1, width - 1⟩ n
      else (n + 1, c)

/-- Passes all the tabs and spaces at the cursor. -/
def skipBlanks (s : Source) (c : Cursor) : Cursor :=
  { c with pos := c.pos + s.run (fun x => x == ' ' || x == '\t') c.pos, pending := 0 }

/-- Moves past one character. -/
def advance (c : Cursor) (n : Nat) : Cursor := { c with pos := c.pos + n }

/-- Whether nothing is left on the line. -/
def atLineEnd (s : Source) (c : Cursor) : Bool :=
  match s[c.pos]? with
  | none => true
  | some x => isLineEnd x

end Cursor

/-- A block that holds other blocks and marks each of their lines. -/
inductive Container where
  /-- A block quote, whose lines begin with a greater-than sign. -/
  | quote
  /-- A list of items with the same marker; it is tight until a blank line parts items. -/
  | list (marker : Char) (tight : Bool)
  /-- An item, whose lines are indented by a number of columns. -/
  | item (indent : Nat)
deriving Repr, DecidableEq

namespace Container

/-- Passes the mark of one container at the start of a line, if it is there. -/
def enter? (s : Source) (c : Cursor) : Container → Option Cursor
  | quote =>
    let c' := (c.skip s 3).2
    if s.is c'.pos '>' then some ((c'.advance 1).skip s 1).2 else none
  | list _ _ => some c
  | item indent =>
    let (missing, c') := c.skip s indent
    if missing == 0 || c'.atLineEnd s then some c' else none

/-- Passes the marks of as many containers as the line has, outermost first; gives how many. -/
def enterAll (s : Source) : List Container → Cursor → Nat × Cursor
  | [], c => (0, c)
  | k :: ks, c =>
    match k.enter? s c with
    | none => (0, c)
    | some c' =>
      let (n, e) := enterAll s ks c'
      (n + 1, e)

/-- Where the text of a line begins that starts at `i` inside some containers. -/
def textStart (s : Source) (ks : List Container) (i : Nat) : Nat :=
  (enterAll s ks (Cursor.start i)).2.pos

end Container

end SlideDeck.Markdown

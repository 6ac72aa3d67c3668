/-
Pairing the marks of emphasis.

Running text arrives as a list in which runs of marks still stand between the other
elements.  The runs are taken from left to right.  One that may close looks back for the
nearest run it can be paired with; what stands between the two becomes the content of the
emphasis, and runs in it that found no partner become plain text.  One that may open waits
for a partner.  Runs that are still waiting at the end become plain text.

The waiting runs form a stack of levels, each holding what came after its run, so that
pairing takes off levels from the top and wraps what they hold.
-/
import SlideDeck.Markdown.Source

namespace SlideDeck.Markdown

/-- An element of running text. -/
inductive Inline where
  | text (s : List Char)
  /-- A run of emphasis marks that has not been paired yet. -/
  | marks (mark : Char) (count : Nat) (canOpen canClose : Bool)
  | code (s : List Char)
  | html (s : List Char)
  | softBreak
  /-- A line break that is kept; `backslash` if one made it so. -/
  | hardBreak (backslash : Bool)
  | emphasis (content : List Inline)
  | strong (content : List Inline)
  | strikethrough (content : List Inline)
  | link (destination : List Char) (content : List Inline)
  | image (destination : List Char) (content : List Inline)

namespace Inline

/-- A run of marks as plain text. -/
def plainMarks (mark : Char) (count : Nat) : Inline := text (List.replicate count mark)

/-- Whether an element is a run of marks. -/
def isMarks : Inline → Bool
  | marks .. => true
  | _ => false

end Inline

/-- A run that waits for a partner. -/
structure Opener where
  mark : Char
  /-- How many of its marks are left. -/
  count : Nat
  /-- How many marks it had at first. -/
  length : Nat
  /-- It might have closed emphasis as well. -/
  both : Bool

/-- A waiting run and what came after it, last first. -/
structure EmphasisLevel where
  opener : Opener
  content : List Inline

namespace EmphasisLevel

/-- A level given up: its run is plain text before what it holds. -/
def flatten (l : EmphasisLevel) : List Inline :=
  l.content ++ [.plainMarks l.opener.mark l.opener.count]

end EmphasisLevel

/-- Elements that are done, last first, under the levels that wait, top first. -/
structure Pairing where
  base : List Inline
  levels : List EmphasisLevel
  /-- How many of the lowest levels a tilde may no longer be paired with. -/
  tildeFloor : Nat

namespace Pairing

/-- Puts an element on top. -/
def push (p : Pairing) (x : Inline) : Pairing :=
  match p.levels with
  | [] => { p with base := x :: p.base }
  | l :: ls => { p with levels := { l with content := x :: l.content } :: ls }

/-- Whether a closing run can be paired with a waiting one.  Tildes pair with runs of their
own length.  A run that could both open and close pairs only if the two lengths do not add
up to a multiple of three, or its own length is one. -/
def pairs (mark : Char) (length : Nat) (both : Bool) (o : Opener) : Bool :=
  o.mark == mark && (mark != '~' || o.length == length) &&
    ((!both && !o.both) || (length + o.length) % 3 != 0 || length % 3 == 0)

/-- The topmost level that a closing run can be paired with, if `limit` levels may be looked
at, between the levels above it and those below. -/
def find? (p : Opener → Bool) : Nat → List EmphasisLevel →
    Option (List EmphasisLevel × EmphasisLevel × List EmphasisLevel)
  | 0, _ => none
  | _, [] => none
  | limit + 1, l :: ls =>
    if p l.opener then some ([], l, ls)
    else (find? p limit ls).map fun (above, found, below) => (l :: above, found, below)

/-- Content wrapped by pairs of marks: two marks each side make it strong, one emphasises
it, and tildes strike it through.  The last marks of an odd count are the outermost. -/
def wrap (mark : Char) : Nat → List Inline → List Inline
  | 0, content => content
  | 1, content => [if mark == '~' then .strikethrough content else .emphasis content]
  | n + 2, content =>
    wrap mark n [if mark == '~' then .strikethrough content else .strong content]

/-- Pairs a closing run, as long as it has marks and finds partners; gives how many of its
marks are left.  The bound is the number of its marks. -/
def close (mark : Char) (length : Nat) (both : Bool) : Nat → Nat → Pairing → Nat × Pairing
  | 0, count, p => (count, p)
  | fuel + 1, count, p =>
    if count == 0 then (0, p)
    else
      let limit := if mark == '~' then p.levels.length - p.tildeFloor else p.levels.length
      match find? (pairs mark length both) limit p.levels with
      | none =>
        (count, if mark == '~' then { p with tildeFloor := p.levels.length } else p)
      | some (above, found, below) =>
        let used := min count found.opener.count
        let content := above.flatMap EmphasisLevel.flatten ++ found.content
        let wrapped := wrap mark used content.reverse
        let p : Pairing := { p with levels := below, tildeFloor := min p.tildeFloor below.length }
        let p :=
          if used < found.opener.count then
            { p with
              levels :=
                ⟨{ found.opener with count := found.opener.count - used }, wrapped.reverse⟩ ::
                  p.levels }
          else wrapped.foldl push p
        close mark length both fuel (count - used) p

/-- Takes one element. -/
def step (p : Pairing) : Inline → Pairing
  | .marks mark count canOpen canClose =>
    let (left, p) :=
      if canClose then close mark count (canOpen && canClose) count count p else (count, p)
    if left == 0 then p
    else if canOpen then
      { p with levels := ⟨⟨mark, left, count, canOpen && canClose⟩, []⟩ :: p.levels }
    else p.push (.plainMarks mark left)
  | x => p.push x

/-- Everything taken so far, with the waiting runs given up. -/
def finish (p : Pairing) : List Inline :=
  (p.levels.flatMap EmphasisLevel.flatten ++ p.base).reverse

end Pairing

/-- A backslash that ends running text breaks no line and stands for itself. -/
def plainLastBreak : List Inline → List Inline
  | [] => []
  | [.hardBreak true] => [.text ['\\']]
  | x :: xs => x :: plainLastBreak xs

/-- Running text with its marks paired.  If it holds anything whose meaning had to be worked
out, a backslash at its end is plain. -/
def pairMarks (worked : Bool) (xs : List Inline) : List Inline :=
  (xs.foldl Pairing.step ⟨[], [], 0⟩).finish |> if worked then plainLastBreak else id

end SlideDeck.Markdown

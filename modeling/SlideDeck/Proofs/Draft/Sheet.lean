/-
What is written on a slide, letter by letter.

A sheet is a block of text in which every letter knows the styles and the lists that were
open when it was written.  Nothing here counts offsets or sets blocks aside: a style is open
from where it is opened to where it is closed, or to the end of its sheet, and a heading or a
table is written on sheets of its own.  A manuscript has the sheets of one slide.
-/
import Mathlib.Data.List.Forall2
import SlideDeck.Draft.Compile
import SlideDeck.Proofs.Draft.Piece

namespace SlideDeck

/-! ### Lists that are open -/

/-- The outermost list of those that are open. -/
structure OuterList where
  kind : ListKind
  /-- Where the text of its sheet ended when the list was opened. -/
  start : Nat
deriving Repr, DecidableEq

/-- The lists that are open. -/
structure Lists where
  /-- The outermost one that was opened on this slide. -/
  outer : Option OuterList := none
  /-- How many are open inside the outermost one. -/
  depth : Nat := 0
  /-- The kinds of those that were opened on earlier slides, innermost first. -/
  carried : List ListKind := []
deriving Repr, DecidableEq

namespace Lists

/-- The kind of the innermost list. -/
def kind? (l : Lists) : Option ListKind := (l.outer.map (·.kind)).or l.carried.head?

/-- With one more list, at a place in the text. -/
def opening (l : Lists) (kind : ListKind) (start : Nat) : Lists :=
  match l.outer with
  | none => { l with outer := some ⟨kind, start⟩, depth := 0 }
  | some _ => { l with depth := l.depth + 1 }

/-- Without the innermost list. -/
def closing (l : Lists) : Lists :=
  match l.outer with
  | none => { l with carried := l.carried.tail }
  | some _ => if 0 < l.depth then { l with depth := l.depth - 1 } else { l with outer := none }

/-- The lists on the next slide, which are all from earlier slides. -/
def carriedOver (l : Lists) : Lists where
  carried := (l.outer.map fun o => List.replicate (l.depth + 1) o.kind).getD [] ++ l.carried

end Lists

/-! ### Letters and sheets -/

/-- A character with what was open when it was written. -/
structure Letter where
  char : Char
  /-- The styles that set something, innermost first. -/
  styles : List TextStyle
  lists : Lists
deriving DecidableEq

/-- A block of text, letter by letter. -/
structure Sheet where
  letters : List Letter := []
  /-- The styles that are open, with the HTML elements that opened them, innermost first. -/
  styles : List (Option String × TextStyle) := []
  lists : Lists := {}
  /-- The outermost lists that were closed on this sheet after something was written in them. -/
  closed : List OuterList := []
deriving DecidableEq

namespace Sheet

/-- A character as it is written here. -/
def letter (s : Sheet) (c : Char) : Letter :=
  ⟨c, (s.styles.map (·.2)).filter (· != {}), s.lists⟩

/-- Writes some characters. -/
def write (s : Sheet) (cs : List Char) : Sheet := { s with letters := s.letters ++ cs.map s.letter }

/-- Whether the last character is a line feed. -/
def endsWithNewline (s : Sheet) : Bool := s.letters.getLast?.any (·.char == '\n')

/-- Ends the paragraph, if one has begun. -/
def breakParagraph (s : Sheet) : Sheet :=
  if s.letters.isEmpty || s.endsWithNewline then s else s.write ['\n']

/-- Whether all characters are white space. -/
def isBlank (s : Sheet) : Bool := s.letters.all fun l => Text.isBlank l.char

/-- Opens a style of an HTML element, or of the markup if none is given. -/
def openStyle (s : Sheet) (style : TextStyle) (element : Option String) : Sheet :=
  { s with styles := (element, style) :: s.styles }

/-- Closes the innermost open style of an HTML element, or of the markup if none is given. -/
def closeStyle (s : Sheet) (element : Option String) : Sheet :=
  { s with styles := s.styles.eraseP (·.1 == element) }

/-- Writes code, which is in the font of a typewriter. -/
def writeCode (s : Sheet) (code : String) : Sheet :=
  ((s.openStyle { fontFamily := some "Courier New" } none).write code.toList).closeStyle none

/-- Takes a token of running text. -/
def takeInline (s : Sheet) : Token → Sheet
  | .text t | .emoji _ t => s.write t.toList
  | .emphasisOpen => s.openStyle { italic := some true } none
  | .strongOpen => s.openStyle { bold := some true } none
  | .strikethroughOpen => s.openStyle { strikethrough := some true } none
  | .linkOpen href => s.openStyle { link := some ⟨href⟩ } none
  | .emphasisClose | .strongClose | .strikethroughClose | .linkClose => s.closeStyle none
  | .inlineCode code => s.writeCode code
  | .htmlInline html =>
    match (InlineHtml.parse html).outcome with
    | .ok (.opening tag style) => s.openStyle style (some tag)
    | .ok (.closing tag) => s.closeStyle (some tag)
    | _ => s
  | .softBreak => s.write [' ']
  | .hardBreak => s.write ['\x0b']
  | _ => s

/-- Takes running text. -/
def takeText (s : Sheet) (content : List InlineToken) : Sheet :=
  content.foldl (fun s t => s.takeInline t.val) s

/-- Takes a section heading, which is a paragraph in bold. -/
def takeHeading (s : Sheet) (content : List InlineToken) : Sheet :=
  (((s.breakParagraph.openStyle { bold := some true } none).takeText content).closeStyle
    none).breakParagraph

/-- Takes a block of code. -/
def takeCode (s : Sheet) (content : String) : Sheet :=
  (s.breakParagraph.writeCode (Draft.codeText content)).breakParagraph

/-- Opens a list, which begins a paragraph if it is an outermost one. -/
def openList (s : Sheet) (kind : ListKind) : Sheet :=
  let s := if s.lists.outer.isNone then s.breakParagraph else s
  { s with lists := s.lists.opening kind s.letters.length }

/-- Closes a list. -/
def closeList (s : Sheet) : Sheet :=
  { s with
    lists := s.lists.closing
    closed := s.closed ++ (s.lists.outer.filter fun o =>
      s.lists.depth == 0 && o.start < s.letters.length).toList }

/-- Opens an item, with a tab for each list around its own. -/
def openItem (s : Sheet) : Sheet :=
  let depth := if s.lists.outer.isSome then s.lists.depth else 0
  s.breakParagraph.write (List.replicate depth '\t')

/-- Closes an item. -/
def closeItem (s : Sheet) : Sheet := if s.endsWithNewline then s else s.write ['\n']

/-- The sheet after this one, where the lists go on and no style does. -/
def next (s : Sheet) : Sheet := { lists := s.lists }

/-- A letter that is there after something was written was there before or is new. -/
theorem letter_write {s : Sheet} {cs : List Char} {i : Nat} {l : Letter}
    (hl : (s.write cs).letters[i]? = some l) :
    s.letters[i]? = some l ∨ (s.letters.length ≤ i ∧ ∃ c, l = s.letter c) := by
  rcases Nat.lt_or_ge i s.letters.length with hi | hi
  · exact Or.inl (by rwa [write, List.getElem?_append_left hi] at hl)
  · rw [write, List.getElem?_append_right hi, List.getElem?_map, Option.map_eq_some_iff] at hl
    obtain ⟨c, -, rfl⟩ := hl
    exact Or.inr ⟨hi, c, rfl⟩

theorem length_le_write (s : Sheet) (cs : List Char) :
    s.letters.length ≤ (s.write cs).letters.length := by
  rw [write, List.length_append]
  exact Nat.le_add_right _ _

theorem lists_breakParagraph (s : Sheet) : s.breakParagraph.lists = s.lists := by
  unfold breakParagraph
  split <;> rfl

theorem openList_outer {s : Sheet} (houter : s.lists.outer = none) (kind : ListKind) :
    s.openList kind = { s.breakParagraph with
      lists :=
        { s.lists with outer := some ⟨kind, s.breakParagraph.letters.length⟩, depth := 0 } } := by
  simp [openList, Lists.opening, houter, lists_breakParagraph]

theorem openList_inner {s : Sheet} {o : OuterList} (houter : s.lists.outer = some o)
    (kind : ListKind) :
    s.openList kind = { s with lists := { s.lists with depth := s.lists.depth + 1 } } := by
  simp [openList, Lists.opening, houter]

theorem closeList_none {s : Sheet} (houter : s.lists.outer = none) :
    s.closeList = { s with lists := { s.lists with carried := s.lists.carried.tail } } := by
  simp [closeList, Lists.closing, houter]

theorem closeList_inner {s : Sheet} {o : OuterList} (houter : s.lists.outer = some o)
    (hdepth : 0 < s.lists.depth) :
    s.closeList = { s with lists := { s.lists with depth := s.lists.depth - 1 } } := by
  simp [closeList, Lists.closing, houter, hdepth, Nat.ne_of_gt hdepth]

theorem closeList_outer {s : Sheet} {o : OuterList} (houter : s.lists.outer = some o)
    (hdepth : s.lists.depth = 0) :
    s.closeList = { s with
      lists := { s.lists with outer := none }
      closed := s.closed ++ if o.start < s.letters.length then [o] else [] } := by
  by_cases hlt : o.start < s.letters.length <;>
    simp [closeList, Lists.closing, Option.filter, houter, hdepth, hlt]

end Sheet

/-! ### Manuscripts -/

/-- The sheets of a slide. -/
structure Manuscript where
  title : Option Sheet := none
  subtitle : Option Sheet := none
  /-- The columns that are complete. -/
  columns : List Sheet := []
  /-- The column that is being written. -/
  sheet : Sheet := {}
  /-- The cells of the tables, row by row. -/
  tables : List (List (List Sheet)) := []

namespace Manuscript

/-- Changes the column that is being written. -/
def onSheet (m : Manuscript) (f : Sheet → Sheet) : Manuscript := { m with sheet := f m.sheet }

/-- Begins a column. -/
def turn (m : Manuscript) : Manuscript :=
  { m with columns := m.columns ++ [m.sheet], sheet := m.sheet.next }

/-- The manuscript of the next slide. -/
def next (m : Manuscript) : Manuscript := { sheet := { lists := m.sheet.lists.carriedOver } }

/-- Takes a piece.  Slide headings and tables are written on sheets of their own, a column
paragraph begins a column, and everything else is written in the last column. -/
def take (m : Manuscript) : Piece → Manuscript
  | .inline t => m.onSheet (·.takeInline t.val)
  | .paragraph attributes content =>
    (if attributes.hasClass "column" then m.turn else m).onSheet
      fun s => (s.takeText content).breakParagraph
  | .heading level _ _ content =>
    if level = 1 then { m with title := some (({} : Sheet).takeText content) }
    else if level = 2 then { m with subtitle := some (({} : Sheet).takeText content) }
    else m.onSheet (·.takeHeading content)
  | .table rows =>
    { m with tables := m.tables ++ [rows.map fun row => row.map ({} : Sheet).takeText] }
  | .code _ content => m.onSheet (·.takeCode content)
  | .listOpen kind => m.onSheet (·.openList kind)
  | .listClose _ => m.onSheet Sheet.closeList
  | .itemOpen => m.onSheet Sheet.openItem
  | .itemClose => m.onSheet Sheet.closeItem
  | .html _ | .rule => m

/-- The columns that make bodies: the last one does not if it is blank. -/
def bodies (m : Manuscript) : List Sheet := m.columns ++ if m.sheet.isBlank then [] else [m.sheet]

/-- The manuscripts of some pieces, the first of which goes on with one that is begun. -/
def written (m : Manuscript) : List Piece → List Manuscript
  | [] => [m]
  | .rule :: ps => m :: written m.next ps
  | p :: ps => written (m.take p) ps

theorem written_cons {p : Piece} (hp : p ≠ .rule) (m : Manuscript) (ps : List Piece) :
    m.written (p :: ps) = (m.take p).written ps := by
  cases p with
  | rule => exact absurd rfl hp
  | _ => rfl

end Manuscript

/-- The manuscripts of a document.  A rule at the very start parts nothing. -/
def manuscripts : List Piece → List Manuscript
  | .rule :: ps => Manuscript.written {} ps
  | ps => Manuscript.written {} ps

theorem manuscripts_cons {p : Piece} (hp : p ≠ .rule) (ps : List Piece) :
    manuscripts (p :: ps) = Manuscript.written {} (p :: ps) := by
  cases p with
  | rule => exact absurd rfl hp
  | _ => rfl

/-! ### Slides and manuscripts -/

/-- The blocks of a slide are in a relation with the sheets of a manuscript, of which some are
its bodies. -/
structure Slide.Shows (R : TextBlock → Sheet → Prop) (slide : Slide) (m : Manuscript)
    (sheets : List Sheet) : Prop where
  title : Option.Rel R slide.title m.title
  subtitle : Option.Rel R slide.subtitle m.subtitle
  bodies : List.Forall₂ (fun body s => R body.text s) slide.bodies sheets
  tables : List.Forall₂ (fun t rows => List.Forall₂ (List.Forall₂ R) t.cells rows)
    slide.tables m.tables

/-- The blocks of some slides are in a relation with the sheets of some manuscripts. -/
def Shown (R : TextBlock → Sheet → Prop) (slides : List Slide) (ms : List Manuscript) : Prop :=
  List.Forall₂ (fun slide m => slide.Shows R m m.bodies) slides ms

theorem optionRel_imp {R R' : TextBlock → Sheet → Prop} (himp : ∀ b s, R b s → R' b s)
    {b : Option TextBlock} {s : Option Sheet} (h : Option.Rel R b s) : Option.Rel R' b s := by
  cases h with
  | none => exact .none
  | some h => exact .some (himp _ _ h)

theorem Slide.Shows.imp {R R' : TextBlock → Sheet → Prop} (himp : ∀ b s, R b s → R' b s)
    {slide : Slide} {m : Manuscript} {sheets : List Sheet} (h : slide.Shows R m sheets) :
    slide.Shows R' m sheets :=
  ⟨optionRel_imp himp h.title, optionRel_imp himp h.subtitle, h.bodies.imp fun _ _ => himp _ _,
    h.tables.imp fun _ _ ht => ht.imp fun _ _ hrow => hrow.imp himp⟩

theorem Shown.imp {R R' : TextBlock → Sheet → Prop} (himp : ∀ b s, R b s → R' b s)
    {slides : List Slide} {ms : List Manuscript} (h : Shown R slides ms) : Shown R' slides ms :=
  List.Forall₂.imp (fun _ _ hslide => hslide.imp himp) h

end SlideDeck

/-
The runs of nested styles, inner ones first.

A run is recorded when its style is closed.  Where every closing token closes the style that was
opened last, styles are closed from the inside out, and the runs that cover a character stand in
the order in which its letter lists its styles: the innermost first.  A style that overlaps with
another one is closed out of turn, and nothing is said about documents with such styles.
-/
import SlideDeck.Proofs.Draft.Script
import SlideDeck.Proofs.Draft.Sealed

namespace SlideDeck

/-! ### Nesting -/

/-- The elements that opened the styles that are open, innermost first, `none` standing for the
markup; without the innermost one, if it is the given element. -/
def closeInnermost? (element : Option String) (opened : List (Option String)) :
    Option (List (Option String)) :=
  if opened.head? = some element then some opened.tail else none

/-- What is open after a token of running text, unless it closes a style out of turn. -/
def Token.nest? (opened : List (Option String)) : Token → Option (List (Option String))
  | .emphasisOpen | .strongOpen | .strikethroughOpen | .linkOpen _ => some (none :: opened)
  | .emphasisClose | .strongClose | .strikethroughClose | .linkClose => closeInnermost? none opened
  | .htmlInline html =>
    match (InlineHtml.parse html).outcome with
    | .ok (.opening tag _) => some (some tag :: opened)
    | .ok (.closing tag) => closeInnermost? (some tag) opened
    | _ => some opened
  | _ => some opened

/-- What is open after some running text. -/
def nestText? (opened : List (Option String)) (content : List InlineToken) :
    Option (List (Option String)) :=
  content.foldlM (fun opened t => t.val.nest? opened) opened

/-- Whether all styles in some running text are nested and closed. -/
def nestedText (content : List InlineToken) : Bool := nestText? [] content == some []

namespace Piece

/-- What is open after a piece.  Only tokens of running text may be given where something is
open, and the text of a paragraph, a heading or a cell is nested in itself. -/
def nest? (opened : List (Option String)) : Piece → Option (List (Option String))
  | .inline t => t.val.nest? opened
  | .paragraph _ content | .heading _ _ _ content =>
    if opened = [] ∧ nestedText content then some [] else none
  | .table rows =>
    if opened = [] ∧ rows.all (fun row => row.all nestedText) then some [] else none
  | _ => if opened = [] then some [] else none

/-- Whether all styles of a document are nested. -/
def nested (ps : List Piece) : Bool := ps.foldlM nest? [] == some []

end Piece

variable {opened opened' : List (Option String)}

theorem closeInnermost?_eq_some {element : Option String}
    (h : closeInnermost? element opened = some opened') : opened = element :: opened' := by
  unfold closeInnermost? at h
  split at h
  · rename_i hhead
    cases opened with
    | nil => cases hhead
    | cons innermost outer =>
        rw [Option.some.inj hhead]
        exact congrArg _ (Option.some.inj h)
  · cases h

theorem closeInnermost?_append {element : Option String}
    (h : closeInnermost? element opened = some opened') (under : List (Option String)) :
    closeInnermost? element (opened ++ under) = some (opened' ++ under) := by
  rw [closeInnermost?_eq_some h]
  exact if_pos rfl

/-- Running text that is nested stays so above what is open already. -/
theorem Token.nest?_append {t : Token} (h : t.nest? opened = some opened')
    (under : List (Option String)) : t.nest? (opened ++ under) = some (opened' ++ under) := by
  cases t with
  | emphasisClose | strongClose | strikethroughClose | linkClose =>
      exact closeInnermost?_append h under
  | htmlInline html =>
      rcases hparse : (InlineHtml.parse html).outcome with _ | (⟨tag, style⟩ | tag | body) <;>
        simp only [Token.nest?, hparse] at h ⊢
      · rw [← Option.some.inj h]
      · rw [← Option.some.inj h]
        rfl
      · exact closeInnermost?_append h under
      · rw [← Option.some.inj h]
  | _ =>
      rw [← Option.some.inj h]
      rfl

theorem nestText?_cons (opened : List (Option String)) (t : InlineToken)
    (content : List InlineToken) :
    nestText? opened (t :: content) = (t.val.nest? opened).bind (nestText? · content) :=
  List.foldlM_cons

theorem nestText?_append {content : List InlineToken} (h : nestText? opened content = some opened')
    (under : List (Option String)) :
    nestText? (opened ++ under) content = some (opened' ++ under) := by
  induction content generalizing opened with
  | nil =>
      rw [Option.some.inj h]
      rfl
  | cons t content ih =>
      rw [nestText?_cons] at h ⊢
      obtain ⟨middle, hfirst, hrest⟩ := Option.bind_eq_some_iff.mp h
      rw [Token.nest?_append hfirst under]
      exact ih hrest

theorem nestText?_of_nestedText {content : List InlineToken} (h : nestedText content = true)
    (opened : List (Option String)) : nestText? opened content = some opened :=
  nestText?_append (eq_of_beq h) opened

/-! ### Blocks -/

namespace OpenBlock

/-- The styles of a block that is being written are those of a sheet, in the same order, and
were opened by the given elements. -/
structure InOrder (b : OpenBlock) (opened : List (Option String)) (s : Sheet) : Prop where
  elements : b.styles.map (·.element) = opened
  styled : ∀ i l, s.letters[i]? = some l → b.stylesAt i = l.styles

variable {b : OpenBlock} {list : Option OpenList} {s : Sheet}

theorem inOrder_empty {lists : Lists} : empty.InOrder [] { lists := lists } :=
  ⟨rfl, fun i l hl => by cases hl⟩

theorem InOrder.write (h : b.InOrder opened s) (hreads : b.Reads list s) (t : String) :
    (b.append t).InOrder opened (s.write t.toList) := by
  refine ⟨h.elements, fun i l hl => ?_⟩
  rcases Sheet.letter_write hl with hl | ⟨hi, c, rfl⟩
  · exact h.styled i l hl
  · exact hreads.styles.next (hreads.length_eq ▸ hi)

theorem InOrder.breakParagraph (h : b.InOrder opened s) (hreads : b.Reads list s) :
    b.breakParagraph.InOrder opened s.breakParagraph := by
  unfold OpenBlock.breakParagraph Sheet.breakParagraph
  rw [hreads.atParagraphStart_eq]
  split
  · exact h
  · exact h.write hreads "\n"

theorem InOrder.closeItem (h : b.InOrder opened s) (hreads : b.Reads list s) :
    b.closeItem.InOrder opened s.closeItem := by
  unfold OpenBlock.closeItem Sheet.closeItem
  rw [hreads.endsWithNewline_eq]
  split
  · exact h
  · exact h.write hreads "\n"

theorem InOrder.openStyle (h : b.InOrder opened s) (hreads : b.Reads list s) (style : TextStyle)
    (element : Option String) :
    (b.openStyle style element).InOrder (element :: opened) (s.openStyle style element) := by
  refine ⟨congrArg _ h.elements, fun i l hl => ?_⟩
  rw [stylesAt_openStyle b style element (hreads.lt_length hl)]
  exact h.styled i l hl

/-- A style that is closed in its turn becomes the last run, and no character can tell. -/
theorem endStyle_innermost {o : OpenStyle} {outer : List OpenStyle}
    (hstyles : b.styles = o :: outer) :
    b.endStyle o.element = { b with styles := outer }.addRun o := by
  have hof : isOf o.element o = true := beq_self_eq_true o.element
  unfold OpenBlock.endStyle
  rw [hstyles, List.find?_cons_of_pos hof, List.eraseP_cons_of_pos hof]

theorem stylesAt_endStyle_innermost {o : OpenStyle} {outer : List OpenStyle}
    (hstyles : b.styles = o :: outer) {i : Nat} (hi : i < b.text.length) :
    (b.endStyle o.element).stylesAt i = b.stylesAt i := by
  have hrun := stylesAt_text_addRun { b with styles := outer } o hi
  rw [endStyle_innermost hstyles, stylesAt, hrun, styles_addRun, stylesAt, hstyles, openAt, openAt,
    List.filterMap_cons, List.append_assoc]
  cases o.styleAt i <;> rfl

theorem InOrder.endStyle {element : Option String} (h : b.InOrder (element :: opened) s)
    (hreads : b.Reads list s) : (b.endStyle element).InOrder opened (s.closeStyle element) := by
  obtain ⟨o, outer, hstyles, rfl, hopened⟩ := List.map_eq_cons_iff.mp h.elements
  refine ⟨?_, fun i l hl => ?_⟩
  · rw [endStyle_innermost hstyles, styles_addRun]
    exact hopened
  · rw [stylesAt_endStyle_innermost hstyles (hreads.lt_length hl)]
    exact h.styled i l hl

theorem InOrder.writeCode (h : b.InOrder opened s) (hreads : b.Reads list s) (code : String) :
    (b.writeCode code).InOrder opened (s.writeCode code) :=
  ((h.openStyle hreads Draft.codeStyle none).write (hreads.openStyle _ none) code).endStyle
    ((hreads.openStyle _ none).write code)

/-! ### Running text -/

theorem InOrder.takeInline {t : Token} (h : b.InOrder opened s) (hreads : b.Reads list s)
    (hnest : t.nest? opened = some opened') :
    (b.takeInline t).InOrder opened' (s.takeInline t) := by
  cases t with
  | text t | emoji shortcode t =>
      rw [← Option.some.inj hnest]
      exact h.write hreads t
  | emphasisOpen | strongOpen | strikethroughOpen | linkOpen href =>
      rw [← Option.some.inj hnest]
      exact h.openStyle hreads _ none
  | emphasisClose | strongClose | strikethroughClose | linkClose =>
      rw [closeInnermost?_eq_some hnest] at h
      exact h.endStyle hreads
  | inlineCode code =>
      rw [← Option.some.inj hnest]
      exact h.writeCode hreads code
  | htmlInline html =>
      rcases hparse : (InlineHtml.parse html).outcome with _ | (⟨tag, style⟩ | tag | body) <;>
        simp only [Token.nest?, OpenBlock.takeInline, Sheet.takeInline, hparse] at hnest ⊢
      · rwa [← Option.some.inj hnest]
      · rw [← Option.some.inj hnest]
        exact h.openStyle hreads style (some tag)
      · rw [closeInnermost?_eq_some hnest] at h
        exact h.endStyle hreads
      · rwa [← Option.some.inj hnest]
  | softBreak =>
      rw [← Option.some.inj hnest]
      exact h.write hreads " "
  | hardBreak =>
      have hwrite := h.write hreads (String.singleton Draft.lineBreak)
      rw [String.toList_singleton] at hwrite
      rwa [← Option.some.inj hnest]
  | _ => rwa [← Option.some.inj hnest]

theorem InOrder.takeText {content : List InlineToken} (h : b.InOrder opened s)
    (hreads : b.Reads list s) (hnest : nestText? opened content = some opened') :
    (b.takeText content).InOrder opened' (s.takeText content) := by
  induction content generalizing b s opened with
  | nil => rwa [← Option.some.inj hnest]
  | cons t content ih =>
      rw [nestText?_cons] at hnest
      obtain ⟨middle, hfirst, hrest⟩ := Option.bind_eq_some_iff.mp hnest
      exact ih (h.takeInline hreads hfirst) (hreads.takeInline t.val) hrest

theorem InOrder.takeHeading {content : List InlineToken} (h : b.InOrder opened s)
    (hreads : b.Reads list s) (hnest : nestedText content = true) :
    (b.takeHeading content).InOrder opened (s.takeHeading content) := by
  have hbold := hreads.breakParagraph.openStyle { bold := some true } none
  have hopen := (h.breakParagraph hreads).openStyle hreads.breakParagraph { bold := some true } none
  have htext := hopen.takeText hbold (nestText?_of_nestedText hnest _)
  exact (htext.endStyle (hbold.takeText content)).breakParagraph
    ((hbold.takeText content).endStyle none)

theorem InOrder.takeCode (h : b.InOrder opened s) (hreads : b.Reads list s) (content : String) :
    (b.takeCode content).InOrder opened (s.takeCode content) :=
  ((h.breakParagraph hreads).writeCode hreads.breakParagraph _).breakParagraph
    (hreads.breakParagraph.writeCode _)

theorem InOrder.makeBig (h : b.InOrder opened s) : b.makeBig.InOrder opened s :=
  ⟨h.elements, h.styled⟩

/-- A style that sets nothing may be opened without the sheet. -/
theorem InOrder.openUnder (h : b.InOrder opened s) (hreads : b.Reads list s) (style : TextStyle)
    (element : Option String) : (b.openStyle style element).InOrder (element :: opened) s :=
  ⟨(h.openStyle hreads style element).elements, (h.openStyle hreads style element).styled⟩

end OpenBlock

/-! ### Sealed blocks -/

/-- A sealed block renders a sheet, and the runs that cover a character have the styles of its
letter in the same order. -/
structure TextBlock.InOrder (b : TextBlock) (s : Sheet) : Prop where
  renders : b.Renders s
  sound : b.Sealed
  ordered : ∀ i l, i < b.length → s.letters[i]? = some l → b.stylesAt i = l.styles

namespace OpenBlock

variable {b : OpenBlock} {list : Option OpenList} {s : Sheet}

theorem InOrder.sealed (h : b.InOrder opened s) (hreads : b.Reads list s) : b.sealed.InOrder s := by
  refine ⟨hreads.renders, b.sealed_sealed, fun i l hi hl => ?_⟩
  rw [stylesAt_sealed hreads.styles.bounded hi]
  exact h.styled i l hl

theorem inOrder_ofHeading (attributes : Attributes) {content : List InlineToken}
    (hnest : nestedText content = true) :
    (ofHeading attributes content).sealed.InOrder (({} : Sheet).takeText content) := by
  have hempty : empty.Reads none {} := reads_empty rfl rfl rfl rfl
  have hreads : (if attributes.hasClass "big" then empty.makeBig else empty).Reads none {} := by
    split
    · exact hempty.makeBig
    · exact hempty
  have hbig : (if attributes.hasClass "big" then empty.makeBig else empty).InOrder [] {} := by
    split
    · exact inOrder_empty.makeBig
    · exact inOrder_empty
  have hunder := hreads.openUnder (rfl : TextStyle.empty.isEmpty = true) rfl none
  have htext := (hbig.openUnder hreads TextStyle.empty none).takeText hunder
    (nestText?_of_nestedText hnest _)
  have hclosed := (htext.endStyle (hunder.takeText content)).sealed
    ((hunder.takeText content).endStyle none)
  exact ⟨renders_ofHeading attributes content, hclosed.sound, hclosed.ordered⟩

theorem inOrder_ofCell {content : List InlineToken} (hnest : nestedText content = true) :
    (ofCell content).sealed.InOrder (({} : Sheet).takeText content) := by
  have hreads : empty.Reads none {} := reads_empty rfl rfl rfl rfl
  exact (inOrder_empty.takeText hreads (nestText?_of_nestedText hnest [])).sealed
    (hreads.takeText content)

/-- Which lists are open makes no difference. -/
theorem InOrder.withLists (h : b.InOrder opened s) {s' : Sheet}
    (hletters : s'.letters = s.letters) : b.InOrder opened s' :=
  ⟨h.elements, fun i l hl => h.styled i l (hletters ▸ hl)⟩

theorem InOrder.openItem (h : b.InOrder opened s) (hreads : b.Reads list s) :
    (b.openItem list).InOrder opened s.openItem := by
  have hdepth : (if s.lists.outer.isSome then s.lists.depth else 0) =
      (list.map (·.depth)).getD 0 := by
    rw [hreads.items.ongoing]
    cases s.lists.outer <;> rfl
  have hwrite := (h.breakParagraph hreads).write hreads.breakParagraph
    (String.ofList (List.replicate ((list.map (·.depth)).getD 0) '\t'))
  rw [String.toList_ofList] at hwrite
  rwa [Sheet.openItem, hdepth]

end OpenBlock

/-! ### Galleys -/

namespace Galley

variable {g : Galley} {m : Manuscript}

/-- The blocks of a galley have the styles of the sheets of a manuscript in the same order. -/
structure InOrder (g : Galley) (opened : List (Option String)) (m : Manuscript) : Prop where
  follows : g.Follows m
  complete : g.Shows TextBlock.InOrder m
  block : g.block.InOrder opened m.sheet

theorem inOrder_empty {lists : Lists} (houter : lists.outer = none) :
    InOrder {} [] { sheet := { lists := lists } } :=
  ⟨follows_empty houter, shows_empty _, OpenBlock.inOrder_empty⟩

theorem InOrder.withBlock (h : g.InOrder opened m) {b : OpenBlock} {s : Sheet}
    (hreads : b.Reads g.list s) (hblock : b.InOrder opened' s) :
    InOrder { g with block := b } opened' { m with sheet := s } :=
  ⟨h.follows.withBlock hreads, h.complete.withList b g.list s, hblock⟩

theorem InOrder.turn (h : g.InOrder opened m) : g.turn.InOrder [] m.turn :=
  ⟨h.follows.turn, h.complete.turn (h.block.sealed h.follows.reads), OpenBlock.inOrder_empty⟩

theorem InOrder.paragraph (h : g.InOrder [] m) (attributes : Attributes)
    {content : List InlineToken} (hnest : nestedText content = true) :
    (g.take (.paragraph attributes content)).InOrder []
      (m.take (.paragraph attributes content)) := by
  have hturn : InOrder (if attributes.hasClass "column" then g.turn else g) []
      (if attributes.hasClass "column" then m.turn else m) := by
    split
    · exact h.turn
    · exact h
  have hreads := hturn.follows.reads
  have hblock := hturn.block
  refine ⟨h.follows.paragraph attributes content, h.complete.paragraph
    (h.block.sealed h.follows.reads) attributes content, ?_⟩
  show OpenBlock.InOrder (((if attributes.hasClass "big" then _ else _ : OpenBlock).takeText
    content).breakParagraph) [] _
  cases attributes.hasClass "big" with
  | true =>
      exact (hblock.makeBig.takeText hreads.makeBig
        (nestText?_of_nestedText hnest _)).breakParagraph (hreads.makeBig.takeText content)
  | false =>
      exact (hblock.takeText hreads (nestText?_of_nestedText hnest _)).breakParagraph
        (hreads.takeText content)

theorem InOrder.heading (h : g.InOrder [] m) (level : Nat) (positive : 0 < level)
    (attributes : Attributes) {content : List InlineToken} (hnest : nestedText content = true) :
    (g.take (.heading level positive attributes content)).InOrder []
      (m.take (.heading level positive attributes content)) := by
  refine ⟨h.follows.heading level positive attributes content, h.complete.heading level positive
    attributes content (OpenBlock.inOrder_ofHeading attributes hnest), ?_⟩
  simp only [take, Manuscript.take]
  split
  · exact h.block
  · split
    · exact h.block
    · exact h.block.takeHeading h.follows.reads hnest

theorem InOrder.openList (h : g.InOrder opened m) (kind : ListKind) :
    (g.openList kind).InOrder opened (m.onSheet (·.openList kind)) := by
  have hreads := h.follows.reads
  refine ⟨h.follows.openList kind, h.complete.openList kind, ?_⟩
  unfold Galley.openList
  split
  · rename_i hlist
    rw [hlist] at hreads
    have houter : m.sheet.lists.outer = none := Option.map_eq_none_iff.mp hreads.items.ongoing.symm
    refine (h.block.breakParagraph hreads).withLists ?_
    show (m.sheet.openList kind).letters = _
    rw [Sheet.openList_outer houter]
  · rename_i l hlist
    rw [hlist] at hreads
    obtain ⟨o, houter, -⟩ := Option.map_eq_some_iff.mp hreads.items.ongoing.symm
    refine h.block.withLists ?_
    show (m.sheet.openList kind).letters = _
    rw [Sheet.openList_inner houter]

theorem InOrder.closeList (h : g.InOrder opened m) :
    g.closeList.InOrder opened (m.onSheet Sheet.closeList) := by
  refine ⟨h.follows.closeList, h.complete.closeList, ?_⟩
  unfold Galley.closeList
  split
  · exact h.block.withLists rfl
  · split
    · exact h.block.withLists rfl
    · exact ⟨h.block.elements, h.block.styled⟩

/-- A piece that is given only on a condition leaves nothing open. -/
theorem of_ite_eq_some {c : Prop} [Decidable c]
    (h : (if c then some [] else none) = some opened') : c ∧ opened' = [] := by
  split at h
  · rename_i hc
    exact ⟨hc, (Option.some.inj h).symm⟩
  · cases h

theorem InOrder.take {p : Piece} (h : g.InOrder opened m) (hnest : p.nest? opened = some opened') :
    (g.take p).InOrder opened' (m.take p) := by
  have hreads := h.follows.reads
  cases p with
  | inline t => exact h.withBlock (hreads.takeInline t.val) (h.block.takeInline hreads hnest)
  | paragraph attributes content =>
      obtain ⟨⟨rfl, htext⟩, rfl⟩ := of_ite_eq_some hnest
      exact h.paragraph attributes htext
  | heading level positive attributes content =>
      obtain ⟨⟨rfl, htext⟩, rfl⟩ := of_ite_eq_some hnest
      exact h.heading level positive attributes htext
  | table rows =>
      obtain ⟨⟨rfl, hrows⟩, rfl⟩ := of_ite_eq_some hnest
      refine ⟨h.follows.table rows, h.complete.table rows fun row hrow cell hcell => ?_, h.block⟩
      have hcells := List.all_eq_true.mp hrows row hrow
      exact OpenBlock.inOrder_ofCell (List.all_eq_true.mp hcells cell hcell)
  | code info content =>
      obtain ⟨rfl, rfl⟩ := of_ite_eq_some hnest
      exact h.withBlock (hreads.takeCode content) (h.block.takeCode hreads content)
  | listOpen kind =>
      obtain ⟨rfl, rfl⟩ := of_ite_eq_some hnest
      exact h.openList kind
  | listClose kind =>
      obtain ⟨rfl, rfl⟩ := of_ite_eq_some hnest
      exact h.closeList
  | itemOpen =>
      obtain ⟨rfl, rfl⟩ := of_ite_eq_some hnest
      exact h.withBlock hreads.openItem (h.block.openItem hreads)
  | itemClose =>
      obtain ⟨rfl, rfl⟩ := of_ite_eq_some hnest
      exact h.withBlock hreads.closeItem (h.block.closeItem hreads)
  | html s | rule =>
      obtain ⟨rfl, rfl⟩ := of_ite_eq_some hnest
      exact h

/-- A galley and a manuscript in the same order, between two pieces or at the end. -/
def Ordered (g : Galley) (m : Manuscript) : Prop := ∃ opened, g.InOrder opened m

theorem InOrder.written {ps : List Piece} (h : g.InOrder opened m)
    (hnest : ps.foldlM Piece.nest? opened = some opened') :
    List.Forall₂ Ordered (g.written ps) (m.written ps) := by
  induction ps generalizing g m opened with
  | nil => exact .cons ⟨opened, h⟩ .nil
  | cons p ps ih =>
      rw [List.foldlM_cons] at hnest
      obtain ⟨middle, hfirst, hrest⟩ := Option.bind_eq_some_iff.mp hnest
      by_cases hp : p = .rule
      · subst hp
        obtain ⟨rfl, rfl⟩ := of_ite_eq_some hfirst
        exact .cons ⟨[], h⟩ (ih (inOrder_empty rfl) hrest)
      · rw [written_cons hp, Manuscript.written_cons hp]
        exact ih (h.take hfirst) hrest

/-- The galleys of a document with nested styles have its styles in order. -/
theorem ordered_galleys {ps : List Piece} (hnest : Piece.nested ps = true) :
    List.Forall₂ Ordered (galleys ps) (manuscripts ps) := by
  have hall : ps.foldlM Piece.nest? [] = some [] := eq_of_beq hnest
  have hempty : InOrder {} [] {} := inOrder_empty rfl
  cases ps with
  | nil => exact hempty.written hall
  | cons p ps =>
      by_cases hp : p = .rule
      · subst hp
        exact hempty.written hall
      · rw [galleys_cons hp, manuscripts_cons hp]
        exact hempty.written hall

end Galley

/-! ### Slides -/

/-- If a document with nested styles compiles, the runs that cover a character of a block stand in
the order in which the styles were opened around it, the innermost first. -/
theorem inOrder_compileTokens {ps : List Piece} {slides : List Slide}
    (h : (compileTokens (ps.flatMap Piece.tokens)).outcome = .ok slides)
    (hnest : Piece.nested ps = true) : Shown TextBlock.InOrder slides (manuscripts ps) := by
  refine forall₂_setFrom (setFrom_compileTokens h) (Galley.ordered_galleys hnest) ?_
  rintro slide g m hslide ⟨opened, hg⟩
  have hblock := hg.block.sealed hg.follows.reads
  exact hslide.shows hg.complete (hg.complete.bodies hblock hblock.renders.isBlank_eq)

end SlideDeck

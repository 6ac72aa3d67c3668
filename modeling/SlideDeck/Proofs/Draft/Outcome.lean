/-
How the rules of a draft end.

Almost every rule for a token ends well whatever the draft is, and then what it makes of the
draft can be said outright, without the notices on the way.  Only inline HTML, comments,
lists within lists and a second table may fail; for these it is said what the draft is if
they do not.  Comments leave everything but the notes as it is.
-/
import SlideDeck.Draft.Compile
import SlideDeck.Proofs.Logged

namespace SlideDeck

namespace OpenBlock

/-- The block with the innermost style of an element closed, if there is one. -/
def endStyle (b : OpenBlock) (element : Option String) : OpenBlock :=
  match b.styles.find? (isOf element) with
  | none => b
  | some s => { b with styles := b.styles.eraseP (isOf element) }.addRun s

/-- The block with all styles closed. -/
def endStyles (b : OpenBlock) : OpenBlock := b.styles.foldl addRun { b with styles := [] }

/-- The text of the block when it is sealed. -/
def sealed (b : OpenBlock) : TextBlock := b.endStyles.text.finish

theorem outcome_closeStyle (b : OpenBlock) (element : Option String) :
    (b.closeStyle element).outcome = .ok (b.endStyle element) := by
  unfold closeStyle endStyle
  cases b.styles.find? (isOf element) <;> rfl

theorem outcome_notices (styles : List OpenStyle) :
    (styles.forM fun s => Logged.notice (.styleUnclosed s.element)).outcome = .ok () := by
  induction styles with
  | nil => rfl
  | cons s styles ih =>
      show (Logged.notice _ >>= fun _ => styles.forM _).outcome = _
      rw [Logged.outcome_bind]
      exact ih

theorem outcome_closeStyles (b : OpenBlock) : b.closeStyles.outcome = .ok b.endStyles := by
  unfold closeStyles
  rw [Logged.outcome_bind, outcome_notices]
  rfl

theorem outcome_close (b : OpenBlock) : b.close.outcome = .ok b.sealed := by
  unfold close
  rw [Logged.outcome_bind, outcome_closeStyles]
  rfl

theorem outcome_appendStyled (b : OpenBlock) (s : String) (style : TextStyle) :
    (b.appendStyled s style).outcome = .ok (((b.openStyle style none).append s).endStyle none) :=
  outcome_closeStyle _ _

end OpenBlock

namespace Draft

variable {d d' : Draft}

/-- What a rule for blocks makes of a draft. -/
theorem outcome_onBlockLogged {f : OpenBlock → Logged OpenBlock} {b : OpenBlock}
    (h : (f d.block).outcome = .ok b) :
    (d.onBlockLogged f).outcome = .ok { d with block := b } := by
  unfold onBlockLogged
  rw [Logged.outcome_bind, h]
  rfl

theorem outcome_closeStyle (d : Draft) (element : Option String) :
    (d.closeStyle element).outcome = .ok (d.onBlock (·.endStyle element)) :=
  outcome_onBlockLogged (OpenBlock.outcome_closeStyle _ _)

/-! ### Slides and columns -/

/-- The slide with the text that is still open, which makes its last body unless it is blank. -/
def sealedSlide (d : Draft) : Slide :=
  if d.block.sealed.isBlank then d.slide
  else { d.slide with bodies := d.slide.bodies ++ [⟨d.block.sealed⟩] }

theorem outcome_closeSlide (d : Draft) :
    d.closeSlide.outcome = .ok { d with
      slides := d.slides ++ [d.sealedSlide]
      slide := Slide.empty
      block := OpenBlock.empty } := by
  unfold closeSlide
  rw [Logged.outcome_bind, OpenBlock.outcome_close]
  rfl

theorem outcome_closeColumn (d : Draft) :
    d.closeColumn.outcome = .ok { d with
      slide := { d.slide with bodies := d.slide.bodies ++ [⟨d.block.sealed⟩] }
      block := OpenBlock.empty } := by
  unfold closeColumn
  rw [Logged.outcome_bind, OpenBlock.outcome_close]
  rfl

/-- The draft after a rule. -/
def ruled (d : Draft) : Draft :=
  { d with
    slides := d.slides ++ [d.sealedSlide]
    slide := Slide.empty
    block := OpenBlock.empty
    parked := []
    list := none
    table := none }

theorem outcome_takeRule (hmode : d.mode = .document) (hstarted : d.started = true) :
    d.takeRule.outcome = .ok d.ruled := by
  have hrule : d.takeRule = d.closeSlide >>= fun d => pure d.openSlide := by
    simp only [takeRule, hmode, hstarted, if_true]
  rw [hrule, Logged.outcome_bind, outcome_closeSlide]
  rfl

/-- A rule with which a document begins ends no slide. -/
theorem outcome_takeRule_leading (hmode : d.mode = .document) (hstarted : d.started = false) :
    d.takeRule.outcome = .ok d := by
  have hrule : d.takeRule = pure d := by simp [takeRule, hmode, hstarted]
  rw [hrule, Logged.outcome_pure]

theorem takeRule_ok (hmode : d.mode = .document) (h : d.takeRule.outcome = .ok d') :
    d.started = false ∧ d' = d ∨ d.started = true ∧ d' = d.ruled := by
  cases hstarted : d.started with
  | false => exact .inl ⟨rfl, Except.ok.inj (h.symm.trans (outcome_takeRule_leading hmode hstarted))⟩
  | true => exact .inr ⟨rfl, Except.ok.inj (h.symm.trans (outcome_takeRule hmode hstarted))⟩

/-! ### Headings and paragraphs -/

/-- The slide with a block for its title or subtitle. -/
def withHeading (s : Slide) (level : Nat) (heading : TextBlock) : Slide :=
  if level == 1 then { s with title := some heading } else { s with subtitle := some heading }

theorem outcome_setHeading (d : Draft) (level : Nat) (heading : TextBlock) :
    (d.setHeading level heading).outcome =
      .ok { d with slide := withHeading d.slide level heading } := by
  unfold setHeading
  simp only
  generalize (if (level == 1) = true then d.slide.title else d.slide.subtitle).isSome = replaced
  cases replaced <;> rfl

theorem outcome_closeHeading_slide {level : Nat} (h : d.isSlideHeading level = true) :
    (d.closeHeading level).outcome = .ok
      { d.unpark with slide := withHeading d.slide level (d.block.endStyle none).sealed } := by
  unfold closeHeading
  rw [Logged.outcome_bind, outcome_closeStyle]
  show (if d.isSlideHeading level = true then _ else _ : Logged Draft).outcome = _
  rw [if_pos h, Logged.outcome_bind, OpenBlock.outcome_close]
  exact outcome_setHeading _ _ _

theorem outcome_closeHeading_text {level : Nat} (h : d.isSlideHeading level = false) :
    (d.closeHeading level).outcome =
      .ok (d.onBlock fun b => (b.endStyle none).breakParagraph) := by
  unfold closeHeading
  rw [Logged.outcome_bind, outcome_closeStyle]
  show (if d.isSlideHeading level = true then _ else _ : Logged Draft).outcome = _
  rw [if_neg (by simp [h])]
  rfl

/-- The draft after an opening paragraph, which may begin a column. -/
def paragraphOpened (d : Draft) (attributes : Attributes) : Draft :=
  let d := if attributes.hasClass "column" then
    { d with
      slide := { d.slide with bodies := d.slide.bodies ++ [⟨d.block.sealed⟩] }
      block := OpenBlock.empty }
    else d
  let d := if attributes.hasClass "big" then d.onBlock (·.makeBig) else d
  { d.chooseLayout (attributes.get? "layout") with
    backgroundParagraph := attributes.hasClass "background" }

theorem outcome_openParagraph (hmode : d.mode = .document) (attributes : Attributes) :
    (d.openParagraph attributes).outcome = .ok (d.paragraphOpened attributes) := by
  have hdoc : d.inDocument = true := by simp [inDocument, hmode]
  unfold openParagraph paragraphOpened
  rw [if_pos hdoc]
  cases attributes.hasClass "column" with
  | false => rfl
  | true =>
      simp only [if_true]
      rw [Logged.outcome_bind, outcome_closeColumn]
      rfl

/-! ### Code -/

/-- The draft with some code written in its block. -/
def withCode (d : Draft) (code : String) : Draft :=
  d.onBlock fun b => ((b.openStyle codeStyle none).append code).endStyle none

theorem outcome_takeInlineCode (comment : Draft → String → Logged Draft) (d : Draft)
    (code : String) : (d.take comment (.inlineCode code)).outcome = .ok (d.withCode code) :=
  outcome_onBlockLogged (OpenBlock.outcome_appendStyled ..)

theorem outcome_takeCode (comment : Draft → String → Logged Draft) (d : Draft)
    (info content : String) :
    (d.take comment (.fencedCode info content)).outcome =
      .ok (d.breakParagraph.withCode (codeText content)).breakParagraph := by
  show (d.breakParagraph.onBlockLogged _ >>= _ : Logged Draft).outcome = _
  rw [Logged.outcome_bind, outcome_onBlockLogged (OpenBlock.outcome_appendStyled ..)]
  rfl

/-! ### Lists and tables -/

/-- The draft after an opening list that goes on or begins. -/
theorem openList_ok {kind : ListKind} (h : (d.openList kind).outcome = .ok d') :
    (d.list = none ∧
      d' = { d.breakParagraph with list := some ⟨kind, 0, d.breakParagraph.block.text.length⟩ }) ∨
    (∃ l, d.list = some l ∧ l.kind = kind ∧
      d' = { d with list := some { l with depth := l.depth + 1 } }) := by
  unfold openList at h
  split at h
  · rename_i hlist
    exact Or.inl ⟨hlist, (Logged.pure_ok_iff.mp h).symm⟩
  · rename_i l hlist
    split at h
    · rename_i hkind
      exact Or.inr ⟨l, hlist, eq_of_beq hkind, (Logged.pure_ok_iff.mp h).symm⟩
    · cases h

theorem outcome_closeList_none (hlist : d.list = none) : d.closeList.outcome = .ok d := by
  unfold closeList
  rw [hlist]
  rfl

theorem outcome_closeList_inner {l : OpenList} (hlist : d.list = some l) (hdepth : 0 < l.depth) :
    d.closeList.outcome = .ok { d with list := some { l with depth := l.depth - 1 } } := by
  unfold closeList
  rw [hlist]
  simp only [if_pos hdepth, Logged.outcome_pure]

theorem outcome_closeList_outer {l : OpenList} (hlist : d.list = some l) (hdepth : l.depth = 0) :
    d.closeList.outcome = .ok { d.onBlock (·.mark l.start l.kind) with list := none } := by
  unfold closeList
  rw [hlist]
  simp only [hdepth, Nat.lt_irrefl, if_false, Logged.outcome_pure]

theorem outcome_closeCell {t : OpenTable} (htable : d.table = some t) :
    d.closeCell.outcome = .ok { d with
      table := some (t.addCell d.block.sealed)
      block := OpenBlock.empty } := by
  unfold closeCell
  rw [htable]
  show (d.block.close >>= _ : Logged Draft).outcome = _
  rw [Logged.outcome_bind, OpenBlock.outcome_close]
  rfl

theorem outcome_closeTable_none (htable : d.table = none) : d.closeTable.outcome = .ok d := by
  unfold closeTable
  rw [htable]
  rfl

theorem outcome_closeTable_first {t : OpenTable} (htable : d.table = some t)
    (hempty : d.slide.tables = []) :
    d.closeTable.outcome = .ok { d.unpark with
      table := none
      slide := { d.slide with tables := [Table.ofCells t.rows] } } := by
  simp only [closeTable, htable]
  rw [Logged.outcome_bind, OpenBlock.outcome_closeStyles]
  show (if d.slide.tables.isEmpty then _ else _ : Logged Draft).outcome = _
  rw [hempty]
  rfl

theorem outcome_closeTable_second {t : OpenTable} (htable : d.table = some t)
    (hne : d.slide.tables ≠ []) : d.closeTable.outcome = .error .severalTables := by
  simp only [closeTable, htable]
  rw [Logged.outcome_bind, OpenBlock.outcome_closeStyles]
  show (if d.slide.tables.isEmpty then _ else _ : Logged Draft).outcome = _
  rw [if_neg (by simpa using hne)]
  rfl

theorem closeTable_ok {t : OpenTable} (htable : d.table = some t)
    (h : d.closeTable.outcome = .ok d') :
    d.slide.tables = [] ∧ d' = { d.unpark with
      table := none
      slide := { d.slide with tables := [Table.ofCells t.rows] } } := by
  by_cases hempty : d.slide.tables = []
  · exact ⟨hempty, Except.ok.inj (h.symm.trans (outcome_closeTable_first htable hempty))⟩
  · rw [outcome_closeTable_second htable hempty] at h
    cases h

/-! ### Comments -/

theorem addNotes_ok {body : String} (h : (d.addNotes body).outcome = .ok d') :
    ∃ notes, d' = { d with slide := { d.slide with notes := notes } } := by
  unfold addNotes at h
  obtain ⟨text, -, h⟩ := Logged.bind_ok_iff.mp h
  simp only at h
  split at h
  · exact ⟨d.slide.notes, (Logged.pure_ok_iff.mp h).symm⟩
  · obtain rfl := Logged.pure_ok_iff.mp h
    unfold Slide.appendNotes
    split
    · split <;> exact ⟨_, rfl⟩
    · exact ⟨_, rfl⟩

theorem takeComments_ok {bodies : List String}
    (h : (d.takeComments addNotes bodies).outcome = .ok d') :
    ∃ notes, d' = { d with slide := { d.slide with notes := notes } } := by
  unfold takeComments at h
  induction bodies generalizing d with
  | nil => exact ⟨d.slide.notes, (Logged.pure_ok_iff.mp h).symm⟩
  | cons body bodies ih =>
      rw [List.foldlM_cons] at h
      obtain ⟨d₁, hbody, hrest⟩ := Logged.bind_ok_iff.mp h
      obtain ⟨notes₁, rfl⟩ := addNotes_ok hbody
      obtain ⟨notes, rfl⟩ := ih hrest
      exact ⟨notes, rfl⟩

theorem takeHtmlBlock_ok {html : String} (h : (d.takeHtmlBlock addNotes html).outcome = .ok d') :
    ∃ notes, d' = { d with slide := { d.slide with notes := notes } } := by
  unfold takeHtmlBlock at h
  obtain ⟨bodies, -, h⟩ := Logged.bind_ok_iff.mp h
  cases bodies with
  | none =>
      obtain ⟨_, -, h⟩ := Logged.bind_ok_iff.mp h
      exact ⟨d.slide.notes, (Logged.pure_ok_iff.mp h).symm⟩
  | some bodies => exact takeComments_ok h

/-- Inline HTML opens a style, closes one or adds to the notes. -/
theorem takeInlineHtml_ok {html : String} (h : (d.takeInlineHtml addNotes html).outcome = .ok d') :
    (∃ tag style, (InlineHtml.parse html).outcome = .ok (.opening tag style) ∧
      d' = d.openStyle style (some tag)) ∨
    (∃ tag, (InlineHtml.parse html).outcome = .ok (.closing tag) ∧
      d' = d.onBlock (·.endStyle (some tag))) ∨
    (∃ body notes, (InlineHtml.parse html).outcome = .ok (.comment body) ∧
      d' = { d with slide := { d.slide with notes := notes } }) := by
  unfold takeInlineHtml at h
  obtain ⟨fragment, hparse, h⟩ := Logged.bind_ok_iff.mp h
  cases fragment with
  | opening tag style => exact Or.inl ⟨tag, style, hparse, (Logged.pure_ok_iff.mp h).symm⟩
  | closing tag =>
      simp only [outcome_closeStyle, Except.ok.injEq] at h
      exact Or.inr (Or.inl ⟨tag, hparse, h.symm⟩)
  | comment body =>
      obtain ⟨notes, hnotes⟩ := addNotes_ok h
      exact Or.inr (Or.inr ⟨body, notes, hparse, hnotes⟩)

end Draft

/-- The slides of a document are those that a run over its tokens completes and the one that it
leaves open. -/
theorem compileTokens_ok_iff {tokens : List Token} {slides : List Slide} :
    (compileTokens tokens).outcome = .ok slides ↔
      ∃ d, ((Draft.empty .document).run Draft.addNotes tokens).outcome = .ok d ∧
        slides = d.slides ++ [d.sealedSlide] := by
  unfold compileTokens
  rw [Logged.bind_ok_iff]
  refine exists_congr fun d => and_congr_right fun _ => ?_
  rw [Logged.outcome_bind, Draft.outcome_closeSlide]
  show Except.ok (d.slides ++ [d.sealedSlide]) = _ ↔ _
  rw [Except.ok.injEq, eq_comm]

end SlideDeck

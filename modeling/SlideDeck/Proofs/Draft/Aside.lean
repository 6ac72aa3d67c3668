/-
What is written aside.

The heading of a slide and the cells of a table are not part of the body.  A draft writes them with
the same block as the body, which it sets aside for that time, so a style that is left open in
one of them might go on in another.  It does not: whatever is open where a heading or a table
begins is open in the same way behind it, and the block of a cell is the one that the cell would
have in a document of its own, even if its HTML closes what it did not open.

That a cell can be compiled alone needs an argument.  The cell was taken in another draft, so all
that is known is that its HTML can be read, and that is what it needs in any draft.
-/
import SlideDeck.Proofs.Draft.Galley
import SlideDeck.Proofs.Draft.Refusal

namespace SlideDeck

namespace Draft

variable {d d' : Draft} {g : Galley}

/-! ### The states of a document -/

/-- Between two pieces a draft has a galley and no table. -/
theorem At.exists_of_run (h : d.At g) {ps : List Piece}
    (hrun : (d.run addNotes (ps.flatMap Piece.tokens)).outcome = .ok d') : ∃ g', d'.At g' := by
  induction ps generalizing d g with
  | nil =>
      obtain rfl := Logged.pure_ok_iff.mp hrun
      exact ⟨g, h⟩
  | cons p ps ih =>
      rw [List.flatMap_cons, run_append] at hrun
      obtain ⟨d₁, hpiece, hrest⟩ := Logged.bind_ok_iff.mp hrun
      by_cases hp : p = .rule
      · subst hp
        obtain ⟨d₂, htake, rfl⟩ := run_single hpiece
        rcases takeRule_ok h.mode htake with ⟨-, rfl⟩ | ⟨-, rfl⟩
        · exact ih h.started hrest
        · exact ih h.ruled.started hrest
      · exact ih (h.take hp hpiece) hrest

/-! ### Cells alone -/

/-- The HTML of tokens that were taken can be read. -/
theorem readableHtml_of_run {tokens : List Token}
    (hrun : (d.run addNotes tokens).outcome = .ok d') : ∀ t ∈ tokens, t.ReadableHtml := by
  induction tokens generalizing d with
  | nil =>
      intro t ht
      cases ht
  | cons t tokens ih =>
      obtain ⟨d₁, htake, hrest⟩ := run_cons_ok_iff.mp hrun
      intro t' ht'
      rcases List.mem_cons.mp ht' with rfl | ht'
      · exact readableHtml_of_take htake
      · exact ih hrest t' ht'

/-- Running text whose HTML can be read is taken. -/
theorem exists_run_text {content : List InlineToken} (hmode : d.mode = .document)
    (hread : ∀ t ∈ Piece.inlineTokens content, t.ReadableHtml) :
    ∃ d', (d.run addNotes (Piece.inlineTokens content)).outcome = .ok d' := by
  induction content generalizing d with
  | nil => exact ⟨d, rfl⟩
  | cons t content ih =>
      have hinline := t.property
      have hframing : t.val.isFraming = false := by
        cases ht : t.val with
        | _ => first | rfl | simp [ht, Token.isInline] at hinline
      obtain ⟨d₁, htake⟩ := exists_take hmode (hread t.val (by simp [Piece.inlineTokens])) hframing
      obtain ⟨images, notes, rfl⟩ := take_inline hinline hmode htake
      have hrest : ∀ t ∈ Piece.inlineTokens content, t.ReadableHtml := by
        intro t' ht'
        refine hread t' ?_
        simp only [Piece.inlineTokens, List.map_cons, List.mem_cons]
        exact .inr ht'
      obtain ⟨d', hrun⟩ := ih (d := { d.rewritten (d.block.takeInline t.val) images notes d.started
        with started := true }) hmode hrest
      exact ⟨d', run_cons_ok_iff.mpr ⟨_, htake, hrun⟩⟩

/-- A block is what a cell is compiled to alone: the text of a document that has nothing but the
tokens of the cell, and its only body, unless the cell is blank. -/
structure CompiledAlone (cell : List InlineToken) (b : TextBlock) : Prop where
  text : ∃ d, ((empty .document).run addNotes (Piece.inlineTokens cell)).outcome = .ok d ∧
    d.block.close.outcome = .ok b
  bodies : ∃ slide, (compileTokens (Piece.inlineTokens cell)).outcome = .ok [slide] ∧
    slide.bodies = if b.isBlank then [] else [⟨b⟩]

/-- A cell whose HTML can be read is compiled to its block. -/
theorem compiledAlone_ofCell {cell : List InlineToken}
    (hread : ∀ t ∈ Piece.inlineTokens cell, t.ReadableHtml) :
    CompiledAlone cell (OpenBlock.ofCell cell).sealed := by
  have hmode : (empty .document).mode = .document := rfl
  obtain ⟨d, hrun⟩ := exists_run_text hmode hread
  have hslide := (at_empty.text hrun).sealedSlide
  have hcompile : (compileTokens (Piece.inlineTokens cell)).outcome =
      .ok (d.slides ++ [d.sealedSlide]) :=
    Logged.bind_ok_iff.mpr ⟨d, hrun, Logged.bind_ok_iff.mpr ⟨_, outcome_closeSlide d, rfl⟩⟩
  obtain ⟨images, notes, started, rfl⟩ := run_text hmode hrun
  refine ⟨⟨_, hrun, OpenBlock.outcome_close _⟩, _, hcompile, ?_⟩
  rw [hslide.bodies]
  exact List.nil_append _

/-! ### Headings and tables -/

/-- The body of a draft, the styles and lists that are open in it and what is set aside are those of
another. -/
structure Undisturbed (d d' : Draft) : Prop where
  text : d'.block.text = d.block.text
  styles : d'.block.styles = d.block.styles
  list : d'.list = d.list
  parked : d'.parked = d.parked

theorem columns_ofCells (cells : List (List TextBlock)) :
    (Table.ofCells cells).columns = (cells.map List.length).max?.getD 0 := by
  show (cells.map List.length).foldl max 0 = _
  rw [List.foldl_max, Nat.zero_max]

theorem At.slideHeading_undisturbed (h : d.At g) {level : Nat} (positive : 0 < level)
    (hlevel : level ≤ 2) {attributes : Attributes} {content : List InlineToken}
    (hrun : (d.run addNotes (Piece.heading level positive attributes content).tokens).outcome =
      .ok d') : d.Undisturbed d' := by
  obtain ⟨layout, images, notes, rfl⟩ := run_slideHeading h positive hlevel hrun
  exact ⟨rfl, rfl, rfl, rfl⟩

/-- The cells of a table that was taken can be compiled alone. -/
theorem compiledAlone_of_run {rows : List (List (List InlineToken))}
    (hrun : (d.run addNotes (Piece.table rows).tokens).outcome = .ok d') :
    ∀ row ∈ rows, ∀ cell ∈ row, CompiledAlone cell (OpenBlock.ofCell cell).sealed := by
  intro row hrow cell hcell
  apply compiledAlone_ofCell
  intro t ht
  apply readableHtml_of_run hrun
  simp only [Piece.tokens, Piece.rowTokens, Piece.cellTokens, List.mem_cons, List.mem_append,
    List.mem_flatMap]
  exact .inr (.inl ⟨row, hrow, .inr (.inl ⟨cell, hcell, .inr (.inl ht)⟩)⟩)

/-- **Headings of slides and tables leave the body as it is, and the cells of a table know nothing
of each other or of the text around.**  Wherever in a document such a heading or a table is taken,
the body, its open styles, the lists and what is set aside are the same before and after.  The
table that is added has a row for each row, as many columns as the longest has cells, and in each
place what the cell there is compiled to alone. -/
theorem run_aside {ps : List Piece}
    (hreach : ((empty .document).run addNotes (ps.flatMap Piece.tokens)).outcome = .ok d) :
    (∀ (level : Nat) (positive : 0 < level) (attributes : Attributes)
        (content : List InlineToken) (d' : Draft), level ≤ 2 →
      (d.run addNotes (Piece.heading level positive attributes content).tokens).outcome = .ok d' →
      d.Undisturbed d') ∧
    ∀ (rows : List (List (List InlineToken))) (d' : Draft),
      (d.run addNotes (Piece.table rows).tokens).outcome = .ok d' →
      d.Undisturbed d' ∧ ∃ t : Table, d'.slide.tables = d.slide.tables ++ [t] ∧
        t.rows = rows.length ∧ t.columns = (rows.map List.length).max?.getD 0 ∧
        List.Forall₂ (List.Forall₂ CompiledAlone) rows t.cells := by
  obtain ⟨g, hg⟩ := at_empty.exists_of_run hreach
  constructor
  · intro level positive attributes content d' hlevel hrun
    exact hg.slideHeading_undisturbed positive hlevel hrun
  · intro rows d' hrun
    have halone := compiledAlone_of_run hrun
    obtain ⟨hnone, images, notes, rfl⟩ := run_table hg hrun
    refine ⟨⟨rfl, rfl, rfl, rfl⟩,
      Table.ofCells (rows.map fun row => row.map fun cell => (OpenBlock.ofCell cell).sealed),
      ?_, ?_, ?_, ?_⟩
    · rw [hnone]
      rfl
    · exact List.length_map _
    · rw [columns_ofCells, List.map_map]
      congr 3
      funext row
      exact List.length_map _
    · show List.Forall₂ _ rows (rows.map _)
      rw [List.forall₂_map_right_iff, List.forall₂_same]
      intro row hrow
      rw [List.forall₂_map_right_iff, List.forall₂_same]
      exact halone row hrow

/-- An item with a style that is not closed. -/
def itemText : List Piece :=
  [.listOpen .unordered, .itemOpen, .inline ⟨.htmlInline "<sup>", rfl⟩, .inline ⟨.text "a", rfl⟩]

/-- The draft that it leaves. -/
def itemDraft : Draft where
  mode := .document
  block := ⟨TextBlock.ofString "a", [⟨0, { baselineOffset := some .superscript }, some "sup"⟩]⟩
  list := some ⟨.unordered, 0, 0⟩
  started := true

/-- The text of a heading that opens a style and does not close it. -/
def unclosedText : List InlineToken := runningText [.htmlInline "<sub>", .text "h"]

/-- Its block. -/
def unclosedBlock : TextBlock := ⟨"h", [⟨0, 1, { baselineOffset := some .subscript }⟩], [], false⟩

/-- Rows of two cells and one, the first of which opens a style that only the second closes. -/
def straddledRows : List (List (List InlineToken)) :=
  [[runningText [.htmlInline "<sup>", .text "b"], runningText [.htmlInline "</sup>", .text "c"]],
    [runningText [.emphasisClose, .text "d"]]]

/-- Their table. -/
def straddledTable : Table :=
  ⟨2, 2, [[⟨"b", [⟨0, 1, { baselineOffset := some .superscript }⟩], [], false⟩,
    TextBlock.ofString "c"], [TextBlock.ofString "d"]]⟩

/-- A heading and a table within an item leave its style open, and close their own. -/
theorem run_aside_itemText :
    ((empty .document).run addNotes (itemText.flatMap Piece.tokens)).outcome = .ok itemDraft ∧
    (∃ d, (itemDraft.run addNotes
        (Piece.heading 2 Nat.two_pos .empty unclosedText).tokens).outcome = .ok d ∧
      d.slide.subtitle = some unclosedBlock ∧ itemDraft.Undisturbed d) ∧
    ∃ d t, (itemDraft.run addNotes (Piece.table straddledRows).tokens).outcome = .ok d ∧
      d.slide.tables = [t] ∧ itemDraft.Undisturbed d ∧ t.rows = 2 ∧ t.columns = 2 ∧
      List.Forall₂ (List.Forall₂ CompiledAlone) straddledRows t.cells := by
  have hreach : ((empty .document).run addNotes (itemText.flatMap Piece.tokens)).outcome =
      .ok itemDraft := by decide +kernel
  have hheading : (itemDraft.run addNotes
      (Piece.heading 2 Nat.two_pos .empty unclosedText).tokens).outcome =
      .ok { itemDraft with slide := { subtitle := some unclosedBlock } } := by decide +kernel
  have htable : (itemDraft.run addNotes (Piece.table straddledRows).tokens).outcome =
      .ok { itemDraft with slide := { tables := [straddledTable] } } := by decide +kernel
  obtain ⟨hheadings, htables⟩ := run_aside hreach
  obtain ⟨hundisturbed, t, ht, hrows, hcolumns, hcells⟩ := htables _ _ htable
  exact ⟨hreach, ⟨_, hheading, rfl, hheadings 2 Nat.two_pos _ _ _ (Nat.le_refl 2) hheading⟩,
    _, t, htable, ht, hundisturbed, hrows, hcolumns, hcells⟩

end Draft

end SlideDeck

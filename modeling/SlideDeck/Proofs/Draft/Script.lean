/-
A galley follows a manuscript.

After every piece the block that takes the text reads the sheet that is being written, and the
other blocks of the galley render the other sheets of its manuscript.  Every rule for blocks
keeps this, so it holds after any run of pieces, and with it for every slide of a document.
-/
import SlideDeck.Proofs.Draft.Galley
import SlideDeck.Proofs.Draft.Reads

namespace SlideDeck

/-! ### Blocks -/

namespace OpenBlock

variable {b : OpenBlock} {list : Option OpenList} {s : Sheet}

theorem Reads.takeInline (h : b.Reads list s) (t : Token) :
    (b.takeInline t).Reads list (s.takeInline t) := by
  cases t with
  | text t | emoji shortcode t => exact h.write t
  | emphasisOpen | strongOpen | strikethroughOpen | linkOpen href => exact h.openStyle _ none
  | emphasisClose | strongClose | strikethroughClose | linkClose => exact h.endStyle none
  | inlineCode code => exact h.writeCode code
  | htmlInline html =>
      rcases hparse : (InlineHtml.parse html).outcome with _ | (⟨tag, style⟩ | tag | body) <;>
        simp only [OpenBlock.takeInline, Sheet.takeInline, hparse]
      · exact h
      · exact h.openStyle style (some tag)
      · exact h.endStyle (some tag)
      · exact h
  | softBreak => exact h.write " "
  | hardBreak =>
      have hwrite := h.write (String.singleton Draft.lineBreak)
      rwa [String.toList_singleton] at hwrite
  | _ => exact h

theorem Reads.takeText (h : b.Reads list s) (content : List InlineToken) :
    (b.takeText content).Reads list (s.takeText content) := by
  induction content generalizing b s with
  | nil => exact h
  | cons t content ih => exact ih (h.takeInline t.val)

theorem Reads.takeHeading (h : b.Reads list s) (content : List InlineToken) :
    (b.takeHeading content).Reads list (s.takeHeading content) :=
  (((h.breakParagraph.openStyle _ none).takeText content).endStyle none).breakParagraph

theorem Reads.takeCode (h : b.Reads list s) (content : String) :
    (b.takeCode content).Reads list (s.takeCode content) :=
  (h.breakParagraph.writeCode (Draft.codeText content)).breakParagraph

theorem Reads.closeItem (h : b.Reads list s) : b.closeItem.Reads list s.closeItem := by
  unfold OpenBlock.closeItem Sheet.closeItem
  rw [h.endsWithNewline_eq]
  split
  · exact h
  · exact h.write "\n"

/-- An empty block reads the sheet after the one that was read. -/
theorem Reads.next (h : b.Reads list s) : empty.Reads list s.next :=
  reads_empty h.items.ongoing rfl rfl rfl

/-- The block of a slide heading renders the sheet of its text: its own style sets nothing. -/
theorem renders_ofHeading (attributes : Attributes) (content : List InlineToken) :
    (ofHeading attributes content).sealed.Renders (({} : Sheet).takeText content) := by
  have hempty : empty.Reads none {} := reads_empty rfl rfl rfl rfl
  have hbig : (if attributes.hasClass "big" then empty.makeBig else empty).Reads none {} := by
    split
    · exact hempty.makeBig
    · exact hempty
  have hclosed := (((hbig.openUnder (rfl : TextStyle.empty.isEmpty = true) rfl none).takeText
    content).endStyle none).renders
  exact ⟨hclosed.spelled, hclosed.styled, hclosed.marked⟩

theorem renders_ofCell (content : List InlineToken) :
    (ofCell content).sealed.Renders (({} : Sheet).takeText content) :=
  ((reads_empty rfl rfl rfl rfl : empty.Reads none {}).takeText content).renders

end OpenBlock

/-! ### Galleys -/

namespace Galley

variable {R : TextBlock → Sheet → Prop} {g : Galley} {m : Manuscript}

/-- The complete blocks of a galley are in a relation with the sheets of a manuscript. -/
structure Shows (R : TextBlock → Sheet → Prop) (g : Galley) (m : Manuscript) : Prop where
  title : Option.Rel R g.title m.title
  subtitle : Option.Rel R g.subtitle m.subtitle
  columns : List.Forall₂ (fun body s => R body.text s) g.columns m.columns
  tables : List.Forall₂ (fun t rows => List.Forall₂ (List.Forall₂ R) t.cells rows)
    g.tables m.tables

theorem shows_empty (s : Sheet) : Shows R {} { sheet := s } := ⟨.none, .none, .nil, .nil⟩

theorem Shows.withList (h : g.Shows R m) (b : OpenBlock) (list : Option OpenList) (s : Sheet) :
    Shows R { g with block := b, list := list } { m with sheet := s } :=
  ⟨h.title, h.subtitle, h.columns, h.tables⟩

theorem Shows.turn (h : g.Shows R m) (hblock : R g.block.sealed m.sheet) : g.turn.Shows R m.turn :=
  ⟨h.title, h.subtitle, List.rel_append h.columns (.cons hblock .nil), h.tables⟩

theorem Shows.paragraph (h : g.Shows R m) (hblock : R g.block.sealed m.sheet)
    (attributes : Attributes) (content : List InlineToken) :
    (g.take (.paragraph attributes content)).Shows R (m.take (.paragraph attributes content)) := by
  have hturn : Shows R (if attributes.hasClass "column" then g.turn else g)
      (if attributes.hasClass "column" then m.turn else m) := by
    split
    · exact h.turn hblock
    · exact h
  exact hturn.withList _ _ _

theorem Shows.heading (h : g.Shows R m) (level : Nat) (positive : 0 < level)
    (attributes : Attributes) (content : List InlineToken)
    (hheading : R (OpenBlock.ofHeading attributes content).sealed
      (({} : Sheet).takeText content)) :
    (g.take (.heading level positive attributes content)).Shows R
      (m.take (.heading level positive attributes content)) := by
  simp only [take, Manuscript.take]
  split
  · exact ⟨.some hheading, h.subtitle, h.columns, h.tables⟩
  · split
    · exact ⟨h.title, .some hheading, h.columns, h.tables⟩
    · exact h.withList _ _ _

theorem Shows.table (h : g.Shows R m) (rows : List (List (List InlineToken)))
    (hcells : ∀ row ∈ rows, ∀ cell ∈ row,
      R (OpenBlock.ofCell cell).sealed (({} : Sheet).takeText cell)) :
    (g.take (.table rows)).Shows R (m.take (.table rows)) := by
  have hrows : List.Forall₂ (List.Forall₂ R)
      (rows.map fun row => row.map fun cell => (OpenBlock.ofCell cell).sealed)
      (rows.map fun row => row.map ({} : Sheet).takeText) := by
    simp only [List.forall₂_map_left_iff, List.forall₂_map_right_iff, List.forall₂_same]
    exact hcells
  exact ⟨h.title, h.subtitle, h.columns, List.rel_append h.tables (.cons hrows .nil)⟩

theorem Shows.openList (h : g.Shows R m) (kind : ListKind) :
    (g.openList kind).Shows R (m.onSheet (·.openList kind)) := by
  unfold Galley.openList
  split <;> exact h.withList _ _ _

theorem Shows.closeList (h : g.Shows R m) : g.closeList.Shows R (m.onSheet Sheet.closeList) := by
  unfold Galley.closeList
  split
  · exact h.withList _ _ _
  · split <;> exact h.withList _ _ _

/-- The blocks that make bodies are in the relation, if the one that is being written is. -/
theorem Shows.bodies (h : g.Shows R m) (hblock : R g.block.sealed m.sheet)
    (hblank : g.block.sealed.isBlank = m.sheet.isBlank) :
    List.Forall₂ (fun body s => R body.text s) g.bodies m.bodies := by
  unfold Galley.bodies Manuscript.bodies
  rw [hblank]
  refine List.rel_append h.columns ?_
  split
  · exact .nil
  · exact .cons hblock .nil

/-- A galley follows a manuscript. -/
structure Follows (g : Galley) (m : Manuscript) : Prop where
  complete : g.Shows TextBlock.Renders m
  reads : g.block.Reads g.list m.sheet

theorem follows_empty {lists : Lists} (houter : lists.outer = none) :
    Follows {} { sheet := { lists := lists } } :=
  ⟨shows_empty _, OpenBlock.reads_empty (by simp [houter]) rfl rfl rfl⟩

theorem Follows.withList (h : g.Follows m) {b : OpenBlock} {list : Option OpenList} {s : Sheet}
    (hreads : b.Reads list s) : Follows { g with block := b, list := list } { m with sheet := s } :=
  ⟨h.complete.withList b list s, hreads⟩

theorem Follows.withBlock (h : g.Follows m) {b : OpenBlock} {s : Sheet}
    (hreads : b.Reads g.list s) : Follows { g with block := b } { m with sheet := s } :=
  h.withList hreads

theorem Follows.turn (h : g.Follows m) : g.turn.Follows m.turn :=
  ⟨h.complete.turn h.reads.renders, h.reads.next⟩

theorem Follows.paragraph (h : g.Follows m) (attributes : Attributes)
    (content : List InlineToken) :
    (g.take (.paragraph attributes content)).Follows (m.take (.paragraph attributes content)) := by
  have hturn : Follows (if attributes.hasClass "column" then g.turn else g)
      (if attributes.hasClass "column" then m.turn else m) := by
    split
    · exact h.turn
    · exact h
  have hbig : OpenBlock.Reads (if attributes.hasClass "big" then
        (if attributes.hasClass "column" then g.turn else g).block.makeBig
      else (if attributes.hasClass "column" then g.turn else g).block)
      (if attributes.hasClass "column" then g.turn else g).list
      (if attributes.hasClass "column" then m.turn else m).sheet := by
    cases attributes.hasClass "big" with
    | true => exact hturn.reads.makeBig
    | false => exact hturn.reads
  exact hturn.withBlock (hbig.takeText content).breakParagraph

theorem Follows.heading (h : g.Follows m) (level : Nat) (positive : 0 < level)
    (attributes : Attributes) (content : List InlineToken) :
    (g.take (.heading level positive attributes content)).Follows
      (m.take (.heading level positive attributes content)) := by
  refine ⟨h.complete.heading level positive attributes content
    (OpenBlock.renders_ofHeading attributes content), ?_⟩
  simp only [take, Manuscript.take]
  split
  · exact h.reads
  · split
    · exact h.reads
    · exact h.reads.takeHeading content

theorem Follows.table (h : g.Follows m) (rows : List (List (List InlineToken))) :
    (g.take (.table rows)).Follows (m.take (.table rows)) :=
  ⟨h.complete.table rows fun _ _ cell _ => OpenBlock.renders_ofCell cell, h.reads⟩

theorem Follows.openList (h : g.Follows m) (kind : ListKind) :
    (g.openList kind).Follows (m.onSheet (·.openList kind)) := by
  refine ⟨h.complete.openList kind, ?_⟩
  have hreads := h.reads
  unfold Galley.openList
  split
  · rename_i hlist
    rw [hlist] at hreads
    exact hreads.openOuter kind
  · rename_i l hlist
    rw [hlist] at hreads
    exact hreads.openInner kind

theorem Follows.closeList (h : g.Follows m) : g.closeList.Follows (m.onSheet Sheet.closeList) := by
  refine ⟨h.complete.closeList, ?_⟩
  have hreads := h.reads
  unfold Galley.closeList
  split
  · rename_i hlist
    rw [hlist] at hreads ⊢
    exact hreads.closeNone
  · rename_i l hlist
    rw [hlist] at hreads
    split
    · rename_i hdepth
      exact hreads.closeInner hdepth
    · rename_i hdepth
      exact hreads.closeOuter (Nat.eq_zero_of_not_pos hdepth)

/-- A galley that follows a manuscript goes on to follow it, piece by piece. -/
theorem Follows.take (h : g.Follows m) (p : Piece) : (g.take p).Follows (m.take p) := by
  cases p with
  | inline t => exact h.withBlock (h.reads.takeInline t.val)
  | paragraph attributes content => exact h.paragraph attributes content
  | heading level positive attributes content => exact h.heading level positive attributes content
  | table rows => exact h.table rows
  | code info content => exact h.withBlock (h.reads.takeCode content)
  | listOpen kind => exact h.openList kind
  | listClose kind => exact h.closeList
  | itemOpen => exact h.withBlock h.reads.openItem
  | itemClose => exact h.withBlock h.reads.closeItem
  | html s => exact h
  | rule => exact h

theorem Follows.written (h : g.Follows m) (ps : List Piece) :
    List.Forall₂ Follows (g.written ps) (m.written ps) := by
  induction ps generalizing g m with
  | nil => exact .cons h .nil
  | cons p ps ih =>
      by_cases hp : p = .rule
      · subst hp
        exact .cons h (ih (follows_empty rfl))
      · rw [written_cons hp, Manuscript.written_cons hp]
        exact ih (h.take p)

/-- The galleys of a document follow its manuscripts. -/
theorem follows_galleys (ps : List Piece) : List.Forall₂ Follows (galleys ps) (manuscripts ps) := by
  have hempty : Follows {} {} := follows_empty rfl
  cases ps with
  | nil => exact hempty.written []
  | cons p ps =>
      by_cases hp : p = .rule
      · subst hp
        exact hempty.written ps
      · rw [galleys_cons hp, manuscripts_cons hp]
        exact hempty.written (p :: ps)

end Galley

/-! ### Slides -/

/-- A slide is in a relation with what its galley is in that relation with. -/
theorem forall₂_setFrom {α : Type} {R : Galley → α → Prop} {S : Slide → α → Prop}
    {slides : List Slide} {gs : List Galley} {as : List α}
    (hset : List.Forall₂ Slide.SetFrom slides gs) (hR : List.Forall₂ R gs as)
    (hS : ∀ slide g a, slide.SetFrom g → R g a → S slide a) : List.Forall₂ S slides as :=
  forall₂_trans hset hR hS

/-- A slide shows what its galley shows. -/
theorem Slide.SetFrom.shows {R : TextBlock → Sheet → Prop} {slide : Slide} {g : Galley}
    {m : Manuscript} (hset : slide.SetFrom g) (h : g.Shows R m)
    (hbodies : List.Forall₂ (fun body s => R body.text s) g.bodies m.bodies) :
    slide.Shows R m m.bodies :=
  ⟨hset.title ▸ h.title, hset.subtitle ▸ h.subtitle, hset.bodies ▸ hbodies, hset.tables ▸ h.tables⟩

/-- The slides of a document show its manuscripts. -/
theorem shown_compileTokens {ps : List Piece} {slides : List Slide}
    (h : (compileTokens (ps.flatMap Piece.tokens)).outcome = .ok slides) :
    Shown TextBlock.Renders slides (manuscripts ps) := by
  refine forall₂_setFrom (setFrom_compileTokens h) (Galley.follows_galleys ps) ?_
  intro slide g m hslide hfollows
  have hrenders := hfollows.reads.renders
  exact hslide.shows hfollows.complete (hfollows.complete.bodies hrenders hrenders.isBlank_eq)

end SlideDeck

/-
The blocks of a slide, piece by piece.

A galley has the blocks of the slide that is being written, and what a piece does to them can be
said outright: nothing fails, gives notices or is set aside, and no token stands in between.  A
draft that takes a piece and does not fail has the galley that the piece makes of its galley, so
the slides of a document have the blocks of its galleys, and what is to be shown about blocks
can be shown about galleys alone.
-/
import Mathlib.Data.List.Forall2
import SlideDeck.Proofs.Draft.Break
import SlideDeck.Proofs.Draft.Piece

namespace SlideDeck

/-- What holds on the right of a relation may be used in it. -/
theorem forall₂_of_forall_mem {α β : Type} {R S : α → β → Prop} {p : β → Prop} {as : List α}
    {bs : List β} (h : List.Forall₂ R as bs) (hp : ∀ b ∈ bs, p b)
    (himp : ∀ a b, p b → R a b → S a b) : List.Forall₂ S as bs := by
  induction h with
  | nil => exact .nil
  | cons hab _ ih =>
      exact .cons (himp _ _ (hp _ (List.mem_cons_self ..)) hab)
        (ih fun b hb => hp b (List.mem_cons_of_mem _ hb))

/-- Two relations of lists, one after the other. -/
theorem forall₂_trans {α β γ : Type} {R : α → β → Prop} {S : β → γ → Prop} {T : α → γ → Prop}
    {as : List α} {bs : List β} {cs : List γ} (h : List.Forall₂ R as bs)
    (h' : List.Forall₂ S bs cs) (himp : ∀ a b c, R a b → S b c → T a c) : List.Forall₂ T as cs := by
  induction h generalizing cs with
  | nil =>
      cases h'
      exact .nil
  | cons hab _ ih =>
      cases h' with
      | cons hbc hrest => exact .cons (himp _ _ _ hab hbc) (ih hrest)

/-! ### Blocks -/

namespace OpenBlock

/-- Writes code. -/
def writeCode (b : OpenBlock) (code : String) : OpenBlock :=
  ((b.openStyle Draft.codeStyle none).append code).endStyle none

/-- Takes a token of running text. -/
def takeInline (b : OpenBlock) : Token → OpenBlock
  | .text t | .emoji _ t => b.append t
  | .emphasisOpen => b.openStyle { italic := some true } none
  | .strongOpen => b.openStyle { bold := some true } none
  | .strikethroughOpen => b.openStyle { strikethrough := some true } none
  | .linkOpen href => b.openStyle { link := some ⟨href⟩ } none
  | .emphasisClose | .strongClose | .strikethroughClose | .linkClose => b.endStyle none
  | .inlineCode code => b.writeCode code
  | .htmlInline html =>
    match (InlineHtml.parse html).outcome with
    | .ok (.opening tag style) => b.openStyle style (some tag)
    | .ok (.closing tag) => b.endStyle (some tag)
    | _ => b
  | .softBreak => b.append " "
  | .hardBreak => b.append (String.singleton Draft.lineBreak)
  | _ => b

/-- Takes running text. -/
def takeText (b : OpenBlock) (content : List InlineToken) : OpenBlock :=
  content.foldl (fun b t => b.takeInline t.val) b

/-- Takes a section heading, which is a paragraph in bold. -/
def takeHeading (b : OpenBlock) (content : List InlineToken) : OpenBlock :=
  (((b.breakParagraph.openStyle { bold := some true } none).takeText content).endStyle
    none).breakParagraph

/-- Takes a block of code. -/
def takeCode (b : OpenBlock) (content : String) : OpenBlock :=
  (b.breakParagraph.writeCode (Draft.codeText content)).breakParagraph

/-- Opens an item within some lists. -/
def openItem (b : OpenBlock) (list : Option OpenList) : OpenBlock :=
  b.breakParagraph.append (String.ofList (List.replicate ((list.map (·.depth)).getD 0) '\t'))

/-- Closes an item. -/
def closeItem (b : OpenBlock) : OpenBlock := if b.text.endsWithNewline then b else b.append "\n"

/-- The block of a slide heading before it is sealed. -/
def ofHeading (attributes : Attributes) (content : List InlineToken) : OpenBlock :=
  let b := if attributes.hasClass "big" then empty.makeBig else empty
  ((b.openStyle TextStyle.empty none).takeText content).endStyle none

/-- The block of a cell before it is sealed. -/
def ofCell (content : List InlineToken) : OpenBlock := empty.takeText content

end OpenBlock

/-! ### Galleys -/

/-- The blocks of a slide that is being written. -/
structure Galley where
  title : Option TextBlock := none
  subtitle : Option TextBlock := none
  /-- The bodies that are complete. -/
  columns : List Body := []
  tables : List Table := []
  /-- The block of the body that is being written. -/
  block : OpenBlock := OpenBlock.empty
  list : Option OpenList := none

namespace Galley

/-- Changes the block of the body that is being written. -/
def onBlock (g : Galley) (f : OpenBlock → OpenBlock) : Galley := { g with block := f g.block }

/-- Begins a column. -/
def turn (g : Galley) : Galley :=
  { g with columns := g.columns ++ [⟨g.block.sealed⟩], block := OpenBlock.empty }

/-- Opens a list. -/
def openList (g : Galley) (kind : ListKind) : Galley :=
  match g.list with
  | none =>
    { g with
      block := g.block.breakParagraph
      list := some ⟨kind, 0, g.block.breakParagraph.text.length⟩ }
  | some l => { g with list := some { l with depth := l.depth + 1 } }

/-- Closes a list; the end of the outermost one marks its text. -/
def closeList (g : Galley) : Galley :=
  match g.list with
  | none => g
  | some l =>
    if 0 < l.depth then { g with list := some { l with depth := l.depth - 1 } }
    else { g with block := g.block.mark l.start l.kind, list := none }

/-- Takes a piece. -/
def take (g : Galley) : Piece → Galley
  | .inline t => g.onBlock (·.takeInline t.val)
  | .paragraph attributes content =>
    (if attributes.hasClass "column" then g.turn else g).onBlock fun b =>
      ((if attributes.hasClass "big" then b.makeBig else b).takeText content).breakParagraph
  | .heading level _ attributes content =>
    if level = 1 then { g with title := some (OpenBlock.ofHeading attributes content).sealed }
    else if level = 2 then
      { g with subtitle := some (OpenBlock.ofHeading attributes content).sealed }
    else g.onBlock (·.takeHeading content)
  | .table rows =>
    { g with tables := g.tables ++
      [Table.ofCells (rows.map fun row => row.map fun cell => (OpenBlock.ofCell cell).sealed)] }
  | .code _ content => g.onBlock (·.takeCode content)
  | .listOpen kind => g.openList kind
  | .listClose _ => g.closeList
  | .itemOpen => g.onBlock (·.openItem g.list)
  | .itemClose => g.onBlock OpenBlock.closeItem
  | .html _ | .rule => g

/-- All bodies: what is left makes the last one, unless it is blank. -/
def bodies (g : Galley) : List Body :=
  g.columns ++ if g.block.sealed.isBlank then [] else [⟨g.block.sealed⟩]

/-- The galleys of some pieces, the first of which goes on with one that is begun. -/
def written (g : Galley) : List Piece → List Galley
  | [] => [g]
  | .rule :: ps => g :: written {} ps
  | p :: ps => written (g.take p) ps

theorem written_cons {p : Piece} (hp : p ≠ .rule) (g : Galley) (ps : List Piece) :
    g.written (p :: ps) = (g.take p).written ps := by
  rw [written]
  exact hp

end Galley

/-- The galleys of a document.  A rule at the very start parts nothing. -/
def galleys : List Piece → List Galley
  | .rule :: ps => Galley.written {} ps
  | ps => Galley.written {} ps

theorem galleys_cons {p : Piece} (hp : p ≠ .rule) (ps : List Piece) :
    galleys (p :: ps) = Galley.written {} (p :: ps) := by
  cases p with
  | rule => exact absurd rfl hp
  | _ => rfl

/-- A slide has the blocks of a galley. -/
structure Slide.SetFrom (slide : Slide) (g : Galley) : Prop where
  title : slide.title = g.title
  subtitle : slide.subtitle = g.subtitle
  bodies : slide.bodies = g.bodies
  tables : slide.tables = g.tables

/-! ### Tokens in groups -/

namespace Draft

variable {d d' : Draft}

theorem run_single {t : Token} (h : (d.run addNotes [t]).outcome = .ok d') :
    ∃ d₁, (d.take addNotes t).outcome = .ok d₁ ∧ d' = { d₁ with started := true } := by
  obtain ⟨d₁, htake, hrest⟩ := run_cons_ok_iff.mp h
  exact ⟨d₁, htake, (Logged.pure_ok_iff.mp hrest).symm⟩

theorem run_group {first last : Token} {middle : List Token}
    (h : (d.run addNotes (first :: (middle ++ [last]))).outcome = .ok d') :
    ∃ d₁ d₂ d₃, (d.take addNotes first).outcome = .ok d₁ ∧
      (({ d₁ with started := true } : Draft).run addNotes middle).outcome = .ok d₂ ∧
      (d₂.take addNotes last).outcome = .ok d₃ ∧ d' = { d₃ with started := true } := by
  obtain ⟨c₁, htake, hrest⟩ := run_cons_ok_iff.mp h
  rw [run_append] at hrest
  obtain ⟨d₂, hmiddle, hlast⟩ := Logged.bind_ok_iff.mp hrest
  obtain ⟨d₃, hclose, hd'⟩ := run_single hlast
  exact ⟨c₁, d₂, d₃, htake, hmiddle, hclose, hd'⟩

/-- Groups of tokens that each add one thing to what a draft has add all of them in order. -/
theorem run_flatMap {α β : Type} (Has : List β → Draft → Prop) {tokens : α → List Token}
    {f : α → β}
    (hgroup : ∀ {bs d d' a}, Has bs d → (d.run addNotes (tokens a)).outcome = .ok d' →
      Has (bs ++ [f a]) d')
    {bs : List β} {as : List α} (h : Has bs d)
    (hrun : (d.run addNotes (as.flatMap tokens)).outcome = .ok d') :
    Has (bs ++ as.map f) d' := by
  induction as generalizing d bs with
  | nil =>
      obtain rfl := Logged.pure_ok_iff.mp hrun
      rwa [List.map_nil, List.append_nil]
  | cons a as ih =>
      rw [List.flatMap_cons, run_append] at hrun
      obtain ⟨d₁, hfirst, hrest⟩ := Logged.bind_ok_iff.mp hrun
      have hall := ih (hgroup h hfirst) hrest
      rwa [List.append_assoc] at hall

/-! ### Running text -/

/-- The draft with another block, and with other images and notes on its slide. -/
def rewritten (d : Draft) (block : OpenBlock) (images : List Image) (notes : Option String)
    (started : Bool) : Draft :=
  { d with
    block := block
    slide := { d.slide with images := images, notes := notes }
    started := started }

theorem addImage_document (hmode : d.mode = .document) (src alt : String) :
    d.addImage src alt = d.rewritten d.block
      (d.slide.images ++ [⟨src, alt, d.backgroundParagraph⟩]) d.slide.notes d.started := by
  simp only [addImage, hmode, rewritten]

/-- A token of running text changes only the block, the images and the notes. -/
theorem take_inline {t : Token} (ht : t.isInline = true) (hmode : d.mode = .document)
    (h : (d.take addNotes t).outcome = .ok d') :
    ∃ images notes, d' = d.rewritten (d.block.takeInline t) images notes d.started := by
  cases t with
  | text s | emoji shortcode s | emphasisOpen | strongOpen | strikethroughOpen | linkOpen href
  | softBreak | hardBreak => exact ⟨_, _, (Logged.pure_ok_iff.mp h).symm⟩
  | emphasisClose | strongClose | strikethroughClose | linkClose =>
      have hclose := (outcome_closeStyle d none).symm.trans h
      exact ⟨_, _, (Except.ok.inj hclose).symm⟩
  | image src alt =>
      obtain rfl := Logged.pure_ok_iff.mp h
      exact ⟨_, _, addImage_document hmode src alt⟩
  | inlineCode s =>
      have hcode := (outcome_takeInlineCode addNotes d s).symm.trans h
      exact ⟨_, _, (Except.ok.inj hcode).symm⟩
  | htmlInline html =>
      rcases takeInlineHtml_ok h with ⟨tag, style, hparse, rfl⟩ | ⟨tag, hparse, rfl⟩ |
        ⟨body, notes, hparse, rfl⟩
      · refine ⟨d.slide.images, d.slide.notes, ?_⟩
        simp only [OpenBlock.takeInline, hparse]
        rfl
      · refine ⟨d.slide.images, d.slide.notes, ?_⟩
        simp only [OpenBlock.takeInline, hparse]
        rfl
      · refine ⟨d.slide.images, notes, ?_⟩
        simp only [OpenBlock.takeInline, hparse]
        rfl
  | _ => cases ht

theorem run_text {content : List InlineToken} (hmode : d.mode = .document)
    (h : (d.run addNotes (Piece.inlineTokens content)).outcome = .ok d') :
    ∃ images notes started, d' = d.rewritten (d.block.takeText content) images notes started := by
  induction content generalizing d with
  | nil => exact ⟨_, _, _, (Logged.pure_ok_iff.mp h).symm⟩
  | cons t content ih =>
      change (d.run addNotes (t.val :: _)).outcome = _ at h
      obtain ⟨d₁, htake, hrest⟩ := run_cons_ok_iff.mp h
      obtain ⟨images₁, notes₁, rfl⟩ := take_inline t.property hmode htake
      obtain ⟨images, notes, started, rfl⟩ := ih (by exact hmode) hrest
      exact ⟨images, notes, started, rfl⟩

/-! ### The galley of a draft -/

/-- The blocks of the slide that is being written. -/
def galley (d : Draft) : Galley where
  title := d.slide.title
  subtitle := d.slide.subtitle
  columns := d.slide.bodies
  tables := d.slide.tables
  block := d.block
  list := d.list

/-- The draft of a document between two pieces, with the galley that it has. -/
structure At (d : Draft) (g : Galley) : Prop where
  mode : d.mode = .document
  table : d.table = none
  galley : d.galley = g

theorem galley_chooseLayout (d : Draft) (name : Option String) :
    (d.chooseLayout name).galley = d.galley := by
  unfold chooseLayout
  split
  · split <;> rfl
  · rfl

variable {g : Galley}

theorem At.chooseLayout (h : d.At g) (name : Option String) : (d.chooseLayout name).At g := by
  refine ⟨?_, ?_, (galley_chooseLayout d name).trans h.galley⟩
  · rw [← h.mode]
    unfold Draft.chooseLayout
    split
    · split <;> rfl
    · rfl
  · rw [← h.table]
    unfold Draft.chooseLayout
    split
    · split <;> rfl
    · rfl

theorem At.onBlock (h : d.At g) (f : OpenBlock → OpenBlock) : (d.onBlock f).At (g.onBlock f) := by
  obtain rfl := h.galley
  exact ⟨h.mode, h.table, rfl⟩

theorem At.started (h : d.At g) : ({ d with started := true } : Draft).At g :=
  ⟨h.mode, h.table, h.galley⟩

theorem At.text (h : d.At g) {content : List InlineToken}
    (hrun : (d.run addNotes (Piece.inlineTokens content)).outcome = .ok d') :
    d'.At (g.onBlock (·.takeText content)) := by
  obtain rfl := h.galley
  obtain ⟨images, notes, started, rfl⟩ := run_text h.mode hrun
  exact ⟨h.mode, h.table, rfl⟩

/-! ### Paragraphs -/

theorem At.turn (h : d.At g) : At { d with
    slide := { d.slide with bodies := d.slide.bodies ++ [⟨d.block.sealed⟩] }
    block := OpenBlock.empty } g.turn := by
  obtain rfl := h.galley
  exact ⟨h.mode, h.table, rfl⟩

theorem At.paragraphOpened (h : d.At g) (attributes : Attributes) :
    (d.paragraphOpened attributes).At
      ((if attributes.hasClass "column" then g.turn else g).onBlock fun b =>
        if attributes.hasClass "big" then b.makeBig else b) := by
  have hcolumn : At (if attributes.hasClass "column" then { d with
      slide := { d.slide with bodies := d.slide.bodies ++ [⟨d.block.sealed⟩] }
      block := OpenBlock.empty } else d)
      (if attributes.hasClass "column" then g.turn else g) := by
    split
    · exact h.turn
    · exact h
  unfold Draft.paragraphOpened
  simp only
  revert hcolumn
  generalize (if attributes.hasClass "column" then _ else d : Draft) = d₁
  intro hcolumn
  have hbig : At (if attributes.hasClass "big" then d₁.onBlock (·.makeBig) else d₁)
      ((if attributes.hasClass "column" then g.turn else g).onBlock fun b =>
        if attributes.hasClass "big" then b.makeBig else b) := by
    cases attributes.hasClass "big" with
    | true => exact hcolumn.onBlock _
    | false => exact hcolumn
  have hlayout := hbig.chooseLayout (attributes.get? "layout")
  exact ⟨hlayout.mode, hlayout.table, hlayout.galley⟩

theorem At.paragraph (h : d.At g) {attributes : Attributes} {content : List InlineToken}
    (hrun : (d.run addNotes (Piece.paragraph attributes content).tokens).outcome = .ok d') :
    d'.At (g.take (.paragraph attributes content)) := by
  obtain ⟨d₁, d₂, d₃, hopen, htext, hclose, rfl⟩ := run_group hrun
  obtain rfl := Except.ok.inj ((outcome_openParagraph h.mode attributes).symm.trans hopen)
  obtain rfl := Logged.pure_ok_iff.mp hclose
  have hwritten := (((h.paragraphOpened attributes).started).text htext).onBlock (·.breakParagraph)
  exact ⟨hwritten.mode, hwritten.table, hwritten.galley⟩

/-! ### Headings -/

theorem At.isSlideHeading (h : d.At g) {level : Nat} (hlevel : level ≤ 2) :
    d.isSlideHeading level = true := by
  simp [Draft.isSlideHeading, inDocument, h.mode, h.table, hlevel]

/-- The draft with its block set aside for a heading. -/
def headed (d : Draft) (block : OpenBlock) (layout : Option String) : Draft :=
  { d with
    block := block
    parked := d.block :: d.parked
    slide := { d.slide with customLayout := layout } }

/-- A slide heading takes the text for itself, in a style that sets nothing. -/
theorem openHeading_slide (h : d.At g) {level : Nat} (hlevel : level ≤ 2)
    (attributes : Attributes) :
    ∃ layout, d.openHeading level attributes = d.headed
      ((if attributes.hasClass "big" then OpenBlock.empty.makeBig else OpenBlock.empty).openStyle
        TextStyle.empty none) layout := by
  have hpark : (if attributes.hasClass "big" then d.park.onBlock (·.makeBig) else d.park) =
      d.headed (if attributes.hasClass "big" then OpenBlock.empty.makeBig else OpenBlock.empty)
        d.slide.customLayout := by
    split <;> rfl
  have hlayout : ∀ block, ∃ layout, (d.headed block d.slide.customLayout).chooseLayout
      (attributes.get? "layout") = d.headed block layout := by
    intro block
    cases attributes.get? "layout" with
    | none => exact ⟨_, rfl⟩
    | some name =>
        unfold chooseLayout
        simp only
        split
        · exact ⟨some name, rfl⟩
        · exact ⟨_, rfl⟩
  have hstyle : headingStyle d.mode level = TextStyle.empty := by
    simp [headingStyle, h.mode, Nat.not_lt.mpr hlevel]
  obtain ⟨layout, hlayout⟩ := hlayout
    (if attributes.hasClass "big" then OpenBlock.empty.makeBig else OpenBlock.empty)
  refine ⟨layout, ?_⟩
  unfold openHeading
  rw [if_pos (h.isSlideHeading hlevel), hpark]
  simp only [hlayout]
  rw [show ∀ block, (d.headed block d.slide.customLayout).mode = d.mode from fun _ => rfl, hstyle]
  rfl

/-- What a slide heading comes to.  The block that was set aside comes back, so the body is as it
was. -/
theorem run_slideHeading (h : d.At g) {level : Nat} (positive : 0 < level) (hlevel : level ≤ 2)
    {attributes : Attributes} {content : List InlineToken}
    (hrun : (d.run addNotes (Piece.heading level positive attributes content).tokens).outcome =
      .ok d') :
    ∃ layout images notes, d' = { d with
      slide := withHeading
        { d.slide with customLayout := layout, images := images, notes := notes } level
          (OpenBlock.ofHeading attributes content).sealed
      started := true } := by
  obtain ⟨d₁, d₂, d₃, hopen, htext, hclose, rfl⟩ := run_group hrun
  obtain ⟨layout, heq⟩ := openHeading_slide h hlevel attributes
  obtain rfl := heq.symm.trans (Logged.pure_ok_iff.mp hopen)
  obtain ⟨images, notes, started, rfl⟩ := run_text (by exact h.mode) htext
  have hslide : d.isSlideHeading level = true := h.isSlideHeading hlevel
  obtain rfl := Except.ok.inj ((outcome_closeHeading_slide (by exact hslide)).symm.trans hclose)
  exact ⟨layout, images, notes, rfl⟩

theorem At.slideHeading (h : d.At g) {level : Nat} (positive : 0 < level) (hlevel : level ≤ 2)
    {attributes : Attributes} {content : List InlineToken}
    (hrun : (d.run addNotes (Piece.heading level positive attributes content).tokens).outcome =
      .ok d') :
    d'.At (g.take (.heading level positive attributes content)) := by
  obtain ⟨layout, images, notes, rfl⟩ := run_slideHeading h positive hlevel hrun
  obtain rfl := h.galley
  simp only [Galley.take]
  by_cases hone : level = 1
  · subst hone
    exact ⟨h.mode, h.table, rfl⟩
  · obtain rfl : level = 2 := by omega
    exact ⟨h.mode, h.table, rfl⟩

/-- A section heading is a paragraph in bold. -/
theorem At.sectionHeading (h : d.At g) {level : Nat} (positive : 0 < level) (hlevel : 2 < level)
    {attributes : Attributes} {content : List InlineToken}
    (hrun : (d.run addNotes (Piece.heading level positive attributes content).tokens).outcome =
      .ok d') :
    d'.At (g.take (.heading level positive attributes content)) := by
  obtain ⟨d₁, d₂, d₃, hopen, htext, hclose, rfl⟩ := run_group hrun
  have hslide : ∀ c : Draft, c.isSlideHeading level = false := by
    simp [Draft.isSlideHeading, Nat.not_le.mpr hlevel]
  have hstyle : ∀ mode, headingStyle mode level = { bold := some true } := by
    simp [headingStyle, hlevel]
  have hopened : (d.openHeading level attributes).At (g.onBlock fun b =>
      b.breakParagraph.openStyle { bold := some true } none) := by
    unfold openHeading
    simp only [hslide, Bool.false_eq_true, if_false, hstyle]
    exact ((h.onBlock (·.breakParagraph)).chooseLayout _).onBlock (·.openStyle _ none)
  obtain rfl := Logged.pure_ok_iff.mp hopen
  have hcontent := hopened.started.text htext
  obtain rfl := Except.ok.inj ((outcome_closeHeading_text (hslide d₂)).symm.trans hclose)
  simp only [Galley.take]
  rw [if_neg (by omega), if_neg (by omega)]
  exact (hcontent.onBlock fun b => (b.endStyle none).breakParagraph).started

/-! ### Tables -/

/-- The draft within a table, with other images and notes on its slide. -/
def tabled (d : Draft) (t : OpenTable) (images : List Image) (notes : Option String)
    (started : Bool) : Draft :=
  { d.rewritten OpenBlock.empty images notes started with table := some t }

variable {t : OpenTable} {images : List Image} {notes : Option String} {started : Bool}

theorem run_cell {cell : List InlineToken} (hmode : d.mode = .document)
    (hrun : ((d.tabled t images notes started).run addNotes (Piece.cellTokens cell)).outcome =
      .ok d') :
    ∃ images notes started,
      d' = d.tabled (t.addCell (OpenBlock.ofCell cell).sealed) images notes started := by
  obtain ⟨d₁, d₂, d₃, hopen, htext, hclose, rfl⟩ := run_group hrun
  have heq : (d.tabled t images notes started).openCell = d.tabled t images notes started := by
    have htabled : (d.tabled t images notes started).mode = .document := hmode
    simp only [openCell, htabled]
    rfl
  obtain rfl := heq.symm.trans (Logged.pure_ok_iff.mp hopen)
  obtain ⟨images, notes, started, rfl⟩ := run_text (by exact hmode) htext
  obtain rfl := Except.ok.inj ((outcome_closeCell rfl).symm.trans hclose)
  exact ⟨images, notes, true, rfl⟩

theorem run_row {row : List (List InlineToken)} (hmode : d.mode = .document)
    (hrun : ((d.tabled t images notes started).run addNotes (Piece.rowTokens row)).outcome =
      .ok d') :
    ∃ images notes started, d' = d.tabled
      ⟨t.rows ++ [row.map fun cell => (OpenBlock.ofCell cell).sealed], []⟩ images notes started := by
  obtain ⟨d₁, d₂, d₃, hopen, hcells, hclose, rfl⟩ := run_group hrun
  obtain rfl := Logged.pure_ok_iff.mp hopen
  obtain ⟨images, notes, started, rfl⟩ := run_flatMap
    (fun bs c => ∃ images notes started, c = d.tabled ⟨t.rows, bs⟩ images notes started)
    (by
      rintro bs _ c' cell ⟨_, _, _, rfl⟩ hcell
      exact run_cell hmode hcell)
    ⟨images, notes, true, rfl⟩ hcells
  obtain rfl := Logged.pure_ok_iff.mp hclose
  exact ⟨images, notes, true, rfl⟩

/-- What a table comes to.  It is the only one of its slide, and the body is as it was. -/
theorem run_table (h : d.At g) {rows : List (List (List InlineToken))}
    (hrun : (d.run addNotes (Piece.table rows).tokens).outcome = .ok d') :
    d.slide.tables = [] ∧ ∃ images notes, d' = { d with
      slide := { d.slide with
        tables := [Table.ofCells
          (rows.map fun row => row.map fun cell => (OpenBlock.ofCell cell).sealed)]
        images := images
        notes := notes }
      started := true } := by
  obtain ⟨d₁, d₂, d₃, hopen, hrows, hclose, rfl⟩ := run_group hrun
  have heq : d.openTable = { d.park with table := some OpenTable.empty } := by
    simp only [openTable, h.mode]
  obtain rfl := heq.symm.trans (Logged.pure_ok_iff.mp hopen)
  obtain ⟨row, images, notes, started, rfl⟩ := run_flatMap
    (fun bs c => ∃ row images notes started, c = d.park.tabled ⟨bs, row⟩ images notes started)
    (by
      rintro bs _ c' row ⟨_, _, _, _, rfl⟩ hrow
      exact ⟨[], run_row (by exact h.mode) hrow⟩)
    ⟨[], d.slide.images, d.slide.notes, true, rfl⟩ hrows
  obtain ⟨hnone, rfl⟩ := closeTable_ok rfl hclose
  refine ⟨hnone, images, notes, ?_⟩
  rw [Draft.mk.injEq]
  exact ⟨rfl, rfl, rfl, rfl, rfl, rfl, h.table.symm, rfl, rfl⟩

theorem At.tableTaken (h : d.At g) {rows : List (List (List InlineToken))}
    (hrun : (d.run addNotes (Piece.table rows).tokens).outcome = .ok d') :
    d'.At (g.take (.table rows)) := by
  obtain ⟨hnone, images, notes, rfl⟩ := run_table h hrun
  obtain rfl := h.galley
  refine ⟨h.mode, h.table, ?_⟩
  show Galley.mk _ _ _ [Table.ofCells _] _ _ = Galley.mk _ _ _ (d.slide.tables ++ _) _ _
  rw [hnone]
  rfl

/-! ### Pieces -/

theorem At.code (h : d.At g) {info content : String}
    (hrun : (d.run addNotes [.fencedCode info content]).outcome = .ok d') :
    d'.At (g.take (.code info content)) := by
  obtain ⟨d₁, htake, rfl⟩ := run_single hrun
  obtain rfl := Except.ok.inj ((outcome_takeCode addNotes d info content).symm.trans htake)
  have hcode := (h.onBlock (·.breakParagraph)).onBlock (·.writeCode (codeText content))
  exact (hcode.onBlock (·.breakParagraph)).started

theorem At.html (h : d.At g) {html : String}
    (hrun : (d.run addNotes [.htmlBlock html]).outcome = .ok d') : d'.At g := by
  obtain ⟨d₁, htake, rfl⟩ := run_single hrun
  obtain ⟨notes, rfl⟩ := takeHtmlBlock_ok htake
  exact ⟨h.mode, h.table, h.galley⟩

theorem At.listOpened (h : d.At g) {kind : ListKind}
    (hrun : (d.run addNotes [.listOpen kind]).outcome = .ok d') :
    d'.At (g.openList kind) := by
  obtain ⟨d₁, htake, rfl⟩ := run_single hrun
  obtain rfl := h.galley
  rcases openList_ok htake with ⟨hlist, rfl⟩ | ⟨l, hlist, -, rfl⟩
  · have hopen : d.galley.openList kind = { d.galley with
        block := d.block.breakParagraph
        list := some ⟨kind, 0, d.block.breakParagraph.text.length⟩ } := by
      simp only [Galley.openList, Draft.galley, hlist]
    exact ⟨h.mode, h.table, hopen.symm⟩
  · have hopen : d.galley.openList kind =
        { d.galley with list := some { l with depth := l.depth + 1 } } := by
      simp only [Galley.openList, Draft.galley, hlist]
    exact ⟨h.mode, h.table, hopen.symm⟩

theorem At.listClosed (h : d.At g) {kind : ListKind}
    (hrun : (d.run addNotes [.listClose kind]).outcome = .ok d') : d'.At g.closeList := by
  obtain ⟨d₁, htake, rfl⟩ := run_single hrun
  change d.closeList.outcome = .ok d₁ at htake
  obtain rfl := h.galley
  cases hlist : d.list with
  | none =>
      obtain rfl := Except.ok.inj ((outcome_closeList_none hlist).symm.trans htake)
      have hclose : d.galley.closeList = d.galley := by
        simp only [Galley.closeList, Draft.galley, hlist]
      exact ⟨h.mode, h.table, hclose.symm⟩
  | some l =>
      rcases Nat.eq_zero_or_pos l.depth with hdepth | hdepth
      · obtain rfl := Except.ok.inj ((outcome_closeList_outer hlist hdepth).symm.trans htake)
        have hclose : d.galley.closeList =
            { d.galley with block := d.block.mark l.start l.kind, list := none } := by
          simp only [Galley.closeList, Draft.galley, hlist, hdepth, Nat.lt_irrefl, if_false]
        exact ⟨h.mode, h.table, hclose.symm⟩
      · obtain rfl := Except.ok.inj ((outcome_closeList_inner hlist hdepth).symm.trans htake)
        have hclose : d.galley.closeList =
            { d.galley with list := some { l with depth := l.depth - 1 } } := by
          simp only [Galley.closeList, Draft.galley, hlist, if_pos hdepth]
        exact ⟨h.mode, h.table, hclose.symm⟩

theorem At.itemOpened (h : d.At g)
    (hrun : (d.run addNotes [.listItemOpen]).outcome = .ok d') : d'.At (g.take .itemOpen) := by
  obtain ⟨d₁, htake, rfl⟩ := run_single hrun
  obtain rfl := Logged.pure_ok_iff.mp htake
  obtain rfl := h.galley
  exact ⟨h.mode, h.table, rfl⟩

theorem At.itemClosed (h : d.At g)
    (hrun : (d.run addNotes [.listItemClose]).outcome = .ok d') : d'.At (g.take .itemClose) := by
  obtain ⟨d₁, htake, rfl⟩ := run_single hrun
  obtain rfl := Logged.pure_ok_iff.mp htake
  have hclose : d.closeItem = d.onBlock OpenBlock.closeItem := by
    unfold Draft.closeItem Draft.onBlock OpenBlock.closeItem
    split <;> rfl
  rw [hclose]
  exact (h.onBlock OpenBlock.closeItem).started

/-- A draft that takes a piece has the galley that the piece makes of its galley. -/
theorem At.take (h : d.At g) {p : Piece} (hp : p ≠ .rule)
    (hrun : (d.run addNotes p.tokens).outcome = .ok d') : d'.At (g.take p) := by
  cases p with
  | inline t =>
      have hsingle : (d.run addNotes (Piece.inlineTokens [t])).outcome = .ok d' := hrun
      exact h.text hsingle
  | paragraph attributes content => exact h.paragraph hrun
  | heading level positive attributes content =>
      rcases Nat.lt_or_ge 2 level with hlevel | hlevel
      · exact h.sectionHeading positive hlevel hrun
      · exact h.slideHeading positive hlevel hrun
  | table rows => exact h.tableTaken hrun
  | code info content => exact h.code hrun
  | html s => exact h.html hrun
  | rule => exact absurd rfl hp
  | listOpen kind => exact h.listOpened hrun
  | listClose kind => exact h.listClosed hrun
  | itemOpen => exact h.itemOpened hrun
  | itemClose => exact h.itemClosed hrun

/-! ### Slides -/

theorem rule_notMem_inlineTokens (content : List InlineToken) :
    .horizontalRule ∉ Piece.inlineTokens content := by
  intro hmem
  obtain ⟨t, -, ht⟩ := List.mem_map.mp hmem
  have hinline := t.property
  rw [ht] at hinline
  cases hinline

theorem rule_notMem_rowTokens (row : List (List InlineToken)) :
    .horizontalRule ∉ Piece.rowTokens row := by
  intro hmem
  simp only [Piece.rowTokens, Piece.cellTokens, List.mem_cons, List.mem_append, List.mem_flatMap,
    List.not_mem_nil, or_false, reduceCtorEq, false_or] at hmem
  obtain ⟨cell, -, hcell⟩ := hmem
  exact rule_notMem_inlineTokens cell hcell

/-- Only rules have rules among their tokens. -/
theorem rule_notMem_tokens {p : Piece} (hp : p ≠ .rule) : .horizontalRule ∉ p.tokens := by
  cases p with
  | inline t => exact rule_notMem_inlineTokens [t]
  | paragraph attributes content => simp [Piece.tokens, rule_notMem_inlineTokens]
  | heading level positive attributes content => simp [Piece.tokens, rule_notMem_inlineTokens]
  | table rows => simp [Piece.tokens, rule_notMem_rowTokens]
  | rule => exact absurd rfl hp
  | _ => simp [Piece.tokens]

theorem slides_run {tokens : List Token} (hmode : d.mode = .document)
    (hrule : .horizontalRule ∉ tokens) (hrun : (d.run addNotes tokens).outcome = .ok d') :
    d'.slides = d.slides := by
  have hkept : d'.mode = .document ∧ d'.slides = d.slides := by
    refine run_keeps (P := fun c => c.mode = .document ∧ c.slides = d.slides) ?_ ⟨hmode, rfl⟩ hrun
    rintro t ht c c' ⟨hc, hslides⟩ htake
    have hne : t ≠ .horizontalRule := by
      rintro rfl
      exact hrule ht
    have hcourse := course_take hc hne htake
    simp only [course, Prod.mk.injEq] at hcourse
    exact ⟨hcourse.1.trans hc, hcourse.2.1.trans hslides⟩
  exact hkept.2

theorem started_run {tokens : List Token} (h : d.started = true ∨ tokens ≠ [])
    (hrun : (d.run addNotes tokens).outcome = .ok d') : d'.started = true := by
  induction tokens generalizing d with
  | nil =>
      obtain rfl := Logged.pure_ok_iff.mp hrun
      exact h.resolve_right (absurd rfl)
  | cons t tokens ih =>
      obtain ⟨d₁, -, hrest⟩ := run_cons_ok_iff.mp hrun
      exact ih (Or.inl rfl) hrest

theorem At.sealedSlide (h : d.At g) : d.sealedSlide.SetFrom g := by
  obtain rfl := h.galley
  unfold Draft.sealedSlide
  split
  · rename_i hblank
    refine ⟨rfl, rfl, ?_, rfl⟩
    show d.slide.bodies = d.slide.bodies ++ if d.block.sealed.isBlank then [] else _
    rw [if_pos hblank, List.append_nil]
  · rename_i hblank
    refine ⟨rfl, rfl, ?_, rfl⟩
    show d.slide.bodies ++ _ = d.slide.bodies ++ if d.block.sealed.isBlank then [] else _
    rw [if_neg hblank]
    rfl

theorem At.ruled (h : d.At g) : d.ruled.At {} := ⟨h.mode, rfl, rfl⟩

theorem setFrom_run {ps : List Piece} {gs : List Galley} (h : d.At g) (hstarted : d.started = true)
    (hset : List.Forall₂ Slide.SetFrom d.slides gs)
    (hrun : (d.run addNotes (ps.flatMap Piece.tokens)).outcome = .ok d') :
    List.Forall₂ Slide.SetFrom (d'.slides ++ [d'.sealedSlide]) (gs ++ g.written ps) := by
  induction ps generalizing d g gs with
  | nil =>
      obtain rfl := Logged.pure_ok_iff.mp hrun
      exact List.rel_append hset (.cons h.sealedSlide .nil)
  | cons p ps ih =>
      rw [List.flatMap_cons, run_append] at hrun
      obtain ⟨d₁, hpiece, hrest⟩ := Logged.bind_ok_iff.mp hrun
      by_cases hp : p = .rule
      · subst hp
        obtain ⟨d₂, htake, rfl⟩ := run_single hpiece
        obtain rfl := Except.ok.inj ((outcome_takeRule h.mode hstarted).symm.trans htake)
        have hslides : List.Forall₂ Slide.SetFrom d.ruled.slides (gs ++ [g]) :=
          List.rel_append hset (.cons h.sealedSlide .nil)
        have hrest := ih h.ruled.started rfl hslides hrest
        rwa [List.append_assoc] at hrest
      · rw [Galley.written_cons hp]
        refine ih (h.take hp hpiece) (started_run (Or.inr p.tokens_ne_nil) hpiece) ?_ hrest
        rwa [slides_run h.mode (rule_notMem_tokens hp) hpiece]

theorem at_empty : At (empty .document) {} := ⟨rfl, rfl, rfl⟩

end Draft

open Draft in
/-- The slides of a document have the blocks of its galleys. -/
theorem setFrom_compileTokens {ps : List Piece} {slides : List Slide}
    (h : (compileTokens (ps.flatMap Piece.tokens)).outcome = .ok slides) :
    List.Forall₂ Slide.SetFrom slides (galleys ps) := by
  obtain ⟨d, hrun, rfl⟩ := compileTokens_ok_iff.mp h
  cases ps with
  | nil =>
      obtain rfl := Logged.pure_ok_iff.mp hrun
      exact .cons at_empty.sealedSlide .nil
  | cons p ps =>
      rw [List.flatMap_cons, run_append] at hrun
      obtain ⟨d₁, hpiece, hrest⟩ := Logged.bind_ok_iff.mp hrun
      by_cases hp : p = .rule
      · subst hp
        -- A leading rule only counts as the first thing in the document.
        have hrule : (empty .document).run addNotes Piece.rule.tokens = pure fresh :=
          (run_cons _ _ _).trans (Logged.pure_bind _ _)
        rw [hrule] at hpiece
        obtain rfl := Logged.pure_ok_iff.mp hpiece
        exact setFrom_run at_empty.started rfl .nil hrest
      · rw [galleys_cons hp, Galley.written_cons hp]
        have hslides : List.Forall₂ Slide.SetFrom d₁.slides [] := by
          rw [slides_run rfl (rule_notMem_tokens hp) hpiece]
          exact .nil
        exact setFrom_run (at_empty.take hp hpiece)
          (started_run (Or.inr p.tokens_ne_nil) hpiece) hslides hrest

end SlideDeck

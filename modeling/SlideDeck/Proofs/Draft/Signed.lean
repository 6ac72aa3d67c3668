/-
Who opened the style of a run.

A run does not say whether its style was opened by the markup or by an HTML element.  Here blocks
are written by the same rules with a signature on every run: the element that opened the style, or
none.  The styles of the elements that are left out can be left out of such a block, with their
runs.  Every rule then does to what is kept what it would have done without the others, or
nothing if it is a tag of an element that is left out, although both kinds of style lie on one stack
and may be taken out of it at any place.  So of what a document comes to, the part that some
elements signed is what the document without the other tags comes to.
-/
import SlideDeck.Proofs.Draft.Galley
import SlideDeck.Proofs.Html.Tags

namespace SlideDeck

/-- The element that a token opens or closes, if it is a tag. -/
def Token.tagName? : Token → Option String
  | .htmlInline html => InlineHtml.tagName? html
  | _ => none

/-! ### Signed text -/

/-- A run with the element that opened its style, if one did. -/
structure SignedRun where
  run : StyleRun
  element : Option String
deriving DecidableEq

/-- The runs of the elements that are kept. -/
def keptRuns (keep : Option String → Bool) (runs : List SignedRun) : List StyleRun :=
  (runs.filter fun r => keep r.element).map (·.run)

/-- A text whose runs are signed. -/
structure SignedText where
  /-- The text, apart from its runs. -/
  text : TextBlock
  runs : List SignedRun

/-- The text with the runs of the elements that are kept. -/
def SignedText.select (keep : Option String → Bool) (t : SignedText) : TextBlock :=
  { t.text with runs := keptRuns keep t.runs }

/-! ### Signed blocks -/

/-- The block with other runs and other open styles. -/
def OpenBlock.restyled (b : OpenBlock) (runs : List StyleRun) (styles : List OpenStyle) :
    OpenBlock :=
  ⟨{ b.text with runs := runs }, styles⟩

/-- A block whose runs are signed. -/
structure SignedBlock where
  /-- The block, apart from the runs of its text. -/
  block : OpenBlock
  runs : List SignedRun

namespace SignedBlock

/-- A block with nothing written yet. -/
def empty : SignedBlock := ⟨OpenBlock.empty, []⟩

/-- The block with the runs and the open styles of the elements that are kept. -/
def select (keep : Option String → Bool) (b : SignedBlock) : OpenBlock :=
  b.block.restyled (keptRuns keep b.runs) (b.block.styles.filter fun s => keep s.element)

/-- Changes the block, but not its runs. -/
def onBlock (b : SignedBlock) (f : OpenBlock → OpenBlock) : SignedBlock :=
  { b with block := f b.block }

/-- Turns a style into a run that its element signs. -/
def addRun (b : SignedBlock) (s : OpenStyle) : SignedBlock :=
  if s.start < b.block.text.length && !s.style.isEmpty then
    { b with runs := b.runs ++ [⟨⟨s.start, b.block.text.length, s.style⟩, s.element⟩] }
  else b

/-- Closes the innermost open style of an HTML element, or of the markup if none is given. -/
def endStyle (b : SignedBlock) (element : Option String) : SignedBlock :=
  match b.block.styles.find? (OpenBlock.isOf element) with
  | none => b
  | some s =>
    (b.onBlock fun b => { b with styles := b.styles.eraseP (OpenBlock.isOf element) }).addRun s

/-- Closes all open styles. -/
def endStyles (b : SignedBlock) : SignedBlock :=
  b.block.styles.foldl addRun (b.onBlock fun b => { b with styles := [] })

/-- A signed run cut off at a length, if anything that it styles is left. -/
def clampRun (length : Nat) (r : SignedRun) : Option SignedRun :=
  (TextBlock.clampRun length r.run).map fun run => ⟨run, r.element⟩

/-- The text of the block when it is sealed. -/
def sealed (b : SignedBlock) : SignedText where
  text := b.endStyles.block.text.finish
  runs := b.endStyles.runs.filterMap (clampRun b.endStyles.block.text.finish.length)

/-- Writes code. -/
def writeCode (b : SignedBlock) (code : String) : SignedBlock :=
  (b.onBlock fun b => (b.openStyle Draft.codeStyle none).append code).endStyle none

/-- Takes a token of running text.  Where a style ends its element signs the run; all other tokens
change the block as they do without signatures. -/
def takeInline (b : SignedBlock) : Token → SignedBlock
  | .emphasisClose | .strongClose | .strikethroughClose | .linkClose => b.endStyle none
  | .inlineCode code => b.writeCode code
  | .htmlInline html =>
    match (InlineHtml.parse html).outcome with
    | .ok (.closing tag) => b.endStyle (some tag)
    | _ => b.onBlock (·.takeInline (.htmlInline html))
  | t => b.onBlock (·.takeInline t)

/-- Takes running text. -/
def takeText (b : SignedBlock) (content : List InlineToken) : SignedBlock :=
  content.foldl (fun b t => b.takeInline t.val) b

/-- Takes a section heading, which is a paragraph in bold. -/
def takeHeading (b : SignedBlock) (content : List InlineToken) : SignedBlock :=
  (((b.onBlock fun b => b.breakParagraph.openStyle { bold := some true } none).takeText
    content).endStyle none).onBlock (·.breakParagraph)

/-- Takes a block of code. -/
def takeCode (b : SignedBlock) (content : String) : SignedBlock :=
  ((b.onBlock (·.breakParagraph)).writeCode (Draft.codeText content)).onBlock (·.breakParagraph)

/-- The block of a slide heading before it is sealed. -/
def ofHeading (attributes : Attributes) (content : List InlineToken) : SignedBlock :=
  ((empty.onBlock fun b => (if attributes.hasClass "big" then b.makeBig else b).openStyle
    TextStyle.empty none).takeText content).endStyle none

/-- The block of a cell before it is sealed. -/
def ofCell (content : List InlineToken) : SignedBlock := empty.takeText content

end SignedBlock

/-! ### Signed galleys -/

/-- The blocks of a slide that is being written, whose runs are signed. -/
structure SignedGalley where
  title : Option SignedText := none
  subtitle : Option SignedText := none
  /-- The bodies that are complete. -/
  columns : List SignedText := []
  /-- The cells of the tables, row by row. -/
  tables : List (List (List SignedText)) := []
  /-- The block of the body that is being written. -/
  block : SignedBlock := SignedBlock.empty
  list : Option OpenList := none

namespace SignedGalley

/-- The galley with the runs and the open styles of the elements that are kept. -/
def select (keep : Option String → Bool) (g : SignedGalley) : Galley where
  title := g.title.map (·.select keep)
  subtitle := g.subtitle.map (·.select keep)
  columns := g.columns.map fun t => ⟨t.select keep⟩
  tables := g.tables.map fun rows => Table.ofCells (rows.map fun row => row.map (·.select keep))
  block := g.block.select keep
  list := g.list

/-- Changes the block of the body that is being written. -/
def onBlock (g : SignedGalley) (f : SignedBlock → SignedBlock) : SignedGalley :=
  { g with block := f g.block }

/-- Begins a column. -/
def turn (g : SignedGalley) : SignedGalley :=
  { g with columns := g.columns ++ [g.block.sealed], block := SignedBlock.empty }

/-- Opens a list. -/
def openList (g : SignedGalley) (kind : ListKind) : SignedGalley :=
  match g.list with
  | none =>
    { g with
      block := g.block.onBlock (·.breakParagraph)
      list := some ⟨kind, 0, g.block.block.breakParagraph.text.length⟩ }
  | some l => { g with list := some { l with depth := l.depth + 1 } }

/-- Closes a list; the end of the outermost one marks its text. -/
def closeList (g : SignedGalley) : SignedGalley :=
  match g.list with
  | none => g
  | some l =>
    if 0 < l.depth then { g with list := some { l with depth := l.depth - 1 } }
    else { g with block := g.block.onBlock (·.mark l.start l.kind), list := none }

/-- Takes a piece. -/
def take (g : SignedGalley) : Piece → SignedGalley
  | .inline t => g.onBlock (·.takeInline t.val)
  | .paragraph attributes content =>
    (if attributes.hasClass "column" then g.turn else g).onBlock fun b =>
      ((if attributes.hasClass "big" then b.onBlock (·.makeBig) else b).takeText content).onBlock
        (·.breakParagraph)
  | .heading level _ attributes content =>
    if level = 1 then { g with title := some (SignedBlock.ofHeading attributes content).sealed }
    else if level = 2 then
      { g with subtitle := some (SignedBlock.ofHeading attributes content).sealed }
    else g.onBlock (·.takeHeading content)
  | .table rows =>
    { g with tables := g.tables ++
      [rows.map fun row => row.map fun cell => (SignedBlock.ofCell cell).sealed] }
  | .code _ content => g.onBlock (·.takeCode content)
  | .listOpen kind => g.openList kind
  | .listClose _ => g.closeList
  | .itemOpen => g.onBlock (·.onBlock (·.openItem g.list))
  | .itemClose => g.onBlock (·.onBlock OpenBlock.closeItem)
  | .html _ | .rule => g

/-- The galley of the pieces of a slide. -/
def ofPieces (ps : List Piece) : SignedGalley := ps.foldl take {}

end SignedGalley

/-! ### Documents without some tags -/

namespace Piece

variable (keep : Option String → Bool)

/-- The running text without the tags of elements that are not kept. -/
def keepText (content : List InlineToken) : List InlineToken :=
  content.filter fun t => keep t.val.tagName?

/-- The piece without the tags of elements that are not kept.  Nothing is left of a tag. -/
def keeping : Piece → Option Piece
  | inline t => if keep t.val.tagName? then some (inline t) else none
  | paragraph attributes content => some (paragraph attributes (keepText keep content))
  | heading level positive attributes content =>
    some (heading level positive attributes (keepText keep content))
  | table rows => some (table (rows.map fun row => row.map (keepText keep)))
  | p => some p

theorem keeping_all (p : Piece) : p.keeping (fun _ => true) = some p := by
  have hcontent : keepText (fun _ => true) = id := by
    funext content
    simp [keepText]
  cases p <;> simp [keeping, hcontent]

end Piece

/-- The galley of the pieces of a slide. -/
def Galley.ofPieces (ps : List Piece) : Galley := ps.foldl take {}

/-! ### What is kept of a block -/

/-- A change of a block that does not look at its runs and its open styles, and keeps them. -/
def OpenBlock.Steady (f : OpenBlock → OpenBlock) : Prop :=
  ∀ b runs styles, f (b.restyled runs styles) = (f b).restyled runs styles

namespace OpenBlock

variable {f f' : OpenBlock → OpenBlock}

theorem Steady.comp (h : Steady f) (h' : Steady f') : Steady fun b => f' (f b) := by
  intro b runs styles
  show f' (f (b.restyled runs styles)) = _
  rw [h, h']

theorem Steady.styles (h : Steady f) (b : OpenBlock) : (f b).styles = b.styles := by
  have hsame : f b = (f b).restyled b.text.runs b.styles := h b b.text.runs b.styles
  rw [hsame]
  rfl

theorem steady_append (s : String) : Steady (·.append s) := fun _ _ _ => rfl

theorem steady_makeBig : Steady makeBig := fun _ _ _ => rfl

theorem steady_breakParagraph : Steady breakParagraph := by
  intro b runs styles
  show (if b.atParagraphStart then _ else _) =
    (if b.atParagraphStart then _ else _ : OpenBlock).restyled _ _
  split <;> rfl

theorem steady_closeItem : Steady closeItem := by
  intro b runs styles
  show (if b.text.endsWithNewline then _ else _) =
    (if b.text.endsWithNewline then _ else _ : OpenBlock).restyled _ _
  split <;> rfl

theorem steady_openItem (list : Option OpenList) : Steady (·.openItem list) :=
  steady_breakParagraph.comp (steady_append _)

end OpenBlock

namespace SignedBlock

variable {keep : Option String → Bool} (b : SignedBlock)

theorem select_empty : empty.select keep = OpenBlock.empty := rfl

theorem select_onBlock {f : OpenBlock → OpenBlock} (h : OpenBlock.Steady f) :
    (b.onBlock f).select keep = f (b.select keep) := by
  unfold select
  rw [h]
  show (f b.block).restyled _ ((f b.block).styles.filter _) = _
  rw [h.styles]
  rfl

/-- A style that is kept is opened, and one that is not leaves no trace. -/
theorem select_openStyle (style : TextStyle) (element : Option String) :
    (b.onBlock (·.openStyle style element)).select keep =
      if keep element then (b.select keep).openStyle style element else b.select keep := by
  unfold select onBlock OpenBlock.openStyle OpenBlock.restyled
  simp only [List.filter_cons]
  split <;> rfl

theorem keptRuns_append (runs more : List SignedRun) :
    keptRuns keep (runs ++ more) = keptRuns keep runs ++ keptRuns keep more := by
  simp [keptRuns]

theorem select_addRun (s : OpenStyle) :
    (b.addRun s).select keep =
      if keep s.element then (b.select keep).addRun s else b.select keep := by
  unfold addRun OpenBlock.addRun
  show _ = if keep s.element then
    (if s.start < b.block.text.length && !s.style.isEmpty then _ else _) else _
  split
  · by_cases hkeep : keep s.element = true
    · rw [if_pos hkeep, select, keptRuns_append]
      simp [keptRuns, hkeep, select, OpenBlock.restyled, TextBlock.length]
    · rw [if_neg hkeep, select, keptRuns_append]
      simp [keptRuns, hkeep, select]
  · split <;> rfl

/-- A style of an element that is kept is kept. -/
theorem isOf_and_keep {element : Option String} (hkeep : keep element = true) :
    (fun s : OpenStyle => OpenBlock.isOf element s && keep s.element) =
      OpenBlock.isOf element := by
  funext s
  by_cases hof : s.element = element
  · simp [OpenBlock.isOf, hof, hkeep]
  · simp [OpenBlock.isOf, hof]

/-- Closing a style of an element that is left out leaves what is kept as it is. -/
theorem filter_eraseP_isOf {element : Option String} (hkeep : keep element = false)
    (styles : List OpenStyle) :
    (styles.eraseP (OpenBlock.isOf element)).filter (fun s => keep s.element) =
      styles.filter fun s => keep s.element := by
  induction styles with
  | nil => rfl
  | cons s styles ih =>
      by_cases hof : s.element = element
      · rw [List.eraseP_cons_of_pos (by simp [OpenBlock.isOf, hof])]
        simp [hof, hkeep]
      · rw [List.eraseP_cons_of_neg (by simp [OpenBlock.isOf, hof])]
        simp only [List.filter_cons, ih]

/-- The innermost style of an element that is kept is the same without the others. -/
theorem find?_select {element : Option String} (hkeep : keep element = true) :
    (b.select keep).styles.find? (OpenBlock.isOf element) =
      b.block.styles.find? (OpenBlock.isOf element) := by
  show (b.block.styles.filter _).find? _ = _
  rw [List.find?_filter, ← isOf_and_keep hkeep]
  simp [Bool.and_comm]

/-- The end of a style that is kept is the same without the others, and the end of one that is not
leaves no trace. -/
theorem select_endStyle (element : Option String) :
    (b.endStyle element).select keep =
      if keep element then (b.select keep).endStyle element else b.select keep := by
  unfold endStyle
  cases hstyle : b.block.styles.find? (OpenBlock.isOf element) with
  | none =>
      by_cases hkeep : keep element = true
      · rw [if_pos hkeep, OpenBlock.endStyle, find?_select b hkeep, hstyle]
      · rw [if_neg hkeep]
  | some s =>
      have helement : s.element = element := by
        simpa [OpenBlock.isOf] using List.find?_some hstyle
      simp only
      rw [select_addRun, helement]
      by_cases hkeep : keep element = true
      · rw [if_pos hkeep, if_pos hkeep, OpenBlock.endStyle, find?_select b hkeep, hstyle]
        simp only [select, onBlock, OpenBlock.restyled, List.eraseP_filter, isOf_and_keep hkeep]
      · rw [if_neg hkeep, if_neg hkeep]
        simp only [select, onBlock, OpenBlock.restyled, filter_eraseP_isOf (eq_false_of_ne_true hkeep)]

theorem select_foldl_addRun (styles : List OpenStyle) :
    (styles.foldl addRun b).select keep =
      (styles.filter fun s => keep s.element).foldl OpenBlock.addRun (b.select keep) := by
  induction styles generalizing b with
  | nil => rfl
  | cons s styles ih =>
      rw [List.foldl_cons, ih, select_addRun, List.filter_cons]
      split <;> rfl

theorem select_endStyles : b.endStyles.select keep = (b.select keep).endStyles :=
  select_foldl_addRun _ _

/-- Runs are cut off one by one. -/
theorem keptRuns_filterMap_clampRun (length : Nat) (runs : List SignedRun) :
    keptRuns keep (runs.filterMap (clampRun length)) =
      (keptRuns keep runs).filterMap (TextBlock.clampRun length) := by
  unfold keptRuns
  rw [List.filter_filterMap, List.map_filterMap, List.filterMap_map, List.filterMap_filter]
  congr 1
  funext r
  simp only [clampRun, Function.comp_apply]
  cases TextBlock.clampRun length r.run with
  | none => simp
  | some run => by_cases hkeep : keep r.element = true <;> simp [hkeep]

/-- Sealing a block seals what is kept of it. -/
theorem select_sealed : b.sealed.select keep = (b.select keep).sealed := by
  unfold OpenBlock.sealed
  rw [← select_endStyles]
  unfold sealed SignedText.select
  rw [keptRuns_filterMap_clampRun]
  rfl

/-! ### What is kept of running text -/

variable (hmarkup : keep none = true)

include hmarkup

theorem select_markupClosed : (b.endStyle none).select keep = (b.select keep).endStyle none := by
  rw [select_endStyle, if_pos hmarkup]

theorem select_markupOpened (style : TextStyle) :
    (b.onBlock (·.openStyle style none)).select keep = (b.select keep).openStyle style none := by
  rw [select_openStyle, if_pos hmarkup]

theorem select_writeCode (code : String) :
    (b.writeCode code).select keep = (b.select keep).writeCode code := by
  unfold writeCode OpenBlock.writeCode
  rw [select_markupClosed _ hmarkup, ← select_markupOpened b hmarkup,
    ← select_onBlock _ (OpenBlock.steady_append code)]
  rfl

/-- A token does to what is kept what it would do without the others, unless it is a tag of an
element that is left out. -/
theorem select_takeInline (t : Token) :
    (b.takeInline t).select keep =
      if keep t.tagName? then (b.select keep).takeInline t else b.select keep := by
  cases t with
  | htmlInline html =>
      rcases hparse : (InlineHtml.parse html).outcome with _ | (⟨tag, style⟩ | tag | body) <;>
        simp only [takeInline, OpenBlock.takeInline, Token.tagName?, InlineHtml.tagName?, hparse]
      · rw [if_pos hmarkup]
        rfl
      · exact select_openStyle b style (some tag)
      · exact select_endStyle b (some tag)
      · rw [if_pos hmarkup]
        rfl
  | text s | emoji shortcode s =>
      exact (select_onBlock b (OpenBlock.steady_append s)).trans (if_pos hmarkup).symm
  | emphasisOpen | strongOpen | strikethroughOpen | linkOpen href =>
      exact (select_markupOpened b hmarkup _).trans (if_pos hmarkup).symm
  | emphasisClose | strongClose | strikethroughClose | linkClose =>
      exact (select_markupClosed b hmarkup).trans (if_pos hmarkup).symm
  | inlineCode code => exact (select_writeCode b hmarkup code).trans (if_pos hmarkup).symm
  | _ => exact (if_pos hmarkup).symm

theorem select_takeText (content : List InlineToken) :
    (b.takeText content).select keep = (b.select keep).takeText (Piece.keepText keep content) := by
  induction content generalizing b with
  | nil => rfl
  | cons t content ih =>
      show ((b.takeInline t.val).takeText content).select keep = _
      rw [ih, select_takeInline b hmarkup, Piece.keepText, Piece.keepText, List.filter_cons]
      split <;> rfl

theorem select_takeHeading (content : List InlineToken) :
    (b.takeHeading content).select keep =
      (b.select keep).takeHeading (Piece.keepText keep content) := by
  unfold takeHeading OpenBlock.takeHeading
  rw [select_onBlock _ OpenBlock.steady_breakParagraph, select_markupClosed _ hmarkup,
    select_takeText _ hmarkup, ← select_onBlock b OpenBlock.steady_breakParagraph,
    ← select_markupOpened _ hmarkup]
  rfl

theorem select_takeCode (content : String) :
    (b.takeCode content).select keep = (b.select keep).takeCode content := by
  unfold takeCode OpenBlock.takeCode
  rw [select_onBlock _ OpenBlock.steady_breakParagraph, select_writeCode _ hmarkup,
    select_onBlock b OpenBlock.steady_breakParagraph]

theorem select_ofHeading (attributes : Attributes) (content : List InlineToken) :
    (ofHeading attributes content).select keep =
      OpenBlock.ofHeading attributes (Piece.keepText keep content) := by
  have hbig : OpenBlock.Steady fun b => if attributes.hasClass "big" then b.makeBig else b := by
    split
    · exact OpenBlock.steady_makeBig
    · exact fun _ _ _ => rfl
  unfold ofHeading OpenBlock.ofHeading
  rw [select_markupClosed _ hmarkup, select_takeText _ hmarkup]
  have hopened := select_markupOpened
    (empty.onBlock fun b => if attributes.hasClass "big" then b.makeBig else b) hmarkup
    TextStyle.empty
  rw [select_onBlock _ hbig] at hopened
  exact congrArg (fun b : OpenBlock =>
    (b.takeText (Piece.keepText keep content)).endStyle none) hopened

theorem select_ofCell (content : List InlineToken) :
    (ofCell content).select keep = OpenBlock.ofCell (Piece.keepText keep content) :=
  select_takeText empty hmarkup content

end SignedBlock

/-! ### What is kept of a galley -/

namespace SignedGalley

variable {keep : Option String → Bool} (g : SignedGalley)

/-- What is kept of the block after a change, by what was kept of it before. -/
theorem select_onBlock {f : SignedBlock → SignedBlock} {f' : OpenBlock → OpenBlock}
    (h : (f g.block).select keep = f' (g.block.select keep)) :
    (g.onBlock f).select keep = (g.select keep).onBlock f' := by
  unfold onBlock Galley.onBlock select
  simp only [h]

theorem select_turn : g.turn.select keep = (g.select keep).turn := by
  unfold select turn Galley.turn
  simp only [List.map_append, List.map_cons, List.map_nil, SignedBlock.select_sealed,
    SignedBlock.select_empty]

theorem select_openList (kind : ListKind) :
    (g.openList kind).select keep = (g.select keep).openList kind := by
  have hbroken : (g.block.onBlock (·.breakParagraph)).select keep =
      (g.block.select keep).breakParagraph :=
    SignedBlock.select_onBlock g.block OpenBlock.steady_breakParagraph
  unfold openList Galley.openList
  show _ = match g.list with | none => _ | some l => _
  cases g.list with
  | none =>
      have hlength : (g.block.select keep).breakParagraph.text.length =
          g.block.block.breakParagraph.text.length := by
        rw [← hbroken]
        rfl
      simp only [select, hbroken, hlength]
  | some l => rfl

theorem select_closeList : g.closeList.select keep = (g.select keep).closeList := by
  unfold closeList Galley.closeList
  show _ = match g.list with | none => _ | some l => _
  cases g.list with
  | none => rfl
  | some l =>
      simp only
      split <;> rfl

theorem select_paragraph (hmarkup : keep none = true) (attributes : Attributes)
    (content : List InlineToken) :
    (g.take (.paragraph attributes content)).select keep =
      (g.select keep).take (.paragraph attributes (Piece.keepText keep content)) := by
  have hturn : (if attributes.hasClass "column" then g.turn else g).select keep =
      if attributes.hasClass "column" then (g.select keep).turn else g.select keep := by
    split
    · exact g.select_turn
    · rfl
  have hblock : ∀ b : SignedBlock, SignedBlock.select keep
      (((if attributes.hasClass "big" then b.onBlock (·.makeBig) else b).takeText content).onBlock
        (·.breakParagraph)) =
      ((if attributes.hasClass "big" then (b.select keep).makeBig else b.select keep).takeText
        (Piece.keepText keep content)).breakParagraph := by
    intro b
    rw [SignedBlock.select_onBlock _ OpenBlock.steady_breakParagraph,
      SignedBlock.select_takeText _ hmarkup]
    split <;> rfl
  simp only [take, Galley.take]
  rw [← hturn]
  exact select_onBlock _ (hblock _)

theorem select_heading (hmarkup : keep none = true) {level : Nat} (positive : 0 < level)
    (attributes : Attributes) (content : List InlineToken) :
    (g.take (.heading level positive attributes content)).select keep =
      (g.select keep).take (.heading level positive attributes (Piece.keepText keep content)) := by
  have hsealed : SignedText.select keep (SignedBlock.ofHeading attributes content).sealed =
      (OpenBlock.ofHeading attributes (Piece.keepText keep content)).sealed := by
    rw [SignedBlock.select_sealed, SignedBlock.select_ofHeading hmarkup]
  simp only [take, Galley.take]
  split
  · simp only [select, Option.map_some, hsealed]
  · split
    · simp only [select, Option.map_some, hsealed]
    · exact g.select_onBlock (SignedBlock.select_takeHeading _ hmarkup content)

theorem select_table (hmarkup : keep none = true) (rows : List (List (List InlineToken))) :
    (g.take (.table rows)).select keep =
      (g.select keep).take (.table (rows.map fun row => row.map (Piece.keepText keep))) := by
  have hcell : ∀ cell, SignedText.select keep (SignedBlock.ofCell cell).sealed =
      (OpenBlock.ofCell (Piece.keepText keep cell)).sealed := by
    intro cell
    rw [SignedBlock.select_sealed, SignedBlock.select_ofCell hmarkup]
  simp only [take, Galley.take, select, List.map_append, List.map_cons, List.map_nil, List.map_map,
    Function.comp_def, hcell]

/-- A piece does to what is kept what is left of it does without the other tags. -/
theorem select_take (hmarkup : keep none = true) (p : Piece) :
    (g.take p).select keep = (p.keeping keep).toList.foldl Galley.take (g.select keep) := by
  cases p with
  | inline t =>
      have htoken := SignedBlock.select_takeInline g.block hmarkup t.val
      by_cases hkeep : keep t.val.tagName? = true
      · rw [if_pos hkeep] at htoken
        simp only [Piece.keeping, if_pos hkeep]
        show (g.onBlock (·.takeInline t.val)).select keep =
          (g.select keep).onBlock (·.takeInline t.val)
        exact g.select_onBlock htoken
      · rw [if_neg hkeep] at htoken
        simp only [Piece.keeping, if_neg hkeep]
        show (g.onBlock (·.takeInline t.val)).select keep = (g.select keep).onBlock id
        exact g.select_onBlock htoken
  | paragraph attributes content => exact g.select_paragraph hmarkup attributes content
  | heading level positive attributes content =>
      exact g.select_heading hmarkup positive attributes content
  | table rows => exact g.select_table hmarkup rows
  | code info content =>
      show (g.onBlock (·.takeCode content)).select keep =
        (g.select keep).onBlock (·.takeCode content)
      exact g.select_onBlock (SignedBlock.select_takeCode _ hmarkup content)
  | listOpen kind => exact g.select_openList kind
  | listClose kind => exact g.select_closeList
  | itemOpen =>
      show (g.onBlock (·.onBlock (·.openItem g.list))).select keep =
        (g.select keep).onBlock (·.openItem g.list)
      exact g.select_onBlock (SignedBlock.select_onBlock _ (OpenBlock.steady_openItem g.list))
  | itemClose =>
      show (g.onBlock (·.onBlock OpenBlock.closeItem)).select keep =
        (g.select keep).onBlock OpenBlock.closeItem
      exact g.select_onBlock (SignedBlock.select_onBlock _ OpenBlock.steady_closeItem)
  | html s | rule => rfl

theorem select_foldl_take (hmarkup : keep none = true) (ps : List Piece) :
    (ps.foldl take g).select keep =
      (ps.filterMap (Piece.keeping keep)).foldl Galley.take (g.select keep) := by
  induction ps generalizing g with
  | nil => rfl
  | cons p ps ih =>
      rw [List.foldl_cons, ih, select_take g hmarkup, List.filterMap_cons]
      cases p.keeping keep <;> rfl

/-- What is kept of the galley of some pieces is the galley of the pieces without the other tags. -/
theorem select_ofPieces (hmarkup : keep none = true) (ps : List Piece) :
    (ofPieces ps).select keep = Galley.ofPieces (ps.filterMap (Piece.keeping keep)) :=
  select_foldl_take {} hmarkup ps

/-- With all elements, the signed galley of some pieces is their galley. -/
theorem select_all (ps : List Piece) :
    (ofPieces ps).select (fun _ => true) = Galley.ofPieces ps := by
  rw [select_ofPieces rfl, funext Piece.keeping_all, List.filterMap_some]

end SignedGalley

end SlideDeck

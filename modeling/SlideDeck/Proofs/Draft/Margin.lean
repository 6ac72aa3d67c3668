/-
What stands in the margin of a slide.

Images and speaker notes are no part of the text of a slide, and wherever they are written they
come to the slide that is being written then: no heading, table or column carries them off.  The
notes of a slide are the lines that its comments come to, without those that are blank, and every
comment is written for itself.  An image covers the page if it stands in a background paragraph.
Between two pieces no such paragraph is open, so what a piece adds to the margin is known from the
piece alone.
-/
import SlideDeck.Proofs.Draft.Notes
import SlideDeck.Proofs.Draft.Slides
import SlideDeck.Proofs.Token.Images

namespace SlideDeck

/-! ### Comments and images -/

/-- The comments of a token.  Those of a fragment in running text are one comment. -/
def Token.comments : Token → List String
  | .htmlBlock html =>
    match (Html.commentBodies html).outcome with
    | .ok (some bodies) => bodies
    | _ => []
  | .htmlInline html =>
    match (InlineHtml.parse html).outcome with
    | .ok (.comment body) => [body]
    | _ => []
  | _ => []

/-- The images of some tokens that all cover the page or all do not. -/
def placedImages (covers : Bool) (tokens : List Token) : List Image :=
  (images tokens).map fun (src, alt) => ⟨src, alt, covers⟩

namespace Piece

/-- Whether the images of a piece cover the page. -/
def covers : Piece → Bool
  | paragraph attributes _ => attributes.hasClass "background"
  | _ => false

/-- The images of a piece. -/
def images (p : Piece) : List Image := placedImages p.covers p.tokens

/-- The comments of a piece. -/
def comments (p : Piece) : List String := p.tokens.flatMap Token.comments

end Piece

/-- A comment comes to a text: the one that its tokens give, with all of their words. -/
structure ComesTo (comment text : String) : Prop where
  written : (Draft.notesOfTokens (tokenize comment)).outcome = .ok text
  words : Text.squeeze text.toList = (tokenize comment).flatMap Token.noteWords

/-- The texts that are not blank, without the blanks around them. -/
def noteLines (texts : List String) : List String := (texts.map Text.trimString).filter (· ≠ "")

/-- The notes of a slide whose comments come to some texts. -/
def notesOf (texts : List String) : Option String :=
  if noteLines texts = [] then none else some ("\n".intercalate (noteLines texts))

/-- The images and the notes of a slide are those of its pieces. -/
structure Slide.HasMargin (slide : Slide) (ps : List Piece) : Prop where
  images : slide.images = ps.flatMap Piece.images
  notes : ∃ texts, List.Forall₂ ComesTo (ps.flatMap Piece.comments) texts ∧
    slide.notes = notesOf texts

/-! ### Notes -/

theorem noteLines_concat (texts : List String) (text : String) : noteLines (texts ++ [text]) =
    noteLines texts ++ if Text.trimString text = "" then [] else [Text.trimString text] := by
  by_cases hblank : Text.trimString text = "" <;> simp [noteLines, hblank]

theorem intercalate_ne_empty {lines : List String} (hne : lines ≠ []) (h : ∀ l ∈ lines, l ≠ "")
    (s : String) : s.intercalate lines ≠ "" := by
  cases lines with
  | nil => exact absurd rfl hne
  | cons l lines =>
      have hl : l ≠ "" := h l (List.mem_cons_self ..)
      cases lines with
      | nil => simpa using hl
      | cons m lines => simp [hl]

/-- A text that is not blank goes on a line of its own behind the others. -/
theorem notes_appendNotes {slide : Slide} {texts : List String} (h : slide.notes = notesOf texts)
    {text : String} (hne : Text.trimString text ≠ "") :
    (slide.appendNotes (Text.trimString text)).notes = notesOf (texts ++ [text]) := by
  unfold notesOf at h ⊢
  rw [noteLines_concat, if_neg hne]
  by_cases hnone : noteLines texts = []
  · rw [if_pos hnone] at h
    simp [Slide.appendNotes, h, hnone]
  · have hlines : ∀ l ∈ noteLines texts, l ≠ "" := by
      intro l hl
      simpa using (List.mem_filter.mp hl).2
    have hwritten : ¬("\n".intercalate (noteLines texts)).isEmpty = true := by
      simpa using intercalate_ne_empty hnone hlines "\n"
    rw [if_neg hnone] at h
    unfold Slide.appendNotes
    simp only [h, if_neg hwritten]
    rw [if_neg (by simp), String.intercalate_append_of_ne_nil hnone (by simp),
      String.intercalate_singleton]

theorem images_appendNotes (slide : Slide) (text : String) :
    (slide.appendNotes text).images = slide.images := by
  unfold Slide.appendNotes
  split
  · split <;> rfl
  · rfl

namespace Draft

variable {d d' : Draft} {covers : Bool} {placed : List Image} {comments : List String}

/-- The images and the notes of the slide that is being written, and whether images cover the page
now. -/
structure Margin (d : Draft) (covers : Bool) (placed : List Image) (comments : List String) :
    Prop where
  mode : d.mode = .document
  covers : d.backgroundParagraph = covers
  images : d.slide.images = placed
  notes : ∃ texts, List.Forall₂ ComesTo comments texts ∧ d.slide.notes = notesOf texts

theorem margin_empty : (empty .document).Margin false [] [] := ⟨rfl, rfl, rfl, [], .nil, rfl⟩

/-- A comment that is taken comes to a text, and changes nothing but the notes. -/
theorem Margin.addNotes (h : d.Margin covers placed comments) {body : String}
    (htake : (d.addNotes body).outcome = .ok d') :
    d'.Margin covers placed (comments ++ [body]) := by
  obtain ⟨texts, htexts, hnotes⟩ := h.notes
  unfold Draft.addNotes at htake
  obtain ⟨text, hwritten, htake⟩ := Logged.bind_ok_iff.mp htake
  have hall : List.Forall₂ ComesTo (comments ++ [body]) (texts ++ [text]) :=
    List.rel_append htexts (.cons ⟨hwritten, words_notesOfTokens hwritten⟩ .nil)
  by_cases hblank : (Text.trimString text).isEmpty = true
  · simp only [hblank, if_true] at htake
    obtain rfl := Logged.pure_ok_iff.mp htake
    refine ⟨h.mode, h.covers, h.images, texts ++ [text], hall, ?_⟩
    have hempty : Text.trimString text = "" := by simpa using hblank
    rw [hnotes, notesOf, notesOf, noteLines_concat, if_pos hempty, List.append_nil]
  · simp only [hblank, if_false, Bool.false_eq_true] at htake
    obtain rfl := Logged.pure_ok_iff.mp htake
    have hne : Text.trimString text ≠ "" := by simpa using hblank
    exact ⟨h.mode, h.covers, (images_appendNotes _ _).trans h.images, texts ++ [text], hall,
      notes_appendNotes hnotes hne⟩

theorem Margin.takeComments (h : d.Margin covers placed comments) {bodies : List String}
    (htake : (d.takeComments Draft.addNotes bodies).outcome = .ok d') :
    d'.Margin covers placed (comments ++ bodies) := by
  unfold Draft.takeComments at htake
  induction bodies generalizing d comments with
  | nil =>
      obtain rfl := Logged.pure_ok_iff.mp htake
      rwa [List.append_nil]
  | cons body bodies ih =>
      rw [List.foldlM_cons] at htake
      obtain ⟨d₁, hbody, hrest⟩ := Logged.bind_ok_iff.mp htake
      have hall := ih (h.addNotes hbody) hrest
      rwa [List.append_assoc] at hall

theorem Margin.takeHtmlBlock (h : d.Margin covers placed comments) {html : String}
    (htake : (d.takeHtmlBlock Draft.addNotes html).outcome = .ok d') :
    d'.Margin covers placed (comments ++ (Token.htmlBlock html).comments) := by
  unfold Draft.takeHtmlBlock at htake
  obtain ⟨bodies, hbodies, htake⟩ := Logged.bind_ok_iff.mp htake
  simp only [Token.comments, hbodies]
  cases bodies with
  | none =>
      obtain ⟨_, -, htake⟩ := Logged.bind_ok_iff.mp htake
      obtain rfl := Logged.pure_ok_iff.mp htake
      rwa [List.append_nil]
  | some bodies => exact h.takeComments htake

/-- A change of the block leaves the margin alone. -/
theorem Margin.onBlock (h : d.Margin covers placed comments) (f : OpenBlock → OpenBlock) :
    (d.onBlock f).Margin covers placed comments := ⟨h.mode, h.covers, h.images, h.notes⟩

theorem Margin.takeInlineHtml (h : d.Margin covers placed comments) {html : String}
    (htake : (d.takeInlineHtml Draft.addNotes html).outcome = .ok d') :
    d'.Margin covers placed (comments ++ (Token.htmlInline html).comments) := by
  unfold Draft.takeInlineHtml at htake
  obtain ⟨fragment, hparse, htake⟩ := Logged.bind_ok_iff.mp htake
  simp only [Token.comments, hparse]
  cases fragment with
  | opening tag style =>
      obtain rfl := Logged.pure_ok_iff.mp htake
      rw [List.append_nil]
      exact h.onBlock _
  | closing tag =>
      obtain rfl := Except.ok.inj ((outcome_closeStyle d (some tag)).symm.trans htake)
      rw [List.append_nil]
      exact h.onBlock _
  | comment body => exact h.addNotes htake

/-! ### Tokens that leave the margin alone -/

/-- The images and the notes of the slide that is being written. -/
def margin (d : Draft) : List Image × Option String := (d.slide.images, d.slide.notes)

theorem margin_chooseLayout (d : Draft) (name : Option String) :
    (d.chooseLayout name).margin = d.margin := by
  unfold chooseLayout
  split
  · split <;> rfl
  · rfl

theorem margin_openHeading (d : Draft) (level : Nat) (attributes : Attributes) :
    (d.openHeading level attributes).margin = d.margin := by
  unfold openHeading
  show (Draft.chooseLayout _ _).margin = d.margin
  rw [margin_chooseLayout]
  split
  · split <;> rfl
  · rfl

theorem margin_closeHeading {level : Nat} (h : (d.closeHeading level).outcome = .ok d') :
    d'.margin = d.margin := by
  by_cases hslide : d.isSlideHeading level = true
  · obtain rfl := Except.ok.inj ((outcome_closeHeading_slide hslide).symm.trans h)
    simp only [margin, withHeading]
    split <;> rfl
  · have hslide : d.isSlideHeading level = false := by simpa using hslide
    obtain rfl := Except.ok.inj ((outcome_closeHeading_text hslide).symm.trans h)
    rfl

theorem margin_paragraphOpened (d : Draft) (attributes : Attributes) :
    (d.paragraphOpened attributes).margin = d.margin := by
  unfold paragraphOpened
  show (Draft.chooseLayout _ _).margin = d.margin
  rw [margin_chooseLayout]
  split <;> split <;> rfl

theorem slide_closeList (h : d.closeList.outcome = .ok d') : d'.slide = d.slide := by
  cases hlist : d.list with
  | none =>
      obtain rfl := Except.ok.inj ((outcome_closeList_none hlist).symm.trans h)
      rfl
  | some l =>
      by_cases hdepth : 0 < l.depth
      · obtain rfl := Except.ok.inj ((outcome_closeList_inner hlist hdepth).symm.trans h)
        rfl
      · have hdepth : l.depth = 0 := by omega
        obtain rfl := Except.ok.inj ((outcome_closeList_outer hlist hdepth).symm.trans h)
        rfl

theorem slide_closeCell (h : d.closeCell.outcome = .ok d') : d'.slide = d.slide := by
  cases htable : d.table with
  | none =>
      simp only [closeCell, htable, Logged.outcome_pure, Except.ok.injEq] at h
      rw [h]
  | some t =>
      obtain rfl := Except.ok.inj ((outcome_closeCell htable).symm.trans h)
      rfl

theorem margin_closeTable (h : d.closeTable.outcome = .ok d') : d'.margin = d.margin := by
  cases htable : d.table with
  | none =>
      obtain rfl := Except.ok.inj ((outcome_closeTable_none htable).symm.trans h)
      rfl
  | some t =>
      obtain ⟨-, rfl⟩ := closeTable_ok htable h
      rfl

end Draft

/-- Whether a token is an image or HTML. -/
def Token.isMarginal : Token → Bool
  | .image _ _ | .htmlBlock _ | .htmlInline _ => true
  | _ => false

/-- Whether a token may change what is complete of the slide that is being written. -/
def Token.touchesSlide : Token → Bool
  | .headingOpen _ _ | .headingClose _ | .paragraphOpen _ | .tableClose | .horizontalRule => true
  | t => t.isMarginal

namespace Draft

variable {d d' : Draft} {covers : Bool} {placed : List Image} {comments : List String}

/-- Every other token leaves it as it is. -/
theorem slide_take {t : Token} (hmode : d.mode = .document) (ht : t.touchesSlide = false)
    (h : (d.take addNotes t).outcome = .ok d') : d'.slide = d.slide := by
  cases t with
  | headingOpen level attributes | headingClose level | paragraphOpen attributes | tableClose
  | horizontalRule | image src alt | htmlBlock html | htmlInline html => cases ht
  | emphasisClose | strongClose | strikethroughClose | linkClose =>
      obtain rfl := Except.ok.inj ((outcome_closeStyle d none).symm.trans h)
      rfl
  | listOpen kind => rcases openList_ok h with ⟨-, rfl⟩ | ⟨l, -, -, rfl⟩ <;> rfl
  | listClose kind => exact slide_closeList h
  | listItemClose =>
      obtain rfl := Logged.pure_ok_iff.mp h
      unfold closeItem
      split <;> rfl
  | tableOpen =>
      obtain rfl := Logged.pure_ok_iff.mp h
      simp only [openTable, hmode]
      rfl
  | tableRowClose =>
      obtain rfl := Logged.pure_ok_iff.mp h
      unfold closeRow
      split <;> rfl
  | tableCellOpen =>
      obtain rfl := Logged.pure_ok_iff.mp h
      simp only [openCell, hmode]
      rfl
  | tableCellClose => exact slide_closeCell h
  | fencedCode info content =>
      obtain rfl := Except.ok.inj ((outcome_takeCode addNotes d info content).symm.trans h)
      rfl
  | inlineCode s =>
      obtain rfl := Except.ok.inj ((outcome_takeInlineCode addNotes d s).symm.trans h)
      rfl
  | _ =>
      obtain rfl := Logged.pure_ok_iff.mp h
      rfl

theorem margin_take {t : Token} (hmode : d.mode = .document) (ht : t.isMarginal = false)
    (hrule : t ≠ .horizontalRule) (h : (d.take addNotes t).outcome = .ok d') :
    d'.margin = d.margin := by
  cases t with
  | headingOpen level attributes =>
      obtain rfl := Logged.pure_ok_iff.mp h
      exact margin_openHeading d level attributes
  | headingClose level => exact margin_closeHeading h
  | paragraphOpen attributes =>
      obtain rfl := Except.ok.inj ((outcome_openParagraph hmode attributes).symm.trans h)
      exact margin_paragraphOpened d attributes
  | tableClose => exact margin_closeTable h
  | image src alt | htmlBlock html | htmlInline html => cases ht
  | horizontalRule => exact absurd rfl hrule
  | _ => rw [margin, slide_take hmode rfl h, margin]

/-- A token other than a rule adds its image and its comments. -/
theorem Margin.take (h : d.Margin covers placed comments) {t : Token}
    (hrule : t ≠ .horizontalRule) (htake : (d.take Draft.addNotes t).outcome = .ok d') :
    d'.Margin (coversAfter covers t) (placed ++ placedImages covers [t])
      (comments ++ t.comments) := by
  by_cases ht : t.isMarginal = true
  · cases t with
    | image src alt =>
        obtain rfl := Logged.pure_ok_iff.mp htake
        obtain ⟨texts, htexts, hnotes⟩ := h.notes
        rw [addImage_document h.mode, h.covers, h.images]
        exact ⟨h.mode, h.covers, rfl, texts, by simpa [Token.comments] using htexts, hnotes⟩
    | htmlBlock html =>
        have hmargin := h.takeHtmlBlock htake
        rwa [show placedImages covers [.htmlBlock html] = [] from rfl, List.append_nil]
    | htmlInline html =>
        have hmargin := h.takeInlineHtml htake
        rwa [show placedImages covers [.htmlInline html] = [] from rfl, List.append_nil]
    | _ => cases ht
  · have hmargin := margin_take h.mode (Bool.eq_false_iff.mpr ht) hrule htake
    have hcourse := course_take h.mode hrule htake
    simp only [margin, course, Prod.mk.injEq] at hmargin hcourse
    have hnone : placedImages covers [t] = [] ∧ t.comments = [] := by
      cases t with
      | image src alt | htmlBlock html | htmlInline html => exact absurd rfl ht
      | _ => exact ⟨rfl, rfl⟩
    rw [hnone.1, hnone.2, List.append_nil, List.append_nil]
    refine ⟨hcourse.1.trans h.mode, ?_, hmargin.1.trans h.images, ?_⟩
    · rw [hcourse.2.2, h.covers]
    · rw [hmargin.2]
      exact h.notes

theorem Margin.started (h : d.Margin covers placed comments) :
    Margin { d with started := true } covers placed comments :=
  ⟨h.mode, h.covers, h.images, h.notes⟩

end Draft

/-! ### Pieces -/

/-- Whether a token begins or ends a paragraph. -/
def Token.isParagraph : Token → Bool
  | .paragraphOpen _ | .paragraphClose => true
  | _ => false

theorem placedImages_append (covers : Bool) (first rest : List Token) :
    placedImages covers (first ++ rest) =
      placedImages covers first ++ placedImages covers rest := by
  rw [placedImages, images_append, List.map_append]
  rfl

theorem isParagraph_inlineTokens {content : List InlineToken} {t : Token}
    (ht : t ∈ Piece.inlineTokens content) : t.isParagraph = false := by
  obtain ⟨t, -, rfl⟩ := List.mem_map.mp ht
  have hinline := t.property
  revert hinline
  cases t.val with
  | paragraphOpen attributes | paragraphClose => exact fun hinline => nomatch hinline
  | _ => exact fun _ => rfl

theorem isParagraph_group {first last : Token} {middle : List Token}
    (hfirst : first.isParagraph = false) (hlast : last.isParagraph = false)
    (hmiddle : ∀ t ∈ middle, t.isParagraph = false) :
    ∀ t ∈ first :: (middle ++ [last]), t.isParagraph = false := by
  rw [List.forall_mem_cons, List.forall_mem_append, List.forall_mem_singleton]
  exact ⟨hfirst, hmiddle, hlast⟩

/-- Only paragraphs have tokens of paragraphs. -/
theorem isParagraph_tokens {p : Piece}
    (hp : ∀ attributes content, p ≠ .paragraph attributes content) :
    ∀ t ∈ p.tokens, t.isParagraph = false := by
  have hcontent : ∀ content, ∀ t ∈ Piece.inlineTokens content, t.isParagraph = false :=
    fun _ _ => isParagraph_inlineTokens
  cases p with
  | inline t => exact hcontent [t]
  | paragraph attributes content => exact absurd rfl (hp attributes content)
  | heading level positive attributes content => exact isParagraph_group rfl rfl (hcontent content)
  | table rows =>
      have hrow : ∀ row ∈ rows, ∀ t ∈ Piece.rowTokens row, t.isParagraph = false := by
        intro row _
        refine isParagraph_group rfl rfl (List.forall_mem_flatMap.mpr fun cell _ => ?_)
        exact isParagraph_group rfl rfl (hcontent cell)
      exact isParagraph_group rfl rfl (List.forall_mem_flatMap.mpr hrow)
  | _ =>
      intro t ht
      rw [List.mem_singleton.mp ht]
      rfl

namespace Draft

variable {d d' : Draft} {covers : Bool} {placed : List Image} {comments : List String}

/-- Tokens that neither begin nor end a paragraph or a slide add their images and comments. -/
theorem Margin.run (h : d.Margin covers placed comments) {tokens : List Token}
    (hrule : .horizontalRule ∉ tokens) (hparagraph : ∀ t ∈ tokens, t.isParagraph = false)
    (hrun : (d.run Draft.addNotes tokens).outcome = .ok d') :
    d'.Margin covers (placed ++ placedImages covers tokens)
      (comments ++ tokens.flatMap Token.comments) := by
  induction tokens generalizing d placed comments with
  | nil =>
      obtain rfl := Logged.pure_ok_iff.mp hrun
      rw [show placedImages covers [] = [] from rfl, List.flatMap_nil, List.append_nil,
        List.append_nil]
      exact h
  | cons t tokens ih =>
      rw [List.mem_cons, not_or] at hrule
      rw [List.forall_mem_cons] at hparagraph
      obtain ⟨d₁, htake, hrest⟩ := run_cons_ok_iff.mp hrun
      have hcovers : coversAfter covers t = covers := by
        cases t with
        | paragraphOpen attributes | paragraphClose => cases hparagraph.1
        | _ => rfl
      have hfirst := h.take (Ne.symm hrule.1) htake
      rw [hcovers] at hfirst
      have hall := ih hfirst.started hrule.2 hparagraph.2 hrest
      rw [List.append_assoc, List.append_assoc, ← placedImages_append] at hall
      exact hall

theorem Margin.paragraph (h : d.Margin false placed comments) {attributes : Attributes}
    {content : List InlineToken}
    (hrun : (d.run Draft.addNotes (Piece.paragraph attributes content).tokens).outcome = .ok d') :
    d'.Margin false (placed ++ (Piece.paragraph attributes content).images)
      (comments ++ (Piece.paragraph attributes content).comments) := by
  obtain ⟨d₁, d₂, d₃, hopen, htext, hclose, rfl⟩ := run_group hrun
  have hopened := (h.take (by simp) hopen).started
  have hcontent := hopened.run (rule_notMem_inlineTokens content)
    (fun _ => isParagraph_inlineTokens) htext
  have hclosed := (hcontent.take (by simp) hclose).started
  rw [Piece.images, Piece.comments, Piece.tokens, ← List.singleton_append, placedImages_append,
    placedImages_append, List.flatMap_append, List.flatMap_append]
  simp only [List.append_assoc] at hclosed
  exact hclosed

/-- A piece other than a rule adds its images and comments, and leaves no paragraph open. -/
theorem Margin.piece (h : d.Margin false placed comments) {p : Piece} (hp : p ≠ .rule)
    (hrun : (d.run Draft.addNotes p.tokens).outcome = .ok d') :
    d'.Margin false (placed ++ p.images) (comments ++ p.comments) := by
  by_cases hparagraph : ∃ attributes content, p = .paragraph attributes content
  · obtain ⟨attributes, content, rfl⟩ := hparagraph
    exact h.paragraph hrun
  · have hp' : ∀ attributes content, p ≠ .paragraph attributes content := by
      intro attributes content heq
      exact hparagraph ⟨attributes, content, heq⟩
    have hcovers : p.covers = false := by
      cases p with
      | paragraph attributes content => exact absurd rfl (hp' attributes content)
      | _ => rfl
    rw [Piece.images, hcovers]
    exact h.run (rule_notMem_tokens hp) (isParagraph_tokens hp') hrun

/-! ### Slides -/

theorem Margin.sealedSlide {ps : List Piece}
    (h : d.Margin false (ps.flatMap Piece.images) (ps.flatMap Piece.comments)) :
    d.sealedSlide.HasMargin ps := by
  unfold Draft.sealedSlide
  split <;> exact ⟨h.images, h.notes⟩

/-- A slide that begins has nothing in its margin. -/
theorem Margin.ruled (h : d.Margin false placed comments) : d.ruled.Margin false [] [] :=
  ⟨h.mode, h.covers, rfl, [], .nil, rfl⟩

theorem tracks_margin : Tracks (fun ps d =>
    d.Margin false (ps.flatMap Piece.images) (ps.flatMap Piece.comments)) Slide.HasMargin where
  empty := margin_empty
  mode := fun h => h.mode
  started := fun h => h.started
  piece := by
    intro first d d' p h hp hrun
    rw [List.flatMap_append, List.flatMap_append, List.flatMap_singleton, List.flatMap_singleton]
    exact h.piece hp hrun
  ruled := fun h => h.ruled
  complete := fun h => h.sealedSlide

end Draft

/--
**Images and notes come to the slide they are written on.**  If a document with properly nested
tokens compiles, it has a slide for the pieces between each two rules.  The images of that slide
are those of the pieces, in order, and one of them covers the page if and only if it stands in a
background paragraph.  Its notes are the texts that the comments of the pieces come to, in order
and without those that are blank, and each of the texts has the words of its comment.
-/
theorem hasMargin_compileTokens {ps : List Piece} {slides : List Slide}
    (h : (compileTokens (ps.flatMap Piece.tokens)).outcome = .ok slides) :
    List.Forall₂ Slide.HasMargin slides (Piece.slides ps) :=
  Draft.tracks_margin.compileTokens h

/-- Comments in a block, in a background paragraph, in a cell and in a heading, and images that
cover the page and that do not. -/
def annotated : List Piece :=
  [.html "<!-- Say *this*. --> <!-- --> <!-- And `that`. -->",
    .paragraph ⟨none, ["background"], []⟩ (runningText [.text "Page", .image "a.png" "sea",
      .htmlInline "<!-- ![chart](c.png) -->"]),
    .paragraph .empty (runningText [.image "b.png" "hill"]), .rule,
    .table [[runningText [.text "1", .htmlInline "<!-- cell -->"]]],
    .heading 1 Nat.one_pos .empty (runningText [.text "Title", .htmlInline "<!-- # head -->"])]

theorem hasMargin_annotated :
    ∃ slides, (compileTokens (annotated.flatMap Piece.tokens)).outcome = .ok slides ∧
      List.Forall₂ Slide.HasMargin slides (Piece.slides annotated) ∧
      slides.map (fun s => (s.images, s.notes)) =
        [([⟨"a.png", "sea", true⟩, ⟨"b.png", "hill", false⟩],
          some "Say this.\nAnd that.\nchart"), ([], some "cell\nhead")] := by
  have hmargins : (compileTokens (annotated.flatMap Piece.tokens)).outcome.map
      (·.map fun s => (s.images, s.notes)) =
        .ok [([⟨"a.png", "sea", true⟩, ⟨"b.png", "hill", false⟩],
          some "Say this.\nAnd that.\nchart"), ([], some "cell\nhead")] := by
    decide +kernel
  cases h : (compileTokens (annotated.flatMap Piece.tokens)).outcome with
  | error e =>
      rw [h] at hmargins
      cases hmargins
  | ok slides =>
      rw [h] at hmargins
      exact ⟨slides, rfl, hasMargin_compileTokens h, Except.ok.inj hmargins⟩

end SlideDeck

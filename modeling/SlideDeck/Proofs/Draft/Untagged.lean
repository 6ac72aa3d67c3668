/-
Tags of HTML do not disturb the rest.

A document from which all tags of some elements are taken out is taken like the whole, since no tag
is ever refused for what stands before it, and it has as many slides.  What the tags leave alone is
known of each part of a slide by the pieces of the slide: the blocks from the galley of the pieces,
apart from the runs that the elements signed, and the images, the notes and the layout from tokens
that are no tags.
-/
import SlideDeck.Proofs.Draft.Aside
import SlideDeck.Proofs.Draft.Margin
import SlideDeck.Proofs.Draft.Signed

namespace SlideDeck

/-! ### The tokens without some tags -/

/-- The tokens without the tags of elements that are not kept. -/
def keepTokens (keep : Option String → Bool) (tokens : List Token) : List Token :=
  tokens.filter fun t => keep t.tagName?

section

variable {keep : Option String → Bool}

/-- A document that does not begin with a tag keeps its first token. -/
theorem head?_keepTokens {tokens : List Token}
    (h : ∀ t ∈ tokens.head?, keep t.tagName? = true) :
    (keepTokens keep tokens).head? = tokens.head? := by
  cases tokens with
  | nil => rfl
  | cons t tokens =>
      have hkeep : keep t.tagName? = true := h t rfl
      rw [keepTokens, List.filter_cons_of_pos (by simpa using hkeep)]
      rfl

theorem keepTokens_inlineTokens (content : List InlineToken) :
    keepTokens keep (Piece.inlineTokens content) =
      Piece.inlineTokens (Piece.keepText keep content) :=
  List.filter_map ..

theorem keepTokens_flatMap {α : Type} (f : α → List Token) (as : List α) :
    keepTokens keep (as.flatMap f) = as.flatMap fun a => keepTokens keep (f a) :=
  List.filter_flatMap ..

/-- A token that is taken out is a tag. -/
theorem eq_htmlInline_of_not_keep (hmarkup : keep none = true) {t : Token}
    (h : ¬keep t.tagName? = true) :
    ∃ html tag, t = .htmlInline html ∧ InlineHtml.tagName? html = some tag := by
  cases t with
  | htmlInline html =>
      cases htag : InlineHtml.tagName? html with
      | none =>
          rw [Token.tagName?, htag] at h
          exact absurd hmarkup h
      | some tag => exact ⟨html, tag, rfl, htag⟩
  | _ => exact absurd hmarkup h

variable (hmarkup : keep none = true)

include hmarkup

theorem keepTokens_group {first last : Token} {middle : List Token}
    (hfirst : first.tagName? = none) (hlast : last.tagName? = none) :
    keepTokens keep (first :: (middle ++ [last])) =
      first :: (keepTokens keep middle ++ [last]) := by
  simp [keepTokens, hfirst, hlast, hmarkup]

theorem keepTokens_rowTokens (row : List (List InlineToken)) :
    keepTokens keep (Piece.rowTokens row) =
      Piece.rowTokens (row.map (Piece.keepText keep)) := by
  unfold Piece.rowTokens
  rw [keepTokens_group hmarkup rfl rfl, keepTokens_flatMap, List.flatMap_map]
  unfold Piece.cellTokens
  simp only [keepTokens_group hmarkup (show Token.tagName? .tableCellOpen = none from rfl)
    (show Token.tagName? .tableCellClose = none from rfl), keepTokens_inlineTokens]

/-- What is left of a piece has the tokens that are left. -/
theorem tokens_keeping (p : Piece) :
    (p.keeping keep).toList.flatMap Piece.tokens = keepTokens keep p.tokens := by
  cases p with
  | inline t =>
      by_cases hkeep : keep t.val.tagName? = true <;>
        simp [Piece.keeping, Piece.tokens, keepTokens, hkeep]
  | paragraph attributes content =>
      rw [Piece.tokens, keepTokens_group hmarkup rfl rfl, keepTokens_inlineTokens]
      simp [Piece.keeping, Piece.tokens]
  | heading level positive attributes content =>
      rw [Piece.tokens, keepTokens_group hmarkup rfl rfl, keepTokens_inlineTokens]
      simp [Piece.keeping, Piece.tokens]
  | table rows =>
      rw [Piece.tokens, keepTokens_group hmarkup rfl rfl, keepTokens_flatMap]
      simp [Piece.keeping, Piece.tokens, keepTokens_rowTokens hmarkup, List.flatMap_map]
  | _ => simp [Piece.keeping, Piece.tokens, keepTokens, Token.tagName?, hmarkup]

/-- What is left of some pieces has the tokens that are left. -/
theorem tokens_filterMap_keeping (ps : List Piece) :
    (ps.filterMap (Piece.keeping keep)).flatMap Piece.tokens =
      keepTokens keep (ps.flatMap Piece.tokens) := by
  rw [keepTokens_flatMap]
  induction ps with
  | nil => rfl
  | cons p ps ih =>
      rw [List.filterMap_cons, List.flatMap_cons, ← ih, ← tokens_keeping hmarkup]
      cases p.keeping keep <;> simp

end

/-! ### Slide by slide -/

variable {keep : Option String → Bool}

theorem keeping_ne_rule {p p' : Piece} (hp : p ≠ .rule) (h : p.keeping keep = some p') :
    p' ≠ .rule := by
  rintro rfl
  cases p with
  | inline t =>
      simp only [Piece.keeping] at h
      split at h <;> cases h
  | rule => exact hp rfl
  | _ => cases h

theorem splitOnP_keeping (ps : List Piece) :
    (ps.filterMap (Piece.keeping keep)).splitOnP Piece.isRule =
      (ps.splitOnP Piece.isRule).map (·.filterMap (Piece.keeping keep)) := by
  induction ps with
  | nil => rfl
  | cons p ps ih =>
      by_cases hp : p = .rule
      · subst hp
        rw [List.filterMap_cons]
        show (Piece.rule :: _).splitOnP _ = _
        rw [Manuscript.splitOnP_rule, Manuscript.splitOnP_rule, ih, List.map_cons]
        rfl
      · rw [Manuscript.splitOnP_cons hp, List.filterMap_cons]
        cases hkeeping : p.keeping keep with
        | none =>
            simp only [ih]
            cases ps.splitOnP Piece.isRule <;> simp [hkeeping]
        | some p' =>
            simp only
            rw [Manuscript.splitOnP_cons (keeping_ne_rule hp hkeeping), ih]
            cases ps.splitOnP Piece.isRule <;> simp [hkeeping]

/-- Only a rule has a rule for its first token. -/
theorem head?_flatMap_tokens (ps : List Piece) :
    (ps.flatMap Piece.tokens).head? = some .horizontalRule ↔ ps.head? = some .rule := by
  cases ps with
  | nil => simp
  | cons p ps =>
      rw [List.flatMap_cons, List.head?_append_of_ne_nil _ p.tokens_ne_nil, List.head?_cons,
        Option.some.injEq]
      constructor
      · intro hhead
        by_contra hp
        exact Draft.rule_notMem_tokens hp (List.mem_of_mem_head? hhead)
      · rintro rfl
        rfl

theorem slides_of_head?_ne {ps : List Piece} (h : ps.head? ≠ some .rule) :
    Piece.slides ps = ps.splitOnP Piece.isRule := by
  cases ps with
  | nil => rfl
  | cons p ps =>
      apply Piece.slides_cons
      rintro rfl
      exact h rfl

/-- The pieces of each slide are what is left of its pieces, if no rule comes to lead. -/
theorem slides_filterMap_keeping {ps : List Piece}
    (hleading : (ps.filterMap (Piece.keeping keep)).head? = some .rule → ps.head? = some .rule) :
    Piece.slides (ps.filterMap (Piece.keeping keep)) =
      (Piece.slides ps).map (·.filterMap (Piece.keeping keep)) := by
  by_cases hrule : ps.head? = some .rule
  · obtain ⟨rest, rfl⟩ := List.head?_eq_some_iff.mp hrule
    exact splitOnP_keeping rest
  · have hrule' : (ps.filterMap (Piece.keeping keep)).head? ≠ some .rule := by
      intro hhead
      exact hrule (hleading hhead)
    rw [slides_of_head?_ne hrule, slides_of_head?_ne hrule', splitOnP_keeping]

/-! ### What is accepted -/

/-- A tag is not refused and changes nothing of what stands, so the others are refused as before. -/
theorem firstRefusal?_keepTokens (hmarkup : keep none = true) (s : Stretch) (tokens : List Token) :
    s.firstRefusal? (keepTokens keep tokens) = s.firstRefusal? tokens := by
  induction tokens generalizing s with
  | nil => rfl
  | cons t tokens ih =>
      by_cases hkeep : keep t.tagName? = true
      · rw [keepTokens, List.filter_cons_of_pos (by simpa using hkeep)]
        show (s.refusal? t).or _ = (s.refusal? t).or _
        rw [← ih]
        rfl
      · rw [keepTokens, List.filter_cons_of_neg (by simpa using hkeep)]
        obtain ⟨html, tag, rfl, -⟩ := eq_htmlInline_of_not_keep hmarkup hkeep
        exact ih s

/-- A document that compiles does so without some of its tags. -/
theorem exists_compileTokens_keepTokens (hmarkup : keep none = true) {tokens : List Token}
    {slides : List Slide} (h : (compileTokens tokens).outcome = .ok slides) :
    ∃ slides', (compileTokens (keepTokens keep tokens)).outcome = .ok slides' := by
  obtain ⟨d, hrun, -⟩ := compileTokens_ok_iff.mp h
  have hread := Draft.readableHtml_of_run hrun
  have hread' : ∀ t ∈ keepTokens keep tokens, t.ReadableHtml := by
    intro t ht
    exact hread t (List.mem_of_mem_filter ht)
  have hnone : Stretch.firstRefusal? {} tokens = none := by
    cases hrefusal : Stretch.firstRefusal? {} tokens with
    | none => rfl
    | some e =>
        rw [(Draft.run_error_iff hread).mpr hrefusal] at hrun
        cases hrun
  have hrun' := Draft.stands_empty.run hread'
  rw [firstRefusal?_keepTokens hmarkup, hnone] at hrun'
  obtain ⟨d', hrun', -⟩ := hrun'
  exact ⟨_, compileTokens_ok_iff.mpr ⟨d', hrun', rfl⟩⟩

/-! ### Images and notes -/

/-- What is read off tokens that are no tags is read off those that are left. -/
theorem flatMap_keepTokens (hmarkup : keep none = true) {α : Type} {f : Token → List α}
    (hf : ∀ html tag, InlineHtml.tagName? html = some tag → f (.htmlInline html) = [])
    (tokens : List Token) : (keepTokens keep tokens).flatMap f = tokens.flatMap f := by
  induction tokens with
  | nil => rfl
  | cons t tokens ih =>
      by_cases hkeep : keep t.tagName? = true
      · rw [keepTokens, List.filter_cons_of_pos (by simpa using hkeep), List.flatMap_cons,
          List.flatMap_cons, ← ih]
        rfl
      · rw [keepTokens, List.filter_cons_of_neg (by simpa using hkeep), List.flatMap_cons, ← ih]
        obtain ⟨html, tag, rfl, htag⟩ := eq_htmlInline_of_not_keep hmarkup hkeep
        rw [hf html tag htag]
        rfl

theorem filterMap_keepTokens (hmarkup : keep none = true) {α : Type} {f : Token → Option α}
    (hf : ∀ html, f (.htmlInline html) = none) (tokens : List Token) :
    (keepTokens keep tokens).filterMap f = tokens.filterMap f := by
  rw [List.filterMap_eq_flatMap_toList, List.filterMap_eq_flatMap_toList]
  refine flatMap_keepTokens hmarkup ?_ tokens
  intro html tag _
  rw [hf html]
  rfl

theorem covers_keeping {p p' : Piece} (h : p.keeping keep = some p') : p'.covers = p.covers := by
  cases p with
  | inline t =>
      simp only [Piece.keeping] at h
      split at h <;> cases h
      rfl
  | _ =>
      cases h
      rfl

theorem images_keeping (hmarkup : keep none = true) (p : Piece) :
    (p.keeping keep).toList.flatMap Piece.images = p.images := by
  have htokens := tokens_keeping hmarkup p
  have hplaced : placedImages p.covers (keepTokens keep p.tokens) = p.images := by
    unfold Piece.images placedImages images
    rw [filterMap_keepTokens hmarkup fun _ => rfl]
  rw [← hplaced, ← htokens]
  cases hkeeping : p.keeping keep with
  | none => rfl
  | some p' => simp [Piece.images, covers_keeping hkeeping]

theorem images_filterMap_keeping (hmarkup : keep none = true) (ps : List Piece) :
    (ps.filterMap (Piece.keeping keep)).flatMap Piece.images = ps.flatMap Piece.images := by
  induction ps with
  | nil => rfl
  | cons p ps ih =>
      rw [List.filterMap_cons, List.flatMap_cons, ← ih, ← images_keeping hmarkup]
      cases p.keeping keep <;> simp

theorem comments_filterMap_keeping (hmarkup : keep none = true) (ps : List Piece) :
    (ps.filterMap (Piece.keeping keep)).flatMap Piece.comments = ps.flatMap Piece.comments := by
  have hall : ∀ qs : List Piece,
      qs.flatMap Piece.comments = (qs.flatMap Piece.tokens).flatMap Token.comments :=
    fun _ => List.flatMap_assoc.symm
  rw [hall, hall, tokens_filterMap_keeping hmarkup]
  refine flatMap_keepTokens hmarkup ?_ _
  intro html tag htag
  unfold InlineHtml.tagName? at htag
  unfold Token.comments
  split at htag <;> simp_all

theorem rightUnique_comesTo : Relator.RightUnique ComesTo := by
  intro comment text text' h h'
  exact Except.ok.inj (h.written.symm.trans h'.written)

/-- Slides whose pieces have the same images and comments have the same images and notes. -/
theorem Slide.HasMargin.unique {slide slide' : Slide} {ps ps' : List Piece}
    (h : slide.HasMargin ps) (h' : slide'.HasMargin ps')
    (himages : ps'.flatMap Piece.images = ps.flatMap Piece.images)
    (hcomments : ps'.flatMap Piece.comments = ps.flatMap Piece.comments) :
    slide'.images = slide.images ∧ slide'.notes = slide.notes := by
  obtain ⟨texts, htexts, hnotes⟩ := h.notes
  obtain ⟨texts', htexts', hnotes'⟩ := h'.notes
  rw [hcomments] at htexts'
  obtain rfl := rightUnique_comesTo.forall₂ htexts htexts'
  exact ⟨by rw [h'.images, himages, h.images], by rw [hnotes', hnotes]⟩

/-! ### Layouts -/

/-- The layout that a token asks for, if it does. -/
def Token.layout? : Token → Option String
  | .headingOpen _ attributes | .paragraphOpen attributes => attributes.get? "layout"
  | _ => none

/-- The layout that the last of some tokens asks for, if one does. -/
def layoutOf? (tokens : List Token) : Option String := (tokens.filterMap Token.layout?).getLast?

theorem layoutOf?_append (first rest : List Token) :
    layoutOf? (first ++ rest) = (layoutOf? rest).or (layoutOf? first) := by
  rw [layoutOf?, List.filterMap_append, List.getLast?_append]
  rfl

namespace Draft

variable {d d' : Draft}

/-- The layout that is asked for, and the object id, of the slide that is being written. -/
def label (d : Draft) : Option String × Option String := (d.slide.customLayout, d.slide.objectId)

theorem label_chooseLayout (hmode : d.mode = .document) (name : Option String) :
    (d.chooseLayout name).label = (name.or d.slide.customLayout, d.slide.objectId) := by
  have hdoc : d.inDocument = true := by simp [inDocument, hmode]
  cases name with
  | none => rfl
  | some name => simp [chooseLayout, hdoc, label]

theorem label_openHeading (hmode : d.mode = .document) (level : Nat) (attributes : Attributes) :
    (d.openHeading level attributes).label =
      ((attributes.get? "layout").or d.slide.customLayout, d.slide.objectId) := by
  unfold openHeading
  show (Draft.chooseLayout _ _).label = _
  split
  · split <;> exact label_chooseLayout (by exact hmode) _
  · exact label_chooseLayout (by exact hmode) _

theorem label_paragraphOpened (hmode : d.mode = .document) (attributes : Attributes) :
    (d.paragraphOpened attributes).label =
      ((attributes.get? "layout").or d.slide.customLayout, d.slide.objectId) := by
  unfold paragraphOpened
  show (Draft.chooseLayout _ _).label = _
  split <;> split <;> exact label_chooseLayout (by exact hmode) _

theorem label_closeHeading {level : Nat} (h : (d.closeHeading level).outcome = .ok d') :
    d'.label = d.label := by
  by_cases hslide : d.isSlideHeading level = true
  · obtain rfl := Except.ok.inj ((outcome_closeHeading_slide hslide).symm.trans h)
    simp only [label, withHeading]
    split <;> rfl
  · have hslide : d.isSlideHeading level = false := by simpa using hslide
    obtain rfl := Except.ok.inj ((outcome_closeHeading_text hslide).symm.trans h)
    rfl

theorem label_closeTable (h : d.closeTable.outcome = .ok d') : d'.label = d.label := by
  cases htable : d.table with
  | none =>
      obtain rfl := Except.ok.inj ((outcome_closeTable_none htable).symm.trans h)
      rfl
  | some t =>
      obtain ⟨-, rfl⟩ := closeTable_ok htable h
      rfl

/-- Only headings and paragraphs ask for a layout. -/
theorem label_take {t : Token} (hmode : d.mode = .document) (hrule : t ≠ .horizontalRule)
    (h : (d.take addNotes t).outcome = .ok d') :
    d'.label = (t.layout?.or d.slide.customLayout, d.slide.objectId) := by
  cases t with
  | headingOpen level attributes =>
      obtain rfl := Logged.pure_ok_iff.mp h
      exact label_openHeading hmode level attributes
  | headingClose level => exact label_closeHeading h
  | paragraphOpen attributes =>
      obtain rfl := Except.ok.inj ((outcome_openParagraph hmode attributes).symm.trans h)
      exact label_paragraphOpened hmode attributes
  | tableClose => exact label_closeTable h
  | image src alt =>
      obtain rfl := Logged.pure_ok_iff.mp h
      rw [addImage_document hmode]
      rfl
  | htmlBlock html =>
      obtain ⟨notes, rfl⟩ := takeHtmlBlock_ok h
      rfl
  | htmlInline html =>
      rcases takeInlineHtml_ok h with ⟨_, _, -, rfl⟩ | ⟨_, -, rfl⟩ | ⟨_, _, -, rfl⟩ <;> rfl
  | horizontalRule => exact absurd rfl hrule
  | _ =>
      rw [label, slide_take hmode rfl h]
      rfl

/-- The layout that some tokens leave is that of the last of them that asks for one. -/
theorem label_run {tokens : List Token} (hmode : d.mode = .document)
    (hrule : .horizontalRule ∉ tokens) (hrun : (d.run addNotes tokens).outcome = .ok d') :
    d'.mode = .document ∧
      d'.label = ((layoutOf? tokens).or d.slide.customLayout, d.slide.objectId) := by
  induction tokens generalizing d with
  | nil =>
      obtain rfl := Logged.pure_ok_iff.mp hrun
      exact ⟨hmode, rfl⟩
  | cons t tokens ih =>
      rw [List.mem_cons, not_or] at hrule
      obtain ⟨d₁, htake, hrest⟩ := run_cons_ok_iff.mp hrun
      have hcourse := course_take hmode (Ne.symm hrule.1) htake
      have hlabel := label_take hmode (Ne.symm hrule.1) htake
      simp only [course, label, Prod.mk.injEq] at hcourse hlabel
      have hmode₁ : ({ d₁ with started := true } : Draft).mode = .document :=
        hcourse.1.trans hmode
      obtain ⟨hmode', hlast⟩ := ih hmode₁ hrule.2 hrest
      have hsingle : layoutOf? [t] = t.layout? := by
        rw [layoutOf?, List.filterMap_cons]
        cases t.layout? <;> rfl
      refine ⟨hmode', ?_⟩
      rw [hlast, ← List.singleton_append, layoutOf?_append, hsingle, Option.or_assoc]
      simp only [hlabel]

theorem tracks_label : Tracks (fun ps d => d.mode = .document ∧
    d.label = (layoutOf? (ps.flatMap Piece.tokens), none)) (fun slide ps =>
    slide.customLayout = layoutOf? (ps.flatMap Piece.tokens) ∧ slide.objectId = none) where
  empty := ⟨rfl, rfl⟩
  mode := fun h => h.1
  started := fun h => h
  piece := by
    rintro first d d' p ⟨hmode, hlabel⟩ hp hrun
    obtain ⟨hmode', hlast⟩ := label_run hmode (rule_notMem_tokens hp) hrun
    simp only [label, Prod.mk.injEq] at hlabel
    refine ⟨hmode', ?_⟩
    rw [hlast, hlabel.1, hlabel.2, List.flatMap_append, List.flatMap_singleton, layoutOf?_append]
  ruled := fun h => ⟨h.1, rfl⟩
  complete := by
    rintro first d ⟨-, hlabel⟩
    simp only [label, Prod.mk.injEq] at hlabel
    unfold Draft.sealedSlide
    split <;> exact hlabel

/-! ### Blocks -/

theorem tracks_galley : Tracks (fun ps d => d.At (Galley.ofPieces ps))
    fun slide ps => slide.SetFrom (Galley.ofPieces ps) where
  empty := at_empty
  mode := fun h => h.mode
  started := fun h => h.started
  piece := by
    intro first d d' p h hp hrun
    rw [Galley.ofPieces, List.foldl_append]
    exact h.take hp hrun
  ruled := fun h => h.ruled
  complete := fun h => h.sealedSlide

end Draft

/-- A slide has the same images, notes and layout as another one. -/
structure Slide.SameMargin (slide slide' : Slide) : Prop where
  images : slide'.images = slide.images
  notes : slide'.notes = slide.notes
  customLayout : slide'.customLayout = slide.customLayout
  objectId : slide'.objectId = slide.objectId

/-- What a slide has by its pieces. -/
structure Slide.Of (slide : Slide) (ps : List Piece) : Prop where
  blocks : slide.SetFrom (Galley.ofPieces ps)
  margin : slide.HasMargin ps
  label : slide.customLayout = layoutOf? (ps.flatMap Piece.tokens) ∧ slide.objectId = none

/-- The slides of a document are of its pieces. -/
theorem of_compileTokens {ps : List Piece} {slides : List Slide}
    (h : (compileTokens (ps.flatMap Piece.tokens)).outcome = .ok slides) :
    List.Forall₂ Slide.Of slides (Piece.slides ps) := by
  have htracks := Draft.tracks_galley.and (Draft.tracks_margin.and Draft.tracks_label)
  exact (htracks.compileTokens h).imp fun slide ps ⟨hblocks, hmargin, hlabel⟩ =>
    ⟨hblocks, hmargin, hlabel⟩

theorem Slide.Of.sameMargin (hmarkup : keep none = true) {slide slide' : Slide} {ps : List Piece}
    (h : slide.Of ps) (h' : slide'.Of (ps.filterMap (Piece.keeping keep))) :
    slide.SameMargin slide' := by
  obtain ⟨himages, hnotes⟩ := h.margin.unique h'.margin (images_filterMap_keeping hmarkup ps)
    (comments_filterMap_keeping hmarkup ps)
  refine ⟨himages, hnotes, ?_, ?_⟩
  · rw [h.label.1, h'.label.1, tokens_filterMap_keeping hmarkup, layoutOf?,
      filterMap_keepTokens hmarkup fun _ => rfl]
    rfl
  · rw [h.label.2, h'.label.2]

/-! ### The theorem -/

/-- Slides of some pieces, and slides of the same pieces without tags.  Every run is signed with the
element that opened its style, or as the markup's. -/
structure DifferInTags (ps : List Piece) (slides slides' : List Slide) : Prop where
  /-- The slides have the blocks of their pieces with all of the runs. -/
  tagged : List.Forall₂
    (fun slide ps => slide.SetFrom ((SignedGalley.ofPieces ps).select fun _ => true))
    slides (Piece.slides ps)
  /-- The slides without tags have the same blocks with the runs that the markup signed. -/
  untagged : List.Forall₂
    (fun slide ps => slide.SetFrom ((SignedGalley.ofPieces ps).select Option.isNone))
    slides' (Piece.slides ps)
  margin : List.Forall₂ Slide.SameMargin slides slides'

/--
**Tags do not disturb the markup.**  If a document with properly nested tokens compiles, with HTML
tags that are unbalanced, overlap or are left open, then it compiles without its tags too.  It has
the same slides then, with the same titles, bodies, tables, lists, images, notes and layouts, but
for the runs: of those every block has the ones whose styles the markup opened, in the same order.

A rule parts nothing if it is the first token, so none must come to be the first one.  That is so
wherever running text stands in a paragraph, a heading, a cell or an item: no document begins with
a tag then, and its first token is kept.
-/
theorem differInTags_compileTokens {ps : List Piece} {slides : List Slide}
    (hleading : (keepTokens Option.isNone (ps.flatMap Piece.tokens)).head? =
      some .horizontalRule → (ps.flatMap Piece.tokens).head? = some .horizontalRule)
    (h : (compileTokens (ps.flatMap Piece.tokens)).outcome = .ok slides) :
    ∃ slides',
      (compileTokens (keepTokens Option.isNone (ps.flatMap Piece.tokens))).outcome = .ok slides' ∧
      DifferInTags ps slides slides' := by
  obtain ⟨slides', h'⟩ := @exists_compileTokens_keepTokens Option.isNone rfl _ _ h
  refine ⟨slides', h', ?_⟩
  have hof := of_compileTokens h
  have hof' : List.Forall₂
      (fun slide ps => slide.Of (ps.filterMap (Piece.keeping Option.isNone))) slides'
      (Piece.slides ps) := by
    rw [← tokens_filterMap_keeping rfl] at hleading h'
    rw [head?_flatMap_tokens, head?_flatMap_tokens] at hleading
    rw [← List.forall₂_map_right_iff, ← slides_filterMap_keeping hleading]
    exact of_compileTokens h'
  have hflip : List.Forall₂
      (fun ps slide => slide.Of (ps.filterMap (Piece.keeping Option.isNone)))
      (Piece.slides ps) slides' := hof'.flip
  refine ⟨hof.imp ?_, hof'.imp ?_, ?_⟩
  · intro slide ps hslide
    rw [SignedGalley.select_all]
    exact hslide.blocks
  · intro slide ps hslide
    rw [SignedGalley.select_ofPieces rfl]
    exact hslide.blocks
  · exact forall₂_trans hof hflip fun _ _ _ hslide hslide' => hslide.sameMargin rfl hslide'

/-- Superscript that overlaps with emphasis, in a document with an element that a title leaves open,
one that goes on over a column and a rule, and tags that close nothing. -/
def strayTags : List Piece :=
  [.rule,
    .heading 1 Nat.one_pos .empty (runningText [.htmlInline "<sup>", .text "T"]),
    .paragraph .empty (runningText [.emphasisOpen, .text "a", .htmlInline "<sup>", .text "b",
      .emphasisClose, .text "c", .htmlInline "</sup>", .htmlInline "</b>", .htmlInline "<i>"]),
    .paragraph ⟨none, ["column"], []⟩ (runningText [.htmlInline "<!-- note -->", .strongOpen,
      .text "d", .htmlInline "</i>", .htmlInline "<b>", .strongClose, .text "e"]),
    .rule, .paragraph .empty (runningText [.htmlInline "</b>", .inlineCode "f"])]

/-- The runs of all bodies. -/
def bodyRuns (slides : List Slide) : List (List (List StyleRun)) :=
  slides.map fun s => s.bodies.map fun b => b.text.runs

theorem differInTags_strayTags :
    ((keepTokens Option.isNone (strayTags.flatMap Piece.tokens)).head? = some .horizontalRule →
      (strayTags.flatMap Piece.tokens).head? = some .horizontalRule) ∧
    ∃ slides slides',
      (compileTokens (strayTags.flatMap Piece.tokens)).outcome = .ok slides ∧
      (compileTokens (keepTokens Option.isNone (strayTags.flatMap Piece.tokens))).outcome =
        .ok slides' ∧
      DifferInTags strayTags slides slides' ∧
      bodyRuns slides =
        [[[⟨0, 2, { italic := some true }⟩, ⟨1, 3, { baselineOffset := some .superscript }⟩],
          [⟨0, 1, { bold := some true }⟩, ⟨1, 2, { bold := some true }⟩]],
          [[⟨0, 1, Draft.codeStyle⟩]]] ∧
      bodyRuns slides' =
        [[[⟨0, 2, { italic := some true }⟩], [⟨0, 1, { bold := some true }⟩]],
          [[⟨0, 1, Draft.codeStyle⟩]]] := by
  have hleading : (keepTokens Option.isNone (strayTags.flatMap Piece.tokens)).head? =
      some .horizontalRule → (strayTags.flatMap Piece.tokens).head? = some .horizontalRule := by
    rw [head?_keepTokens (by simp [strayTags, Piece.tokens, Token.tagName?])]
    exact id
  have hruns : (compileTokens (strayTags.flatMap Piece.tokens)).outcome.map bodyRuns =
      .ok [[[⟨0, 2, { italic := some true }⟩, ⟨1, 3, { baselineOffset := some .superscript }⟩],
        [⟨0, 1, { bold := some true }⟩, ⟨1, 2, { bold := some true }⟩]],
        [[⟨0, 1, Draft.codeStyle⟩]]] := by
    decide +kernel
  have hruns' : (compileTokens (keepTokens Option.isNone
      (strayTags.flatMap Piece.tokens))).outcome.map bodyRuns =
      .ok [[[⟨0, 2, { italic := some true }⟩], [⟨0, 1, { bold := some true }⟩]],
        [[⟨0, 1, Draft.codeStyle⟩]]] := by
    decide +kernel
  cases h : (compileTokens (strayTags.flatMap Piece.tokens)).outcome with
  | error e =>
      rw [h] at hruns
      cases hruns
  | ok slides =>
      obtain ⟨slides', h', hdiffer⟩ := differInTags_compileTokens hleading h
      rw [h] at hruns
      rw [h'] at hruns'
      exact ⟨hleading, slides, slides', rfl, h', hdiffer, Except.ok.inj hruns,
        Except.ok.inj hruns'⟩

end SlideDeck

/-
Every block of a compiled slide is well formed.

That a block is sealed needs nothing of the tokens.  That its markers lie one after the other
needs that headings and tables are closed in the order in which they were opened, and that no
list begins in one of them: then nothing is set aside where a list begins, so its marker will
begin behind all that its block has been marked with.  Nothing else matters.  Lists and items may
be closed anywhere or not at all, and rules and column paragraphs may cut them.

A draft always has as many blocks set aside as the open headings and tables say.  The invariant
that carries the proof is about all of these blocks at once and does not look at which is which.
-/
import SlideDeck.Proofs.Draft.Markers
import SlideDeck.Proofs.Draft.Piece

namespace SlideDeck

/-! ### Proper nesting -/

/-- What takes the text for itself while it is open. -/
inductive Frame where
  | heading (level : Nat)
  | table
deriving DecidableEq

/-- The frames that are open after a token, innermost first, or nothing if the token may not come
here.  Lists and rules stand outside of all frames, and a table does not hold another one. -/
def Token.frames? (frames : List Frame) : Token → Option (List Frame)
  | .headingOpen level _ => some (.heading level :: frames)
  | .headingClose level => if frames.head? = some (.heading level) then some frames.tail else none
  | .tableOpen => if .table ∈ frames then none else some (.table :: frames)
  | .tableClose => if frames.head? = some .table then some frames.tail else none
  | .listOpen _ | .horizontalRule => if frames = [] then some [] else none
  | _ => some frames

/-- The frames that are open after some tokens. -/
def framesAfter? (frames : List Frame) (tokens : List Token) : Option (List Frame) :=
  tokens.foldlM Token.frames? frames

/-- Headings and tables are closed innermost first, and lists and rules stand outside of them. -/
def ProperlyNested (tokens : List Token) : Prop := (framesAfter? [] tokens).isSome = true

instance : DecidablePred ProperlyNested := fun _ => inferInstanceAs (Decidable (_ = true))

/-- How many blocks are set aside for some frames: one for a table, and one for a title or subtitle
that does not stand in a table. -/
def setAside : List Frame → Nat
  | [] => 0
  | .heading level :: frames => setAside frames + if level ≤ 2 ∧ .table ∉ frames then 1 else 0
  | .table :: frames => setAside frames + 1

theorem framesAfter?_cons (frames : List Frame) (t : Token) (tokens : List Token) :
    framesAfter? frames (t :: tokens) =
      (t.frames? frames).bind fun frames => framesAfter? frames tokens :=
  List.foldlM_cons

theorem framesAfter?_append (frames : List Frame) (first rest : List Token) :
    framesAfter? frames (first ++ rest) =
      (framesAfter? frames first).bind fun frames => framesAfter? frames rest :=
  List.foldlM_append

/-- Tokens that leave the frames as they are may stand in any number. -/
theorem framesAfter?_eq_self {frames : List Frame} {tokens : List Token}
    (h : ∀ t ∈ tokens, t.frames? frames = some frames) :
    framesAfter? frames tokens = some frames := by
  induction tokens with
  | nil => rfl
  | cons t tokens ih =>
      rw [framesAfter?_cons, h t (List.mem_cons_self ..)]
      exact ih fun t ht => h t (List.mem_cons_of_mem _ ht)

theorem frames?_of_isInline {t : Token} (h : t.isInline = true) (frames : List Frame) :
    t.frames? frames = some frames := by
  cases t <;> first | rfl | cases h

theorem framesAfter?_inlineTokens (frames : List Frame) (content : List InlineToken) :
    framesAfter? frames (Piece.inlineTokens content) = some frames := by
  refine framesAfter?_eq_self fun t ht => ?_
  obtain ⟨s, -, rfl⟩ := List.mem_map.mp ht
  exact frames?_of_isInline s.property frames

theorem framesAfter?_rowTokens (frames : List Frame) (rows : List (List (List InlineToken))) :
    framesAfter? frames (rows.flatMap Piece.rowTokens) = some frames := by
  refine framesAfter?_eq_self fun t ht => ?_
  obtain ⟨row, -, ht⟩ := List.mem_flatMap.mp ht
  simp only [Piece.rowTokens, Piece.cellTokens, Piece.inlineTokens, List.mem_cons, List.mem_append,
    List.mem_flatMap, List.mem_map, List.not_mem_nil, or_false] at ht
  rcases ht with rfl | ⟨cell, -, rfl | ⟨s, -, rfl⟩ | rfl⟩ | rfl
  · rfl
  · rfl
  · exact frames?_of_isInline s.property frames
  · rfl
  · rfl

/-- A piece leaves no frame open. -/
theorem framesAfter?_tokens (p : Piece) : framesAfter? [] p.tokens = some [] := by
  cases p with
  | inline t => exact framesAfter?_inlineTokens [] [t]
  | paragraph attributes content =>
      show framesAfter? [] (Piece.inlineTokens content ++ [.paragraphClose]) = some []
      rw [framesAfter?_append, framesAfter?_inlineTokens]
      rfl
  | heading level positive attributes content =>
      show framesAfter? [.heading level] (Piece.inlineTokens content ++ [.headingClose level]) =
        some []
      rw [framesAfter?_append, framesAfter?_inlineTokens, Option.bind_some, framesAfter?_cons]
      simp [Token.frames?, framesAfter?]
  | table rows =>
      show framesAfter? [.table] (rows.flatMap Piece.rowTokens ++ [.tableClose]) = some []
      rw [framesAfter?_append, framesAfter?_rowTokens]
      rfl
  | _ => rfl

/-- The tokens of pieces are properly nested. -/
theorem properlyNested_tokens (ps : List Piece) : ProperlyNested (ps.flatMap Piece.tokens) := by
  have hframes : framesAfter? [] (ps.flatMap Piece.tokens) = some [] := by
    induction ps with
    | nil => rfl
    | cons p ps ih =>
        rw [List.flatMap_cons, framesAfter?_append, framesAfter?_tokens, Option.bind_some, ih]
  rw [ProperlyNested, hframes]
  rfl

/-! ### What is open -/

namespace Draft

/-- A draft in whose blocks all markers lie one after the other, where some frames are open. -/
structure Marked (frames : List Frame) (d : Draft) : Prop where
  writing : ∀ b ∈ d.block :: d.parked, b.Marking d.list
  table : d.table.isSome = true ↔ .table ∈ frames
  single : frames.count .table ≤ 1
  parked : d.parked.length = setAside frames

variable {frames frames' : List Frame} {d d' : Draft}

theorem marked_empty (mode : DraftMode) : (empty mode).Marked [] := by
  refine ⟨fun b hb => ?_, by simp [empty], Nat.zero_le 1, rfl⟩
  rw [List.mem_singleton.mp hb]
  exact OpenBlock.marking_empty none

theorem Marked.block (h : d.Marked frames) : d.block.Marking d.list :=
  h.writing d.block (List.mem_cons_self ..)

/-- What changes neither the lists nor what is set aside may write in another block. -/
theorem Marked.withBlock (h : d.Marked frames) (hblock : d'.block.Marking d.list)
    (hparked : d'.parked = d.parked) (hlist : d'.list = d.list)
    (htable : d'.table.isSome = d.table.isSome) : d'.Marked frames := by
  refine ⟨fun b hb => ?_, htable ▸ h.table, h.single, hparked ▸ h.parked⟩
  rw [hlist]
  rcases List.mem_cons.mp hb with rfl | hb
  · exact hblock
  · rw [hparked] at hb
    exact h.writing b (List.mem_cons_of_mem _ hb)

theorem Marked.onBlock (h : d.Marked frames) {f : OpenBlock → OpenBlock}
    (hgrows : d.block.Grows (f d.block)) : (d.onBlock f).Marked frames :=
  h.withBlock (h.block.grows hgrows) rfl rfl rfl

theorem Marked.chooseLayout (h : d.Marked frames) (name : Option String) :
    (d.chooseLayout name).Marked frames := by
  cases name with
  | none => exact h
  | some name =>
      unfold Draft.chooseLayout
      simp only
      split
      · exact h.withBlock h.block rfl rfl rfl
      · exact h

/-- Whether a heading is set aside can be read off the frames. -/
theorem Marked.isSlideHeading_iff (h : d.Marked frames) (hmode : d.mode = .document)
    (level : Nat) : d.isSlideHeading level = true ↔ level ≤ 2 ∧ .table ∉ frames := by
  rw [← h.table]
  simp [isSlideHeading, inDocument, hmode]

/-! ### Frames -/

theorem Marked.park (h : d.Marked frames) :
    (∀ b ∈ d.park.block :: d.park.parked, b.Marking d.park.list) ∧
      d.park.parked.length = setAside frames + 1 := by
  refine ⟨fun b hb => ?_, congrArg (· + 1) h.parked⟩
  rcases List.mem_cons.mp hb with rfl | hb
  · exact OpenBlock.marking_empty _
  · exact h.writing b hb

theorem Marked.unpark (h : d.Marked frames) {n : Nat} (hn : setAside frames = n + 1) :
    (∀ b ∈ d.unpark.block :: d.unpark.parked, b.Marking d.unpark.list) ∧
      d.unpark.parked.length = n := by
  have hlength := h.parked
  rw [hn] at hlength
  unfold Draft.unpark
  cases hparked : d.parked with
  | nil =>
      rw [hparked] at hlength
      cases hlength
  | cons b rest =>
      rw [hparked] at hlength
      refine ⟨fun c hc => h.writing c (List.mem_cons_of_mem _ ?_), Nat.succ.inj hlength⟩
      rw [hparked]
      exact hc

theorem Marked.openHeading (h : d.Marked frames) (hmode : d.mode = .document) (level : Nat)
    (attributes : Attributes) :
    (d.openHeading level attributes).Marked (.heading level :: frames) := by
  have htable : d.table.isSome = true ↔ .table ∈ Frame.heading level :: frames := by
    rw [h.table]
    simp
  have hsingle : (Frame.heading level :: frames).count .table ≤ 1 := by
    rw [List.count_cons_of_ne (by simp)]
    exact h.single
  unfold Draft.openHeading
  refine (Marked.chooseLayout ?_ _).onBlock (OpenBlock.grows_openStyle _ _ _)
  split
  · rename_i hslide
    have haside := (h.isSlideHeading_iff hmode level).mp hslide
    have hparked : d.park.Marked (.heading level :: frames) := by
      obtain ⟨hwriting, hlength⟩ := h.park
      refine ⟨hwriting, htable, hsingle, ?_⟩
      rw [hlength, setAside, if_pos haside]
    split
    · exact hparked.onBlock (OpenBlock.grows_makeBig _)
    · exact hparked
  · rename_i hslide
    have haside := mt (h.isSlideHeading_iff hmode level).mpr hslide
    have hmarked : d.Marked (.heading level :: frames) := by
      refine ⟨h.writing, htable, hsingle, ?_⟩
      rw [h.parked, setAside, if_neg haside, Nat.add_zero]
    exact hmarked.onBlock (OpenBlock.grows_breakParagraph _)

theorem Marked.closeHeading {level : Nat} (h : d.Marked (.heading level :: frames))
    (hmode : d.mode = .document) (hclose : (d.closeHeading level).outcome = .ok d') :
    d'.Marked frames := by
  have hnot : .table ∈ Frame.heading level :: frames ↔ .table ∈ frames := by simp
  have htable := h.table.trans hnot
  have hsingle := h.single
  rw [List.count_cons_of_ne (by simp)] at hsingle
  have hiff := h.isSlideHeading_iff hmode level
  rw [hnot] at hiff
  cases hslide : d.isSlideHeading level with
  | true =>
      obtain rfl := Except.ok.inj ((outcome_closeHeading_slide hslide).symm.trans hclose)
      obtain ⟨hwriting, hlength⟩ := h.unpark (by rw [setAside, if_pos (hiff.mp hslide)])
      exact ⟨hwriting, htable, hsingle, hlength⟩
  | false =>
      obtain rfl := Except.ok.inj ((outcome_closeHeading_text hslide).symm.trans hclose)
      have hmarked : d.Marked frames := by
        refine ⟨h.writing, htable, hsingle, ?_⟩
        rw [h.parked, setAside, if_neg (fun haside => by simp [hiff.mpr haside] at hslide),
          Nat.add_zero]
      exact hmarked.onBlock ((OpenBlock.grows_endStyle _ none).trans
        (OpenBlock.grows_breakParagraph _))

theorem Marked.openTable (h : d.Marked frames) (hmode : d.mode = .document)
    (hfresh : .table ∉ frames) : d.openTable.Marked (.table :: frames) := by
  obtain ⟨hwriting, hlength⟩ := h.park
  have hsingle : (Frame.table :: frames).count .table ≤ 1 := by
    rw [List.count_cons_self, List.count_eq_zero.mpr hfresh]
  simp only [Draft.openTable, hmode]
  exact ⟨hwriting, by simp, hsingle, hlength⟩

theorem Marked.closeTable (h : d.Marked (.table :: frames))
    (hclose : d.closeTable.outcome = .ok d') : d'.Marked frames := by
  have hsingle := h.single
  rw [List.count_cons_self] at hsingle
  have hfresh : .table ∉ frames := List.count_eq_zero.mp (by omega)
  obtain ⟨t, htable⟩ := Option.isSome_iff_exists.mp (h.table.mpr (List.mem_cons_self ..))
  obtain ⟨-, rfl⟩ := closeTable_ok htable hclose
  obtain ⟨hwriting, hlength⟩ := h.unpark rfl
  exact ⟨hwriting, by simp [hfresh], by omega, hlength⟩

theorem Marked.openCell (h : d.Marked frames) (hmode : d.mode = .document) :
    d.openCell.Marked frames := by
  simp only [Draft.openCell, hmode]
  have hblank : OpenBlock.empty.Grows { d.block with text := TextBlock.empty } :=
    ⟨rfl, List.prefix_refl _⟩
  exact h.withBlock ((OpenBlock.marking_empty _).grows hblank) rfl rfl rfl

theorem Marked.closeCell (h : d.Marked frames) (hclose : d.closeCell.outcome = .ok d') :
    d'.Marked frames := by
  cases htable : d.table with
  | none =>
      simp only [Draft.closeCell, htable, Logged.outcome_pure, Except.ok.injEq] at hclose
      rwa [← hclose]
  | some t =>
      obtain rfl := Except.ok.inj ((outcome_closeCell htable).symm.trans hclose)
      exact h.withBlock (OpenBlock.marking_empty _) rfl rfl (by simp [htable])

theorem Marked.closeRow (h : d.Marked frames) : d.closeRow.Marked frames := by
  unfold Draft.closeRow
  split
  · exact h.onBlock (OpenBlock.grows_breakParagraph _)
  · rename_i t htable
    exact h.withBlock h.block rfl rfl (by simp [htable])

/-! ### Lists and paragraphs -/

/-- Where nothing is set aside a list may begin. -/
theorem Marked.openList (h : d.Marked []) {kind : ListKind}
    (hopen : (d.openList kind).outcome = .ok d') : d'.Marked [] := by
  have hparked : d.parked = [] := List.eq_nil_of_length_eq_zero h.parked
  have hblock := h.block
  rcases openList_ok hopen with ⟨hlist, rfl⟩ | ⟨l, hlist, -, rfl⟩
  · rw [hlist] at hblock
    refine ⟨fun b hb => ?_, h.table, h.single, h.parked⟩
    change b ∈ d.block.breakParagraph :: d.parked at hb
    rw [hparked, List.mem_singleton] at hb
    rw [hb]
    exact hblock.openOuter kind
  · rw [hlist] at hblock
    refine ⟨fun b hb => ?_, h.table, h.single, h.parked⟩
    change b ∈ d.block :: d.parked at hb
    rw [hparked, List.mem_singleton] at hb
    rw [hb]
    exact hblock.deepen _

/-- A list may end anywhere: blocks that are set aside have no list open then. -/
theorem Marked.closeList (h : d.Marked frames) (hclose : d.closeList.outcome = .ok d') :
    d'.Marked frames := by
  cases hlist : d.list with
  | none =>
      obtain rfl := Except.ok.inj ((outcome_closeList_none hlist).symm.trans hclose)
      exact h
  | some l =>
      have hwriting := h.writing
      rw [hlist] at hwriting
      rcases Nat.eq_zero_or_pos l.depth with hdepth | hdepth
      · obtain rfl := Except.ok.inj ((outcome_closeList_outer hlist hdepth).symm.trans hclose)
        refine ⟨fun b hb => ?_, h.table, h.single, h.parked⟩
        rcases List.mem_cons.mp hb with rfl | hb
        · exact (hwriting d.block (List.mem_cons_self ..)).closeOuter
        · have hb := hwriting b (List.mem_cons_of_mem _ hb)
          exact ⟨hb.apart, hb.stopped, fun l' hl' => nomatch hl'⟩
      · obtain rfl := Except.ok.inj ((outcome_closeList_inner hlist hdepth).symm.trans hclose)
        exact ⟨fun b hb => (hwriting b hb).deepen _, h.table, h.single, h.parked⟩

theorem Marked.append (h : d.Marked frames) (s : String) : (d.append s).Marked frames :=
  h.onBlock (OpenBlock.grows_append _ s)

theorem Marked.breakParagraph (h : d.Marked frames) : d.breakParagraph.Marked frames :=
  h.onBlock (OpenBlock.grows_breakParagraph _)

theorem Marked.closeItem (h : d.Marked frames) : d.closeItem.Marked frames := by
  unfold Draft.closeItem
  split
  · exact h
  · exact h.append _

theorem Marked.paragraphOpened (h : d.Marked frames) (attributes : Attributes) :
    (d.paragraphOpened attributes).Marked frames := by
  have hcolumn : Marked frames (if attributes.hasClass "column" then { d with
      slide := { d.slide with bodies := d.slide.bodies ++ [⟨d.block.sealed⟩] }
      block := OpenBlock.empty } else d) := by
    split
    · exact h.withBlock (OpenBlock.marking_empty _) rfl rfl rfl
    · exact h
  unfold Draft.paragraphOpened
  simp only
  revert hcolumn
  generalize (if attributes.hasClass "column" then _ else d : Draft) = d₁
  intro hcolumn
  have hbig : Marked frames (if attributes.hasClass "big" then d₁.onBlock (·.makeBig) else d₁) := by
    split
    · exact hcolumn.onBlock (OpenBlock.grows_makeBig _)
    · exact hcolumn
  have hlayout := hbig.chooseLayout (attributes.get? "layout")
  exact hlayout.withBlock hlayout.block rfl rfl rfl

theorem Marked.takeRule (h : d.Marked []) (hmode : d.mode = .document)
    (hrule : d.takeRule.outcome = .ok d') : d'.Marked [] := by
  rcases takeRule_ok hmode hrule with ⟨-, rfl⟩ | ⟨-, rfl⟩
  · exact h
  · refine ⟨fun b hb => ?_, by simp [ruled], h.single, rfl⟩
    rw [List.mem_singleton.mp hb]
    exact OpenBlock.marking_empty none

theorem Marked.withCode (h : d.Marked frames) (code : String) : (d.withCode code).Marked frames :=
  h.onBlock (((OpenBlock.grows_openStyle _ _ none).trans (OpenBlock.grows_append _ _)).trans
    (OpenBlock.grows_endStyle _ none))

theorem Marked.takeInlineHtml (h : d.Marked frames) {html : String}
    (htake : (d.takeInlineHtml addNotes html).outcome = .ok d') : d'.Marked frames := by
  rcases takeInlineHtml_ok htake with ⟨tag, style, -, rfl⟩ | ⟨tag, -, rfl⟩ | ⟨body, notes, -, rfl⟩
  · exact h.onBlock (OpenBlock.grows_openStyle _ _ _)
  · exact h.onBlock (OpenBlock.grows_endStyle _ _)
  · exact h.withBlock h.block rfl rfl rfl

/-! ### Runs -/

/-- Running text may stand anywhere. -/
theorem Marked.takeInline (h : d.Marked frames) (hmode : d.mode = .document) {t : Token}
    (ht : t.isInline = true) (htake : (d.take addNotes t).outcome = .ok d') :
    d'.Marked frames := by
  cases t with
  | text s | emoji shortcode s =>
      obtain rfl := Logged.pure_ok_iff.mp htake
      exact h.append s
  | softBreak | hardBreak =>
      obtain rfl := Logged.pure_ok_iff.mp htake
      exact h.append _
  | emphasisOpen | strongOpen | strikethroughOpen | linkOpen href =>
      obtain rfl := Logged.pure_ok_iff.mp htake
      exact h.onBlock (OpenBlock.grows_openStyle _ _ _)
  | inlineCode s =>
      obtain rfl := Except.ok.inj ((outcome_takeInlineCode addNotes d s).symm.trans htake)
      exact h.withCode s
  | emphasisClose | strongClose | strikethroughClose | linkClose =>
      obtain rfl := Except.ok.inj ((outcome_closeStyle d none).symm.trans htake)
      exact h.onBlock (OpenBlock.grows_endStyle _ none)
  | image src alt =>
      obtain rfl := Logged.pure_ok_iff.mp htake
      simp only [Draft.addImage, hmode]
      exact h.withBlock h.block rfl rfl rfl
  | htmlInline html => exact h.takeInlineHtml htake
  | _ => cases ht

/-- Every token that may come next keeps the markers of all blocks apart. -/
theorem Marked.take (h : d.Marked frames) (hmode : d.mode = .document) {t : Token}
    (hframes : t.frames? frames = some frames') (htake : (d.take addNotes t).outcome = .ok d') :
    d'.Marked frames' := by
  cases t with
  | headingOpen level attributes =>
      cases hframes
      obtain rfl := Logged.pure_ok_iff.mp htake
      exact h.openHeading hmode level attributes
  | headingClose level =>
      obtain ⟨hhead, rfl⟩ : frames.head? = some (.heading level) ∧ frames.tail = frames' := by
        simpa [Token.frames?] using hframes
      rw [← List.cons_head?_tail hhead] at h
      exact h.closeHeading hmode htake
  | tableOpen =>
      obtain ⟨hfresh, rfl⟩ : .table ∉ frames ∧ .table :: frames = frames' := by
        simpa [Token.frames?] using hframes
      obtain rfl := Logged.pure_ok_iff.mp htake
      exact h.openTable hmode hfresh
  | tableClose =>
      obtain ⟨hhead, rfl⟩ : frames.head? = some .table ∧ frames.tail = frames' := by
        simpa [Token.frames?] using hframes
      rw [← List.cons_head?_tail hhead] at h
      exact h.closeTable htake
  | listOpen kind =>
      obtain ⟨rfl, rfl⟩ : frames = [] ∧ [] = frames' := by simpa [Token.frames?] using hframes
      exact h.openList htake
  | horizontalRule =>
      obtain ⟨rfl, rfl⟩ : frames = [] ∧ [] = frames' := by simpa [Token.frames?] using hframes
      exact h.takeRule hmode htake
  | paragraphOpen attributes =>
      cases hframes
      obtain rfl := Except.ok.inj ((outcome_openParagraph hmode attributes).symm.trans htake)
      exact h.paragraphOpened attributes
  | paragraphClose =>
      cases hframes
      obtain rfl := Logged.pure_ok_iff.mp htake
      exact h.breakParagraph.withBlock h.breakParagraph.block rfl rfl rfl
  | listClose kind =>
      cases hframes
      exact h.closeList htake
  | listItemOpen =>
      cases hframes
      obtain rfl := Logged.pure_ok_iff.mp htake
      exact h.breakParagraph.append _
  | listItemClose =>
      cases hframes
      obtain rfl := Logged.pure_ok_iff.mp htake
      exact h.closeItem
  | tableRowOpen =>
      cases hframes
      obtain rfl := Logged.pure_ok_iff.mp htake
      exact h.withBlock h.block rfl rfl (by simp [Draft.openRow])
  | tableCellOpen =>
      cases hframes
      obtain rfl := Logged.pure_ok_iff.mp htake
      exact h.openCell hmode
  | tableCellClose =>
      cases hframes
      exact h.closeCell htake
  | tableRowClose =>
      cases hframes
      obtain rfl := Logged.pure_ok_iff.mp htake
      exact h.closeRow
  | fencedCode info content =>
      cases hframes
      obtain rfl := Except.ok.inj ((outcome_takeCode addNotes d info content).symm.trans htake)
      exact (h.breakParagraph.withCode _).breakParagraph
  | htmlBlock html =>
      cases hframes
      obtain ⟨_, rfl⟩ := takeHtmlBlock_ok htake
      exact h.withBlock h.block rfl rfl rfl
  | text s | emoji shortcode s | inlineCode s | htmlInline s | image src alt | softBreak
  | hardBreak | emphasisOpen | emphasisClose | strongOpen | strongClose | strikethroughOpen
  | strikethroughClose | linkOpen href | linkClose =>
      cases hframes
      exact h.takeInline hmode rfl htake

/-- So does a run, in which the blocks that are completed are such blocks. -/
theorem Marked.run (hcomposed : d.Composed TextBlock.MarkersApart) (h : d.Marked frames)
    {tokens : List Token} (hframes : framesAfter? frames tokens = some frames')
    (hrun : (d.run addNotes tokens).outcome = .ok d') :
    d'.Composed TextBlock.MarkersApart ∧ d'.Marked frames' := by
  induction tokens generalizing d frames with
  | nil =>
      obtain rfl := Logged.pure_ok_iff.mp hrun
      obtain rfl := Option.some.inj hframes
      exact ⟨hcomposed, h⟩
  | cons t tokens ih =>
      obtain ⟨d₁, htake, hrest⟩ := run_cons_ok_iff.mp hrun
      rw [framesAfter?_cons] at hframes
      obtain ⟨frames₁, hfirst, hframes⟩ := Option.bind_eq_some_iff.mp hframes
      have hcompleted := hcomposed.take h.block.sealed
        (h.block.grows (OpenBlock.grows_endStyle _ none)).sealed htake
      have hmarked := h.take hcomposed.mode hfirst htake
      refine ih ?_ ?_ hframes hrest
      · exact hcompleted.of_same rfl rfl rfl rfl rfl rfl rfl
      · exact hmarked.withBlock hmarked.block rfl rfl rfl

end Draft

/-! ### The theorem -/

/-- In every block of a document with properly nested tokens the markers lie one after the other,
and all but the first begin a paragraph. -/
theorem markersApart_of_properlyNested {tokens : List Token} {slides : List Slide}
    (hnested : ProperlyNested tokens) (h : (compileTokens tokens).outcome = .ok slides) :
    ∀ s ∈ slides, ∀ b ∈ s.blocks, b.MarkersApart := by
  obtain ⟨frames, hframes⟩ := Option.isSome_iff_exists.mp hnested
  obtain ⟨d, hrun, rfl⟩ := compileTokens_ok_iff.mp h
  obtain ⟨hcomposed, hmarked⟩ :=
    (Draft.marked_empty .document).run Draft.composed_empty hframes hrun
  intro s hs
  rcases List.mem_append.mp hs with hs | hs
  · exact (hcomposed.slides s hs).blocks
  · rw [List.mem_singleton.mp hs]
    exact (hcomposed.sealedSlide hmarked.block.sealed).blocks

/-- So it is for a document in pieces. -/
theorem markersApart_compileTokens {ps : List Piece} {slides : List Slide}
    (h : (compileTokens (ps.flatMap Piece.tokens)).outcome = .ok slides) :
    ∀ s ∈ slides, ∀ b ∈ s.blocks, b.MarkersApart :=
  markersApart_of_properlyNested (properlyNested_tokens ps) h

/--
**Every block is well formed.**  Whatever the tokens of a document are, in each title, subtitle,
body and cell that they compile to the text ends in no line feed, and all runs and markers cover
something of the text and nothing else, and the runs set something.  If the tokens are properly
nested, then the markers also lie one after the other, and each of them but perhaps the first
begins a paragraph.
-/
theorem wellFormed_compileTokens {tokens : List Token} {slides : List Slide}
    (h : (compileTokens tokens).outcome = .ok slides) :
    (∀ s ∈ slides, ∀ b ∈ s.blocks, b.Sealed) ∧
      (ProperlyNested tokens → ∀ s ∈ slides, ∀ b ∈ s.blocks, b.MarkersApart) := by
  constructor
  · intro s hs
    exact (sound_compileTokens h s hs).blocks
  · intro hnested
    exact markersApart_of_properlyNested hnested h

/-- A list that a column, a title and a table interrupt, and another one that a rule interrupts. -/
def interruptedLists : List Token :=
  [.text "x", .listOpen .unordered, .listItemOpen, .text "ab",
    .paragraphOpen ⟨none, ["column"], []⟩, .strongOpen, .text "cde", .strongClose, .paragraphClose,
    .headingOpen 1 .empty, .text "t", .headingClose 1, .tableOpen, .tableRowOpen, .tableCellOpen,
    .text "u\n", .tableCellClose, .tableRowClose, .tableClose, .listItemClose,
    .listClose .unordered, .listOpen .ordered, .listItemOpen, .text "f", .listItemClose,
    .listClose .ordered, .listOpen .ordered, .listItemOpen, .text "g", .horizontalRule, .text "h",
    .listItemClose, .listClose .ordered]

/-- The slides of these lists.  The first marker begins within a paragraph of its block. -/
def interruptedSlides : List Slide :=
  [{ title := some (.ofString "t")
     bodies :=
      [⟨.ofString "x\nab"⟩,
        ⟨⟨"cde\nf\ng", [⟨0, 3, { bold := some true }⟩],
          [⟨2, 4, .unordered⟩, ⟨4, 6, .ordered⟩], false⟩⟩]
     tables := [.ofCells [[.ofString "u"]]] },
    { bodies := [⟨.ofString "h"⟩] }]

theorem wellFormed_interruptedLists :
    (compileTokens interruptedLists).outcome = .ok interruptedSlides ∧
      ProperlyNested interruptedLists ∧
      ∀ s ∈ interruptedSlides, ∀ b ∈ s.blocks, b.Sealed ∧ b.MarkersApart := by
  have hcompile : (compileTokens interruptedLists).outcome = .ok interruptedSlides := by
    decide +kernel
  have hnested : ProperlyNested interruptedLists := by decide
  obtain ⟨hsealed, hapart⟩ := wellFormed_compileTokens hcompile
  refine ⟨hcompile, hnested, ?_⟩
  intro s hs b hb
  exact ⟨hsealed s hs b hb, hapart hnested s hs b hb⟩

end SlideDeck

/-
Every block of a compiled slide is sealed.

A block gets onto a slide only by being sealed, so its text ends in no line feed, its runs and
markers lie within its text and cover something of it, and its runs set something.  Tables are
made of their cells, so they are as high and as wide as these.  Nothing is assumed of the
tokens: they need not even be properly nested.
-/
import Mathlib.Data.List.DropRight
import SlideDeck.Proofs.Draft.Break

namespace SlideDeck

/-! ### Blocks -/

/-- A sealed block: no line feed is left at the end, and all ranges lie within the text. -/
structure TextBlock.Sealed (b : TextBlock) : Prop where
  trimmed : b.endsWithNewline = false
  runs : ∀ r ∈ b.runs, r.start < r.stop ∧ r.stop ≤ b.length ∧ r.style.isEmpty = false
  markers : ∀ m ∈ b.listMarkers, m.start < m.stop ∧ m.stop ≤ b.length

namespace TextBlock

theorem clampRun_eq_some {n : Nat} {r r' : StyleRun} (h : clampRun n r = some r') :
    r' = { r with stop := min r.stop n } ∧ r.start < min r.stop n ∧ r.style.isEmpty = false := by
  unfold clampRun at h
  simp only at h
  split at h
  · rename_i hkeep
    simp only [Bool.and_eq_true, decide_eq_true_eq, Bool.not_eq_true'] at hkeep
    exact ⟨(Option.some.inj h).symm, hkeep⟩
  · cases h

theorem clampMarker_eq_some {n : Nat} {m m' : ListMarker} (h : clampMarker n m = some m') :
    m' = { m with stop := min m.stop n } ∧ m.start < min m.stop n := by
  unfold clampMarker at h
  simp only at h
  split at h
  · rename_i hkeep
    exact ⟨(Option.some.inj h).symm, hkeep⟩
  · cases h

theorem sealed_finish (b : TextBlock) : b.finish.Sealed := by
  refine ⟨?_, ?_, ?_⟩
  · show ((trimNewlines b.rawText).toList.getLast? == some '\n') = false
    rw [trimNewlines, String.toList_ofList]
    by_cases hne : Text.dropEndWhile (· == '\n') b.rawText.toList = []
    · rw [hne]
      rfl
    · have hlast : ¬((Text.dropEndWhile (· == '\n') b.rawText.toList).getLast hne == '\n') = true :=
        List.rdropWhile_last_not (· == '\n') b.rawText.toList hne
      rw [List.getLast?_eq_some_getLast hne]
      simpa using hlast
  · intro r hr
    obtain ⟨r₀, -, hclamp⟩ := List.mem_filterMap.mp hr
    obtain ⟨rfl, hlt, hset⟩ := clampRun_eq_some hclamp
    exact ⟨hlt, Nat.min_le_right _ _, hset⟩
  · intro m hm
    obtain ⟨m₀, -, hclamp⟩ := List.mem_filterMap.mp hm
    obtain ⟨rfl, hlt⟩ := clampMarker_eq_some hclamp
    exact ⟨hlt, Nat.min_le_right _ _⟩

end TextBlock

theorem OpenBlock.sealed_sealed (b : OpenBlock) : b.sealed.Sealed := TextBlock.sealed_finish _

/-! ### Slides -/

namespace Slide

/-- The blocks of a slide: title, subtitle, bodies and cells. -/
def blocks (s : Slide) : List TextBlock :=
  s.title.toList ++ s.subtitle.toList ++ s.bodies.map (·.text) ++ s.tables.flatMap (·.cells.flatten)

theorem mem_blocks {s : Slide} {b : TextBlock} :
    b ∈ s.blocks ↔ s.title = some b ∨ s.subtitle = some b ∨ (∃ body ∈ s.bodies, body.text = b) ∨
      ∃ t ∈ s.tables, ∃ row ∈ t.cells, b ∈ row := by
  simp only [blocks, List.mem_append, Option.mem_toList, List.mem_map, List.mem_flatMap,
    List.mem_flatten, or_assoc]

/-- All blocks of a slide satisfy a property, and its tables are made of their cells. -/
structure Composed (P : TextBlock → Prop) (s : Slide) : Prop where
  blocks : ∀ b ∈ s.blocks, P b
  tables : ∀ t ∈ s.tables, t = Table.ofCells t.cells

/-- All blocks of a slide are sealed, and its tables are made of their cells. -/
abbrev Sound (s : Slide) : Prop := s.Composed TextBlock.Sealed

variable {P : TextBlock → Prop} {s : Slide} {b : TextBlock}

theorem composed_empty : empty.Composed P :=
  ⟨fun _ hb => absurd hb List.not_mem_nil, fun _ ht => absurd ht List.not_mem_nil⟩

theorem Composed.withHeading (h : s.Composed P) (hb : P b) (level : Nat) :
    (Draft.withHeading s level b).Composed P := by
  unfold Draft.withHeading
  split
  · refine ⟨fun c hc => ?_, h.tables⟩
    rcases mem_blocks.mp hc with hc | hc
    · rwa [← Option.some.inj hc]
    · exact h.blocks c (mem_blocks.mpr (Or.inr hc))
  · refine ⟨fun c hc => ?_, h.tables⟩
    rcases mem_blocks.mp hc with hc | hc | hc
    · exact h.blocks c (mem_blocks.mpr (Or.inl hc))
    · rwa [← Option.some.inj hc]
    · exact h.blocks c (mem_blocks.mpr (Or.inr (Or.inr hc)))

theorem Composed.withBody (h : s.Composed P) (hb : P b) :
    Composed P { s with bodies := s.bodies ++ [⟨b⟩] } := by
  refine ⟨fun c hc => ?_, h.tables⟩
  rcases mem_blocks.mp hc with hc | hc | ⟨body, hbody, hc⟩ | hc
  · exact h.blocks c (mem_blocks.mpr (Or.inl hc))
  · exact h.blocks c (mem_blocks.mpr (Or.inr (Or.inl hc)))
  · rcases List.mem_append.mp hbody with hbody | hbody
    · exact h.blocks c (mem_blocks.mpr (Or.inr (Or.inr (Or.inl ⟨body, hbody, hc⟩))))
    · rw [List.mem_singleton.mp hbody] at hc
      rwa [← hc]
  · exact h.blocks c (mem_blocks.mpr (Or.inr (Or.inr (Or.inr hc))))

theorem Composed.withTable (h : s.Composed P) {cells : List (List TextBlock)}
    (hcells : ∀ row ∈ cells, ∀ b ∈ row, P b) :
    Composed P { s with tables := [Table.ofCells cells] } := by
  refine ⟨fun c hc => ?_, fun t ht => ?_⟩
  · rcases mem_blocks.mp hc with hc | hc | hc | ⟨t, ht, row, hrow, hc⟩
    · exact h.blocks c (mem_blocks.mpr (Or.inl hc))
    · exact h.blocks c (mem_blocks.mpr (Or.inr (Or.inl hc)))
    · exact h.blocks c (mem_blocks.mpr (Or.inr (Or.inr (Or.inl hc))))
    · rw [List.mem_singleton.mp ht] at hrow
      exact hcells row hrow c hc
  · rw [List.mem_singleton.mp ht]
    rfl

end Slide

/-! ### Drafts -/

namespace Draft

/-- What stands on complete slides, on the slide that is being written and in its table. -/
structure Composed (P : TextBlock → Prop) (d : Draft) : Prop where
  mode : d.mode = .document
  slides : ∀ s ∈ d.slides, s.Composed P
  slide : d.slide.Composed P
  table : ∀ t, d.table = some t → ∀ row ∈ t.row :: t.rows, ∀ b ∈ row, P b

variable {P : TextBlock → Prop} {d d' : Draft}

/-- Nothing but headings, columns, cells, tables and rules puts a block anywhere. -/
theorem Composed.of_same (h : d.Composed P) (hmode : d'.mode = d.mode)
    (hslides : d'.slides = d.slides) (htable : d'.table = d.table)
    (htitle : d'.slide.title = d.slide.title)
    (hsubtitle : d'.slide.subtitle = d.slide.subtitle)
    (hbodies : d'.slide.bodies = d.slide.bodies) (htables : d'.slide.tables = d.slide.tables) :
    d'.Composed P := by
  have hblocks : d'.slide.blocks = d.slide.blocks := by
    rw [Slide.blocks, htitle, hsubtitle, hbodies, htables]
    rfl
  exact ⟨hmode.trans h.mode, hslides ▸ h.slides,
    ⟨hblocks ▸ h.slide.blocks, htables ▸ h.slide.tables⟩, htable ▸ h.table⟩

theorem Composed.onBlock (h : d.Composed P) (f : OpenBlock → OpenBlock) :
    (d.onBlock f).Composed P :=
  h.of_same rfl rfl rfl rfl rfl rfl rfl

theorem Composed.chooseLayout (h : d.Composed P) (name : Option String) :
    (d.chooseLayout name).Composed P := by
  cases name with
  | none => exact h
  | some name =>
      unfold Draft.chooseLayout
      simp only
      split
      · exact h.of_same rfl rfl rfl rfl rfl rfl rfl
      · exact h

theorem Composed.openHeading (h : d.Composed P) (level : Nat) (attributes : Attributes) :
    (d.openHeading level attributes).Composed P := by
  have hpark : d.park.Composed P := h.of_same rfl rfl rfl rfl rfl rfl rfl
  unfold Draft.openHeading
  refine (Composed.chooseLayout ?_ _).onBlock _
  split
  · split
    · exact hpark.onBlock _
    · exact hpark
  · exact h.onBlock _

theorem Composed.closeHeading (h : d.Composed P) (hheading : P (d.block.endStyle none).sealed)
    {level : Nat} (hclose : (d.closeHeading level).outcome = .ok d') : d'.Composed P := by
  cases hslide : d.isSlideHeading level with
  | true =>
      obtain rfl := Except.ok.inj ((outcome_closeHeading_slide hslide).symm.trans hclose)
      exact ⟨h.mode, h.slides, h.slide.withHeading hheading level, h.table⟩
  | false =>
      obtain rfl := Except.ok.inj ((outcome_closeHeading_text hslide).symm.trans hclose)
      exact h.onBlock _

theorem Composed.paragraphOpened (h : d.Composed P) (hblock : P d.block.sealed)
    (attributes : Attributes) : (d.paragraphOpened attributes).Composed P := by
  have hcolumn : Composed P (if attributes.hasClass "column" then { d with
      slide := { d.slide with bodies := d.slide.bodies ++ [⟨d.block.sealed⟩] }
      block := OpenBlock.empty } else d) := by
    split
    · exact ⟨h.mode, h.slides, h.slide.withBody hblock, h.table⟩
    · exact h
  unfold Draft.paragraphOpened
  simp only
  revert hcolumn
  generalize (if attributes.hasClass "column" then _ else d : Draft) = d₁
  intro hcolumn
  have hbig : Composed P (if attributes.hasClass "big" then d₁.onBlock (·.makeBig) else d₁) := by
    split
    · exact hcolumn.onBlock _
    · exact hcolumn
  exact (hbig.chooseLayout (attributes.get? "layout")).of_same rfl rfl rfl rfl rfl rfl rfl

theorem Composed.addImage (h : d.Composed P) (src alt : String) :
    (d.addImage src alt).Composed P := by
  simp only [Draft.addImage, h.mode]
  exact h.of_same h.mode.symm rfl rfl rfl rfl rfl rfl

theorem Composed.openList (h : d.Composed P) {kind : ListKind}
    (hopen : (d.openList kind).outcome = .ok d') : d'.Composed P := by
  rcases openList_ok hopen with ⟨-, rfl⟩ | ⟨l, -, -, rfl⟩
  · exact h.of_same rfl rfl rfl rfl rfl rfl rfl
  · exact h.of_same rfl rfl rfl rfl rfl rfl rfl

theorem Composed.closeList (h : d.Composed P) (hclose : d.closeList.outcome = .ok d') :
    d'.Composed P := by
  cases hlist : d.list with
  | none =>
      obtain rfl := Except.ok.inj ((outcome_closeList_none hlist).symm.trans hclose)
      exact h
  | some l =>
      rcases Nat.eq_zero_or_pos l.depth with hdepth | hdepth
      · obtain rfl := Except.ok.inj ((outcome_closeList_outer hlist hdepth).symm.trans hclose)
        exact h.of_same rfl rfl rfl rfl rfl rfl rfl
      · obtain rfl := Except.ok.inj ((outcome_closeList_inner hlist hdepth).symm.trans hclose)
        exact h.of_same rfl rfl rfl rfl rfl rfl rfl

theorem Composed.closeItem (h : d.Composed P) : d.closeItem.Composed P := by
  unfold Draft.closeItem
  split
  · exact h
  · exact h.onBlock _

/-! ### Tables -/

theorem Composed.openTable (h : d.Composed P) : d.openTable.Composed P := by
  simp only [Draft.openTable, h.mode]
  refine ⟨h.mode, h.slides, h.slide, fun t ht row hrow b hb => ?_⟩
  cases ht
  rw [List.mem_singleton.mp hrow] at hb
  cases hb

theorem Composed.openRow (h : d.Composed P) : d.openRow.Composed P := by
  refine ⟨h.mode, h.slides, h.slide, fun t ht row hrow b hb => ?_⟩
  obtain ⟨t₀, ht₀, rfl⟩ := Option.map_eq_some_iff.mp ht
  rcases List.mem_cons.mp hrow with rfl | hrow
  · cases hb
  · exact h.table t₀ ht₀ row (List.mem_cons_of_mem _ hrow) b hb

theorem Composed.openCell (h : d.Composed P) : d.openCell.Composed P := by
  simp only [Draft.openCell, h.mode]
  exact h.onBlock _

theorem Composed.closeCell (h : d.Composed P) (hblock : P d.block.sealed)
    (hclose : d.closeCell.outcome = .ok d') : d'.Composed P := by
  cases htable : d.table with
  | none =>
      have hsame : d.closeCell = pure d := by
        unfold Draft.closeCell
        rw [htable]
      obtain rfl := Logged.pure_ok_iff.mp ((congrArg _ hsame).symm.trans hclose)
      exact h
  | some t =>
      obtain rfl := Except.ok.inj ((outcome_closeCell htable).symm.trans hclose)
      refine ⟨h.mode, h.slides, h.slide, fun t' ht' row hrow b hb => ?_⟩
      obtain rfl := Option.some.inj ht'
      rcases List.mem_cons.mp hrow with rfl | hrow
      · rcases List.mem_append.mp hb with hb | hb
        · exact h.table t htable t.row (List.mem_cons_self ..) b hb
        · rw [List.mem_singleton.mp hb]
          exact hblock
      · exact h.table t htable row (List.mem_cons_of_mem _ hrow) b hb

theorem Composed.closeRow (h : d.Composed P) : d.closeRow.Composed P := by
  unfold Draft.closeRow
  split
  · exact h.onBlock _
  · rename_i t htable
    refine ⟨h.mode, h.slides, h.slide, fun t' ht' row hrow b hb => ?_⟩
    obtain rfl := Option.some.inj ht'
    rcases List.mem_cons.mp hrow with rfl | hrow
    · cases hb
    · rcases List.mem_append.mp hrow with hrow | hrow
      · exact h.table t htable row (List.mem_cons_of_mem _ hrow) b hb
      · rw [List.mem_singleton.mp hrow] at hb
        exact h.table t htable t.row (List.mem_cons_self ..) b hb

theorem Composed.closeTable (h : d.Composed P) (hclose : d.closeTable.outcome = .ok d') :
    d'.Composed P := by
  cases htable : d.table with
  | none =>
      obtain rfl := Except.ok.inj ((outcome_closeTable_none htable).symm.trans hclose)
      exact h
  | some t =>
      obtain ⟨-, rfl⟩ := closeTable_ok htable hclose
      refine ⟨h.mode, h.slides, h.slide.withTable fun row hrow => ?_, fun t' ht' => nomatch ht'⟩
      exact h.table t htable row (List.mem_cons_of_mem _ hrow)

/-! ### Rules and runs -/

theorem Composed.sealedSlide (h : d.Composed P) (hblock : P d.block.sealed) :
    d.sealedSlide.Composed P := by
  unfold Draft.sealedSlide
  split
  · exact h.slide
  · exact h.slide.withBody hblock

theorem Composed.takeRule (h : d.Composed P) (hblock : P d.block.sealed)
    (hrule : d.takeRule.outcome = .ok d') : d'.Composed P := by
  rcases takeRule_ok h.mode hrule with ⟨-, rfl⟩ | ⟨-, rfl⟩
  · exact h
  · refine ⟨h.mode, fun s hs => ?_, Slide.composed_empty, fun t ht => by cases ht⟩
    rcases List.mem_append.mp hs with hs | hs
    · exact h.slides s hs
    · rw [List.mem_singleton.mp hs]
      exact h.sealedSlide hblock

theorem Composed.takeInlineHtml (h : d.Composed P) {html : String}
    (htake : (d.takeInlineHtml addNotes html).outcome = .ok d') : d'.Composed P := by
  rcases takeInlineHtml_ok htake with ⟨tag, style, -, rfl⟩ | ⟨tag, -, rfl⟩ | ⟨body, notes, -, rfl⟩
  · exact h.onBlock _
  · exact h.onBlock _
  · exact h.of_same rfl rfl rfl rfl rfl rfl rfl

/-- What a token completes is the block that takes the text, sealed with or without the style of a
heading.  If the property holds of it, it goes on to hold of every complete block. -/
theorem Composed.take (h : d.Composed P) (hblock : P d.block.sealed)
    (hheading : P (d.block.endStyle none).sealed) {t : Token}
    (htake : (d.take addNotes t).outcome = .ok d') :
    d'.Composed P := by
  cases t with
  | headingOpen level attributes =>
      obtain rfl := Logged.pure_ok_iff.mp htake
      exact h.openHeading level attributes
  | headingClose level => exact h.closeHeading hheading htake
  | paragraphOpen attributes =>
      obtain rfl := Except.ok.inj ((outcome_openParagraph h.mode attributes).symm.trans htake)
      exact h.paragraphOpened hblock attributes
  | paragraphClose =>
      obtain rfl := Logged.pure_ok_iff.mp htake
      exact h.of_same rfl rfl rfl rfl rfl rfl rfl
  | emphasisClose | strongClose | strikethroughClose | linkClose =>
      obtain rfl := Except.ok.inj ((outcome_closeStyle d none).symm.trans htake)
      exact h.onBlock _
  | image src alt =>
      obtain rfl := Logged.pure_ok_iff.mp htake
      exact h.addImage src alt
  | listOpen kind => exact h.openList htake
  | listClose kind => exact h.closeList htake
  | listItemClose =>
      obtain rfl := Logged.pure_ok_iff.mp htake
      exact h.closeItem
  | tableOpen =>
      obtain rfl := Logged.pure_ok_iff.mp htake
      exact h.openTable
  | tableRowOpen =>
      obtain rfl := Logged.pure_ok_iff.mp htake
      exact h.openRow
  | tableCellOpen =>
      obtain rfl := Logged.pure_ok_iff.mp htake
      exact h.openCell
  | tableCellClose => exact h.closeCell hblock htake
  | tableRowClose =>
      obtain rfl := Logged.pure_ok_iff.mp htake
      exact h.closeRow
  | tableClose => exact h.closeTable htake
  | fencedCode info content =>
      obtain rfl := Except.ok.inj ((outcome_takeCode addNotes d info content).symm.trans htake)
      exact ((h.onBlock _).onBlock _).onBlock _
  | inlineCode s =>
      obtain rfl := Except.ok.inj ((outcome_takeInlineCode addNotes d s).symm.trans htake)
      exact h.onBlock _
  | htmlBlock html =>
      obtain ⟨_, rfl⟩ := takeHtmlBlock_ok htake
      exact h.of_same rfl rfl rfl rfl rfl rfl rfl
  | htmlInline html => exact h.takeInlineHtml htake
  | horizontalRule => exact h.takeRule hblock htake
  | text s | emoji shortcode s | emphasisOpen | strongOpen | strikethroughOpen | linkOpen href
  | softBreak | hardBreak =>
      obtain rfl := Logged.pure_ok_iff.mp htake
      exact h.onBlock _
  | listItemOpen =>
      obtain rfl := Logged.pure_ok_iff.mp htake
      exact h.of_same rfl rfl rfl rfl rfl rfl rfl

theorem composed_empty : (empty .document).Composed P :=
  ⟨rfl, fun _ hs => absurd hs List.not_mem_nil, Slide.composed_empty, fun _ ht => nomatch ht⟩

end Draft

/-- Every slide that is compiled is sound, whatever the tokens are. -/
theorem sound_compileTokens {tokens : List Token} {slides : List Slide}
    (h : (compileTokens tokens).outcome = .ok slides) : ∀ s ∈ slides, s.Sound := by
  obtain ⟨d, hrun, rfl⟩ := compileTokens_ok_iff.mp h
  have hsound : d.Composed TextBlock.Sealed := by
    refine Draft.run_keeps ?_ Draft.composed_empty hrun
    intro t _ c c' hc htake
    have htaken := hc.take (OpenBlock.sealed_sealed _) (OpenBlock.sealed_sealed _) htake
    exact htaken.of_same rfl rfl rfl rfl rfl rfl rfl
  intro s hs
  rcases List.mem_append.mp hs with hs | hs
  · exact hsound.slides s hs
  · rw [List.mem_singleton.mp hs]
    exact hsound.sealedSlide (OpenBlock.sealed_sealed _)

end SlideDeck

/-
The text of a comment.

All tokens of a comment write in one block, and none of them takes back what is written: the text
only grows.  So what some tokens write is said by a function from the text before them to the text
behind them, and a list of tokens is read by composing these functions.

A comment is refused for little.  Tokens that open no list are all taken unless their HTML cannot
be parsed, and what the comments within a comment say does not matter.
-/
import SlideDeck.Proofs.Draft.Notes
import SlideDeck.Proofs.Draft.Piece

namespace SlideDeck

/-- The text that a token of running text adds to a comment. -/
def Token.noteText : Token → String
  | .text s | .emoji _ s | .inlineCode s | .image _ s => s
  | .softBreak => " "
  | .hardBreak => String.singleton Draft.lineBreak
  | _ => ""

/-- Whether a token opens a list. -/
def Token.opensList : Token → Bool
  | .listOpen _ => true
  | _ => false

/-- The HTML of a token can be parsed, whatever the comments in it say. -/
def Token.ParsableHtml : Token → Prop
  | .htmlBlock html => ∃ bodies, (Html.commentBodies html).outcome = .ok bodies
  | .htmlInline html => ∃ fragment, (InlineHtml.parse html).outcome = .ok fragment
  | _ => True

/-! ### Writing on -/

namespace OpenBlock

variable {b b' b'' : OpenBlock}

/-- The text of a block was written on, or left as it is. -/
def Extends (b b' : OpenBlock) : Prop := ∃ more, b'.text.rawText = b.text.rawText ++ more

theorem extends_of_eq (h : b'.text.rawText = b.text.rawText) : b.Extends b' :=
  ⟨"", h.trans (String.append_empty).symm⟩

theorem extends_append (b : OpenBlock) (s : String) : b.Extends (b.append s) := ⟨s, rfl⟩

theorem extends_breakParagraph (b : OpenBlock) : b.Extends b.breakParagraph := by
  unfold breakParagraph
  split
  · exact extends_of_eq rfl
  · exact b.extends_append "\n"

theorem extends_endStyle (b : OpenBlock) (element : Option String) :
    b.Extends (b.endStyle element) := extends_of_eq (rawText_endStyle b element)

theorem Extends.trans (h : b.Extends b') (h' : b'.Extends b'') : b.Extends b'' := by
  obtain ⟨more, hmore⟩ := h
  obtain ⟨more', hmore'⟩ := h'
  exact ⟨more ++ more', by rw [hmore', hmore, String.append_assoc]⟩

end OpenBlock

namespace Draft

variable {d d' : Draft} {text : String}

/-- The draft of a comment that has some text. -/
structure Noted (d : Draft) (text : String) : Prop where
  mode : d.mode = .notes
  table : d.table = none
  text : d.block.text.rawText = text

theorem noted_empty : (empty .notes).Noted "" := ⟨rfl, rfl, rfl⟩

theorem Noted.jotted (h : d.Noted text) : d.Jotted d.block.words := ⟨h.mode, h.table, rfl⟩

theorem extends_breakParagraph (d : Draft) : d.block.Extends d.breakParagraph.block :=
  OpenBlock.extends_breakParagraph d.block

theorem Noted.isSlideHeading_eq (h : d.Noted text) (level : Nat) :
    d.isSlideHeading level = false := by
  simp [isSlideHeading, inDocument, h.mode]

theorem Noted.outcome_openParagraph (h : d.Noted text) (attributes : Attributes) :
    (d.openParagraph attributes).outcome = .ok d := by
  unfold openParagraph
  rw [if_neg (by simp [inDocument, h.mode])]
  rfl

theorem Noted.openTable_eq (h : d.Noted text) : d.openTable = d.breakParagraph := by
  simp only [openTable, h.mode]

theorem Noted.closeRow_eq (h : d.Noted text) : d.closeRow = d.breakParagraph := by
  simp only [closeRow, h.table]

theorem Noted.outcome_closeCell (h : d.Noted text) : d.closeCell.outcome = .ok d := by
  simp only [closeCell, h.table]
  rfl

theorem Noted.outcome_takeRule (h : d.Noted text) :
    d.takeRule.outcome = .ok d.breakParagraph := by
  simp only [takeRule, h.mode]
  rfl

/-- Headings are paragraphs in a comment. -/
theorem Noted.extends_openHeading (h : d.Noted text) (level : Nat) (attributes : Attributes) :
    d.block.Extends (d.openHeading level attributes).block := by
  unfold Draft.openHeading chooseLayout
  simp only [h.isSlideHeading_eq level, Bool.false_eq_true, if_false]
  split
  · split <;> exact d.extends_breakParagraph
  · exact d.extends_breakParagraph

theorem extends_withCode (d : Draft) (code : String) : d.block.Extends (d.withCode code).block :=
  ⟨code, OpenBlock.rawText_endStyle _ none⟩

/-- Inline HTML writes nothing in a comment. -/
theorem rawText_takeInlineHtml {html : String}
    (h : (d.takeInlineHtml skipComment html).outcome = .ok d') :
    d'.block.text.rawText = d.block.text.rawText := by
  unfold Draft.takeInlineHtml at h
  obtain ⟨fragment, -, h⟩ := Logged.bind_ok_iff.mp h
  cases fragment with
  | opening tag style =>
      obtain rfl := Logged.pure_ok_iff.mp h
      rfl
  | closing tag =>
      obtain rfl := Except.ok.inj ((outcome_closeStyle d (some tag)).symm.trans h)
      exact OpenBlock.rawText_endStyle _ _
  | comment body =>
      obtain rfl := Logged.pure_ok_iff.mp h
      rfl

/-- A token of a comment writes on. -/
theorem Noted.extends_take (h : d.Noted text) {t : Token}
    (htake : (d.take skipComment t).outcome = .ok d') : d.block.Extends d'.block := by
  have hrefl : d.block.Extends d.block := OpenBlock.extends_of_eq rfl
  cases t with
  | headingOpen level attributes =>
      obtain rfl := Logged.pure_ok_iff.mp htake
      exact h.extends_openHeading level attributes
  | headingClose level =>
      have hclose := outcome_closeHeading_text (h.isSlideHeading_eq level)
      obtain rfl := Except.ok.inj (hclose.symm.trans htake)
      exact (d.block.extends_endStyle none).trans (OpenBlock.extends_breakParagraph _)
  | paragraphOpen attributes =>
      obtain rfl := Except.ok.inj ((h.outcome_openParagraph attributes).symm.trans htake)
      exact hrefl
  | paragraphClose =>
      obtain rfl := Logged.pure_ok_iff.mp htake
      exact d.extends_breakParagraph
  | text s | emoji shortcode s =>
      obtain rfl := Logged.pure_ok_iff.mp htake
      exact d.block.extends_append s
  | emphasisOpen | strongOpen | strikethroughOpen | linkOpen href =>
      obtain rfl := Logged.pure_ok_iff.mp htake
      exact OpenBlock.extends_of_eq rfl
  | emphasisClose | strongClose | strikethroughClose | linkClose =>
      obtain rfl := Except.ok.inj ((outcome_closeStyle d none).symm.trans htake)
      exact d.block.extends_endStyle none
  | image src alt =>
      obtain rfl := Logged.pure_ok_iff.mp htake
      have himage : d.addImage src alt = d.append alt := by simp only [addImage, h.mode]
      rw [himage]
      exact d.block.extends_append alt
  | listOpen kind =>
      rcases openList_ok htake with ⟨-, rfl⟩ | ⟨l, -, -, rfl⟩
      · exact d.extends_breakParagraph
      · exact hrefl
  | listClose kind =>
      cases hlist : d.list with
      | none =>
          obtain rfl := Except.ok.inj ((outcome_closeList_none hlist).symm.trans htake)
          exact hrefl
      | some l =>
          by_cases hdepth : 0 < l.depth
          · obtain rfl := Except.ok.inj ((outcome_closeList_inner hlist hdepth).symm.trans htake)
            exact hrefl
          · have hdepth : l.depth = 0 := by omega
            obtain rfl := Except.ok.inj ((outcome_closeList_outer hlist hdepth).symm.trans htake)
            exact OpenBlock.extends_of_eq rfl
  | listItemOpen =>
      obtain rfl := Logged.pure_ok_iff.mp htake
      exact d.extends_breakParagraph.trans (OpenBlock.extends_append _ _)
  | listItemClose =>
      obtain rfl := Logged.pure_ok_iff.mp htake
      unfold Draft.closeItem
      split
      · exact hrefl
      · exact d.block.extends_append "\n"
  | tableOpen =>
      obtain rfl := Logged.pure_ok_iff.mp htake
      rw [h.openTable_eq]
      exact d.extends_breakParagraph
  | tableClose =>
      obtain rfl := Except.ok.inj ((outcome_closeTable_none h.table).symm.trans htake)
      exact hrefl
  | tableRowOpen =>
      obtain rfl := Logged.pure_ok_iff.mp htake
      exact hrefl
  | tableRowClose =>
      obtain rfl := Logged.pure_ok_iff.mp htake
      rw [h.closeRow_eq]
      exact d.extends_breakParagraph
  | tableCellOpen =>
      obtain rfl := Logged.pure_ok_iff.mp htake
      unfold Draft.openCell
      simp only [h.mode]
      split
      · exact hrefl
      · exact d.block.extends_append "\t"
  | tableCellClose =>
      obtain rfl := Except.ok.inj (h.outcome_closeCell.symm.trans htake)
      exact hrefl
  | fencedCode info content =>
      obtain rfl := Except.ok.inj ((outcome_takeCode skipComment d info content).symm.trans htake)
      exact d.extends_breakParagraph.trans
        ((extends_withCode d.breakParagraph _).trans (extends_breakParagraph _))
  | inlineCode s =>
      obtain rfl := Except.ok.inj ((outcome_takeInlineCode skipComment d s).symm.trans htake)
      exact extends_withCode d s
  | htmlBlock html =>
      obtain rfl := takeHtmlBlock_skipComment htake
      exact hrefl
  | htmlInline html => exact OpenBlock.extends_of_eq (rawText_takeInlineHtml htake)
  | horizontalRule =>
      obtain rfl := Except.ok.inj (h.outcome_takeRule.symm.trans htake)
      exact d.extends_breakParagraph
  | softBreak | hardBreak =>
      obtain rfl := Logged.pure_ok_iff.mp htake
      exact d.block.extends_append _

theorem Noted.started (h : d.Noted text) : Noted { d with started := true } text :=
  ⟨h.mode, h.table, h.text⟩

theorem Noted.take (h : d.Noted text) {t : Token}
    (htake : (d.take skipComment t).outcome = .ok d') : ∃ more, d'.Noted (text ++ more) := by
  obtain ⟨more, hmore⟩ := h.extends_take htake
  have hjotted := h.jotted.take htake
  exact ⟨more, hjotted.mode, hjotted.table, by rw [hmore, h.text]⟩

/-- A token of running text writes its text. -/
theorem Noted.take_inline (h : d.Noted text) {t : Token} (ht : t.isInline = true)
    (htake : (d.take skipComment t).outcome = .ok d') : d'.Noted (text ++ t.noteText) := by
  have hjotted := h.jotted.take htake
  refine ⟨hjotted.mode, hjotted.table, ?_⟩
  rw [← h.text]
  cases t with
  | text s | emoji shortcode s | softBreak | hardBreak =>
      obtain rfl := Logged.pure_ok_iff.mp htake
      rfl
  | emphasisOpen | strongOpen | strikethroughOpen | linkOpen href =>
      obtain rfl := Logged.pure_ok_iff.mp htake
      exact String.append_empty.symm
  | emphasisClose | strongClose | strikethroughClose | linkClose =>
      obtain rfl := Except.ok.inj ((outcome_closeStyle d none).symm.trans htake)
      exact (OpenBlock.rawText_endStyle _ _).trans String.append_empty.symm
  | image src alt =>
      obtain rfl := Logged.pure_ok_iff.mp htake
      have himage : d.addImage src alt = d.append alt := by simp only [addImage, h.mode]
      rw [himage]
      rfl
  | inlineCode s =>
      obtain rfl := Except.ok.inj ((outcome_takeInlineCode skipComment d s).symm.trans htake)
      exact OpenBlock.rawText_endStyle _ none
  | htmlInline html => exact (rawText_takeInlineHtml htake).trans String.append_empty.symm
  | _ => cases ht

/-! ### What a comment refuses -/

theorem exists_takeHtmlBlock_skipComment (d : Draft) (html : String) :
    (∃ d', (d.takeHtmlBlock skipComment html).outcome = .ok d') ↔
      (Token.htmlBlock html).ParsableHtml := by
  constructor
  · rintro ⟨d', htake⟩
    obtain ⟨bodies, hbodies, -⟩ := Logged.bind_ok_iff.mp htake
    exact ⟨bodies, hbodies⟩
  · rintro ⟨bodies, hbodies⟩
    refine ⟨d, Logged.bind_ok_iff.mpr ⟨bodies, hbodies, ?_⟩⟩
    cases bodies with
    | none => rfl
    | some bodies =>
        show (d.takeComments skipComment bodies).outcome = .ok d
        rw [takeComments_skipComment]
        rfl

theorem exists_takeInlineHtml_skipComment (d : Draft) (html : String) :
    (∃ d', (d.takeInlineHtml skipComment html).outcome = .ok d') ↔
      (Token.htmlInline html).ParsableHtml := by
  constructor
  · rintro ⟨d', htake⟩
    obtain ⟨fragment, hparse, -⟩ := Logged.bind_ok_iff.mp htake
    exact ⟨fragment, hparse⟩
  · rintro ⟨fragment, hparse⟩
    cases fragment with
    | closing tag =>
        exact ⟨_, Logged.bind_ok_iff.mpr ⟨_, hparse, outcome_closeStyle d (some tag)⟩⟩
    | _ => exact ⟨_, Logged.bind_ok_iff.mpr ⟨_, hparse, rfl⟩⟩

/-- A comment refuses HTML that cannot be parsed, and but for lists nothing else. -/
theorem Noted.exists_take_iff (h : d.Noted text) {t : Token} (ht : t.opensList = false) :
    (∃ d', (d.take skipComment t).outcome = .ok d') ↔ t.ParsableHtml := by
  cases t with
  | htmlBlock html => exact exists_takeHtmlBlock_skipComment d html
  | htmlInline html => exact exists_takeInlineHtml_skipComment d html
  | listOpen kind => cases ht
  | headingClose level =>
      exact iff_of_true ⟨_, outcome_closeHeading_text (h.isSlideHeading_eq level)⟩ trivial
  | paragraphOpen attributes => exact iff_of_true ⟨d, h.outcome_openParagraph attributes⟩ trivial
  | emphasisClose | strongClose | strikethroughClose | linkClose =>
      exact iff_of_true ⟨_, outcome_closeStyle d none⟩ trivial
  | listClose kind =>
      refine iff_of_true ?_ trivial
      cases hlist : d.list with
      | none => exact ⟨_, outcome_closeList_none hlist⟩
      | some l =>
          rcases Nat.eq_zero_or_pos l.depth with hdepth | hdepth
          · exact ⟨_, outcome_closeList_outer hlist hdepth⟩
          · exact ⟨_, outcome_closeList_inner hlist hdepth⟩
  | tableCellClose => exact iff_of_true ⟨d, h.outcome_closeCell⟩ trivial
  | tableClose => exact iff_of_true ⟨d, outcome_closeTable_none h.table⟩ trivial
  | fencedCode info content =>
      exact iff_of_true ⟨_, outcome_takeCode skipComment d info content⟩ trivial
  | inlineCode s => exact iff_of_true ⟨_, outcome_takeInlineCode skipComment d s⟩ trivial
  | horizontalRule => exact iff_of_true ⟨_, h.outcome_takeRule⟩ trivial
  | _ => exact iff_of_true ⟨_, rfl⟩ trivial

/-! ### Runs -/

/-- In a comment some tokens make of every text that was written before them a certain other one. -/
def Continue (tokens : List Token) (f : String → String) : Prop :=
  ∀ ⦃d d' : Draft⦄ ⦃text : String⦄, d.Noted text →
    (d.run skipComment tokens).outcome = .ok d' → d'.Noted (f text)

variable {tokens tokens' : List Token} {f f' : String → String}

theorem continue_nil : Continue [] id := by
  intro d d' text h hrun
  obtain rfl := Logged.pure_ok_iff.mp hrun
  exact h

theorem continue_single {t : Token} (htake : ∀ ⦃d d' : Draft⦄ ⦃text : String⦄, d.Noted text →
    (d.take skipComment t).outcome = .ok d' → d'.Noted (f text)) : Continue [t] f := by
  intro d d' text h hrun
  obtain ⟨d₁, htaken, hrest⟩ := run_cons_ok_iff.mp hrun
  obtain rfl := Logged.pure_ok_iff.mp hrest
  exact (htake h htaken).started

theorem Continue.append (h : Continue tokens f) (h' : Continue tokens' f') :
    Continue (tokens ++ tokens') (f' ∘ f) := by
  intro d d' text hd hrun
  rw [run, List.foldlM_append] at hrun
  obtain ⟨d₁, hfirst, hrest⟩ := Logged.bind_ok_iff.mp hrun
  exact h' (h hd hfirst) hrest

theorem continue_flatMap {α : Type} {tokens : α → List Token} {f : String → α → String}
    (h : ∀ a, Continue (tokens a) fun s => f s a) (as : List α) :
    Continue (as.flatMap tokens) fun s => as.foldl f s := by
  induction as with
  | nil => exact continue_nil
  | cons a as ih =>
      rw [List.flatMap_cons]
      exact (h a).append ih

/-- Whatever tokens stand in a comment, they write on. -/
theorem Noted.run (h : d.Noted text) (hrun : (d.run skipComment tokens).outcome = .ok d') :
    ∃ more, d'.Noted (text ++ more) := by
  induction tokens generalizing d text with
  | nil =>
      obtain rfl := Logged.pure_ok_iff.mp hrun
      exact ⟨"", by rwa [String.append_empty]⟩
  | cons t tokens ih =>
      obtain ⟨d₁, htake, hrest⟩ := run_cons_ok_iff.mp hrun
      obtain ⟨more, hmore⟩ := h.take htake
      obtain ⟨more', hmore'⟩ := ih hmore.started hrest
      exact ⟨more ++ more', by rwa [← String.append_assoc]⟩

/-- Tokens that open no list run through exactly if their HTML can be parsed. -/
theorem Noted.exists_run_iff (h : d.Noted text) (hlists : ∀ t ∈ tokens, t.opensList = false) :
    (∃ d', (d.run skipComment tokens).outcome = .ok d') ↔ ∀ t ∈ tokens, t.ParsableHtml := by
  induction tokens generalizing d text with
  | nil => exact iff_of_true ⟨d, rfl⟩ (List.forall_mem_nil _)
  | cons t tokens ih =>
      rw [List.forall_mem_cons] at hlists
      rw [List.forall_mem_cons, ← h.exists_take_iff hlists.1]
      constructor
      · rintro ⟨d', hrun⟩
        obtain ⟨d₁, htake, hrest⟩ := run_cons_ok_iff.mp hrun
        obtain ⟨more, hmore⟩ := h.take htake
        exact ⟨⟨d₁, htake⟩, (ih hmore.started hlists.2).mp ⟨d', hrest⟩⟩
      · rintro ⟨⟨d₁, htake⟩, hread⟩
        obtain ⟨more, hmore⟩ := h.take htake
        obtain ⟨d', hrest⟩ := (ih hmore.started hlists.2).mpr hread
        exact ⟨d', run_cons_ok_iff.mpr ⟨d₁, htake, hrest⟩⟩

end Draft

end SlideDeck

/-
The words of a comment.

The tokens of a comment are taken by the same rules as those of a document, but all of them write
in one block: headings and tables do not take the text for themselves, rules part no slides, and
images have their description written.  What is written besides the tokens is white space.  So the
text that a comment comes to has the words of its tokens, all of them and in order, however the
tokens are nested.
-/
import SlideDeck.Proofs.Draft.Words

namespace SlideDeck

/-- The words that a token adds to the text of a comment. -/
def Token.noteWords : Token → List Char
  | .image _ alt => Text.squeeze alt.toList
  | t => t.words

namespace OpenBlock

/-! ### The words of a block -/

/-- The words of a block that is being written. -/
def words (b : OpenBlock) : List Char := b.text.words

variable (b : OpenBlock)

@[simp] theorem words_append (s : String) :
    (b.append s).words = b.words ++ Text.squeeze s.toList := by
  show Text.squeeze (b.text.rawText ++ s).toList = _
  rw [String.toList_append, Text.squeeze_append]
  rfl

theorem words_append_blank {s : String} (h : ∀ c ∈ s.toList, Text.isBlank c = true) :
    (b.append s).words = b.words := by
  rw [words_append, Text.squeeze_of_blank h, List.append_nil]

@[simp] theorem words_breakParagraph : b.breakParagraph.words = b.words := by
  unfold breakParagraph
  split
  · rfl
  · exact b.words_append_blank (List.all_eq_true.mp rfl)

@[simp] theorem words_openStyle (style : TextStyle) (element : Option String) :
    (b.openStyle style element).words = b.words := rfl

@[simp] theorem words_endStyle (element : Option String) :
    (b.endStyle element).words = b.words := by
  unfold words TextBlock.words
  rw [rawText_endStyle]

theorem words_finish : b.text.finish.words = b.words := by
  unfold words TextBlock.words
  rw [TextBlock.toList_finish, Text.squeeze_dropEndWhile fun _ => isBlank_of_eq_newline]

end OpenBlock

namespace Draft

variable {d d' : Draft} {words more : List Char}

/-- The draft of a comment that has some words.  It never has a table. -/
structure Jotted (d : Draft) (words : List Char) : Prop where
  mode : d.mode = .notes
  table : d.table = none
  words : d.block.words = words

theorem jotted_empty : (empty .notes).Jotted [] := ⟨rfl, rfl, rfl⟩

theorem Jotted.onBlock (h : d.Jotted words) {f : OpenBlock → OpenBlock}
    (hf : (f d.block).words = d.block.words ++ more) : (d.onBlock f).Jotted (words ++ more) where
  mode := h.mode
  table := h.table
  words := by
    rw [← h.words]
    exact hf

theorem Jotted.nothing (h : d.Jotted words) : d.Jotted (words ++ []) := by
  rwa [List.append_nil]

/-- Most of what is done to a block adds no words. -/
theorem Jotted.same (h : d.Jotted words) {f : OpenBlock → OpenBlock}
    (hf : (f d.block).words = d.block.words) : (d.onBlock f).Jotted words := by
  have hjotted := h.onBlock (hf.trans (List.append_nil _).symm)
  rwa [List.append_nil] at hjotted

theorem Jotted.append (h : d.Jotted words) (s : String) :
    (d.append s).Jotted (words ++ Text.squeeze s.toList) :=
  h.onBlock (OpenBlock.words_append _ s)

theorem Jotted.blank (h : d.Jotted words) {s : String}
    (hs : ∀ c ∈ s.toList, Text.isBlank c = true) : (d.append s).Jotted words :=
  h.same (OpenBlock.words_append_blank _ hs)

theorem Jotted.breakParagraph (h : d.Jotted words) : d.breakParagraph.Jotted words :=
  h.same (OpenBlock.words_breakParagraph _)

theorem Jotted.withCode (h : d.Jotted words) (code : String) :
    (d.withCode code).Jotted (words ++ Text.squeeze code.toList) :=
  h.onBlock (by simp)

/-- Headings are paragraphs in a comment. -/
theorem Jotted.openHeading (h : d.Jotted words) (level : Nat) (attributes : Attributes) :
    (d.openHeading level attributes).Jotted words := by
  have hslide : d.isSlideHeading level = false := by simp [isSlideHeading, inDocument, h.mode]
  have hlayout : d.breakParagraph.chooseLayout (attributes.get? "layout") = d.breakParagraph := by
    unfold chooseLayout
    have hdocument : d.breakParagraph.inDocument = false := by
      simp [inDocument, h.breakParagraph.mode]
    cases attributes.get? "layout" with
    | none => rfl
    | some name => simp [hdocument]
  unfold Draft.openHeading
  simp only [hslide, Bool.false_eq_true, if_false, hlayout]
  exact h.breakParagraph.same rfl

theorem Jotted.closeHeading (h : d.Jotted words) {level : Nat}
    (hclose : (d.closeHeading level).outcome = .ok d') : d'.Jotted words := by
  have hslide : d.isSlideHeading level = false := by simp [isSlideHeading, inDocument, h.mode]
  obtain rfl := Except.ok.inj ((outcome_closeHeading_text hslide).symm.trans hclose)
  exact h.same (by simp)

theorem Jotted.openList (h : d.Jotted words) {kind : ListKind}
    (hopen : (d.openList kind).outcome = .ok d') : d'.Jotted words := by
  rcases openList_ok hopen with ⟨-, rfl⟩ | ⟨l, -, -, rfl⟩
  · exact ⟨h.mode, h.table, h.breakParagraph.words⟩
  · exact ⟨h.mode, h.table, h.words⟩

theorem Jotted.closeList (h : d.Jotted words) (hclose : d.closeList.outcome = .ok d') :
    d'.Jotted words := by
  cases hlist : d.list with
  | none =>
      obtain rfl := Except.ok.inj ((outcome_closeList_none hlist).symm.trans hclose)
      exact h
  | some l =>
      by_cases hdepth : 0 < l.depth
      · obtain rfl := Except.ok.inj ((outcome_closeList_inner hlist hdepth).symm.trans hclose)
        exact ⟨h.mode, h.table, h.words⟩
      · have hdepth : l.depth = 0 := by omega
        obtain rfl := Except.ok.inj ((outcome_closeList_outer hlist hdepth).symm.trans hclose)
        exact ⟨h.mode, h.table, h.words⟩

theorem Jotted.openItem (h : d.Jotted words) : d.openItem.Jotted words := by
  refine h.breakParagraph.blank fun c hc => ?_
  rw [String.toList_ofList] at hc
  rw [(List.mem_replicate.mp hc).2]
  rfl

theorem Jotted.closeItem (h : d.Jotted words) : d.closeItem.Jotted words := by
  unfold Draft.closeItem
  split
  · exact h
  · exact h.blank (List.all_eq_true.mp rfl)

/-- Tables are paragraphs with tabs in a comment. -/
theorem Jotted.openCell (h : d.Jotted words) : d.openCell.Jotted words := by
  unfold Draft.openCell
  simp only [h.mode]
  split
  · exact h
  · exact h.blank (List.all_eq_true.mp rfl)

theorem takeComments_skipComment (d : Draft) (bodies : List String) :
    d.takeComments skipComment bodies = pure d := by
  unfold takeComments
  induction bodies with
  | nil => rfl
  | cons body bodies ih =>
      rw [List.foldlM_cons, skipComment, Logged.pure_bind]
      exact ih

/-- Comments within a comment have no effect. -/
theorem takeHtmlBlock_skipComment {html : String}
    (h : (d.takeHtmlBlock skipComment html).outcome = .ok d') : d' = d := by
  unfold takeHtmlBlock at h
  obtain ⟨bodies, -, h⟩ := Logged.bind_ok_iff.mp h
  cases bodies with
  | none =>
      obtain ⟨_, -, h⟩ := Logged.bind_ok_iff.mp h
      exact (Logged.pure_ok_iff.mp h).symm
  | some bodies =>
      simp only [takeComments_skipComment] at h
      exact (Logged.pure_ok_iff.mp h).symm

theorem Jotted.takeInlineHtml (h : d.Jotted words) {html : String}
    (htake : (d.takeInlineHtml skipComment html).outcome = .ok d') : d'.Jotted words := by
  unfold Draft.takeInlineHtml at htake
  obtain ⟨fragment, -, htake⟩ := Logged.bind_ok_iff.mp htake
  cases fragment with
  | opening tag style =>
      obtain rfl := Logged.pure_ok_iff.mp htake
      exact h.same rfl
  | closing tag =>
      obtain rfl := Except.ok.inj ((outcome_closeStyle d (some tag)).symm.trans htake)
      exact h.same (OpenBlock.words_endStyle _ _)
  | comment body =>
      obtain rfl := Logged.pure_ok_iff.mp htake
      exact h

/-- A token of a comment adds its words, and nothing else but white space. -/
theorem Jotted.take (h : d.Jotted words) {t : Token}
    (htake : (d.take skipComment t).outcome = .ok d') : d'.Jotted (words ++ t.noteWords) := by
  cases t with
  | headingOpen level attributes =>
      obtain rfl := Logged.pure_ok_iff.mp htake
      exact (h.openHeading level attributes).nothing
  | headingClose level => exact (h.closeHeading htake).nothing
  | paragraphOpen attributes =>
      have hdocument : d.inDocument = false := by simp [inDocument, h.mode]
      have hopen : (d.openParagraph attributes).outcome = .ok d := by
        unfold openParagraph
        rw [if_neg (by simp [hdocument])]
        rfl
      obtain rfl := Except.ok.inj (hopen.symm.trans htake)
      exact h.nothing
  | paragraphClose =>
      obtain rfl := Logged.pure_ok_iff.mp htake
      exact ⟨h.mode, h.table, h.breakParagraph.nothing.words⟩
  | text s | emoji shortcode s =>
      obtain rfl := Logged.pure_ok_iff.mp htake
      exact h.append s
  | emphasisOpen | strongOpen | strikethroughOpen | linkOpen href =>
      obtain rfl := Logged.pure_ok_iff.mp htake
      exact h.nothing.same rfl
  | emphasisClose | strongClose | strikethroughClose | linkClose =>
      obtain rfl := Except.ok.inj ((outcome_closeStyle d none).symm.trans htake)
      exact h.nothing.same (OpenBlock.words_endStyle _ _)
  | image src alt =>
      obtain rfl := Logged.pure_ok_iff.mp htake
      have himage : d.addImage src alt = d.append alt := by simp only [addImage, h.mode]
      rw [himage]
      exact h.append alt
  | listOpen kind => exact (h.openList htake).nothing
  | listClose kind => exact (h.closeList htake).nothing
  | listItemOpen =>
      obtain rfl := Logged.pure_ok_iff.mp htake
      exact h.openItem.nothing
  | listItemClose =>
      obtain rfl := Logged.pure_ok_iff.mp htake
      exact h.closeItem.nothing
  | tableOpen =>
      obtain rfl := Logged.pure_ok_iff.mp htake
      have hopen : d.openTable = d.breakParagraph := by simp only [openTable, h.mode]
      rw [hopen]
      exact h.breakParagraph.nothing
  | tableClose =>
      obtain rfl := Except.ok.inj ((outcome_closeTable_none h.table).symm.trans htake)
      exact h.nothing
  | tableRowOpen =>
      obtain rfl := Logged.pure_ok_iff.mp htake
      exact ⟨h.mode, by rw [openRow, h.table, Option.map_none], h.nothing.words⟩
  | tableRowClose =>
      obtain rfl := Logged.pure_ok_iff.mp htake
      have hclose : d.closeRow = d.breakParagraph := by simp only [closeRow, h.table]
      rw [hclose]
      exact h.breakParagraph.nothing
  | tableCellOpen =>
      obtain rfl := Logged.pure_ok_iff.mp htake
      exact h.openCell.nothing
  | tableCellClose =>
      have hclose : d.closeCell.outcome = .ok d := by simp only [closeCell, h.table]; rfl
      obtain rfl := Except.ok.inj (hclose.symm.trans htake)
      exact h.nothing
  | fencedCode info content =>
      obtain rfl := Except.ok.inj ((outcome_takeCode skipComment d info content).symm.trans htake)
      have hcode := (h.breakParagraph.withCode (codeText content)).breakParagraph
      rwa [words_codeText] at hcode
  | inlineCode s =>
      obtain rfl := Except.ok.inj ((outcome_takeInlineCode skipComment d s).symm.trans htake)
      exact h.withCode s
  | htmlBlock html =>
      obtain rfl := takeHtmlBlock_skipComment htake
      exact h.nothing
  | htmlInline html => exact (h.takeInlineHtml htake).nothing
  | horizontalRule =>
      have hrule : d.takeRule.outcome = .ok d.breakParagraph := by
        simp only [takeRule, h.mode]
        rfl
      obtain rfl := Except.ok.inj (hrule.symm.trans htake)
      exact h.breakParagraph.nothing
  | softBreak | hardBreak =>
      obtain rfl := Logged.pure_ok_iff.mp htake
      exact (h.blank (List.all_eq_true.mp rfl)).nothing

theorem Jotted.run (h : d.Jotted words) {tokens : List Token}
    (hrun : (d.run skipComment tokens).outcome = .ok d') :
    d'.Jotted (words ++ tokens.flatMap Token.noteWords) := by
  induction tokens generalizing d words with
  | nil =>
      obtain rfl := Logged.pure_ok_iff.mp hrun
      exact h.nothing
  | cons t tokens ih =>
      rw [Draft.run, List.foldlM_cons] at hrun
      obtain ⟨d₁, hstep, hrest⟩ := Logged.bind_ok_iff.mp hrun
      obtain ⟨d₂, htake, hstarted⟩ := Logged.bind_ok_iff.mp hstep
      obtain rfl := Logged.pure_ok_iff.mp hstarted
      have hnext := h.take htake
      have hstarted : Jotted { d₂ with started := true } (words ++ t.noteWords) :=
        ⟨hnext.mode, hnext.table, hnext.words⟩
      rw [List.flatMap_cons, ← List.append_assoc]
      exact ih hstarted hrest

end Draft

/-- The text of a comment has the words of its tokens, in order. -/
theorem words_notesOfTokens {tokens : List Token} {text : String}
    (h : (Draft.notesOfTokens tokens).outcome = .ok text) :
    Text.squeeze text.toList = tokens.flatMap Token.noteWords := by
  obtain ⟨d, hrun, h⟩ := Logged.bind_ok_iff.mp h
  obtain rfl := Logged.pure_ok_iff.mp h
  have hjotted := Draft.jotted_empty.run hrun
  exact (OpenBlock.words_finish d.block).trans hjotted.words

end SlideDeck

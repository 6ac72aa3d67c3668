/-
Which lists are marked.

A list is marked when it is closed, on the block that then takes the text and from the offset
at which it was opened, which may be an offset of another block.  So a list that goes on over a
column paragraph or a rule is not marked before it, and after it only as far as the offset goes,
or not at all.  Where no list is cut in this way, the markers are exactly the lists.
-/
import SlideDeck.Proofs.Draft.Script

namespace SlideDeck

/-- The markers that cover a character of a block: one of the kind of the innermost list of its
letter, and none if it has no list. -/
def TextBlock.ListedAs (b : TextBlock) (s : Sheet) : Prop :=
  ∀ i, i < b.length → ∃ l, s.letters[i]? = some l ∧ b.rawText.toList[i]? = some l.char ∧
    b.kindsAt i = l.lists.kind?.toList

/-- Whether the outermost list of a letter was closed on its sheet and began at or before the
place of the letter. -/
def Sheet.Encloses (s : Sheet) (i : Nat) (l : Letter) : Prop :=
  ∃ o, l.lists.outer = some o ∧ o ∈ s.closed ∧ o.start ≤ i

/-- The characters of a block whose markers are as they should be are those in no list and those
in a list that was closed on the sheet and began at or before them. -/
def TextBlock.ListedWhereEnclosed (b : TextBlock) (s : Sheet) : Prop :=
  ∀ i, i < b.length → ∃ l, s.letters[i]? = some l ∧ b.rawText.toList[i]? = some l.char ∧
    (b.kindsAt i = l.lists.kind?.toList ↔ l.lists.kind? = none ∨ s.Encloses i l)

/-- The bodies of some slides are in a relation with those of some manuscripts. -/
def BodiesShown (R : TextBlock → Sheet → Prop) (slides : List Slide) (ms : List Manuscript) :
    Prop :=
  List.Forall₂ (fun slide m => List.Forall₂ (fun body s => R body.text s) slide.bodies m.bodies)
    slides ms

/-- Whether no rule and no column paragraph stands in a list and every list is closed, where some
lists are open already. -/
def Piece.uncut : Nat → List Piece → Bool
  | depth, [] => depth == 0
  | depth, rule :: ps => depth == 0 && uncut depth ps
  | depth, paragraph attributes _ :: ps =>
    (depth == 0 || !attributes.hasClass "column") && uncut depth ps
  | depth, listOpen _ :: ps => uncut (depth + 1) ps
  | depth, listClose _ :: ps => uncut (depth - 1) ps
  | depth, _ :: ps => uncut depth ps

/-! ### What is marked -/

theorem Sheet.markedAt_eq {s : Sheet} {i : Nat} {l : Letter} (h : s.Encloses i l) :
    s.markedAt i l = l.lists.kind? := by
  obtain ⟨o, houter, hclosed, hstart⟩ := h
  simp [markedAt, Lists.kind?, houter, hclosed, hstart]

theorem Sheet.markedAt_eq_none {s : Sheet} {i : Nat} {l : Letter} (h : ¬s.Encloses i l) :
    s.markedAt i l = none := by
  rw [markedAt, Option.map_eq_none_iff, Option.filter_eq_none_iff]
  intro o houter hmarked
  exact h ⟨o, houter, of_decide_eq_true hmarked⟩

theorem TextBlock.Renders.listedWhereEnclosed {b : TextBlock} {s : Sheet} (h : b.Renders s) :
    b.ListedWhereEnclosed s := by
  intro i hi
  obtain ⟨l, hl, hchar⟩ := h.letter hi
  refine ⟨l, hl, hchar, ?_⟩
  rw [h.marked i l hi hl]
  by_cases henclosed : s.Encloses i l
  · simp [Sheet.markedAt_eq henclosed, henclosed]
  · rw [Sheet.markedAt_eq_none henclosed]
    cases l.lists.kind? <;> simp [henclosed]

/-! ### What writing keeps -/

/-- A property of sheets that writing and changing the styles keep. -/
structure Sheet.Kept (P : Sheet → Prop) : Prop where
  write : ∀ s cs, P s → P (s.write cs)
  styles : ∀ s styles, P s → P { s with styles := styles }

namespace Sheet.Kept

variable {P : Sheet → Prop} {s : Sheet}

theorem breakParagraph (hP : Kept P) (h : P s) : P s.breakParagraph := by
  unfold Sheet.breakParagraph
  split
  · exact h
  · exact hP.write s _ h

theorem writeCode (hP : Kept P) (h : P s) (code : String) : P (s.writeCode code) :=
  hP.styles _ _ (hP.write _ _ (hP.styles _ _ h))

theorem takeInline (hP : Kept P) (h : P s) (t : Token) : P (s.takeInline t) := by
  cases t with
  | text t | emoji shortcode t => exact hP.write s t.toList h
  | softBreak => exact hP.write s [' '] h
  | hardBreak => exact hP.write s [Draft.lineBreak] h
  | inlineCode code => exact hP.writeCode h code
  | emphasisOpen | emphasisClose | strongOpen | strongClose | strikethroughOpen
  | strikethroughClose | linkOpen href | linkClose => exact hP.styles s _ h
  | htmlInline html =>
      unfold Sheet.takeInline
      simp only
      split
      · exact hP.styles s _ h
      · exact hP.styles s _ h
      · exact h
  | _ => exact h

theorem takeText (hP : Kept P) (h : P s) (content : List InlineToken) : P (s.takeText content) := by
  induction content generalizing s with
  | nil => exact h
  | cons t content ih => exact ih (hP.takeInline h t.val)

theorem takeHeading (hP : Kept P) (h : P s) (content : List InlineToken) :
    P (s.takeHeading content) :=
  hP.breakParagraph (hP.styles _ _ (hP.takeText (hP.styles _ _ (hP.breakParagraph h)) content))

theorem takeCode (hP : Kept P) (h : P s) (content : String) : P (s.takeCode content) :=
  hP.breakParagraph (hP.writeCode (hP.breakParagraph h) _)

theorem openItem (hP : Kept P) (h : P s) : P s.openItem := hP.write _ _ (hP.breakParagraph h)

theorem closeItem (hP : Kept P) (h : P s) : P s.closeItem := by
  unfold Sheet.closeItem
  split
  · exact h
  · exact hP.write s _ h

end Sheet.Kept

/-! ### Lists that are not cut -/

/-- All lists of a sheet were opened on it, and some of them are open. -/
structure Sheet.Tidy (depth : Nat) (s : Sheet) : Prop where
  depth_eq : depth = if s.lists.outer.isSome then s.lists.depth + 1 else 0
  carried : s.lists.carried = []
  begun : ∀ o, s.lists.outer = some o → o.start ≤ s.letters.length
  letters : ∀ i l, s.letters[i]? = some l → l.lists.carried = [] ∧
    ∀ o, l.lists.outer = some o → o.start ≤ i ∧ (o ∈ s.closed ∨ s.lists.outer = some o)

namespace Sheet.Tidy

variable {depth : Nat} {s : Sheet}

theorem kept (depth : Nat) : Kept (Tidy depth) := by
  refine ⟨?_, fun s styles h => ⟨h.depth_eq, h.carried, h.begun, h.letters⟩⟩
  intro s cs h
  refine ⟨h.depth_eq, h.carried, ?_, ?_⟩
  · intro o houter
    exact (h.begun o houter).trans (s.length_le_write cs)
  · intro i l hl
    rcases Sheet.letter_write hl with hl | ⟨hi, c, rfl⟩
    · exact h.letters i l hl
    · exact ⟨h.carried, fun o houter => ⟨(h.begun o houter).trans hi, Or.inr houter⟩⟩

theorem openList (h : s.Tidy depth) (kind : ListKind) : (s.openList kind).Tidy (depth + 1) := by
  have hdepth := h.depth_eq
  cases houter : s.lists.outer with
  | none =>
      have hbreak := (kept depth).breakParagraph h
      rw [Sheet.openList_outer houter]
      refine ⟨?_, h.carried, ?_, ?_⟩
      · simpa [houter] using hdepth
      · intro o ho
        cases ho
        exact Nat.le_refl _
      · intro i l hl
        obtain ⟨hcarried, hletters⟩ := hbreak.letters i l hl
        rw [Sheet.lists_breakParagraph, houter] at hletters
        refine ⟨hcarried, fun o ho => ?_⟩
        obtain ⟨hstart, hclosed⟩ := hletters o ho
        exact ⟨hstart, Or.inl (hclosed.resolve_right fun hnone => nomatch hnone)⟩
  | some o =>
      rw [Sheet.openList_inner houter]
      refine ⟨?_, h.carried, h.begun, h.letters⟩
      simpa [houter] using hdepth

theorem closeList (h : s.Tidy depth) : s.closeList.Tidy (depth - 1) := by
  have hdepth := h.depth_eq
  cases houter : s.lists.outer with
  | none =>
      rw [Sheet.closeList_none houter]
      refine ⟨?_, ?_, h.begun, h.letters⟩
      · simp [houter] at hdepth ⊢
        omega
      · simp [h.carried]
  | some o =>
      rcases Nat.eq_zero_or_pos s.lists.depth with hzero | hpos
      · rw [Sheet.closeList_outer houter hzero]
        refine ⟨?_, h.carried, fun o' ho' => (nomatch ho'), ?_⟩
        · simp [houter, hzero] at hdepth ⊢
          omega
        · intro i l hl
          obtain ⟨hcarried, hletters⟩ := h.letters i l hl
          refine ⟨hcarried, fun o' ho' => ?_⟩
          obtain ⟨hstart, hclosed | hopen⟩ := hletters o' ho'
          · exact ⟨hstart, Or.inl (List.mem_append_left _ hclosed)⟩
          · -- The letter is in the list that is closed, which so has a letter.
            obtain rfl := Option.some.inj (houter.symm.trans hopen)
            have hlt : o.start < s.letters.length :=
              hstart.trans_lt (List.getElem?_eq_some_iff.mp hl).1
            exact ⟨hstart, Or.inl (List.mem_append_right _ (by simp [hlt]))⟩
      · rw [Sheet.closeList_inner houter hpos]
        refine ⟨?_, h.carried, h.begun, h.letters⟩
        simp [houter] at hdepth ⊢
        omega

theorem outer_eq_none (h : s.Tidy 0) : s.lists.outer = none := by
  have hdepth := h.depth_eq
  cases houter : s.lists.outer with
  | none => rfl
  | some o => simp [houter] at hdepth

theorem blank {lists : Lists} (houter : lists.outer = none) (hcarried : lists.carried = []) :
    Tidy 0 { lists := lists } := by
  refine ⟨by simp [houter], hcarried, ?_, ?_⟩
  · intro o ho
    rw [houter] at ho
    cases ho
  · intro i l hl
    cases hl

/-- Where no list is open, every list of a letter is closed. -/
theorem encloses (h : s.Tidy 0) {i : Nat} {l : Letter} (hl : s.letters[i]? = some l) :
    l.lists.kind? = none ∨ s.Encloses i l := by
  obtain ⟨hcarried, hletters⟩ := h.letters i l hl
  cases houter : l.lists.outer with
  | none => exact Or.inl (by simp [Lists.kind?, houter, hcarried])
  | some o =>
      obtain ⟨hstart, hclosed | hopen⟩ := hletters o houter
      · exact Or.inr ⟨o, houter, hclosed, hstart⟩
      · rw [h.outer_eq_none] at hopen
        cases hopen

end Sheet.Tidy

theorem Sheet.Tidy.listedAs {b : TextBlock} {s : Sheet} (h : s.Tidy 0) (hrenders : b.Renders s) :
    b.ListedAs s := by
  intro i hi
  obtain ⟨l, hl, hchar, hlisted⟩ := hrenders.listedWhereEnclosed i hi
  exact ⟨l, hl, hchar, hlisted.mpr (h.encloses hl)⟩

namespace Manuscript

/-- All columns are tidy, and no list is open in those that are complete. -/
structure Tidy (depth : Nat) (m : Manuscript) : Prop where
  columns : ∀ s ∈ m.columns, s.Tidy 0
  sheet : m.sheet.Tidy depth

variable {depth : Nat} {m : Manuscript}

theorem Tidy.turn (h : m.Tidy 0) : m.turn.Tidy 0 := by
  refine ⟨?_, .blank h.sheet.outer_eq_none h.sheet.carried⟩
  intro s hs
  rcases List.mem_append.mp hs with hs | hs
  · exact h.columns s hs
  · rw [List.mem_singleton.mp hs]
    exact h.sheet

theorem Tidy.next (h : m.Tidy 0) : m.next.Tidy 0 := by
  refine ⟨fun s hs => (nomatch hs), .blank rfl ?_⟩
  show (m.sheet.lists.outer.map _).getD [] ++ m.sheet.lists.carried = []
  rw [h.sheet.outer_eq_none, h.sheet.carried]
  rfl

theorem Tidy.paragraph (h : m.Tidy depth) {attributes : Attributes}
    (huncut : (depth == 0 || !attributes.hasClass "column") = true)
    (content : List InlineToken) : (m.take (.paragraph attributes content)).Tidy depth := by
  have hturn : Tidy depth (if attributes.hasClass "column" then m.turn else m) := by
    split
    · rename_i hcolumn
      obtain rfl : depth = 0 := by simpa [hcolumn] using huncut
      exact h.turn
    · exact h
  have hkept := Sheet.Tidy.kept depth
  exact ⟨hturn.columns, hkept.breakParagraph (hkept.takeText hturn.sheet content)⟩

theorem Tidy.heading (h : m.Tidy depth) (level : Nat) (positive : 0 < level)
    (attributes : Attributes) (content : List InlineToken) :
    (m.take (.heading level positive attributes content)).Tidy depth := by
  rw [take]
  split
  · exact ⟨h.columns, h.sheet⟩
  · split
    · exact ⟨h.columns, h.sheet⟩
    · exact ⟨h.columns, (Sheet.Tidy.kept depth).takeHeading h.sheet content⟩

/-- In a document that cuts no list, every manuscript is tidy in the end. -/
theorem tidy_written {ps : List Piece} (h : m.Tidy depth) (huncut : Piece.uncut depth ps = true) :
    ∀ m' ∈ m.written ps, m'.Tidy 0 := by
  induction ps generalizing m depth with
  | nil =>
      intro m' hm'
      rw [List.mem_singleton.mp hm']
      obtain rfl : depth = 0 := eq_of_beq huncut
      exact h
  | cons p ps ih =>
      cases p with
      | rule =>
          obtain ⟨hdepth, huncut⟩ := Bool.and_eq_true_iff.mp huncut
          obtain rfl : depth = 0 := eq_of_beq hdepth
          intro m' hm'
          rcases List.mem_cons.mp hm' with rfl | hm'
          · exact h
          · exact ih h.next huncut m' hm'
      | paragraph attributes content =>
          obtain ⟨hcolumn, huncut⟩ := Bool.and_eq_true_iff.mp huncut
          exact ih (h.paragraph hcolumn content) huncut
      | heading level positive attributes content =>
          exact ih (h.heading level positive attributes content) huncut
      | listOpen kind => exact ih ⟨h.columns, h.sheet.openList kind⟩ huncut
      | listClose kind => exact ih ⟨h.columns, h.sheet.closeList⟩ huncut
      | inline t => exact ih ⟨h.columns, (Sheet.Tidy.kept depth).takeInline h.sheet t.val⟩ huncut
      | code info content =>
          exact ih ⟨h.columns, (Sheet.Tidy.kept depth).takeCode h.sheet content⟩ huncut
      | itemOpen => exact ih ⟨h.columns, (Sheet.Tidy.kept depth).openItem h.sheet⟩ huncut
      | itemClose => exact ih ⟨h.columns, (Sheet.Tidy.kept depth).closeItem h.sheet⟩ huncut
      | table rows => exact ih ⟨h.columns, h.sheet⟩ huncut
      | html s => exact ih h huncut

theorem tidy_manuscripts {ps : List Piece} (huncut : Piece.uncut 0 ps = true) :
    ∀ m ∈ manuscripts ps, m.Tidy 0 := by
  have hempty : Tidy 0 {} := ⟨fun s hs => (nomatch hs), .blank rfl rfl⟩
  by_cases hrule : ∃ rest, ps = .rule :: rest
  · obtain ⟨rest, rfl⟩ := hrule
    exact tidy_written hempty (Bool.and_eq_true_iff.mp huncut).2
  · have hwritten : manuscripts ps = written {} ps := by
      cases ps with
      | nil => rfl
      | cons p ps => exact manuscripts_cons (fun hp => hrule ⟨ps, by rw [hp]⟩) ps
    rw [hwritten]
    exact tidy_written hempty huncut

theorem Tidy.bodies (h : m.Tidy 0) : ∀ s ∈ m.bodies, s.Tidy 0 := by
  intro s hs
  rcases List.mem_append.mp hs with hs | hs
  · exact h.columns s hs
  · split at hs
    · cases hs
    · rw [List.mem_singleton.mp hs]
      exact h.sheet

end Manuscript

/-! ### The theorem -/

/--
**Which lists are marked.**  If a document with properly nested tokens compiles, the markers of
a body say for a character whether it was written in a list, once and with the right kind,
exactly if it was in none or its outermost list was closed on the same block and began at or
before it.  So if no rule and no column paragraph stands in a list, and every list is closed,
they say so for every character.
-/
theorem kindsAt_compileTokens {ps : List Piece} {slides : List Slide}
    (h : (compileTokens (ps.flatMap Piece.tokens)).outcome = .ok slides) :
    BodiesShown TextBlock.ListedWhereEnclosed slides (manuscripts ps) ∧
      (Piece.uncut 0 ps = true → BodiesShown TextBlock.ListedAs slides (manuscripts ps)) := by
  have hshown := shown_compileTokens h
  constructor
  · refine List.Forall₂.imp (fun slide m hslide => ?_) hshown
    exact hslide.bodies.imp fun body s hrenders => hrenders.listedWhereEnclosed
  · intro huncut
    refine forall₂_of_forall_mem hshown (Manuscript.tidy_manuscripts huncut) ?_
    intro slide m hm hslide
    exact forall₂_of_forall_mem hslide.bodies hm.bodies fun body s hs => hs.listedAs

/-- A list with a list in it, after a paragraph and before a rule. -/
def wholeList : List Piece :=
  [.paragraph .empty (runningText [.text "x"]), .listOpen .ordered, .itemOpen,
    .paragraph .empty (runningText [.text "a"]), .listOpen .ordered, .itemOpen,
    .paragraph .empty (runningText [.text "b"]), .itemClose, .listClose .ordered, .itemClose,
    .listClose .ordered, .rule]

/-- A list whose only item is parted by a column paragraph. -/
def cutList : List Piece :=
  [.paragraph .empty (runningText [.text "x"]), .listOpen .unordered, .itemOpen,
    .paragraph .empty (runningText [.text "a"]), .paragraph ⟨none, ["column"], []⟩ [],
    .paragraph .empty (runningText [.text "bcd"]), .itemClose, .listClose .unordered]

theorem kindsAt_wholeList :
    (∃ slides, (compileTokens (wholeList.flatMap Piece.tokens)).outcome = .ok slides ∧
      Piece.uncut 0 wholeList = true ∧
      BodiesShown TextBlock.ListedAs slides (manuscripts wholeList) ∧
      slides.map (fun s => s.bodies.map fun b => (List.range 6).map (b.text.kindsAt ·)) =
        [[[[], [], [.ordered], [.ordered], [.ordered], [.ordered]]], []]) ∧
    ∃ slides, (compileTokens (cutList.flatMap Piece.tokens)).outcome = .ok slides ∧
      BodiesShown TextBlock.ListedWhereEnclosed slides (manuscripts cutList) :=
  ⟨⟨_, rfl, rfl, (kindsAt_compileTokens rfl).2 rfl, rfl⟩,
    ⟨_, rfl, (kindsAt_compileTokens rfl).1⟩⟩

/-- Of a list that is cut the first part is not marked, and the second one not from its start. -/
theorem cutList_not_listedAs :
    ∃ slides, (compileTokens (cutList.flatMap Piece.tokens)).outcome = .ok slides ∧
      slides.map (fun s => s.bodies.map fun b => (List.range 3).map (b.text.kindsAt ·)) =
        [[[[], [], []], [[], [], [.unordered]]]] ∧
      ¬BodiesShown TextBlock.ListedAs slides (manuscripts cutList) := by
  refine ⟨_, rfl, rfl, fun h => ?_⟩
  cases h with
  | cons hslide _ =>
      cases hslide with
      | cons hbody _ =>
          obtain ⟨l, hl, -, hkinds⟩ := hbody 2 (by decide)
          cases hl
          exact absurd hkinds (by decide)

end SlideDeck

/-
When a block says what a sheet says.

A block reads a sheet if it spells the same characters, if runs and open styles together give
every character the styles of its letter, and if markers give it the list of its letter as far
as they can: the marker of a list is made when the list is closed, from where the list was
opened, so it reaches only letters on the sheet that the list is closed on, and of those only
letters from that place on.  Every rule for blocks keeps this, and so does sealing.
-/
import SlideDeck.Proofs.Draft.Coverage
import SlideDeck.Proofs.Draft.Sheet

namespace SlideDeck

/-- The kind of list that is marked at a letter, if its list was closed on this sheet and began
at or before the place of the letter. -/
def Sheet.markedAt (s : Sheet) (i : Nat) (l : Letter) : Option ListKind :=
  (l.lists.outer.filter fun o => o ∈ s.closed ∧ o.start ≤ i).map (·.kind)

/-! ### The relation -/

namespace OpenBlock

/-- The styles of a block are those of a sheet.  Styles that set nothing may lie under them. -/
structure Styled (b : OpenBlock) (s : Sheet) : Prop where
  bounded : b.Bounded
  opened : ∃ under, b.styles.map (fun o => (o.element, o.style)) = s.styles ++ under ∧
    ∀ u ∈ under, u.2.isEmpty = true
  styled : ∀ i l, s.letters[i]? = some l → (b.stylesAt i).Perm l.styles

/-- The markers of a block and the list that is open are those of a sheet. -/
structure Itemized (markers : List ListMarker) (list : Option OpenList) (s : Sheet) : Prop where
  ongoing : list = s.lists.outer.map fun o => ⟨o.kind, s.lists.depth, o.start⟩
  stopped : ∀ m ∈ markers, m.stop ≤ s.letters.length
  marked : ∀ i l, s.letters[i]? = some l →
    markers.filterMap (·.kindAt i) = (s.markedAt i l).toList
  /-- The letters from where the open list began are all in it. -/
  inside : ∀ o, s.lists.outer = some o →
    ∀ i l, s.letters[i]? = some l → o.start ≤ i → l.lists.outer = some o
  /-- A list that was closed began before the end of the text. -/
  begun : ∀ c ∈ s.closed, c.start < s.letters.length
  /-- A list that was closed began before the one that is open. -/
  earlier : ∀ o, s.lists.outer = some o → ∀ c ∈ s.closed, c.start < o.start

/-- A block, with the list that is open, reads a sheet. -/
structure Reads (b : OpenBlock) (list : Option OpenList) (s : Sheet) : Prop where
  spelled : b.text.rawText.toList = s.letters.map (·.char)
  styles : b.Styled s
  items : Itemized b.text.listMarkers list s

variable {b : OpenBlock} {list : Option OpenList} {s : Sheet}

theorem Reads.length_eq (h : b.Reads list s) : b.text.length = s.letters.length := by
  have hlength := congrArg List.length h.spelled
  rwa [List.length_map] at hlength

theorem Reads.lt_length (h : b.Reads list s) {i : Nat} {l : Letter}
    (hl : s.letters[i]? = some l) : i < b.text.length := by
  rw [h.length_eq]
  exact (List.getElem?_eq_some_iff.mp hl).1

/-- An empty block reads every sheet on which nothing is written. -/
theorem reads_empty (h : list = s.lists.outer.map fun o => ⟨o.kind, s.lists.depth, o.start⟩)
    (hletters : s.letters = []) (hstyles : s.styles = []) (hclosed : s.closed = []) :
    OpenBlock.empty.Reads list s := by
  refine ⟨?_, ⟨⟨?_, ?_, ?_⟩, ⟨[], ?_, ?_⟩, ?_⟩, h, ?_, ?_, ?_, ?_, ?_⟩
  all_goals simp [hletters, hstyles, hclosed, OpenBlock.empty, TextBlock.empty]

/-! ### Writing -/

/-- What is written next gets the styles that are open on the sheet. -/
theorem Styled.next (h : b.Styled s) {i : Nat} (hi : b.text.length ≤ i) :
    b.stylesAt i = (s.styles.map (·.2)).filter (!·.isEmpty) := by
  obtain ⟨under, hopened, hunder⟩ := h.opened
  have hstyles : b.styles.map (·.style) = (s.styles ++ under).map (·.2) := by
    rw [← hopened, List.map_map]
    rfl
  have hnone : (under.map (·.2)).filter (!·.isEmpty) = [] := by
    refine List.filter_eq_nil_iff.mpr fun style hstyle => ?_
    obtain ⟨u, hu, rfl⟩ := List.mem_map.mp hstyle
    simp [hunder u hu]
  rw [stylesAt_of_length_le h.bounded hi, hstyles, List.map_append, List.filter_append, hnone,
    List.append_nil]

theorem Styled.write (h : b.Styled s) (hlength : b.text.length = s.letters.length) (t : String) :
    (b.append t).Styled (s.write t.toList) := by
  refine ⟨h.bounded.append t, h.opened, ?_⟩
  intro i l hl
  rcases Sheet.letter_write hl with hl | ⟨hi, c, rfl⟩
  · exact h.styled i l hl
  · have hnext : (b.append t).stylesAt i = (s.letter c).styles := h.next (hlength ▸ hi)
    rw [hnext]

theorem Itemized.write {markers : List ListMarker} (h : Itemized markers list s) (cs : List Char) :
    Itemized markers list (s.write cs) := by
  have hle := s.length_le_write cs
  refine ⟨h.ongoing, fun m hm => (h.stopped m hm).trans hle, ?_, ?_,
    fun c hc => (h.begun c hc).trans_le hle, h.earlier⟩
  · intro i l hl
    rcases Sheet.letter_write hl with hl | ⟨hi, c, rfl⟩
    · exact h.marked i l hl
    · -- No marker reaches a new letter, and its list is not closed yet.
      have hnone : (s.write cs).markedAt i (s.letter c) = none := by
        rw [Sheet.markedAt, Option.map_eq_none_iff, Option.filter_eq_none_iff]
        intro o ho hclosed
        have hlt := h.earlier o ho o (of_decide_eq_true hclosed).1
        omega
      rw [hnone]
      refine List.filterMap_eq_nil_iff.mpr fun m hm => if_neg fun hcover => ?_
      have hstop := h.stopped m hm
      omega
  · intro o ho i l hl hi
    rcases Sheet.letter_write hl with hl | ⟨-, c, rfl⟩
    · exact h.inside o ho i l hl hi
    · exact ho

theorem Reads.write (h : b.Reads list s) (t : String) :
    (b.append t).Reads list (s.write t.toList) := by
  refine ⟨?_, h.styles.write h.length_eq t, h.items.write t.toList⟩
  show (b.text.rawText ++ t).toList = _
  rw [String.toList_append, h.spelled, Sheet.write, List.map_append, List.map_map]
  exact congrArg _ (List.map_id' _).symm

theorem Reads.endsWithNewline_eq (h : b.Reads list s) :
    b.text.endsWithNewline = s.endsWithNewline := by
  unfold TextBlock.endsWithNewline Sheet.endsWithNewline
  rw [h.spelled, List.getLast?_map]
  cases s.letters.getLast? <;> rfl

theorem Reads.atParagraphStart_eq (h : b.Reads list s) :
    b.atParagraphStart = (s.letters.isEmpty || s.endsWithNewline) := by
  have hempty : b.text.isEmpty = s.letters.isEmpty := by
    rw [Bool.eq_iff_iff, TextBlock.isEmpty, String.isEmpty_iff, List.isEmpty_iff,
      ← String.toList_eq_nil_iff, h.spelled, List.map_eq_nil_iff]
  rw [atParagraphStart, hempty, h.endsWithNewline_eq]

theorem Reads.breakParagraph (h : b.Reads list s) :
    b.breakParagraph.Reads list s.breakParagraph := by
  unfold OpenBlock.breakParagraph Sheet.breakParagraph
  rw [h.atParagraphStart_eq]
  split
  · exact h
  · exact h.write "\n"

theorem Reads.makeBig (h : b.Reads list s) : b.makeBig.Reads list s :=
  ⟨h.spelled, ⟨⟨h.styles.bounded.opened, h.styles.bounded.stopped, h.styles.bounded.set⟩,
    h.styles.opened, h.styles.styled⟩, h.items⟩

/-! ### Styles -/

theorem Reads.openStyle (h : b.Reads list s) (style : TextStyle) (element : Option String) :
    (b.openStyle style element).Reads list (s.openStyle style element) := by
  obtain ⟨under, hopened, hunder⟩ := h.styles.opened
  refine ⟨h.spelled, ⟨h.styles.bounded.openStyle style element, ⟨under, ?_, hunder⟩, ?_⟩, ?_⟩
  · show _ :: b.styles.map _ = _
    rw [hopened]
    rfl
  · intro i l hl
    rw [stylesAt_openStyle b style element (h.lt_length hl)]
    exact h.styles.styled i l hl
  · exact ⟨h.items.ongoing, h.items.stopped, h.items.marked, h.items.inside, h.items.begun,
      h.items.earlier⟩

/-- A style that sets nothing may be opened without the sheet, where the sheet has none open. -/
theorem Reads.openUnder (h : b.Reads list s) {style : TextStyle} (hempty : style.isEmpty = true)
    (hstyles : s.styles = []) (element : Option String) :
    (b.openStyle style element).Reads list s := by
  have hopen := h.openStyle style element
  obtain ⟨under, hopened, hunder⟩ := h.styles.opened
  refine ⟨hopen.spelled, ⟨hopen.styles.bounded, ⟨(element, style) :: under, ?_, ?_⟩,
    hopen.styles.styled⟩, h.items⟩
  · show _ :: b.styles.map _ = _
    rw [hopened, hstyles]
    rfl
  · intro u hu
    rcases List.mem_cons.mp hu with rfl | hu
    · exact hempty
    · exact hunder u hu

theorem rawText_endStyle (b : OpenBlock) (element : Option String) :
    (b.endStyle element).text.rawText = b.text.rawText := by
  rcases endStyle_cases b element with ⟨-, hend⟩ | ⟨inner, o, outer, -, -, hend⟩
  · rw [hend]
  · rw [hend, rawText_addRun]

theorem listMarkers_endStyle (b : OpenBlock) (element : Option String) :
    (b.endStyle element).text.listMarkers = b.text.listMarkers := by
  rcases endStyle_cases b element with ⟨-, hend⟩ | ⟨inner, o, outer, -, -, hend⟩
  · rw [hend]
  · rw [hend, listMarkers_addRun]

theorem Reads.endStyle (h : b.Reads list s) (element : Option String) :
    (b.endStyle element).Reads list (s.closeStyle element) := by
  obtain ⟨under, hopened, hunder⟩ := h.styles.opened
  have hstyles : (b.endStyle element).styles.map (fun o => (o.element, o.style)) =
      (s.styles ++ under).eraseP (·.1 == element) := by
    rw [styles_endStyle, ← hopened, List.eraseP_map]
    rfl
  refine ⟨?_, ⟨h.styles.bounded.endStyle element, ?_, ?_⟩, ?_⟩
  · rw [rawText_endStyle]
    exact h.spelled
  · -- What is closed is one of the sheet's own styles, or one that lies under them.
    rw [hstyles, List.eraseP_append]
    split
    · exact ⟨under, rfl, hunder⟩
    · rename_i hnone
      refine ⟨under.eraseP (·.1 == element), ?_, fun u hu => hunder u (List.mem_of_mem_eraseP hu)⟩
      have hkeep : s.styles.eraseP (·.1 == element) = s.styles :=
        List.eraseP_of_forall_not fun u hu heq => hnone (List.any_eq_true.mpr ⟨u, hu, heq⟩)
      rw [Sheet.closeStyle, hkeep]
  · intro i l hl
    exact (stylesAt_endStyle b element (h.lt_length hl)).trans (h.styles.styled i l hl)
  · rw [listMarkers_endStyle]
    exact ⟨h.items.ongoing, h.items.stopped, h.items.marked, h.items.inside, h.items.begun,
      h.items.earlier⟩

theorem Reads.writeCode (h : b.Reads list s) (code : String) :
    (((b.openStyle Draft.codeStyle none).append code).endStyle none).Reads list
      (s.writeCode code) :=
  ((h.openStyle Draft.codeStyle none).write code).endStyle none

/-! ### Lists -/

/-- Where no list is open, a list may be opened at the end of the text. -/
theorem Itemized.openOuter {markers : List ListMarker} (h : Itemized markers none s)
    (kind : ListKind) :
    Itemized markers (some ⟨kind, 0, s.letters.length⟩)
      { s with lists := { s.lists with outer := some ⟨kind, s.letters.length⟩, depth := 0 } } := by
  refine ⟨rfl, h.stopped, h.marked, ?_, h.begun, ?_⟩
  · intro o ho i l hl hi
    cases ho
    exact absurd (List.getElem?_eq_some_iff.mp hl).1 (Nat.not_lt.mpr hi)
  · intro o ho c hc
    cases ho
    exact h.begun c hc

/-- A list within a list only changes how many there are. -/
theorem Itemized.deepen {markers : List ListMarker} {o : OuterList} (h : Itemized markers list s)
    (houter : s.lists.outer = some o) (depth : Nat) :
    Itemized markers (some ⟨o.kind, depth, o.start⟩)
      { s with lists := { s.lists with depth := depth } } := by
  refine ⟨?_, h.stopped, h.marked, h.inside, h.begun, h.earlier⟩
  show _ = s.lists.outer.map _
  rw [houter]
  rfl

/-- The letters from where an outermost list began are marked when it is closed. -/
theorem Itemized.closeOuter {markers : List ListMarker} {o : OuterList}
    (h : Itemized markers list s) (houter : s.lists.outer = some o) :
    Itemized (markers ++ [⟨o.start, s.letters.length, o.kind⟩]) none { s with
      lists := { s.lists with outer := none }
      closed := s.closed ++ if o.start < s.letters.length then [o] else [] } := by
  have hopen : o ∉ s.closed := fun hmem => Nat.lt_irrefl _ (h.earlier o houter o hmem)
  refine ⟨rfl, ?_, ?_, ?_, ?_, ?_⟩
  · intro m hm
    rcases List.mem_append.mp hm with hm | hm
    · exact h.stopped m hm
    · rw [List.mem_singleton.mp hm]
  · intro i l hl
    rw [List.filterMap_append, h.marked i l hl]
    have hlt : i < s.letters.length := (List.getElem?_eq_some_iff.mp hl).1
    by_cases hi : o.start ≤ i
    · -- The letter is in the list that is closed, which was not marked before.
      have hin := h.inside o houter i l hl hi
      simp [Sheet.markedAt, ListMarker.kindAt, Option.filter, hin, hopen, hi, hlt,
        hi.trans_lt hlt]
    · -- The list of the letter, if it has one, is another one.
      have hsame : ∀ o', o'.start ≤ i →
          (o' ∈ s.closed ++ (if o.start < s.letters.length then [o] else []) ↔
            o' ∈ s.closed) := by
        intro o' hle
        rw [List.mem_append]
        refine or_iff_left fun hmem => hi ?_
        split at hmem
        · rwa [← List.mem_singleton.mp hmem]
        · cases hmem
      cases houter' : l.lists.outer with
      | none => simp [Sheet.markedAt, ListMarker.kindAt, houter', hi]
      | some o' =>
          by_cases hle : o'.start ≤ i
          · simp only [Sheet.markedAt, houter', Option.filter, hsame o' hle]
            simp [ListMarker.kindAt, hi]
          · simp [Sheet.markedAt, ListMarker.kindAt, Option.filter, houter', hi, hle]
  · intro o' ho'
    cases ho'
  · intro c hc
    rcases List.mem_append.mp hc with hc | hc
    · exact h.begun c hc
    · split at hc
      · rename_i hlt
        rwa [List.mem_singleton.mp hc]
      · cases hc
  · intro o' ho'
    cases ho'

/-- Lists change nothing about the text and its styles. -/
theorem Reads.withLists (h : b.Reads list s) {list' : Option OpenList} {lists : Lists}
    {closed : List OuterList}
    (hitems : Itemized b.text.listMarkers list' { s with lists := lists, closed := closed }) :
    b.Reads list' { s with lists := lists, closed := closed } :=
  ⟨h.spelled, ⟨h.styles.bounded, h.styles.opened, h.styles.styled⟩, hitems⟩

theorem Reads.openOuter (h : b.Reads none s) (kind : ListKind) :
    b.breakParagraph.Reads (some ⟨kind, 0, b.breakParagraph.text.length⟩) (s.openList kind) := by
  have hbreak := h.breakParagraph
  have houter : s.lists.outer = none := Option.map_eq_none_iff.mp h.items.ongoing.symm
  rw [Sheet.openList_outer houter, ← s.lists_breakParagraph, hbreak.length_eq]
  exact hbreak.withLists (hbreak.items.openOuter kind)

theorem Reads.openInner {l : OpenList} (h : b.Reads (some l) s) (kind : ListKind) :
    b.Reads (some { l with depth := l.depth + 1 }) (s.openList kind) := by
  obtain ⟨o, houter, rfl⟩ := Option.map_eq_some_iff.mp h.items.ongoing.symm
  rw [Sheet.openList_inner houter]
  exact h.withLists (h.items.deepen houter _)

theorem Reads.closeNone (h : b.Reads none s) : b.Reads none s.closeList := by
  rw [Sheet.closeList_none (Option.map_eq_none_iff.mp h.items.ongoing.symm)]
  exact h.withLists ⟨h.items.ongoing, h.items.stopped, h.items.marked, h.items.inside,
    h.items.begun, h.items.earlier⟩

theorem Reads.closeInner {l : OpenList} (h : b.Reads (some l) s) (hdepth : 0 < l.depth) :
    b.Reads (some { l with depth := l.depth - 1 }) s.closeList := by
  obtain ⟨o, houter, rfl⟩ := Option.map_eq_some_iff.mp h.items.ongoing.symm
  rw [Sheet.closeList_inner houter hdepth]
  exact h.withLists (h.items.deepen houter _)

theorem Reads.closeOuter {l : OpenList} (h : b.Reads (some l) s) (hdepth : l.depth = 0) :
    (b.mark l.start l.kind).Reads none s.closeList := by
  obtain ⟨o, houter, rfl⟩ := Option.map_eq_some_iff.mp h.items.ongoing.symm
  rw [Sheet.closeList_outer houter hdepth, OpenBlock.mark, h.length_eq]
  exact ⟨h.spelled, ⟨⟨h.styles.bounded.opened, h.styles.bounded.stopped, h.styles.bounded.set⟩,
    h.styles.opened, h.styles.styled⟩, h.items.closeOuter houter⟩

theorem Reads.openItem (h : b.Reads list s) :
    (b.breakParagraph.append (String.ofList (List.replicate ((list.map (·.depth)).getD 0) '\t'))).Reads
      list s.openItem := by
  have hdepth : (if s.lists.outer.isSome then s.lists.depth else 0) =
      (list.map (·.depth)).getD 0 := by
    rw [h.items.ongoing]
    cases s.lists.outer <;> rfl
  have hwrite := h.breakParagraph.write
    (String.ofList (List.replicate ((list.map (·.depth)).getD 0) '\t'))
  rw [String.toList_ofList] at hwrite
  rwa [Sheet.openItem, hdepth]

end OpenBlock

/-! ### Sealing -/

/-- A block that is sealed renders a sheet: it spells its characters without the line feeds at
the end, and every character that is left has its styles and its list. -/
structure TextBlock.Renders (b : TextBlock) (s : Sheet) : Prop where
  spelled : b.rawText.toList = Text.dropEndWhile (· == '\n') (s.letters.map (·.char))
  styled : ∀ i l, i < b.length → s.letters[i]? = some l → (b.stylesAt i).Perm l.styles
  marked : ∀ i l, i < b.length → s.letters[i]? = some l → b.kindsAt i = (s.markedAt i l).toList

namespace OpenBlock

variable {b : OpenBlock} {list : Option OpenList} {s : Sheet}

theorem rawText_foldl_addRun (styles : List OpenStyle) (b : OpenBlock) :
    (styles.foldl addRun b).text.rawText = b.text.rawText := by
  induction styles generalizing b with
  | nil => rfl
  | cons s styles ih => rw [List.foldl_cons, ih, rawText_addRun]

theorem listMarkers_foldl_addRun (styles : List OpenStyle) (b : OpenBlock) :
    (styles.foldl addRun b).text.listMarkers = b.text.listMarkers := by
  induction styles generalizing b with
  | nil => rfl
  | cons s styles ih => rw [List.foldl_cons, ih, listMarkers_addRun]

/-- What is read is rendered. -/
theorem Reads.renders (h : b.Reads list s) : b.sealed.Renders s := by
  have hmarkers : b.endStyles.text.listMarkers = b.text.listMarkers :=
    listMarkers_foldl_addRun b.styles { b with styles := [] }
  refine ⟨?_, ?_, ?_⟩
  · show b.endStyles.text.finish.rawText.toList = _
    rw [TextBlock.toList_finish, ← h.spelled]
    exact congrArg (fun t : String => Text.dropEndWhile (· == '\n') t.toList)
      (rawText_foldl_addRun b.styles { b with styles := [] })
  · intro i l hi hl
    rw [stylesAt_sealed h.styles.bounded hi]
    exact h.styles.styled i l hl
  · intro i l hi hl
    show b.endStyles.text.finish.kindsAt i = _
    rw [TextBlock.kindsAt_finish _ hi, TextBlock.kindsAt, hmarkers]
    exact h.items.marked i l hl

end OpenBlock

/-- What is dropped at the end of a text is all of the class. -/
theorem exists_eq_dropEndWhile_append (p : Char → Bool) (cs : List Char) :
    ∃ rest, cs = Text.dropEndWhile p cs ++ rest ∧ ∀ c ∈ rest, p c = true :=
  ⟨cs.rtakeWhile p, List.rdropWhile_append_rtakeWhile.symm,
    fun _ hc => List.mem_rtakeWhile_imp hc⟩

/-- Every character that is left is the one of its letter. -/
theorem TextBlock.Renders.letter {b : TextBlock} {s : Sheet} (h : b.Renders s) {i : Nat}
    (hi : i < b.length) : ∃ l, s.letters[i]? = some l ∧ b.rawText.toList[i]? = some l.char := by
  obtain ⟨rest, hrest, -⟩ :=
    exists_eq_dropEndWhile_append (· == '\n') (s.letters.map (·.char))
  rw [← h.spelled] at hrest
  have hchar : (s.letters.map (·.char))[i]? = b.rawText.toList[i]? := by
    rw [hrest, List.getElem?_append_left hi]
  rw [List.getElem?_map, List.getElem?_eq_getElem hi, Option.map_eq_some_iff] at hchar
  obtain ⟨l, hl, hlchar⟩ := hchar
  exact ⟨l, hl, by rw [hlchar, List.getElem?_eq_getElem hi]⟩

theorem TextBlock.Renders.isBlank_eq {b : TextBlock} {s : Sheet} (h : b.Renders s) :
    b.isBlank = s.isBlank := by
  obtain ⟨rest, hrest, hnewline⟩ :=
    exists_eq_dropEndWhile_append (· == '\n') (s.letters.map (·.char))
  have hblank : rest.all Text.isBlank = true := by
    refine List.all_eq_true.mpr fun c hc => ?_
    rw [eq_of_beq (hnewline c hc)]
    rfl
  have hsheet : s.isBlank = (s.letters.map (·.char)).all Text.isBlank := by
    rw [List.all_map]
    rfl
  rw [hsheet, hrest, List.all_append, hblank, Bool.and_true, TextBlock.isBlank, h.spelled]

end SlideDeck

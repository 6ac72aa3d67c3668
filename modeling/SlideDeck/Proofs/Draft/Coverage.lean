/-
Which styles and lists a block gives to a character.

A style that is still open gives itself to every character from where it was opened.  When it
is closed it becomes a run, and since the run goes from there to the end of the text, the
character has the same styles as before: closing only moves a style from the open ones to the
runs.  Sealing cuts runs and markers off where the text ends, which no character that is left
can tell.
-/
import Mathlib.Data.List.Basic
import Mathlib.Data.List.DropRight
import SlideDeck.Proofs.Draft.Outcome

namespace SlideDeck

/-! ### What covers a character -/

/-- The style that a run gives to a character, if it covers it. -/
def StyleRun.styleAt (r : StyleRun) (i : Nat) : Option TextStyle :=
  if r.start ≤ i ∧ i < r.stop then some r.style else none

/-- The kind of list that a marker makes of a character, if it covers it. -/
def ListMarker.kindAt (m : ListMarker) (i : Nat) : Option ListKind :=
  if m.start ≤ i ∧ i < m.stop then some m.kind else none

/-- The style that an open style gives to a character, if it sets something. -/
def OpenStyle.styleAt (s : OpenStyle) (i : Nat) : Option TextStyle :=
  if s.start ≤ i ∧ s.style.isEmpty = false then some s.style else none

namespace TextBlock

/-- The styles of the runs that cover a character. -/
def stylesAt (b : TextBlock) (i : Nat) : List TextStyle := b.runs.filterMap (·.styleAt i)

/-- The kinds of the markers that cover a character. -/
def kindsAt (b : TextBlock) (i : Nat) : List ListKind := b.listMarkers.filterMap (·.kindAt i)

/-! ### Sealing -/

theorem bind_clampRun {r : StyleRun} (hset : r.style.isEmpty = false) {n i : Nat} (hi : i < n) :
    (clampRun n r).bind (·.styleAt i) = r.styleAt i := by
  unfold clampRun StyleRun.styleAt
  by_cases hlt : r.start < min r.stop n
  · have hcover : i < min r.stop n ↔ i < r.stop := by omega
    simp [hlt, hset, hcover]
  · have hcover : ¬(r.start ≤ i ∧ i < r.stop) := by omega
    simp [hlt, hcover]

theorem bind_clampMarker (m : ListMarker) {n i : Nat} (hi : i < n) :
    (clampMarker n m).bind (·.kindAt i) = m.kindAt i := by
  unfold clampMarker ListMarker.kindAt
  by_cases hlt : m.start < min m.stop n
  · have hcover : i < min m.stop n ↔ i < m.stop := by omega
    simp [hlt, hcover]
  · have hcover : ¬(m.start ≤ i ∧ i < m.stop) := by omega
    simp [hlt, hcover]

/-- Sealing a block keeps the styles of every character that is left. -/
theorem stylesAt_finish {b : TextBlock} (hset : ∀ r ∈ b.runs, r.style.isEmpty = false) {i : Nat}
    (hi : i < b.finish.length) : b.finish.stylesAt i = b.stylesAt i := by
  show (b.runs.filterMap (clampRun _)).filterMap _ = b.runs.filterMap _
  rw [List.filterMap_filterMap]
  exact List.filterMap_congr fun r hr => bind_clampRun (hset r hr) hi

/-- Sealing a block keeps the lists of every character that is left. -/
theorem kindsAt_finish (b : TextBlock) {i : Nat} (hi : i < b.finish.length) :
    b.finish.kindsAt i = b.kindsAt i := by
  show (b.listMarkers.filterMap (clampMarker _)).filterMap _ = b.listMarkers.filterMap _
  rw [List.filterMap_filterMap]
  exact List.filterMap_congr fun m _ => bind_clampMarker m hi

theorem toList_finish (b : TextBlock) :
    b.finish.rawText.toList = Text.dropEndWhile (· == '\n') b.rawText.toList := by
  show (trimNewlines b.rawText).toList = _
  rw [trimNewlines, String.toList_ofList]

end TextBlock

/-! ### Open styles -/

namespace OpenBlock

/-- The open styles that cover a character and set something, innermost first. -/
def openAt (styles : List OpenStyle) (i : Nat) : List TextStyle := styles.filterMap (·.styleAt i)

/-- The styles that cover a character, those of runs first. -/
def stylesAt (b : OpenBlock) (i : Nat) : List TextStyle := b.text.stylesAt i ++ openAt b.styles i

/-- No run or open style goes past the end of the text, and every run sets something. -/
structure Bounded (b : OpenBlock) : Prop where
  opened : ∀ s ∈ b.styles, s.start ≤ b.text.length
  stopped : ∀ r ∈ b.text.runs, r.stop ≤ b.text.length
  set : ∀ r ∈ b.text.runs, r.style.isEmpty = false

@[simp] theorem length_addRun (b : OpenBlock) (s : OpenStyle) :
    (b.addRun s).text.length = b.text.length := by
  unfold addRun
  split <;> rfl

@[simp] theorem styles_addRun (b : OpenBlock) (s : OpenStyle) : (b.addRun s).styles = b.styles := by
  unfold addRun
  split <;> rfl

/-- A style that becomes a run covers the characters that it covered while it was open. -/
theorem stylesAt_text_addRun (b : OpenBlock) (s : OpenStyle) {i : Nat} (hi : i < b.text.length) :
    (b.addRun s).text.stylesAt i = b.text.stylesAt i ++ (s.styleAt i).toList := by
  unfold addRun
  split
  · rename_i h
    simp only [Bool.and_eq_true, Bool.not_eq_true'] at h
    have hrun : (⟨s.start, b.text.length, s.style⟩ : StyleRun).styleAt i = s.styleAt i := by
      simp [StyleRun.styleAt, OpenStyle.styleAt, hi, h.2]
    show List.filterMap _ (_ ++ [_]) = _
    rw [List.filterMap_append, List.filterMap_cons, hrun]
    cases s.styleAt i <;> rfl
  · rename_i h
    have hnone : s.styleAt i = none := by
      refine if_neg fun hcover => h ?_
      simp only [hcover.2, Bool.not_false, Bool.and_true, decide_eq_true_eq]
      omega
    rw [hnone]
    exact (List.append_nil _).symm

theorem Bounded.addRun {b : OpenBlock} (hb : b.Bounded) (s : OpenStyle) : (b.addRun s).Bounded := by
  unfold OpenBlock.addRun
  split
  · rename_i h
    simp only [Bool.and_eq_true, decide_eq_true_eq, Bool.not_eq_true'] at h
    refine ⟨hb.opened, ?_, ?_⟩
    · intro r hr
      rcases List.mem_append.mp hr with hr | hr
      · exact hb.stopped r hr
      · rw [List.mem_singleton.mp hr]
        exact Nat.le_refl _
    · intro r hr
      rcases List.mem_append.mp hr with hr | hr
      · exact hb.set r hr
      · rw [List.mem_singleton.mp hr]
        exact h.2
  · exact hb

/-! ### Closing moves styles from the open ones to the runs -/

/-- What closing the innermost style of an element finds. -/
theorem endStyle_cases (b : OpenBlock) (element : Option String) :
    (b.styles.eraseP (isOf element) = b.styles ∧ b.endStyle element = b) ∨
    (∃ inner s outer, b.styles = inner ++ s :: outer ∧
      b.styles.eraseP (isOf element) = inner ++ outer ∧
      b.endStyle element = { b with styles := inner ++ outer }.addRun s) := by
  unfold endStyle
  cases hfind : b.styles.find? (isOf element) with
  | none =>
      refine Or.inl ⟨?_, rfl⟩
      exact List.eraseP_of_forall_not (List.find?_eq_none.mp hfind)
  | some s =>
      obtain ⟨hs, inner, outer, hstyles, hinner⟩ := List.find?_eq_some_iff_append.mp hfind
      have herase : b.styles.eraseP (isOf element) = inner ++ outer := by
        rw [hstyles, List.eraseP_append_right _ (by simpa using hinner)]
        simp [hs]
      exact Or.inr ⟨inner, s, outer, hstyles, herase, by rw [herase]⟩

theorem styles_endStyle (b : OpenBlock) (element : Option String) :
    (b.endStyle element).styles = b.styles.eraseP (isOf element) := by
  rcases endStyle_cases b element with ⟨herase, hend⟩ | ⟨inner, s, outer, -, herase, hend⟩
  · rw [hend, herase]
  · rw [hend, styles_addRun, herase]

theorem rawText_addRun (b : OpenBlock) (s : OpenStyle) :
    (b.addRun s).text.rawText = b.text.rawText := by
  unfold addRun
  split <;> rfl

theorem listMarkers_addRun (b : OpenBlock) (s : OpenStyle) :
    (b.addRun s).text.listMarkers = b.text.listMarkers := by
  unfold addRun
  split <;> rfl

/-- Closing a style leaves to every character the styles that it had. -/
theorem stylesAt_endStyle (b : OpenBlock) (element : Option String) {i : Nat}
    (hi : i < b.text.length) : ((b.endStyle element).stylesAt i).Perm (b.stylesAt i) := by
  rcases endStyle_cases b element with ⟨-, hend⟩ | ⟨inner, s, outer, hstyles, -, hend⟩
  · rw [hend]
  · have hrun := stylesAt_text_addRun { b with styles := inner ++ outer } s hi
    have hopen : openAt (inner ++ s :: outer) i =
        openAt inner i ++ ((s.styleAt i).toList ++ openAt outer i) := by
      unfold openAt
      rw [List.filterMap_append, List.filterMap_cons]
      cases s.styleAt i <;> rfl
    unfold stylesAt
    rw [hend, hrun, styles_addRun, hstyles, hopen, openAt, List.filterMap_append, List.append_assoc]
    refine List.Perm.append_left _ ?_
    rw [← List.append_assoc, ← List.append_assoc]
    exact List.perm_append_comm.append_right _

theorem Bounded.endStyle {b : OpenBlock} (hb : b.Bounded) (element : Option String) :
    (b.endStyle element).Bounded := by
  rcases endStyle_cases b element with ⟨-, hend⟩ | ⟨inner, s, outer, hstyles, -, hend⟩
  · rwa [hend]
  · rw [hend]
    refine Bounded.addRun (b := { b with styles := inner ++ outer }) ⟨?_, hb.stopped, hb.set⟩ s
    intro o ho
    refine hb.opened o ?_
    rw [hstyles]
    exact (List.sublist_cons_self s outer).append_left inner |>.mem ho

/-! ### Closing everything -/

@[simp] theorem length_foldl_addRun (styles : List OpenStyle) (b : OpenBlock) :
    (styles.foldl addRun b).text.length = b.text.length := by
  induction styles generalizing b with
  | nil => rfl
  | cons s styles ih => rw [List.foldl_cons, ih, length_addRun]

theorem stylesAt_text_foldl_addRun (styles : List OpenStyle) (b : OpenBlock) {i : Nat}
    (hi : i < b.text.length) :
    (styles.foldl addRun b).text.stylesAt i = b.text.stylesAt i ++ openAt styles i := by
  induction styles generalizing b with
  | nil => exact (List.append_nil _).symm
  | cons s styles ih =>
      rw [List.foldl_cons, ih _ (by rwa [length_addRun]), stylesAt_text_addRun b s hi,
        List.append_assoc]
      unfold openAt
      rw [List.filterMap_cons]
      cases s.styleAt i <;> rfl

theorem Bounded.foldl_addRun (styles : List OpenStyle) {b : OpenBlock} (hb : b.Bounded) :
    (styles.foldl OpenBlock.addRun b).Bounded := by
  induction styles generalizing b with
  | nil => exact hb
  | cons s styles ih => exact ih (hb.addRun s)

theorem length_sealed_le (b : OpenBlock) : b.sealed.length ≤ b.text.length := by
  have hprefix : b.sealed.rawText.toList <+: b.endStyles.text.rawText.toList := by
    show b.endStyles.text.finish.rawText.toList <+: _
    rw [TextBlock.toList_finish]
    exact List.rdropWhile_prefix _ _
  have hlength : b.endStyles.text.length = b.text.length := length_foldl_addRun _ _
  rw [← hlength]
  exact hprefix.length_le

/-- Sealing a block leaves to every character that is left the styles that it had. -/
theorem stylesAt_sealed {b : OpenBlock} (hb : b.Bounded) {i : Nat} (hi : i < b.sealed.length) :
    b.sealed.stylesAt i = b.stylesAt i := by
  have hclosed : b.endStyles.Bounded :=
    Bounded.foldl_addRun _ ⟨fun _ ho => absurd ho List.not_mem_nil, hb.stopped, hb.set⟩
  have hlt : i < b.text.length := Nat.lt_of_lt_of_le hi (length_sealed_le b)
  have hfinish : b.sealed.stylesAt i = b.endStyles.text.stylesAt i :=
    TextBlock.stylesAt_finish hclosed.set hi
  rw [hfinish]
  exact stylesAt_text_foldl_addRun b.styles { b with styles := [] } hlt

/-! ### Writing -/

theorem length_append (b : OpenBlock) (s : String) :
    (b.append s).text.length = b.text.length + s.toList.length := by
  show (b.text.rawText ++ s).length = _
  rw [String.length_append]
  rfl

theorem Bounded.append {b : OpenBlock} (hb : b.Bounded) (s : String) : (b.append s).Bounded := by
  have hle : b.text.length ≤ (b.append s).text.length := by
    rw [length_append]
    exact Nat.le_add_right _ _
  exact ⟨fun o ho => (hb.opened o ho).trans hle, fun r hr => (hb.stopped r hr).trans hle, hb.set⟩

theorem Bounded.openStyle {b : OpenBlock} (hb : b.Bounded) (style : TextStyle)
    (element : Option String) : (b.openStyle style element).Bounded := by
  refine ⟨?_, hb.stopped, hb.set⟩
  intro o ho
  rcases List.mem_cons.mp ho with rfl | ho
  · exact Nat.le_refl _
  · exact hb.opened o ho

/-- A style that is opened covers nothing that is written already. -/
theorem stylesAt_openStyle (b : OpenBlock) (style : TextStyle) (element : Option String) {i : Nat}
    (hi : i < b.text.length) : (b.openStyle style element).stylesAt i = b.stylesAt i := by
  have hnone : (⟨b.text.length, style, element⟩ : OpenStyle).styleAt i = none :=
    if_neg fun hcover => Nat.not_lt.mpr hcover.1 hi
  unfold stylesAt openAt openStyle
  rw [List.filterMap_cons, hnone]

/-- What is written next gets the open styles that set something, and nothing else. -/
theorem stylesAt_of_length_le {b : OpenBlock} (hb : b.Bounded) {i : Nat}
    (hi : b.text.length ≤ i) :
    b.stylesAt i = (b.styles.map (·.style)).filter (!·.isEmpty) := by
  have hruns : b.text.stylesAt i = [] := by
    refine List.filterMap_eq_nil_iff.mpr fun r hr => if_neg fun hcover => ?_
    have hstop := hb.stopped r hr
    omega
  unfold stylesAt openAt
  rw [hruns, List.nil_append, List.filter_map, ← List.filterMap_eq_map, List.filterMap_filter]
  refine List.filterMap_congr fun o ho => ?_
  have hstart : o.start ≤ i := (hb.opened o ho).trans hi
  cases hempty : o.style.isEmpty <;> simp [OpenStyle.styleAt, hstart, hempty]

end OpenBlock

end SlideDeck

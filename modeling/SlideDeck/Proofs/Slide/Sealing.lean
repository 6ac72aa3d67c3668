/-
Sealing restricts a block to the text that is left.

A block may hold any runs and markers when it is sealed: they may be reversed, overlap or go past
the end of the text.  Sealing looks at each of them alone, and keeps, shortens or drops it.  What
is shown here is that no character that is left can tell, apart from runs that style nothing, and
that a block in which all is in order is left as it is, so sealing twice is the same as sealing
once.
-/
import SlideDeck.Proofs.Draft.Coverage
import SlideDeck.Proofs.Draft.Sealed

namespace SlideDeck

namespace TextBlock

/-! ### A sealed block is left as it is -/

theorem trimNewlines_of_sealed {b : TextBlock} (h : b.Sealed) :
    trimNewlines b.rawText = b.rawText := by
  have hlast : ∀ hne : b.rawText.toList ≠ [], ¬(b.rawText.toList.getLast hne == '\n') = true := by
    intro hne
    have htrimmed : (b.rawText.toList.getLast? == some '\n') = false := h.trimmed
    rw [List.getLast?_eq_some_getLast hne] at htrimmed
    simpa using htrimmed
  have hself : Text.dropEndWhile (· == '\n') b.rawText.toList = b.rawText.toList :=
    List.rdropWhile_eq_self_iff.mpr hlast
  rw [trimNewlines, hself, String.ofList_toList]

/-- A run that is in order is not cut off. -/
theorem clampRun_eq_self {n : Nat} {r : StyleRun} (hlt : r.start < r.stop) (hle : r.stop ≤ n)
    (hset : r.style.isEmpty = false) : clampRun n r = some r := by
  simp [clampRun, Nat.min_eq_left hle, hlt, hset]

theorem clampMarker_eq_self {n : Nat} {m : ListMarker} (hlt : m.start < m.stop)
    (hle : m.stop ≤ n) : clampMarker n m = some m := by
  simp [clampMarker, Nat.min_eq_left hle, hlt]

theorem finish_of_sealed {b : TextBlock} (h : b.Sealed) : b.finish = b := by
  have htext := trimNewlines_of_sealed h
  have hruns : b.runs.filterMap (clampRun b.rawText.length) = b.runs.filterMap some := by
    apply List.filterMap_congr
    intro r hr
    obtain ⟨hlt, hle, hset⟩ := h.runs r hr
    exact clampRun_eq_self hlt hle hset
  have hmarkers : b.listMarkers.filterMap (clampMarker b.rawText.length) =
      b.listMarkers.filterMap some := by
    apply List.filterMap_congr
    intro m hm
    obtain ⟨hlt, hle⟩ := h.markers m hm
    exact clampMarker_eq_self hlt hle
  rw [List.filterMap_some] at hruns hmarkers
  simp only [finish, htext, hruns, hmarkers]

/-! ### Characters that are left -/

/-- A run that is cut off gives every character that is left its style as before, unless the style
sets nothing. -/
theorem bind_clampRun_eq_filter (r : StyleRun) {n i : Nat} (hi : i < n) :
    (clampRun n r).bind (·.styleAt i) = (r.styleAt i).filter (!·.isEmpty) := by
  cases hset : r.style.isEmpty with
  | false =>
      rw [bind_clampRun hset hi]
      by_cases hcover : r.start ≤ i ∧ i < r.stop
      · simp [StyleRun.styleAt, hcover, Option.filter, hset]
      · simp [StyleRun.styleAt, hcover]
  | true =>
      have hdropped : clampRun n r = none := by simp [clampRun, hset]
      rw [hdropped]
      by_cases hcover : r.start ≤ i ∧ i < r.stop
      · simp [StyleRun.styleAt, hcover, Option.filter, hset]
      · simp [StyleRun.styleAt, hcover]

theorem stylesAt_finish_eq_filter (b : TextBlock) {i : Nat} (hi : i < b.finish.length) :
    b.finish.stylesAt i = (b.stylesAt i).filter (!·.isEmpty) := by
  show (b.runs.filterMap (clampRun _)).filterMap _ = (b.runs.filterMap _).filter _
  rw [List.filterMap_filterMap, List.filter_filterMap]
  apply List.filterMap_congr
  intro r _
  exact bind_clampRun_eq_filter r hi

/-- Only line feeds at the end are dropped from the text. -/
theorem exists_rawText_eq_finish (b : TextBlock) :
    ∃ n, b.rawText = b.finish.rawText ++ String.ofList (List.replicate n '\n') := by
  have hsplit : Text.dropEndWhile (· == '\n') b.rawText.toList ++
      b.rawText.toList.rtakeWhile (· == '\n') = b.rawText.toList :=
    List.rdropWhile_append_rtakeWhile
  have hnewlines : b.rawText.toList.rtakeWhile (· == '\n') =
      List.replicate (b.rawText.toList.rtakeWhile (· == '\n')).length '\n' := by
    apply List.eq_replicate_of_mem
    intro c hc
    have hclass := List.mem_rtakeWhile_imp hc
    exact eq_of_beq hclass
  rw [← toList_finish] at hsplit
  refine ⟨(b.rawText.toList.rtakeWhile (· == '\n')).length, ?_⟩
  rw [← hnewlines, ← String.toList_inj, String.toList_append, String.toList_ofList]
  exact hsplit.symm

/-! ### The theorem -/

/-- A sealed block is another one as far as its text goes. -/
structure Restricts (b whole : TextBlock) : Prop where
  /-- Only line feeds are missing, and none is left at the end. -/
  text : ∃ n, whole.rawText = b.rawText ++ String.ofList (List.replicate n '\n')
  sound : b.Sealed
  styles : ∀ i < b.length, b.stylesAt i = (whole.stylesAt i).filter (!·.isEmpty)
  kinds : ∀ i < b.length, b.kindsAt i = whole.kindsAt i
  big : b.big = whole.big

/--
**Sealing restricts a block to the text that is left.**  Whatever its runs and markers are, exactly
the line feeds at the end of the text go.  Each character that is left is covered by the same
styles that set something and by the same kinds of list, in the same order, and no run or marker
is empty, reversed or out of range.  Sealing the block again changes nothing.
-/
theorem restricts_finish (b : TextBlock) : b.finish.Restricts b ∧ b.finish.finish = b.finish := by
  refine ⟨⟨exists_rawText_eq_finish b, sealed_finish b, ?_, ?_, rfl⟩, ?_⟩
  · intro i hi
    exact stylesAt_finish_eq_filter b hi
  · intro i hi
    exact kindsAt_finish b hi
  · exact finish_of_sealed (sealed_finish b)

/-- A run that overlaps the end is cut off there; one that is reversed, one that sets nothing and
one behind the end are dropped. -/
example :
    (⟨"é\nb\n\n", [⟨2, 9, { bold := some true }⟩, ⟨3, 1, { italic := some true }⟩,
      ⟨0, 3, {}⟩, ⟨3, 5, { bold := some true }⟩, ⟨1, 3, { italic := some true }⟩],
      [⟨2, 5, .ordered⟩, ⟨4, 7, .unordered⟩], true⟩ : TextBlock).finish =
      ⟨"é\nb", [⟨2, 3, { bold := some true }⟩, ⟨1, 3, { italic := some true }⟩],
        [⟨2, 3, .ordered⟩], true⟩ := by
  decide +kernel

end TextBlock

end SlideDeck

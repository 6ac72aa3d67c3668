/-
The markers of a block lie one after the other.

A list is marked where it ends, and the next one begins a paragraph after it, so the markers of a
block do not overlap and each begins a paragraph.  Only the first may not: if its list was opened
on another block, it begins at an offset of that block.  All rules but the end of a list leave
the markers as they are and only write at the end of the text, which moves no paragraph.
-/
import SlideDeck.Proofs.Draft.Coverage
import SlideDeck.Proofs.Draft.Sealed

namespace SlideDeck

/-- A paragraph begins at a place: at the start of the text or after a line feed. -/
def Text.BeginsParagraph (cs : List Char) (i : Nat) : Prop :=
  i = 0 ∨ ∃ j, i = j + 1 ∧ cs[j]? = some '\n'

/-- The markers of a block lie one after the other, and all but the first begin a paragraph. -/
structure TextBlock.MarkersApart (b : TextBlock) : Prop where
  apart : b.listMarkers.Pairwise fun m m' => m.stop ≤ m'.start
  begun : ∀ m ∈ b.listMarkers.tail, Text.BeginsParagraph b.rawText.toList m.start

theorem Text.BeginsParagraph.extend {cs cs' : List Char} {i : Nat}
    (h : Text.BeginsParagraph cs i) (hfront : cs <+: cs') : Text.BeginsParagraph cs' i := by
  obtain ⟨rest, rfl⟩ := hfront
  rcases h with rfl | ⟨j, rfl, hj⟩
  · exact Or.inl rfl
  · have hlt : j < cs.length := (List.getElem?_eq_some_iff.mp hj).1
    exact Or.inr ⟨j, rfl, by rwa [List.getElem?_append_left hlt]⟩

theorem Text.BeginsParagraph.cut {cs cs' : List Char} {i : Nat}
    (h : Text.BeginsParagraph cs i) (hfront : cs' <+: cs) (hi : i < cs'.length) :
    Text.BeginsParagraph cs' i := by
  obtain ⟨rest, rfl⟩ := hfront
  rcases h with rfl | ⟨j, rfl, hj⟩
  · exact Or.inl rfl
  · exact Or.inr ⟨j, rfl, by rwa [List.getElem?_append_left (by omega)] at hj⟩

/-! ### Writing -/

namespace OpenBlock

variable {b b' b'' : OpenBlock} {list : Option OpenList}

/-- A block is another one with more written at the end and no list marked. -/
structure Grows (b b' : OpenBlock) : Prop where
  markers : b'.text.listMarkers = b.text.listMarkers
  text : b.text.rawText.toList <+: b'.text.rawText.toList

theorem Grows.refl (b : OpenBlock) : b.Grows b := ⟨rfl, List.prefix_refl _⟩

theorem Grows.trans (h : b.Grows b') (h' : b'.Grows b'') : b.Grows b'' :=
  ⟨h'.markers.trans h.markers, h.text.trans h'.text⟩

theorem grows_append (b : OpenBlock) (t : String) : b.Grows (b.append t) := by
  refine ⟨rfl, ?_⟩
  show _ <+: (b.text.rawText ++ t).toList
  rw [String.toList_append]
  exact List.prefix_append _ _

theorem grows_breakParagraph (b : OpenBlock) : b.Grows b.breakParagraph := by
  unfold OpenBlock.breakParagraph
  split
  · exact .refl b
  · exact b.grows_append "\n"

theorem grows_makeBig (b : OpenBlock) : b.Grows b.makeBig := ⟨rfl, List.prefix_refl _⟩

theorem grows_openStyle (b : OpenBlock) (style : TextStyle) (element : Option String) :
    b.Grows (b.openStyle style element) := ⟨rfl, List.prefix_refl _⟩

theorem addRun_markers (b : OpenBlock) (s : OpenStyle) : b.Grows (b.addRun s) := by
  unfold addRun
  split
  · exact ⟨rfl, List.prefix_refl _⟩
  · exact .refl b

theorem grows_endStyle (b : OpenBlock) (element : Option String) :
    b.Grows (b.endStyle element) := by
  rcases endStyle_cases b element with ⟨-, hend⟩ | ⟨inner, o, outer, -, -, hend⟩
  · rw [hend]
    exact .refl b
  · have hclosed : b.Grows { b with styles := inner ++ outer } := ⟨rfl, List.prefix_refl _⟩
    rw [hend]
    exact hclosed.trans (addRun_markers _ o)

theorem grows_endStyles (b : OpenBlock) : b.Grows b.endStyles := by
  have hfold : ∀ (styles : List OpenStyle) (c : OpenBlock), c.Grows (styles.foldl addRun c) := by
    intro styles
    induction styles with
    | nil => exact fun c => .refl c
    | cons s styles ih => exact fun c => (c.addRun_markers s).trans (ih _)
  have hclosed : b.Grows { b with styles := [] } := ⟨rfl, List.prefix_refl _⟩
  exact hclosed.trans (hfold b.styles _)

theorem Grows.length_le (h : b.Grows b') : b.text.length ≤ b'.text.length := h.text.length_le

/-! ### Marking -/

/-- The markers of a block that is being written: those of its complete lists, which end before
the open one begins.  A block with an open list that it does not hold the start of has none. -/
structure Marking (b : OpenBlock) (list : Option OpenList) : Prop where
  apart : b.text.MarkersApart
  stopped : ∀ m ∈ b.text.listMarkers, m.stop ≤ b.text.length
  ongoing : ∀ l, list = some l → b.text.listMarkers = [] ∨
    (Text.BeginsParagraph b.text.rawText.toList l.start ∧
      ∀ m ∈ b.text.listMarkers, m.stop ≤ l.start)

theorem marking_empty (list : Option OpenList) : empty.Marking list :=
  ⟨⟨.nil, fun _ hm => absurd hm List.not_mem_nil⟩, fun _ hm => absurd hm List.not_mem_nil,
    fun _ _ => Or.inl rfl⟩

theorem Marking.grows (h : b.Marking list) (hgrows : b.Grows b') : b'.Marking list := by
  obtain ⟨⟨hapart, hbegun⟩, hstopped, hongoing⟩ := h
  rw [← hgrows.markers] at hapart hbegun hstopped hongoing
  refine ⟨⟨hapart, fun m hm => (hbegun m hm).extend hgrows.text⟩,
    fun m hm => (hstopped m hm).trans hgrows.length_le, fun l hl => ?_⟩
  rcases hongoing l hl with hnone | ⟨hbegins, hstart⟩
  · exact Or.inl hnone
  · exact Or.inr ⟨hbegins.extend hgrows.text, hstart⟩

/-- Where a paragraph was ended, one begins. -/
theorem beginsParagraph_breakParagraph (b : OpenBlock) :
    Text.BeginsParagraph b.breakParagraph.text.rawText.toList b.breakParagraph.text.length := by
  unfold OpenBlock.breakParagraph
  split
  · rename_i hstart
    rcases Bool.or_eq_true_iff.mp hstart with hempty | hnewline
    · refine Or.inl ?_
      have htext : b.text.rawText = "" := String.isEmpty_iff.mp hempty
      rw [TextBlock.length, htext]
      rfl
    · obtain ⟨front, hfront⟩ := List.getLast?_eq_some_iff.mp (eq_of_beq hnewline)
      refine Or.inr ⟨front.length, ?_, ?_⟩
      · show b.text.rawText.toList.length = _
        rw [hfront, List.length_append]
        rfl
      · rw [hfront, List.getElem?_concat_length]
  · refine Or.inr ⟨b.text.length, ?_, ?_⟩
    · rw [length_append]
      rfl
    · show (b.text.rawText ++ "\n").toList[b.text.rawText.toList.length]? = _
      rw [String.toList_append]
      exact List.getElem?_concat_length

theorem Marking.openOuter (h : b.Marking none) (kind : ListKind) :
    b.breakParagraph.Marking (some ⟨kind, 0, b.breakParagraph.text.length⟩) := by
  have hbreak := h.grows b.grows_breakParagraph
  refine ⟨hbreak.apart, hbreak.stopped, fun l hl => Or.inr ?_⟩
  cases hl
  exact ⟨b.beginsParagraph_breakParagraph, hbreak.stopped⟩

theorem Marking.deepen {l : OpenList} (h : b.Marking (some l)) (depth : Nat) :
    b.Marking (some { l with depth := depth }) := by
  refine ⟨h.apart, h.stopped, fun l' hl' => ?_⟩
  cases hl'
  exact h.ongoing l rfl

theorem Marking.closeOuter {l : OpenList} (h : b.Marking (some l)) :
    (b.mark l.start l.kind).Marking none := by
  refine ⟨⟨?_, ?_⟩, ?_, fun l' hl' => nomatch hl'⟩
  · refine List.pairwise_append.mpr ⟨h.apart.apart, List.pairwise_singleton _ _, ?_⟩
    intro m hm m' hm'
    rw [List.mem_singleton.mp hm']
    rcases h.ongoing l rfl with hnone | ⟨-, hstart⟩
    · rw [hnone] at hm
      cases hm
    · exact hstart m hm
  · intro m hm
    change m ∈ (b.text.listMarkers ++ [(⟨l.start, b.text.length, l.kind⟩ : ListMarker)]).tail at hm
    by_cases hnone : b.text.listMarkers = []
    · -- The first marker of a block may begin anywhere.
      rw [hnone] at hm
      cases hm
    · rw [List.tail_append_of_ne_nil hnone] at hm
      rcases List.mem_append.mp hm with hm | hm
      · exact h.apart.begun m hm
      · rw [List.mem_singleton.mp hm]
        exact ((h.ongoing l rfl).resolve_left hnone).1
  · intro m hm
    rcases List.mem_append.mp hm with hm | hm
    · exact h.stopped m hm
    · rw [List.mem_singleton.mp hm]
      exact Nat.le_refl _

end OpenBlock

/-! ### Sealing -/

/-- What is not the first of the members that are kept was not the first of all. -/
theorem mem_tail_filterMap {α β : Type} {f : α → Option β} {as : List α} {b : β}
    (h : b ∈ (as.filterMap f).tail) : ∃ a ∈ as.tail, f a = some b := by
  cases as with
  | nil => cases h
  | cons a as =>
      rw [List.filterMap_cons] at h
      split at h
      · exact List.mem_filterMap.mp (List.mem_of_mem_tail h)
      · exact List.mem_filterMap.mp h

theorem TextBlock.MarkersApart.finish {b : TextBlock} (h : b.MarkersApart) :
    b.finish.MarkersApart := by
  have hfront : b.finish.rawText.toList <+: b.rawText.toList := by
    rw [TextBlock.toList_finish]
    exact List.rdropWhile_prefix _ _
  refine ⟨h.apart.filterMap _ ?_, ?_⟩
  · intro m m' hstop c hc c' hc'
    obtain ⟨rfl, -⟩ := clampMarker_eq_some hc
    obtain ⟨rfl, -⟩ := clampMarker_eq_some hc'
    exact (Nat.min_le_left _ _).trans hstop
  · intro m hm
    obtain ⟨m₀, hm₀, hclamp⟩ := mem_tail_filterMap hm
    obtain ⟨rfl, hlt⟩ := clampMarker_eq_some hclamp
    exact (h.begun m₀ hm₀).cut hfront (hlt.trans_le (Nat.min_le_right _ _))

theorem OpenBlock.Marking.sealed {b : OpenBlock} {list : Option OpenList} (h : b.Marking list) :
    b.sealed.MarkersApart :=
  (h.grows b.grows_endStyles).apart.finish

end SlideDeck

/-
Offsets stay valid while the requests of a block are carried out.

The requests of a block come with offsets into its text, but a list takes the tabs in front of
its paragraphs away, and what comes after them moves.  Styles are given before any list is made,
and they move nothing.  Lists are made from the last one on: each begins a paragraph, except
perhaps the first, so whatever is in front of a list that was made is still as it was, and that
is where all lists lie that are made after it.
-/
import Mathlib.Data.List.Nodup
import SlideDeck.Proofs.Draft.Galley
import SlideDeck.Proofs.Draft.Nesting
import SlideDeck.Proofs.Server.TextContent

namespace SlideDeck

open Server

/-- The bullets that the items of a kind of list have: digits, letters and roman numerals by depth
if they are numbered, otherwise discs, circles and squares. -/
inductive Server.Bulleted : ListKind → BulletPreset → Prop
  | ordered : Bulleted .ordered .numberedDigitAlphaRoman
  | unordered : Bulleted .unordered .bulletDiscCircleSquare

/-- A request finds in its range the characters that the block has where the run, or the marker,
is that it comes from. -/
def TextBlock.Finds (b : TextBlock) (t : TextContent) : Request → Prop
  | .updateTextStyle r => ∃ run ∈ b.runs, r.style = run.style ∧
      r.textRange = ⟨run.start, run.stop, .fixedRange⟩ ∧
      t.chars.extract run.start run.stop = b.rawText.toList.extract run.start run.stop
  | .createParagraphBullets r => ∃ m ∈ b.listMarkers, Bulleted m.kind r.bulletPreset ∧
      r.textRange = ⟨m.start, m.stop, .fixedRange⟩ ∧
      t.chars.extract m.start m.stop = b.rawText.toList.extract m.start m.stop
  | _ => True

/-- What some markers make of a paragraph that has given characters at an offset: a list item if
one of them overlaps it, and nothing else. -/
structure Server.Paragraph.ListedBy (markers : List ListMarker) (p : Paragraph) (offset : Nat)
    (cs : List Char) : Prop where
  item : ∀ m ∈ markers, overlaps m.start m.stop offset cs.length →
    ∃ preset, Bulleted m.kind preset ∧ p.bullet = some ⟨preset, (cs.takeWhile isTab).length⟩ ∧
      p.chars = cs.dropWhile isTab
  plain : (∀ m ∈ markers, ¬overlaps m.start m.stop offset cs.length) →
    p.bullet = none ∧ p.chars = cs

/-- The paragraphs of a content are those of a text with its lists made. -/
def Server.TextContent.Lists (markers : List ListMarker) (t : TextContent) (cs : List Char) :
    Prop :=
  List.Forall₂ (fun p line => p.ListedBy markers line.1 line.2) t.paragraphs
    (spans List.length 0 (TextContent.lines cs))

namespace Server

variable {target : Target} {b : TextBlock} {t : TextContent} {cs : List Char}
  {markers markers' : List ListMarker} {front back : List Paragraph}

/-! ### Paragraphs -/

/-- Paragraphs are those of a text, and none is a list item. -/
structure Plain (ps : List Paragraph) (cs : List Char) : Prop where
  chars : ps.map Paragraph.chars = TextContent.lines cs
  bullet : ∀ p ∈ ps, p.bullet = none

theorem plain_ofString (text : String) :
    Plain (TextContent.ofString text).paragraphs text.toList := by
  refine ⟨TextContent.map_chars_ofString text, fun p hp => ?_⟩
  obtain ⟨cs, -, rfl⟩ := List.mem_map.mp hp
  rfl

theorem Plain.flatten (h : Plain front cs) : (front.map Paragraph.chars).flatten = cs := by
  rw [h.chars, TextContent.flatten_lines]

theorem Plain.length (h : Plain front cs) : (front.map Paragraph.length).sum = cs.length := by
  rw [← h.flatten, List.length_flatten, List.map_map]
  exact congrArg List.sum (List.map_congr_left fun p _ => (TextContent.length_chars p).symm)

/-- Where a paragraph begins, a text can be parted into paragraphs. -/
theorem lines_split {i : Nat} (h : Text.BeginsParagraph cs i) :
    TextContent.lines cs = TextContent.lines (cs.take i) ++ TextContent.lines (cs.drop i) := by
  conv_lhs => rw [← List.take_append_drop i cs]
  refine List.splitBy_append fun c hc c' _ => ?_
  rcases h with rfl | ⟨j, rfl, hj⟩
  · cases hc
  · rw [List.take_add_one, hj] at hc
    simp only [Option.toList_some, List.getLast?_concat, Option.mem_some_iff] at hc
    rw [← hc]
    rfl

theorem Plain.split {i : Nat} (h : Plain front cs) (hi : Text.BeginsParagraph cs i) :
    ∃ ps ps', front = ps ++ ps' ∧ Plain ps (cs.take i) ∧ Plain ps' (cs.drop i) := by
  obtain ⟨ps, ps', rfl, hps, hps'⟩ := List.map_eq_append_iff.mp (h.chars.trans (lines_split hi))
  exact ⟨ps, ps', rfl, ⟨hps, fun p hp => h.bullet p (List.mem_append_left _ hp)⟩,
    ⟨hps', fun p hp => h.bullet p (List.mem_append_right _ hp)⟩⟩

theorem sum_length_lines (cs : List Char) :
    ((TextContent.lines cs).map List.length).sum = cs.length := by
  rw [← List.length_flatten, TextContent.flatten_lines]

/-- The lines of a text are the characters of its paragraphs, at the same offsets. -/
theorem Plain.spans_lines (h : Plain front cs) (offset : Nat) :
    spans List.length offset (TextContent.lines cs) =
      (spans Paragraph.length offset front).map fun s => (s.1, s.2.chars) := by
  rw [← h.chars, spans_map]
  simp only [TextContent.length_chars]

theorem Plain.congr {ps ps' : List Paragraph} (h : Plain ps cs)
    (heq : ps'.map (fun p => (p.chars, p.bullet)) = ps.map fun p => (p.chars, p.bullet)) :
    Plain ps' cs := by
  refine ⟨?_, fun p hp => ?_⟩
  · rw [← h.chars]
    have hchars := congrArg (List.map Prod.fst) heq
    rw [List.map_map, List.map_map] at hchars
    exact hchars
  · have hmem : (p.chars, p.bullet) ∈ ps.map fun p => (p.chars, p.bullet) :=
      heq ▸ List.mem_map_of_mem hp
    obtain ⟨q, hq, hpair⟩ := List.mem_map.mp hmem
    exact (congrArg Prod.snd hpair).symm.trans (h.bullet q hq)

/-! ### Making one list -/

theorem bulleted_bulletPreset (kind : ListKind) : Bulleted kind (Plan.bulletPreset kind) := by
  cases kind with
  | ordered => exact .ordered
  | unordered => exact .unordered

/-- Makes a list item of a paragraph at an offset if a marker overlaps it. -/
def mark (m : ListMarker) (offset : Nat) (p : Paragraph) : Paragraph :=
  if overlaps m.start m.stop offset p.length then p.itemize (Plan.bulletPreset m.kind) else p

theorem mark_of_not_overlaps {m : ListMarker} {offset : Nat} {p : Paragraph}
    (h : ¬overlaps m.start m.stop offset p.length) : mark m offset p = p := if_neg h

theorem chars_itemize (preset : BulletPreset) (p : Paragraph) :
    (p.itemize preset).chars = p.chars.dropWhile isTab := by
  rw [Paragraph.chars, Paragraph.chars, List.dropWhile_map]
  rfl

theorem bullet_itemize (preset : BulletPreset) (p : Paragraph) :
    (p.itemize preset).bullet = some ⟨preset, (p.chars.takeWhile isTab).length⟩ := by
  rw [Paragraph.chars, List.takeWhile_map, List.length_map]
  rfl

theorem listedBy_nil {p : Paragraph} (hp : p.bullet = none) (offset : Nat) :
    p.ListedBy [] offset p.chars :=
  ⟨fun _ hm => absurd hm List.not_mem_nil, fun _ => ⟨hp, rfl⟩⟩

theorem listedBy_mark {p : Paragraph} (hp : p.bullet = none) (m : ListMarker) (offset : Nat) :
    (mark m offset p).ListedBy [m] offset p.chars := by
  by_cases h : overlaps m.start m.stop offset p.length
  · rw [mark, if_pos h]
    refine ⟨fun m' hm' _ => ?_, fun hnone => ?_⟩
    · rw [List.mem_singleton.mp hm']
      exact ⟨_, bulleted_bulletPreset m.kind, bullet_itemize _ p, chars_itemize _ p⟩
    · refine absurd h ?_
      rw [← TextContent.length_chars]
      exact hnone m (List.mem_singleton_self m)
  · rw [mark_of_not_overlaps h]
    refine ⟨fun m' hm' hover => ?_, fun _ => ⟨hp, rfl⟩⟩
    rw [List.mem_singleton.mp hm', TextContent.length_chars] at hover
    exact absurd hover h

/-- Markers that do not overlap a paragraph make nothing of it. -/
theorem Paragraph.ListedBy.widen {p : Paragraph} {offset : Nat} (h : p.ListedBy markers offset cs)
    (hold : ∀ m ∈ markers, m ∈ markers')
    (hnew : ∀ m ∈ markers', m ∈ markers ∨ ¬overlaps m.start m.stop offset cs.length) :
    p.ListedBy markers' offset cs := by
  refine ⟨fun m hm hover => ?_, fun hnone => h.plain fun m hm => hnone m (hold m hm)⟩
  rcases hnew m hm with hm | hm
  · exact h.item m hm hover
  · exact absurd hover hm

/-- What is made of each paragraph on its own is made of all. -/
theorem Plain.forall₂_listedBy (h : Plain front cs) (offset : Nat)
    {f : Nat → Paragraph → Paragraph}
    (hf : ∀ p, p.bullet = none → ∀ i, (f i p).ListedBy markers i p.chars) :
    List.Forall₂ (fun p line => p.ListedBy markers line.1 line.2)
      ((spans Paragraph.length offset front).map fun s => f s.1 s.2)
      (spans List.length offset (TextContent.lines cs)) := by
  rw [h.spans_lines, List.forall₂_map_left_iff, List.forall₂_map_right_iff, List.forall₂_same]
  intro s hs
  have hmem : s.2 ∈ front := by
    rw [← map_snd_spans Paragraph.length offset front]
    exact List.mem_map_of_mem hs
  exact hf s.2 (h.bullet s.2 hmem) s.1

/-- A list whose paragraphs are all elsewhere changes nothing. -/
theorem map_mark_of_not_overlaps {m : ListMarker} {offset : Nat} {ps : List Paragraph}
    (h : ∀ s ∈ spans Paragraph.length offset ps, ¬overlaps m.start m.stop s.1 s.2.length) :
    (spans Paragraph.length offset ps).map (fun s => mark m s.1 s.2) = ps := by
  conv_rhs => rw [← map_snd_spans Paragraph.length offset ps]
  exact List.map_congr_left fun s hs => mark_of_not_overlaps (h s hs)

/-- Making a list changes nothing behind it. -/
theorem Plain.itemize (h : Plain front cs) {m : ListMarker} (hm : m.stop ≤ cs.length)
    (back : List Paragraph) :
    TextContent.itemize (TextRange.fixed m.start m.stop) (Plan.bulletPreset m.kind)
        ⟨front ++ back⟩ =
      ⟨(spans Paragraph.length 0 front).map (fun s => mark m s.1 s.2) ++ back⟩ := by
  have hback : (spans Paragraph.length (0 + (front.map Paragraph.length).sum) back).map
      (fun s => mark m s.1 s.2) = back := by
    refine map_mark_of_not_overlaps fun s hs hover => ?_
    have hfrom := (bounds_of_mem_spans hs).1
    rw [h.length] at hfrom
    exact absurd (hover.1.trans_le hm) (by omega)
  show TextContent.mk ((spans Paragraph.length 0 (front ++ back)).map fun s => mark m s.1 s.2) = _
  rw [spans_append, List.map_append, hback]

/-! ### Making all lists -/

/-- Some markers, the last one first, that lie one after the other in a text; all but the first
one begin a paragraph. -/
structure FromEnd (ms : List ListMarker) (cs : List Char) : Prop where
  inside : ∀ m ∈ ms, m.start < m.stop ∧ m.stop ≤ cs.length
  apart : ms.Pairwise fun m m' => m'.stop ≤ m.start
  begun : ∀ m ∈ ms.dropLast, Text.BeginsParagraph cs m.start

/-- In front of the last list the others lie. -/
theorem FromEnd.before {m : ListMarker} {ms : List ListMarker} (h : FromEnd (m :: ms) cs) :
    FromEnd ms (cs.take m.start) := by
  obtain ⟨hm, hms⟩ := List.pairwise_cons.mp h.apart
  have hin := h.inside m (List.mem_cons_self ..)
  have hlength : (cs.take m.start).length = m.start := List.length_take_of_le (by omega)
  refine ⟨fun m' hm' => ?_, hms, fun m' hm' => ?_⟩
  · rw [hlength]
    exact ⟨(h.inside m' (List.mem_cons_of_mem _ hm')).1, hm m' hm'⟩
  · have hmem : m' ∈ ms := List.dropLast_subset _ hm'
    have hne : ms ≠ [] := List.ne_nil_of_mem hmem
    have hbegin : Text.BeginsParagraph cs m'.start :=
      h.begun m' (by rw [List.dropLast_cons_of_ne_nil hne]; exact List.mem_cons_of_mem _ hm')
    refine hbegin.cut (List.take_prefix _ _) ?_
    have hlt := (h.inside m' (List.mem_cons_of_mem _ hmem)).1
    have hle := hm m' hmem
    omega

/-- Of the paragraphs in front of a list none is made an item of it. -/
theorem forall₂_listedBy_before {m : ListMarker} {done : List Paragraph}
    (hm : m.start ≤ cs.length)
    (h : List.Forall₂ (fun p line => p.ListedBy markers line.1 line.2) done
      (spans List.length 0 (TextContent.lines (cs.take m.start)))) :
    List.Forall₂ (fun p line => p.ListedBy (m :: markers) line.1 line.2) done
      (spans List.length 0 (TextContent.lines (cs.take m.start))) := by
  refine forall₂_of_forall_mem h (fun _ hline => hline) fun p line hline h => ?_
  refine h.widen (fun m' hm' => List.mem_cons_of_mem _ hm') fun m' hm' => ?_
  rcases List.mem_cons.mp hm' with rfl | hm'
  · refine Or.inr fun hover => ?_
    have hto := (bounds_of_mem_spans hline).2
    rw [sum_length_lines, List.length_take_of_le hm] at hto
    exact absurd hover.2 (by omega)
  · exact Or.inl hm'

/-- The lists in front of a paragraph do not reach it. -/
theorem forall₂_listedBy_behind {m : ListMarker} {listed : List Paragraph}
    (hms : ∀ m' ∈ markers, m'.stop ≤ m.start)
    (h : List.Forall₂ (fun p line => p.ListedBy [m] line.1 line.2) listed
      (spans List.length m.start (TextContent.lines cs))) :
    List.Forall₂ (fun p line => p.ListedBy (m :: markers) line.1 line.2) listed
      (spans List.length m.start (TextContent.lines cs)) := by
  refine forall₂_of_forall_mem h (fun _ hline => hline) fun p line hline h => ?_
  refine h.widen (fun m' hm' => ?_) fun m' hm' => ?_
  · rw [List.mem_singleton.mp hm']
    exact List.mem_cons_self ..
  · rcases List.mem_cons.mp hm' with rfl | hm'
    · exact Or.inl (List.mem_singleton_self m')
    · refine Or.inr fun hover => ?_
      have hfrom := (bounds_of_mem_spans hline).1
      have hapart := hms m' hm'
      exact absurd hover.1 (by omega)

/-- A list that begins a paragraph is made of the paragraphs from there on. -/
theorem Plain.itemize_split {m : ListMarker} {ps ps' : List Paragraph}
    (h : Plain (ps ++ ps') cs) (hps : Plain ps (cs.take m.start)) (hstart : m.start ≤ cs.length)
    (hstop : m.stop ≤ cs.length) (back : List Paragraph) :
    TextContent.itemize (TextRange.fixed m.start m.stop) (Plan.bulletPreset m.kind)
        ⟨ps ++ ps' ++ back⟩ =
      ⟨ps ++ ((spans Paragraph.length m.start ps').map (fun s => mark m s.1 s.2) ++ back)⟩ := by
  have hlength : (ps.map Paragraph.length).sum = m.start := by
    rw [hps.length, List.length_take_of_le hstart]
  have hfront : (spans Paragraph.length 0 ps).map (fun s => mark m s.1 s.2) = ps := by
    refine map_mark_of_not_overlaps fun s hs hover => ?_
    have hto := (bounds_of_mem_spans hs).2
    rw [hlength] at hto
    exact absurd hover.2 (by omega)
  rw [h.itemize hstop back, spans_append, List.map_append, hlength, Nat.zero_add, hfront,
    List.append_assoc]

theorem extract_of_isPrefix {cs cs' rest : List Char} (h : cs <+: cs') {start stop : Nat}
    (hstop : stop ≤ cs.length) : (cs ++ rest).extract start stop = cs'.extract start stop := by
  obtain ⟨rest', rfl⟩ := h
  simp only [List.extract_eq_take_drop]
  by_cases hstart : start ≤ cs.length
  · rw [List.drop_append_of_le_length hstart, List.drop_append_of_le_length hstart,
      List.take_append_of_le_length (by simp; omega),
      List.take_append_of_le_length (by simp; omega)]
  · have hzero : stop - start = 0 := by omega
    rw [hzero, List.take_zero, List.take_zero]

/-- The request of a marker. -/
theorem exec?_bulletRequest (target : Target) {m : ListMarker} (h : m.start < m.stop)
    (hle : m.stop ≤ t.chars.length) :
    t.exec? target (Plan.bulletRequest target.objectId target.cell m) =
      some (t.itemize (TextRange.fixed m.start m.stop) (Plan.bulletPreset m.kind)) :=
  if_pos ⟨rfl, rfl, h, hle⟩

/-- Lists are made from the last one on.  What is in front of those that are made is as it was,
and the others lie there. -/
theorem steps_bulletRequests (target : Target) {ms : List ListMarker} (hms : FromEnd ms cs)
    (hplain : Plain front cs) (hcs : cs <+: b.rawText.toList)
    (hb : ∀ m ∈ ms, m ∈ b.listMarkers) (back : List Paragraph) :
    ∃ done, TextContent.Steps target b.Finds ⟨front ++ back⟩
        (ms.map (Plan.bulletRequest target.objectId target.cell)) ⟨done ++ back⟩ ∧
      List.Forall₂ (fun p line => p.ListedBy ms line.1 line.2) done
        (spans List.length 0 (TextContent.lines cs)) := by
  induction ms generalizing front cs back with
  | nil =>
      refine ⟨front, .nil _, ?_⟩
      have hlisted := hplain.forall₂_listedBy 0 (f := fun _ p => p)
        fun p hp i => listedBy_nil hp i
      rwa [map_snd_spans] at hlisted
  | cons m ms ih =>
      obtain ⟨hlt, hle⟩ := hms.inside m (List.mem_cons_self ..)
      have hchars : (TextContent.mk (front ++ back)).chars =
          cs ++ (TextContent.mk back).chars := by
        rw [TextContent.chars_eq_flatten, List.map_append, List.flatten_append, hplain.flatten,
          ← TextContent.chars_eq_flatten]
      have hlength : m.stop ≤ (TextContent.mk (front ++ back)).chars.length := by
        rw [hchars, List.length_append]
        omega
      have hfinds : b.Finds ⟨front ++ back⟩
          (Plan.bulletRequest target.objectId target.cell m) := by
        refine ⟨m, hb m (List.mem_cons_self ..), bulleted_bulletPreset m.kind, rfl, ?_⟩
        rw [hchars]
        exact extract_of_isPrefix hcs hle
      have hstep := exec?_bulletRequest target hlt hlength
      cases hrest : ms with
      | nil =>
          rw [hplain.itemize hle] at hstep
          refine ⟨_, .cons hfinds hstep (.nil _), ?_⟩
          exact hplain.forall₂_listedBy 0 fun p hp i => listedBy_mark hp m i
      | cons m' ms' =>
          rw [← hrest]
          -- A list that is not the first one begins a paragraph, so the text parts there.
          have hbegin : Text.BeginsParagraph cs m.start :=
            hms.begun m (by rw [hrest]; exact List.mem_cons_self ..)
          have hstart : m.start ≤ cs.length := by omega
          obtain ⟨ps, ps', rfl, hps, hps'⟩ := hplain.split hbegin
          rw [hplain.itemize_split hps hstart hle] at hstep
          have hlisted := hps'.forall₂_listedBy m.start (f := mark m)
            fun p hp i => listedBy_mark hp m i
          obtain ⟨done, hsteps, hdone⟩ := ih hms.before hps ((List.take_prefix _ _).trans hcs)
            (fun m hm => hb m (List.mem_cons_of_mem _ hm))
            ((spans Paragraph.length m.start ps').map (fun s => mark m s.1 s.2) ++ back)
          refine ⟨done ++ (spans Paragraph.length m.start ps').map fun s => mark m s.1 s.2, ?_, ?_⟩
          · rw [List.append_assoc done]
            exact .cons hfinds hstep hsteps
          · rw [lines_split hbegin, spans_append, sum_length_lines, List.length_take_of_le hstart,
              Nat.zero_add]
            exact List.rel_append (forall₂_listedBy_before hstart hdone)
              (forall₂_listedBy_behind (List.pairwise_cons.mp hms.apart).1 hlisted)

/-- The markers of a block are sent from the last one on. -/
theorem markersFromEnd_eq_reverse (hsealed : b.Sealed) (hb : b.MarkersApart) :
    Plan.markersFromEnd b.listMarkers = b.listMarkers.reverse := by
  have hstarts : b.listMarkers.Pairwise fun m m' => m.start < m'.start :=
    hb.apart.imp_of_mem fun hm _ hle => (hsealed.markers _ hm).1.trans_le hle
  have hnodup : (b.listMarkers.map (·.start)).Nodup :=
    List.pairwise_map.mpr (hstarts.imp Nat.ne_of_lt)
  have hperm : (Plan.markersFromEnd b.listMarkers).Perm b.listMarkers := List.mergeSort_perm _ _
  have hsorted : (Plan.markersFromEnd b.listMarkers).Pairwise fun m m' => m'.start ≤ m.start := by
    refine (List.pairwise_mergeSort ?_ ?_ b.listMarkers).imp of_decide_eq_true
    · intro m m' m'' h h'
      exact decide_eq_true ((of_decide_eq_true h').trans (of_decide_eq_true h))
    · intro m m'
      simp only [Bool.or_eq_true, decide_eq_true_eq]
      omega
  have hreversed : b.listMarkers.reverse.Pairwise fun m m' => m'.start ≤ m.start :=
    List.pairwise_reverse.mpr (hstarts.imp Nat.le_of_lt)
  refine List.Perm.eq_of_pairwise ?_ hsorted hreversed (hperm.trans (List.reverse_perm _).symm)
  intro m m' hm hm' hle hle'
  exact List.inj_on_of_nodup_map hnodup (hperm.subset hm) (List.mem_reverse.mp hm')
    (Nat.le_antisymm hle' hle)

theorem fromEnd_reverse (hsealed : b.Sealed) (hb : b.MarkersApart) :
    FromEnd b.listMarkers.reverse b.rawText.toList := by
  refine ⟨fun m hm => hsealed.markers m (List.mem_reverse.mp hm), ?_, fun m hm => ?_⟩
  · exact List.pairwise_reverse.mpr hb.apart
  · rw [List.dropLast_reverse] at hm
    exact hb.begun m (List.mem_reverse.mp hm)

end Server

/-! ### All requests -/

/-- The requests of a block find what the block says, and put it into their target. -/
theorem TextBlock.steps_textRequests {b : TextBlock} (hsealed : b.Sealed) (hb : b.MarkersApart)
    (target : Target) :
    ∃ t, TextContent.Steps target b.Finds {} (Plan.textRequests target.objectId target.cell b) t ∧
      t.Lists b.listMarkers b.rawText.toList := by
  by_cases hempty : b.isEmpty = true
  · have htext : b.rawText = "" := String.isEmpty_iff.mp hempty
    refine ⟨{}, ?_, ?_⟩
    · rw [Plan.textRequests, if_pos hempty]
      exact .nil _
    · rw [TextContent.Lists, htext]
      exact .nil
  · have hinsert : TextContent.exec? target {} (.insertText
        ⟨target.objectId, target.cell, b.rawText, 0⟩) = some (TextContent.ofString b.rawText) :=
      if_pos ⟨rfl, rfl, rfl⟩
    have hstyles : TextContent.Steps target b.Finds (TextContent.ofString b.rawText)
        (b.runs.filterMap (Plan.styleRequest? target.objectId target.cell))
        (b.runs.foldl TextContent.dress (TextContent.ofString b.rawText)) := by
      refine TextContent.steps_styleRequests target (fun r hr => ?_) fun r hr t ht => ?_
      · rw [TextContent.chars_ofString]
        exact hsealed.runs r hr
      · rw [TextContent.chars_ofString] at ht
        exact ⟨r, hr, rfl, rfl, by rw [ht]⟩
    have hplain : Plain (b.runs.foldl TextContent.dress (TextContent.ofString b.rawText)).paragraphs
        b.rawText.toList :=
      (plain_ofString b.rawText).congr (TextContent.paragraphs_foldl_dress _ _)
    obtain ⟨done, hbullets, hdone⟩ := steps_bulletRequests target
      (fromEnd_reverse hsealed hb) hplain (List.prefix_refl _)
      (fun m hm => List.mem_reverse.mp hm) []
    rw [List.append_nil, List.append_nil] at hbullets
    refine ⟨⟨done⟩, ?_, ?_⟩
    · rw [Plan.textRequests, if_neg hempty, markersFromEnd_eq_reverse hsealed hb]
      exact .cons trivial hinsert (hstyles.append hbullets)
    · exact hdone.imp fun p line hlisted => hlisted.widen
        (fun m hm => List.mem_reverse.mp hm) fun m hm => Or.inl (List.mem_reverse.mpr hm)

/--
**Offsets stay valid while the requests of a block are carried out.**  If a document with properly
nested tokens compiles, the requests of every block of its slides can be carried out in order on
any empty shape or cell.  Every update and every list finds in its range, when its turn comes,
the characters that the block has in the range of its run or marker.  At the end, each
paragraph that a marker overlaps is an item of its kind, as deep as it had tabs in front, and has
lost these; all other characters are as the block has them.
-/
theorem steps_compileTokens {ps : List Piece} {slides : List Slide}
    (h : (compileTokens (ps.flatMap Piece.tokens)).outcome = .ok slides) :
    ∀ s ∈ slides, ∀ b ∈ s.blocks, ∀ target : Target,
      ∃ t, TextContent.Steps target b.Finds {}
          (Plan.textRequests target.objectId target.cell b) t ∧
        t.Lists b.listMarkers b.rawText.toList :=
  fun s hs b hb target =>
    b.steps_textRequests ((sound_compileTokens h s hs).blocks b hb)
      (markersApart_compileTokens h s hs b hb) target

/-- A list that is parted by a column paragraph, and another one with a list in it. -/
def partedAndNested : List Piece :=
  [.paragraph .empty (runningText [.text "x"]), .listOpen .unordered, .itemOpen,
    .paragraph .empty (runningText [.text "a"]),
    .paragraph ⟨none, ["column"], []⟩ (runningText [.text "bcd"]), .itemClose,
    .listClose .unordered, .listOpen .ordered, .itemOpen,
    .paragraph .empty (runningText [.text "e"]), .listOpen .ordered, .itemOpen,
    .paragraph .empty (runningText [.strongOpen, .text "f", .strongClose]), .itemClose,
    .listClose .ordered, .itemClose, .listClose .ordered]

/-- The column behind the paragraph that parts the list. -/
def nestedColumn : TextBlock where
  rawText := "bcd\ne\n\tf"
  runs := [⟨7, 8, { bold := some true }⟩]
  listMarkers := [⟨2, 4, .unordered⟩, ⟨4, 8, .ordered⟩]

theorem steps_partedAndNested :
    ∃ slides, (compileTokens (partedAndNested.flatMap Piece.tokens)).outcome = .ok slides ∧
      slides.map Slide.blocks = [[TextBlock.ofString "x\na", nestedColumn]] ∧
      ∀ target : Target, ∃ t, TextContent.Steps target nestedColumn.Finds {}
          (Plan.textRequests target.objectId target.cell nestedColumn) t ∧
        t.paragraphs.map (fun p => (p.chars, p.bullet)) =
          [(['b', 'c', 'd', '\n'], some ⟨.bulletDiscCircleSquare, 0⟩),
            (['e', '\n'], some ⟨.numberedDigitAlphaRoman, 0⟩),
            (['f'], some ⟨.numberedDigitAlphaRoman, 1⟩)] := by
  have h : (compileTokens (partedAndNested.flatMap Piece.tokens)).outcome = .ok _ := rfl
  refine ⟨_, h, rfl, fun target => ?_⟩
  obtain ⟨t, hsteps, hlists⟩ := steps_compileTokens h _ (List.mem_singleton_self _) nestedColumn
    (List.mem_cons_of_mem _ (List.mem_singleton_self _)) target
  refine ⟨t, hsteps, ?_⟩
  have hlines : spans List.length 0 (TextContent.lines nestedColumn.rawText.toList) =
      [(0, ['b', 'c', 'd', '\n']), (4, ['e', '\n']), (6, ['\t', 'f'])] := by decide +kernel
  simp only [TextContent.Lists, hlines, List.forall₂_cons_right_iff, List.forall₂_nil_right_iff]
    at hlists
  obtain ⟨p, _, hp, ⟨q, _, hq, ⟨r, _, hr, rfl, rfl⟩, rfl⟩, hparagraphs⟩ := hlists
  obtain ⟨_, ⟨⟩, hbullet, hchars⟩ := hp.item ⟨2, 4, .unordered⟩ (by decide) (by decide)
  obtain ⟨_, ⟨⟩, hbullet', hchars'⟩ := hq.item ⟨4, 8, .ordered⟩ (by decide) (by decide)
  obtain ⟨_, ⟨⟩, hbullet'', hchars''⟩ := hr.item ⟨4, 8, .ordered⟩ (by decide) (by decide)
  simp [hparagraphs, hbullet, hchars, hbullet', hchars', hbullet'', hchars'', isTab]

end SlideDeck

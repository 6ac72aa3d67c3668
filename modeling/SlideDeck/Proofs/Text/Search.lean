/-
The first place of a mark.

Splitting a text at a mark finds the mark exactly if it stands somewhere, and finds its first place:
what is in front of it does not hold the mark.  To know the first place of a mark that follows some
text it is not enough that the text does not hold it, since the mark may begin in the text and end
in itself; so the text is asked together with all of the mark but its last character.

Trimming stops at the first character from an end that is not white space, whatever is behind it.
-/
import Mathlib.Data.List.DropRight
import Mathlib.Data.List.Infix
import SlideDeck.Text.Blank
import SlideDeck.Text.Search

namespace SlideDeck.Text

variable {mark s before after : List Char}

/-! ### Leads -/

theorem dropLead?_append (lead rest : List Char) : dropLead? lead (lead ++ rest) = some rest := by
  induction lead with
  | nil => rfl
  | cons a lead ih => simp [dropLead?, ih]

theorem startsWith_iff {lead s : List Char} : startsWith lead s = true ↔ lead <+: s := by
  unfold startsWith
  rw [Option.isSome_iff_exists]
  constructor
  · rintro ⟨rest, hrest⟩
    exact ⟨rest, (dropLead?_eq_some hrest).symm⟩
  · rintro ⟨rest, rfl⟩
    exact ⟨rest, dropLead?_append lead rest⟩

theorem dropLead?_eq_none {lead s : List Char} (h : ¬lead <+: s) : dropLead? lead s = none := by
  rw [← startsWith_iff, startsWith, Bool.not_eq_true, Option.isSome_eq_false_iff,
    Option.isNone_iff_eq_none] at h
  exact h

/-! ### First places -/

/-- The text in front of a mark and the text behind it, where nothing but the mark itself holds the
mark up to its end. -/
theorem splitAt?_append (h : ¬mark <:+: before ++ mark.dropLast) (after : List Char) :
    splitAt? mark (before ++ (mark ++ after)) = some (before, after) := by
  induction before with
  | nil =>
      cases mark with
      | nil => exact absurd (List.nil_infix) h
      | cons a mark =>
          have hlead := dropLead?_append (a :: mark) after
          rw [List.cons_append] at hlead
          simp only [List.nil_append, List.cons_append, splitAt?, hlead]
  | cons c before ih =>
      rw [List.cons_append, List.infix_cons_iff, not_or] at h
      obtain ⟨hhere, hlater⟩ := h
      have hnone : dropLead? mark (c :: (before ++ (mark ++ after))) = none := by
        apply dropLead?_eq_none
        intro hlead
        apply hhere
        have hshort : c :: (before ++ mark.dropLast) <+: c :: (before ++ (mark ++ after)) := by
          rw [List.prefix_cons_inj, List.prefix_append_right_inj]
          exact (List.dropLast_prefix mark).trans (List.prefix_append mark after)
        apply List.prefix_of_prefix_length_le hlead hshort
        simp only [List.length_cons, List.length_append, List.length_dropLast]
        omega
      simp only [List.cons_append, splitAt?, hnone, ih hlater, Option.map_some]

/-- The text in front of a mark that it does not hold. -/
theorem splitAt?_mark {mark : Char} (h : mark ∉ before) (after : List Char) :
    splitAt? [mark] (before ++ mark :: after) = some (before, after) := by
  refine splitAt?_append ?_ after
  rintro ⟨u, v, heq⟩
  refine h ?_
  rw [← List.append_nil before, show ([] : List Char) = [mark].dropLast from rfl, ← heq]
  simp

/-- The parts in front of and behind the first place of a mark are no others. -/
theorem eq_of_append_mark {mark : Char} {before before' after after' : List Char}
    (h : mark ∉ before) (h' : mark ∉ before')
    (heq : before ++ mark :: after = before' ++ mark :: after') :
    before = before' ∧ after = after' := by
  have hsplit := splitAt?_mark h after
  rw [heq, splitAt?_mark h' after'] at hsplit
  obtain ⟨rfl, rfl⟩ := Prod.mk.inj (Option.some.inj hsplit)
  exact ⟨rfl, rfl⟩

/-- A text is split exactly if it holds the mark. -/
theorem splitAt?_eq_none_iff (hmark : mark ≠ []) : splitAt? mark s = none ↔ ¬mark <:+: s := by
  induction s with
  | nil => simp [splitAt?, hmark]
  | cons c s ih =>
      rw [List.infix_cons_iff, not_or, ← ih]
      by_cases hlead : mark <+: c :: s
      · have hdrop := Option.isSome_iff_exists.mp (startsWith_iff.mpr hlead)
        obtain ⟨rest, hrest⟩ := hdrop
        simp [splitAt?, hrest, hlead]
      · simp [splitAt?, dropLead?_eq_none hlead, hlead]

theorem contains_iff (hmark : mark ≠ []) : contains mark s = true ↔ mark <:+: s := by
  rw [contains, Option.isSome_iff_ne_none, ne_eq, splitAt?_eq_none_iff hmark, not_not]

/-- What is in front of the first place of a mark does not hold the mark. -/
theorem not_isInfix_of_splitAt? (hmark : mark ≠ []) (h : splitAt? mark s = some (before, after)) :
    ¬mark <:+: before := by
  induction s generalizing before with
  | nil => simp [splitAt?, hmark] at h
  | cons c s ih =>
      simp only [splitAt?] at h
      cases hlead : dropLead? mark (c :: s) with
      | some rest =>
          rw [hlead] at h
          cases h
          simpa using hmark
      | none =>
          rw [hlead] at h
          obtain ⟨⟨inner, rest⟩, hsplit, heq⟩ := Option.map_eq_some_iff.mp h
          cases heq
          rw [List.infix_cons_iff, not_or]
          refine ⟨?_, ih hsplit⟩
          intro hbegins
          have hlonger : c :: inner <+: c :: s := by
            rw [splitAt?_eq_some hsplit, List.prefix_cons_inj]
            exact List.prefix_append _ _
          have hstarts := startsWith_iff.mpr (hbegins.trans hlonger)
          rw [startsWith, hlead] at hstarts
          cases hstarts

/-! ### Trimming -/

theorem trimStart_append {lead : List Char} (hlead : ∀ c ∈ lead, isBlank c = true)
    (hs : ∀ c ∈ s.head?, isBlank c = false) : trimStart (lead ++ s) = s := by
  rw [trimStart, List.dropWhile_append_of_pos hlead]
  cases s with
  | nil => rfl
  | cons c s => simp [hs c rfl]

/-- White space at the end stands behind the last character that is not white space. -/
theorem trimEnd_append {c : Char} (hc : isBlank c = false) (front behind : List Char) :
    trimEnd (front ++ c :: behind) = front ++ c :: trimEnd behind := by
  have hkept : (c :: front.reverse).dropWhile isBlank = c :: front.reverse := by simp [hc]
  simp only [trimEnd, dropEndWhile, List.reverse_append, List.reverse_cons, List.append_assoc,
    List.singleton_append]
  rw [List.dropWhile_append]
  split
  · rename_i hempty
    rw [List.isEmpty_iff] at hempty
    simp [hempty, hkept]
  · simp

theorem trimEnd_isPrefix (s : List Char) : trimEnd s <+: s := List.rdropWhile_prefix _ _

theorem exists_eq_append_trimStart (s : List Char) :
    ∃ lead, (∀ c ∈ lead, isBlank c = true) ∧ s = lead ++ trimStart s := by
  refine ⟨s.takeWhile isBlank, ?_, List.takeWhile_append_dropWhile.symm⟩
  intro c hc
  exact List.mem_takeWhile_imp hc

theorem exists_eq_trimEnd_append (s : List Char) :
    ∃ trail, (∀ c ∈ trail, isBlank c = true) ∧ s = trimEnd s ++ trail := by
  refine ⟨s.rtakeWhile isBlank, ?_, List.rdropWhile_append_rtakeWhile.symm⟩
  intro c hc
  exact List.mem_rtakeWhile_imp hc

/-- Trimming takes white space off both ends. -/
theorem exists_eq_append_trim (s : List Char) :
    ∃ lead trail, (∀ c ∈ lead, isBlank c = true) ∧ (∀ c ∈ trail, isBlank c = true) ∧
      s = lead ++ (trim s ++ trail) := by
  obtain ⟨lead, hlead, hs⟩ := exists_eq_append_trimStart s
  obtain ⟨trail, htrail, hstart⟩ := exists_eq_trimEnd_append (trimStart s)
  exact ⟨lead, trail, hlead, htrail, hs.trans (congrArg (lead ++ ·) hstart)⟩

theorem trimEnd_append_blanks {trail : List Char} (h : ∀ c ∈ trail, isBlank c = true) :
    trimEnd (s ++ trail) = trimEnd s := by
  unfold trimEnd dropEndWhile
  rw [List.reverse_append, List.dropWhile_append_of_pos (by simpa using h)]

/-- Nothing but white space is taken off. -/
theorem mem_trimEnd {c : Char} (h : c ∈ s) (hc : isBlank c = false) : c ∈ trimEnd s := by
  obtain ⟨trail, htrail, hs⟩ := exists_eq_trimEnd_append s
  rw [hs, List.mem_append] at h
  refine h.resolve_right fun hmem => ?_
  rw [htrail c hmem] at hc
  cases hc

theorem mem_trimStart {c : Char} (h : c ∈ s) (hc : isBlank c = false) : c ∈ trimStart s := by
  obtain ⟨lead, hlead, hs⟩ := exists_eq_append_trimStart s
  rw [hs, List.mem_append] at h
  refine h.resolve_left fun hmem => ?_
  rw [hlead c hmem] at hc
  cases hc

/-- A text without white space is what is left of it with white space around it. -/
theorem trim_append {lead trail : List Char} (hlead : ∀ c ∈ lead, isBlank c = true)
    (htrail : ∀ c ∈ trail, isBlank c = true) (hne : s ≠ []) (hs : ∀ c ∈ s, isBlank c = false) :
    trim (lead ++ (s ++ trail)) = s := by
  have hhead : ∀ c ∈ (s ++ trail).head?, isBlank c = false := by
    intro c hc
    rw [List.head?_append_of_ne_nil _ hne] at hc
    exact hs c (List.mem_of_head? hc)
  have hnone : trimEnd trail = [] := List.rdropWhile_eq_nil_iff.mpr htrail
  obtain ⟨front, last, rfl⟩ := (List.eq_nil_or_concat' s).resolve_left hne
  rw [trim, trimStart_append hlead hhead, List.append_assoc, List.singleton_append,
    trimEnd_append (hs last (by simp)), hnone]

end SlideDeck.Text

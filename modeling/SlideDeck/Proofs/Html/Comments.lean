/-
Every comment of a fragment is collected.

A fragment that begins with a comment is a row of comments with any text behind each of them, and
perhaps with one more comment that is not closed.  A body may hold what opens a comment and end in
dashes, and the text behind a comment may hold what closes one: where a comment ends and the next
one begins, neither mark can begin in the text and end in the mark itself.  So the reader finds
the comments as they were written, and every fragment is of one of three kinds: it does not begin
with a comment, all its comments are closed, or the last one is not.
-/
import SlideDeck.Html.Comment
import SlideDeck.Proofs.Logged
import SlideDeck.Proofs.Text.Search

namespace SlideDeck.Html

open SlideDeck.Text

/-! ### Rows of comments -/

/-- A comment that is closed, with the text behind it. -/
structure Remark where
  body : List Char
  behind : List Char
  closed : ¬commentClosing <:+: body
  apart : ¬commentOpening <:+: behind

/-- A comment with the text behind it as it is written. -/
def Remark.written (r : Remark) : List Char :=
  commentOpening ++ (r.body ++ (commentClosing ++ r.behind))

/-- Some comments, one behind the other. -/
def row (rs : List Remark) : List Char := rs.flatMap Remark.written

/-- A fragment is white space and then some comments, all of them closed. -/
structure IsRow (html : List Char) (rs : List Remark) : Prop where
  nonempty : rs ≠ []
  written : ∃ lead, (∀ c ∈ lead, isBlank c = true) ∧ html = lead ++ row rs

/-- A fragment is white space and then some comments, of which the last one is not closed. -/
def IsUnclosed (html : List Char) : Prop :=
  ∃ (lead : List Char) (rs : List Remark) (rest : List Char),
    (∀ c ∈ lead, isBlank c = true) ∧ ¬commentClosing <:+: rest ∧
      html = lead ++ (row rs ++ (commentOpening ++ rest))

/-! ### Marks do not begin in the text in front of them -/

theorem not_opening_isInfix_append {s : List Char} (h : ¬commentOpening <:+: s) :
    ¬commentOpening <:+: s ++ commentOpening.dropLast := by
  induction s with
  | nil => decide
  | cons c s ih =>
      rw [List.infix_cons_iff, not_or] at h
      rw [List.cons_append, List.infix_cons_iff, not_or]
      refine ⟨?_, ih h.2⟩
      -- A mark that begins at `c` lies in the text, or its second character is a bracket.
      match s, h.1 with
      | [], _ | [x], _ | [x, y], _ => simp [commentOpening]
      | x :: y :: z :: s, hhere => simpa [commentOpening] using hhere

theorem not_closing_isInfix_append {s : List Char} (h : ¬commentClosing <:+: s) :
    ¬commentClosing <:+: s ++ commentClosing.dropLast := by
  induction s with
  | nil => decide
  | cons c s ih =>
      rw [List.infix_cons_iff, not_or] at h
      rw [List.cons_append, List.infix_cons_iff, not_or]
      refine ⟨?_, ih h.2⟩
      match s, h.1 with
      | [], _ | [x], _ => simp [commentClosing]
      | x :: y :: s, hhere => simpa [commentClosing] using hhere

/-! ### Reading a row -/

theorem nextComment?_written {before : List Char} (hbefore : ¬commentOpening <:+: before)
    (r : Remark) (rest : List Char) :
    nextComment? (before ++ (r.written ++ rest)) = some (⟨before, r.body⟩, r.behind ++ rest) := by
  have hopen := splitAt?_append (not_opening_isInfix_append hbefore)
    (r.body ++ (commentClosing ++ (r.behind ++ rest)))
  have hclose := splitAt?_append (not_closing_isInfix_append r.closed) (r.behind ++ rest)
  simp only [nextComment?, Remark.written, List.append_assoc, hopen, hclose, Option.map_some]

theorem nextComment?_of_not_isInfix {s : List Char} (h : ¬commentOpening <:+: s) :
    nextComment? s = none := by
  have hnone := (splitAt?_eq_none_iff (by decide)).mpr h
  simp only [nextComment?, hnone]

theorem nextComment?_unclosed {before rest : List Char} (hbefore : ¬commentOpening <:+: before)
    (hrest : ¬commentClosing <:+: rest) :
    nextComment? (before ++ (commentOpening ++ rest)) = none := by
  have hopen := splitAt?_append (not_opening_isInfix_append hbefore) rest
  have hclose := (splitAt?_eq_none_iff (by decide)).mpr hrest
  simp only [nextComment?, hopen, hclose, Option.map_none]

/-- The text that is left behind some comments, the first of which follows some text. -/
def leftBehind (before : List Char) (rs : List Remark) : List Char :=
  (rs.getLast?.map (·.behind)).getD before

theorem leftBehind_cons (before : List Char) (r : Remark) (rs : List Remark) :
    leftBehind before (r :: rs) = leftBehind r.behind rs := by
  cases hlast : rs.getLast? <;> simp [leftBehind, List.getLast?_cons, hlast]

theorem not_opening_isInfix_leftBehind {before : List Char} (h : ¬commentOpening <:+: before)
    (rs : List Remark) : ¬commentOpening <:+: leftBehind before rs := by
  induction rs generalizing before with
  | nil => exact h
  | cons r rs ih =>
      rw [leftBehind_cons]
      exact ih r.apart

/-- The comments of a row are found one by one, up to where there is no further one.  The induction
is on the row, with the text in front of it as what is left behind the comment before. -/
theorem splitComments_row {before tail : List Char} (rs : List Remark)
    (hbefore : ¬commentOpening <:+: before)
    (htail : nextComment? (leftBehind before rs ++ tail) = none) :
    (splitComments (before ++ (row rs ++ tail))).1.map (·.body) = rs.map (·.body) ∧
      (splitComments (before ++ (row rs ++ tail))).2 = leftBehind before rs ++ tail := by
  induction rs generalizing before with
  | nil =>
      have hnone : nextComment? (before ++ (row [] ++ tail)) = none := htail
      rw [splitComments]
      split
      · exact ⟨rfl, rfl⟩
      · rename_i c after hsome
        rw [hnone] at hsome
        cases hsome
  | cons r rs ih =>
      rw [leftBehind_cons] at htail ⊢
      obtain ⟨hbodies, hrest⟩ := ih r.apart htail
      have hrow : before ++ (row (r :: rs) ++ tail) = before ++ (r.written ++ (row rs ++ tail)) := by
        simp [row]
      have hnext := nextComment?_written hbefore r (row rs ++ tail)
      rw [hrow, splitComments]
      split
      · rename_i hnone
        rw [hnext] at hnone
        cases hnone
      · rename_i c after hsome
        rw [hnext] at hsome
        obtain ⟨rfl, rfl⟩ := Prod.mk.inj (Option.some.inj hsome)
        exact ⟨congrArg _ hbodies, hrest⟩

/-! ### Fragments -/

theorem outcome_noticeText (about : String → Notice) (s : List Char) :
    (noticeText about s).outcome = .ok () := by
  unfold noticeText
  split <;> rfl

theorem outcome_forM_noticeText (comments : List Comment) :
    (comments.forM fun c => noticeText .htmlBetweenComments c.before).outcome = .ok () := by
  induction comments with
  | nil => rfl
  | cons c comments ih =>
      show (noticeText _ c.before >>= fun _ => comments.forM _).outcome = _
      rw [Logged.outcome_bind, outcome_noticeText]
      exact ih

/-- What is made of a fragment, by its comments and what is left behind them. -/
theorem outcome_commentBodies (html : String) :
    (commentBodies html).outcome =
      if commentOpening <+: trim html.toList then
        if commentOpening <:+: (splitComments (trim html.toList)).2 then
          .error (.malformedComment (trimString html))
        else .ok (some ((splitComments (trim html.toList)).1.map fun c => String.ofList c.body))
      else .ok none := by
  unfold commentBodies
  by_cases hstart : commentOpening <+: trim html.toList
  · have hopen : commentOpening ≠ [] := by decide
    simp only [startsWith_iff.mpr hstart, if_true, if_pos hstart]
    rw [Logged.outcome_bind, outcome_forM_noticeText]
    by_cases hrest : commentOpening <:+: (splitComments (trim html.toList)).2
    · rw [if_pos hrest]
      simp only [Except.bind, (contains_iff hopen).mpr hrest, if_true]
      rfl
    · rw [if_neg hrest]
      have hnot : ¬contains commentOpening (splitComments (trim html.toList)).2 = true := by
        rwa [contains_iff hopen]
      simp only [Except.bind, if_neg hnot, Logged.outcome_bind, outcome_noticeText,
        Logged.outcome_pure]
  · have hnot : ¬startsWith commentOpening (trim html.toList) = true := by rwa [startsWith_iff]
    rw [if_neg hnot, if_neg hstart]
    rfl

/-- Trimming cuts no comment, only the text behind the last one. -/
theorem exists_trimEnd_row {rs : List Remark} (hne : rs ≠ []) :
    ∃ rs', rs' ≠ [] ∧ rs'.map (·.body) = rs.map (·.body) ∧ trimEnd (row rs) = row rs' := by
  obtain ⟨front, last, rfl⟩ := (List.eq_nil_or_concat' rs).resolve_left hne
  have hbracket : isBlank '>' = false := by decide
  have hapart : ¬commentOpening <:+: trimEnd last.behind := by
    intro hwithin
    exact last.apart (hwithin.trans (trimEnd_isPrefix last.behind).isInfix)
  have hrow : ∀ behind h, row (front ++ [⟨last.body, behind, last.closed, h⟩]) =
      (row front ++ commentOpening ++ last.body ++ ['-', '-']) ++ '>' :: behind := by
    intro behind h
    simp [row, Remark.written, commentClosing]
  refine ⟨front ++ [⟨last.body, trimEnd last.behind, last.closed, hapart⟩], by simp, by simp, ?_⟩
  rw [hrow (trimEnd last.behind) hapart, ← trimEnd_append hbracket]
  exact congrArg trimEnd (hrow last.behind last.apart)

/-- A row of comments is trimmed to a row of the same comments. -/
theorem IsRow.exists_trim {html : List Char} {rs : List Remark} (h : IsRow html rs) :
    ∃ rs', rs' ≠ [] ∧ rs'.map (·.body) = rs.map (·.body) ∧ trim html = row rs' := by
  obtain ⟨lead, hlead, rfl⟩ := h.written
  obtain ⟨r, rs, rfl⟩ := List.exists_cons_of_ne_nil h.nonempty
  have hhead : ∀ c ∈ (row (r :: rs)).head?, isBlank c = false := by
    intro c hc
    have hbracket : (row (r :: rs)).head? = some '<' := by
      simp [row, Remark.written, commentOpening]
    rw [hbracket] at hc
    rw [← Option.some.inj hc]
    decide
  rw [trim, trimStart_append hlead hhead]
  exact exists_trimEnd_row h.nonempty

/-- A fragment with a comment that is not closed is trimmed to such a fragment. -/
theorem IsUnclosed.exists_trim {html : List Char} (h : IsUnclosed html) :
    ∃ rs rest, ¬commentClosing <:+: rest ∧ trim html = row rs ++ (commentOpening ++ rest) := by
  obtain ⟨lead, rs, rest, hlead, hrest, rfl⟩ := h
  have hhead : ∀ c ∈ (row rs ++ (commentOpening ++ rest)).head?, isBlank c = false := by
    intro c hc
    have hbracket : (row rs ++ (commentOpening ++ rest)).head? = some '<' := by
      cases rs <;> simp [row, Remark.written, commentOpening]
    rw [hbracket] at hc
    rw [← Option.some.inj hc]
    decide
  have hdash : isBlank '-' = false := by decide
  refine ⟨rs, trimEnd rest, ?_, ?_⟩
  · intro hwithin
    exact hrest (hwithin.trans (trimEnd_isPrefix rest).isInfix)
  · rw [trim, trimStart_append hlead hhead]
    have hmark : ∀ s, row rs ++ (commentOpening ++ s) =
        (row rs ++ ['<', '!', '-']) ++ '-' :: s := by
      intro s
      simp [commentOpening]
    rw [hmark, trimEnd_append hdash, hmark]

/-- A row that is not empty begins with a comment. -/
theorem opening_isPrefix_row {rs : List Remark} (hne : rs ≠ []) : commentOpening <+: row rs := by
  obtain ⟨r, rs, rfl⟩ := List.exists_cons_of_ne_nil hne
  rw [row, List.flatMap_cons, Remark.written, List.append_assoc]
  exact List.prefix_append _ _

theorem commentBodies_of_isRow {html : String} {rs : List Remark} (h : IsRow html.toList rs) :
    (commentBodies html).outcome = .ok (some (rs.map fun r => String.ofList r.body)) := by
  obtain ⟨rs', hne, hbodies, htrim⟩ := h.exists_trim
  have hnone : ¬commentOpening <:+: ([] : List Char) := by decide
  have hleft := not_opening_isInfix_leftBehind hnone rs'
  have hstop : nextComment? (leftBehind [] rs' ++ []) = none := by
    rw [List.append_nil]
    exact nextComment?_of_not_isInfix hleft
  obtain ⟨hcomments, hrest⟩ := splitComments_row rs' hnone hstop
  rw [List.nil_append, List.append_nil] at hcomments hrest
  rw [List.append_nil] at hrest
  rw [outcome_commentBodies, htrim, if_pos (opening_isPrefix_row hne), hrest, if_neg hleft]
  have hstrings := congrArg (List.map String.ofList) (hcomments.trans hbodies)
  rw [List.map_map, List.map_map] at hstrings
  exact congrArg (fun bodies => Except.ok (some bodies)) hstrings

theorem commentBodies_of_isUnclosed {html : String} (h : IsUnclosed html.toList) :
    (commentBodies html).outcome = .error (.malformedComment (trimString html)) := by
  obtain ⟨rs, rest, hunclosed, htrim⟩ := h.exists_trim
  have hnone : ¬commentOpening <:+: ([] : List Char) := by decide
  have hleft := not_opening_isInfix_leftBehind hnone rs
  obtain ⟨-, hrest⟩ := splitComments_row rs hnone (nextComment?_unclosed hleft hunclosed)
  rw [List.nil_append] at hrest
  have hstart : commentOpening <+: row rs ++ (commentOpening ++ rest) := by
    cases rs with
    | nil => exact List.prefix_append _ _
    | cons r rs => exact (opening_isPrefix_row (by simp)).trans (List.prefix_append _ _)
  have hopen : commentOpening <:+: leftBehind [] rs ++ (commentOpening ++ rest) :=
    ⟨leftBehind [] rs, rest, by simp⟩
  rw [outcome_commentBodies, htrim, if_pos hstart, hrest, if_pos hopen]

/-! ### Every fragment -/

/-- A comment that is closed, with what is behind it up to some further text. -/
theorem exists_remark {inside body behind more : List Char}
    (hclose : splitAt? commentClosing inside = some (body, behind ++ more))
    (hbehind : ¬commentOpening <:+: behind) :
    ∃ r : Remark, commentOpening ++ inside = r.written ++ more := by
  have hclosed := not_isInfix_of_splitAt? (by decide) hclose
  refine ⟨⟨body, behind, hclosed, hbehind⟩, ?_⟩
  rw [splitAt?_eq_some hclose]
  simp [Remark.written]

/-- Every text is some text without a comment, then a row of comments, and perhaps one more comment
that is not closed.  The cases are those of the reader. -/
theorem exists_row (s : List Char) :
    ∃ before rs tail, s = before ++ (row rs ++ tail) ∧ ¬commentOpening <:+: before ∧
      (tail = [] ∨ ∃ rest, ¬commentClosing <:+: rest ∧ tail = commentOpening ++ rest) := by
  have hopening : commentOpening ≠ [] := by decide
  have hclosing : commentClosing ≠ [] := by decide
  induction s using splitComments.induct with
  | case1 s hnone =>
      cases hopen : splitAt? commentOpening s with
      | none =>
          have hbefore := (splitAt?_eq_none_iff hopening).mp hopen
          exact ⟨s, [], [], by simp [row], hbefore, .inl rfl⟩
      | some found =>
          obtain ⟨before, inside⟩ := found
          have hclose : splitAt? commentClosing inside = none := by
            simpa [nextComment?, hopen] using hnone
          have hinside := (splitAt?_eq_none_iff hclosing).mp hclose
          have hbefore := not_isInfix_of_splitAt? hopening hopen
          refine ⟨before, [], commentOpening ++ inside, ?_, hbefore, .inr ⟨inside, hinside, rfl⟩⟩
          rw [splitAt?_eq_some hopen]
          rfl
  | case2 s c after hsome cs rest hsplit ih =>
      obtain ⟨behind, rs, tail, rfl, hbehind, htail⟩ := ih
      unfold nextComment? at hsome
      cases hopen : splitAt? commentOpening s with
      | none => simp [hopen] at hsome
      | some found =>
          obtain ⟨before, inside⟩ := found
          simp only [hopen] at hsome
          obtain ⟨⟨body, after⟩, hclose, heq⟩ := Option.map_eq_some_iff.mp hsome
          cases heq
          obtain ⟨r, hr⟩ := exists_remark hclose hbehind
          refine ⟨before, r :: rs, tail, ?_, not_isInfix_of_splitAt? hopening hopen, htail⟩
          rw [splitAt?_eq_some hopen, hr]
          simp [row]

/-- A fragment that begins with a comment is a row of comments, or the last one is not closed. -/
theorem isRow_or_isUnclosed {html : List Char} (h : commentOpening <+: trim html) :
    (∃ rs, IsRow html rs) ∨ IsUnclosed html := by
  obtain ⟨lead, hlead, hhtml⟩ := exists_eq_append_trimStart html
  obtain ⟨inside, hinside⟩ := h.trans (trimEnd_isPrefix _)
  rw [← hinside] at hhtml
  cases hclose : splitAt? commentClosing inside with
  | none =>
      have hunclosed := (splitAt?_eq_none_iff (by decide)).mp hclose
      exact .inr ⟨lead, [], inside, hlead, hunclosed, hhtml⟩
  | some found =>
      obtain ⟨body, after⟩ := found
      obtain ⟨behind, rs, tail, rfl, hbehind, htail⟩ := exists_row after
      obtain ⟨r, hr⟩ := exists_remark hclose hbehind
      have hrow : html = lead ++ (row (r :: rs) ++ tail) := by
        rw [hhtml, hr]
        simp [row]
      rcases htail with rfl | ⟨rest, hrest, rfl⟩
      · rw [List.append_nil] at hrow
        exact .inl ⟨r :: rs, List.cons_ne_nil _ _, lead, hlead, hrow⟩
      · exact .inr ⟨lead, r :: rs, rest, hlead, hrest, hrow⟩

theorem outcome_commentBodies_eq_none_iff (html : String) :
    (commentBodies html).outcome = .ok none ↔ ¬commentOpening <+: trim html.toList := by
  rw [outcome_commentBodies]
  by_cases hstart : commentOpening <+: trim html.toList
  · rw [if_pos hstart]
    split <;> simp [hstart]
  · simp [hstart]

/--
**Every comment is collected, and only one that is not closed is an error.**  The bodies of a row of
comments are given in order, whatever they and the texts behind them hold apart from the mark that
would end them.  If one more comment follows that is not closed, the fragment is refused.  There
are no bodies exactly if the fragment, trimmed, does not begin with a comment.  Every fragment is of
one of these kinds.
-/
theorem commentBodies_collects (html : String) :
    (∀ rs, IsRow html.toList rs →
      (commentBodies html).outcome = .ok (some (rs.map fun r => String.ofList r.body))) ∧
    (IsUnclosed html.toList →
      (commentBodies html).outcome = .error (.malformedComment (trimString html))) ∧
    ((commentBodies html).outcome = .ok none ↔ ¬commentOpening <+: trim html.toList) ∧
    ((∃ rs, IsRow html.toList rs) ∨ IsUnclosed html.toList ∨
      ¬commentOpening <+: trim html.toList) := by
  refine ⟨?_, commentBodies_of_isUnclosed, outcome_commentBodies_eq_none_iff html, ?_⟩
  · intro rs hrow
    exact commentBodies_of_isRow hrow
  · by_cases hstart : commentOpening <+: trim html.toList
    · rcases isRow_or_isUnclosed hstart with hrow | hunclosed
      · exact .inl hrow
      · exact .inr (.inl hunclosed)
    · exact .inr (.inr hstart)

/-- Comments with marks in them and behind them, and one that is empty. -/
def dashed : List Remark :=
  [⟨" a <!-- ---".toList, "--> x \n".toList, by decide, by decide⟩,
    ⟨[], " -- ".toList, by decide, by decide⟩]

theorem commentBodies_dashed :
    IsRow " <!-- a <!-- ----->--> x \n<!----> -- ".toList dashed ∧
    (commentBodies " <!-- a <!-- ----->--> x \n<!----> -- ").outcome =
      .ok (some [" a <!-- ---", ""]) ∧
    IsUnclosed " <!-- a <!-- ----->--> x \n<!----> -- <!-->".toList ∧
    (commentBodies " <!-- a <!-- ----->--> x \n<!----> -- <!-->").outcome =
      .error (.malformedComment "<!-- a <!-- ----->--> x \n<!----> -- <!-->") := by
  have hrow : IsRow " <!-- a <!-- ----->--> x \n<!----> -- ".toList dashed :=
    ⟨List.cons_ne_nil _ _, [' '], by simp [isBlank], by decide⟩
  have hunclosed : IsUnclosed " <!-- a <!-- ----->--> x \n<!----> -- <!-->".toList :=
    ⟨[' '], dashed, ['>'], by simp [isBlank], by decide, by decide⟩
  exact ⟨hrow, (commentBodies_collects _).1 dashed hrow, hunclosed,
    (commentBodies_collects _).2.1 hunclosed⟩

end SlideDeck.Html

/-
How far a line is indented.

The indentation of a text is the number of tabs that its last line is, or none if something else
stands on that line.  A piece changes the indentation of its sheet in a way that can be read off
the piece: what ends a paragraph leaves an empty line, an item is opened on a line of its own and
with a tab for each list around its own, and a break within running text stands on the line itself.
Section headings and code end the paragraph in front of themselves, and tabs are enough of one to
be ended, so their text is never indented.
-/
import SlideDeck.Proofs.Draft.Paragraphs

namespace SlideDeck

/-! ### Indentation of a text -/

/-- The last line of a text is some tabs. -/
def IndentedBy (cs : List Char) (tabs : Nat) : Prop :=
  ∃ front, cs = front ++ List.replicate tabs '\t' ∧ (front = [] ∨ front.getLast? = some '\n')

/-- One more character on a line with some tabs, or with something else. -/
def indentStep (indent : Option Nat) (c : Char) : Option Nat :=
  if c = '\n' then some 0 else if c = '\t' then indent.map (· + 1) else none

/-- How many tabs the last line of a text is, if it is nothing else. -/
def indentOf (cs : List Char) : Option Nat := cs.foldl indentStep (some 0)

theorem indentOf_append (cs cs' : List Char) :
    indentOf (cs ++ cs') = cs'.foldl indentStep (indentOf cs) := List.foldl_append

theorem indentOf_concat_newline (cs : List Char) : indentOf (cs ++ ['\n']) = some 0 := by
  rw [indentOf_append]
  rfl

theorem foldl_indentStep_tabs (k tabs : Nat) :
    (List.replicate tabs '\t').foldl indentStep (some k) = some (k + tabs) := by
  induction tabs generalizing k with
  | zero => rfl
  | succ tabs ih =>
      have hstep : indentStep (some k) '\t' = some (k + 1) := rfl
      rw [List.replicate_succ, List.foldl_cons, hstep, ih, Nat.add_right_comm, Nat.add_assoc]

theorem IndentedBy.indentOf_eq {cs : List Char} {tabs : Nat} (h : IndentedBy cs tabs) :
    indentOf cs = some tabs := by
  obtain ⟨front, rfl, hfront⟩ := h
  have hzero : indentOf front = some 0 := by
    rcases hfront with rfl | hlast
    · rfl
    · obtain ⟨init, rfl⟩ := List.getLast?_eq_some_iff.mp hlast
      exact indentOf_concat_newline init
  rw [indentOf_append, hzero, foldl_indentStep_tabs, Nat.zero_add]

theorem indentedBy_of_indentOf {cs : List Char} {tabs : Nat} (h : indentOf cs = some tabs) :
    IndentedBy cs tabs := by
  induction cs using List.reverseRecOn generalizing tabs with
  | nil =>
      obtain rfl : 0 = tabs := Option.some.inj h
      exact ⟨[], rfl, .inl rfl⟩
  | append_singleton cs c ih =>
      rw [indentOf_append, List.foldl_cons, List.foldl_nil, indentStep] at h
      by_cases hnewline : c = '\n'
      · rw [if_pos hnewline] at h
        obtain rfl : 0 = tabs := Option.some.inj h
        subst hnewline
        exact ⟨cs ++ ['\n'], (List.append_nil _).symm, .inr List.getLast?_concat⟩
      · rw [if_neg hnewline] at h
        by_cases htab : c = '\t'
        · rw [if_pos htab, Option.map_eq_some_iff] at h
          obtain ⟨k, hk, rfl⟩ := h
          obtain ⟨front, rfl, hfront⟩ := ih hk
          refine ⟨front, ?_, hfront⟩
          rw [htab, List.append_assoc, List.replicate_succ']
        · rw [if_neg htab] at h
          cases h

theorem indentedBy_iff {cs : List Char} {tabs : Nat} :
    IndentedBy cs tabs ↔ indentOf cs = some tabs :=
  ⟨IndentedBy.indentOf_eq, indentedBy_of_indentOf⟩

instance (cs : List Char) (tabs : Nat) : Decidable (IndentedBy cs tabs) :=
  decidable_of_iff _ indentedBy_iff.symm

/-! ### First texts -/

/-- The text that a token of running text writes. -/
def Token.payload : Token → List Char
  | .text t | .emoji _ t | .inlineCode t => t.toList
  | _ => []

/-- Whether a token breaks a line of running text. -/
def Token.isBreak : Token → Bool
  | .softBreak | .hardBreak => true
  | _ => false

/-- The tokens in front of the first one that writes text. -/
def beforeText : List InlineToken → List InlineToken
  | [] => []
  | t :: content => if t.val.payload = [] then t :: beforeText content else []

/-- The text of the first token that writes some. -/
def firstText : List InlineToken → List Char
  | [] => []
  | t :: content => if t.val.payload = [] then firstText content else t.val.payload

/-- The first text that a piece writes in a body. -/
def Piece.firstText : Piece → List Char
  | inline t => t.val.payload
  | paragraph _ content => SlideDeck.firstText content
  | heading level _ _ content => if level ≤ 2 then [] else SlideDeck.firstText content
  | code _ content => (Draft.codeText content).toList
  | _ => []

/-! ### What a piece does to a line -/

/-- How many lists are open behind a piece. -/
def Piece.depthAfter (depth : Nat) : Piece → Nat
  | listOpen _ => depth + 1
  | listClose _ => depth - 1
  | _ => depth

/-- The lists and the line that are being written. -/
structure Line where
  /-- How many lists are open around the innermost one. -/
  depth : Nat
  /-- The tabs on the line, if there is nothing else. -/
  indent : Option Nat
deriving DecidableEq

/-- The indentation behind running text that writes no text. -/
def indentBehind (indent : Option Nat) (content : List InlineToken) : Option Nat :=
  if content.any (·.val.isBreak) then none else indent

namespace Line

/-- The indentation behind a piece that writes no text. -/
def indentAfter (l : Line) : Piece → Option Nat
  | .inline t => indentBehind l.indent [t]
  | .paragraph .. | .code .. | .itemClose => some 0
  | .heading level .. => if level ≤ 2 then l.indent else some 0
  | .itemOpen => some l.depth
  | .listOpen _ | .listClose _ | .table _ | .html _ | .rule => l.indent

/-- The line behind a piece that writes no text. -/
def take (l : Line) (p : Piece) : Line := ⟨p.depthAfter l.depth, l.indentAfter p⟩

/-- The indentation in front of the first text of a piece. -/
def indentIn (l : Line) : Piece → Option Nat
  | .paragraph _ content => indentBehind l.indent (beforeText content)
  | .heading _ _ _ content => indentBehind (some 0) (beforeText content)
  | .code .. => some 0
  | _ => l.indent

end Line

namespace Sheet

/-- The characters on a sheet. -/
def chars (s : Sheet) : List Char := s.letters.map (·.char)

/-- How far the end of a sheet is indented. -/
def indent (s : Sheet) : Option Nat := indentOf s.chars

/-- What a piece writes on the sheet of its column. -/
def take (s : Sheet) : Piece → Sheet
  | .inline t => s.takeInline t.val
  | .paragraph _ content => (s.takeText content).breakParagraph
  | .heading level _ _ content => if level ≤ 2 then s else s.takeHeading content
  | .code _ content => s.takeCode content
  | .listOpen kind => s.openList kind
  | .listClose _ => s.closeList
  | .itemOpen => s.openItem
  | .itemClose => s.closeItem
  | .table _ | .html _ | .rule => s

/-- The sheet as far as the first text of a piece. -/
def takeBefore (s : Sheet) : Piece → Sheet
  | .paragraph _ content => s.takeText (beforeText content)
  | .heading _ _ _ content =>
    (s.breakParagraph.openStyle { bold := some true } none).takeText (beforeText content)
  | .code .. => s.breakParagraph
  | _ => s

end Sheet

/-! ### Indentation of a sheet -/

namespace Sheet

variable {s : Sheet} {l : Line} {p : Piece}

theorem chars_write (s : Sheet) (cs : List Char) : (s.write cs).chars = s.chars ++ cs := by
  rw [chars, write, List.map_append, List.map_map]
  exact congrArg _ (List.map_id' _)

theorem indent_write (s : Sheet) (cs : List Char) :
    (s.write cs).indent = cs.foldl indentStep s.indent := by
  rw [indent, chars_write, indentOf_append]
  rfl

theorem AtStart.indent_eq (h : s.AtStart) : s.indent = some 0 := by
  unfold indent chars
  rcases h with hempty | hnewline
  · rw [hempty]
    rfl
  · obtain ⟨l, hlast, hchar⟩ := (Option.any_eq_true _ _).mp hnewline
    obtain ⟨init, hinit⟩ := List.getLast?_eq_some_iff.mp hlast
    rw [hinit, List.map_append, List.map_singleton, eq_of_beq hchar]
    exact indentOf_concat_newline _

theorem indent_breakParagraph (s : Sheet) : s.breakParagraph.indent = some 0 :=
  s.atStart_breakParagraph.indent_eq

theorem chars_takeInline {t : Token} (h : t.isBreak = false) (s : Sheet) :
    (s.takeInline t).chars = s.chars ++ t.payload := by
  cases t with
  | text t | emoji shortcode t => exact s.chars_write t.toList
  | inlineCode code => exact chars_write _ code.toList
  | softBreak | hardBreak => cases h
  | htmlInline html =>
      unfold takeInline
      simp only
      split <;> exact (List.append_nil _).symm
  | _ => exact (List.append_nil _).symm

theorem indent_takeInline {t : Token} (h : t.payload = []) (s : Sheet) :
    (s.takeInline t).indent = if t.isBreak then none else s.indent := by
  by_cases hbreak : t.isBreak = true
  · rw [if_pos hbreak]
    cases t with
    | softBreak | hardBreak => exact s.indent_write _
    | _ => cases hbreak
  · rw [if_neg hbreak, indent, chars_takeInline (Bool.eq_false_iff.mpr hbreak), h,
      List.append_nil]
    rfl

theorem indentBehind_cons (indent : Option Nat) (t : InlineToken) (content : List InlineToken) :
    indentBehind indent (t :: content) =
      indentBehind (if t.val.isBreak then none else indent) content := by
  unfold indentBehind
  rw [List.any_cons]
  cases t.val.isBreak with
  | false => rfl
  | true => exact (ite_self none).symm

theorem indent_takeText {content : List InlineToken} (h : ∀ t ∈ content, t.val.payload = [])
    (s : Sheet) : (s.takeText content).indent = indentBehind s.indent content := by
  induction content generalizing s with
  | nil => rfl
  | cons t content ih =>
      obtain ⟨ht, hcontent⟩ := List.forall_mem_cons.mp h
      have hrest := ih hcontent (s.takeInline t.val)
      rw [indent_takeInline ht] at hrest
      rw [indentBehind_cons, ← hrest]
      rfl

theorem payload_of_mem_beforeText {content : List InlineToken} {t : InlineToken}
    (ht : t ∈ beforeText content) : t.val.payload = [] := by
  induction content with
  | nil => cases ht
  | cons t' content ih =>
      rw [beforeText] at ht
      by_cases hnone : t'.val.payload = []
      · rw [if_pos hnone] at ht
        rcases List.mem_cons.mp ht with rfl | ht
        · exact hnone
        · exact ih ht
      · rw [if_neg hnone] at ht
        cases ht

/-- The line in front of the text of a piece is as the piece says. -/
theorem indent_takeBefore (hindent : s.indent = l.indent) (p : Piece) :
    (s.takeBefore p).indent = l.indentIn p := by
  cases p with
  | paragraph attributes content =>
      rw [takeBefore, indent_takeText fun t ht => payload_of_mem_beforeText ht, hindent]
      rfl
  | heading level positive attributes content =>
      rw [takeBefore, indent_takeText fun t ht => payload_of_mem_beforeText ht]
      have hopen : (s.breakParagraph.openStyle { bold := some true } none).indent = some 0 :=
        s.indent_breakParagraph
      rw [hopen]
      rfl
  | code info content => exact s.indent_breakParagraph
  | _ => exact hindent

/-- A sheet is being written in a list that was opened on its slide, with some lists around it. -/
structure Within (s : Sheet) (depth : Nat) : Prop where
  inList : s.lists.outer.isSome = true
  depth_eq : s.lists.depth = depth

theorem Within.kept (depth : Nat) : Kept (Within · depth) :=
  ⟨fun _ _ h => ⟨h.inList, h.depth_eq⟩, fun _ _ h => ⟨h.inList, h.depth_eq⟩⟩

theorem Within.closeList {depth : Nat} (h : s.Within depth) (hpos : 0 < depth) :
    s.closeList.Within (depth - 1) := by
  obtain ⟨o, houter⟩ := Option.isSome_iff_exists.mp h.inList
  have hdepth := h.depth_eq
  rw [closeList_inner houter (hdepth ▸ hpos)]
  exact ⟨h.inList, congrArg (· - 1) hdepth⟩

theorem Within.openList {depth : Nat} (h : s.Within depth) (kind : ListKind) :
    (s.openList kind).Within (depth + 1) := by
  obtain ⟨o, houter⟩ := Option.isSome_iff_exists.mp h.inList
  rw [openList_inner houter]
  exact ⟨h.inList, congrArg (· + 1) h.depth_eq⟩

theorem Within.take {depth : Nat} (h : s.Within depth)
    (hclose : ∀ kind, p = .listClose kind → 0 < depth) :
    (s.take p).Within (p.depthAfter depth) := by
  have hkept := Within.kept depth
  cases p with
  | inline t => exact hkept.takeInline h t.val
  | paragraph attributes content => exact hkept.breakParagraph (hkept.takeText h content)
  | heading level positive attributes content =>
      rw [Sheet.take]
      split
      · exact h
      · exact hkept.takeHeading h content
  | code info content => exact hkept.takeCode h content
  | listOpen kind => exact h.openList kind
  | listClose kind => exact h.closeList (hclose kind rfl)
  | itemOpen => exact hkept.openItem h
  | itemClose => exact hkept.closeItem h
  | table rows => exact h
  | html html => exact h
  | rule => exact h

theorem Within.indent_openItem {depth : Nat} (h : s.Within depth) :
    s.openItem.indent = some depth := by
  rw [openItem, if_pos h.inList, h.depth_eq, indent_write, indent_breakParagraph,
    foldl_indentStep_tabs, Nat.zero_add]

/-- The line behind a piece without text is as the piece says. -/
theorem Within.indent_take (h : s.Within l.depth) (hindent : s.indent = l.indent)
    (hsilent : p.firstText = []) : (s.take p).indent = l.indentAfter p := by
  cases p with
  | inline t =>
      have hinline : (s.takeText [t]).indent = indentBehind s.indent [t] := by
        refine indent_takeText (fun t' ht' => ?_) s
        rw [List.mem_singleton.mp ht']
        exact hsilent
      rwa [hindent] at hinline
  | paragraph attributes content => exact indent_breakParagraph _
  | heading level positive attributes content =>
      rw [Sheet.take, Line.indentAfter]
      split
      · exact hindent
      · exact indent_breakParagraph _
  | code info content => exact indent_breakParagraph _
  | listOpen kind =>
      have hletters : (s.openList kind).letters = s.letters := by
        refine letters_openList_inner ?_ kind
        simp [Option.isNone_iff_eq_none, ← Option.isSome_iff_ne_none, h.inList]
      have hchars : (s.openList kind).chars = s.chars := congrArg (List.map Letter.char) hletters
      exact (congrArg indentOf hchars).trans hindent
  | listClose kind => exact hindent
  | itemOpen => exact h.indent_openItem
  | itemClose => exact s.atStart_closeItem.indent_eq
  | table rows => exact hindent
  | html html => exact hindent
  | rule => exact hindent

/-! ### What stays on a sheet -/

theorem chars_stay {s' : Sheet} (h : s.letters <+: s'.letters) : s.chars <+: s'.chars :=
  h.map _

theorem stays_take (s : Sheet) (p : Piece) : s.letters <+: (s.take p).letters := by
  have hkept := kept_stays s.letters
  have hself := List.prefix_refl s.letters
  cases p with
  | inline t => exact hkept.takeInline hself t.val
  | paragraph attributes content => exact hkept.breakParagraph (hkept.takeText hself content)
  | heading level positive attributes content =>
      rw [Sheet.take]
      split
      · exact hself
      · exact hkept.takeHeading hself content
  | code info content => exact hkept.takeCode hself content
  | listOpen kind =>
      by_cases houter : s.lists.outer.isNone = true
      · exact (letters_openList_outer houter kind).symm ▸ hkept.breakParagraph hself
      · exact (letters_openList_inner houter kind).symm ▸ hself
  | listClose kind => exact hself
  | itemOpen => exact hkept.openItem hself
  | itemClose => exact hkept.closeItem hself
  | table rows => exact hself
  | html html => exact hself
  | rule => exact hself

theorem isBreak_of_payload {t : Token} (h : t.payload ≠ []) : t.isBreak = false := by
  cases t with
  | softBreak | hardBreak => exact absurd rfl h
  | _ => rfl

/-- The first text of some tokens stands behind what is in front of it. -/
theorem firstText_takeText {content : List InlineToken} (h : firstText content ≠ [])
    (s : Sheet) :
    (s.takeText (beforeText content)).chars ++ firstText content <+:
      (s.takeText content).chars := by
  induction content generalizing s with
  | nil => exact absurd rfl h
  | cons t content ih =>
      rw [firstText] at h ⊢
      rw [beforeText]
      by_cases hnone : t.val.payload = []
      · rw [if_pos hnone] at h ⊢
        rw [if_pos hnone]
        exact ih h (s.takeInline t.val)
      · rw [if_neg hnone, if_neg hnone]
        have hbreak : t.val.isBreak = false := isBreak_of_payload hnone
        have hstays := Trace.stays_takeText (s.takeInline t.val) content
        rw [← chars_takeInline hbreak]
        exact chars_stay hstays

/-- The first text of a piece stands behind what is in front of it. -/
theorem firstText_take (h : p.firstText ≠ []) (s : Sheet) :
    (s.takeBefore p).chars ++ p.firstText <+: (s.take p).chars := by
  cases p with
  | inline t =>
      have hchars := chars_takeInline (isBreak_of_payload h) s
      exact hchars ▸ List.prefix_refl _
  | paragraph attributes content =>
      exact (firstText_takeText h s).trans (chars_stay (Trace.stays_breakParagraph _))
  | heading level positive attributes content =>
      rw [Piece.firstText] at h ⊢
      by_cases hlevel : level ≤ 2
      · rw [if_pos hlevel] at h
        exact absurd rfl h
      · rw [if_neg hlevel] at h ⊢
        rw [Sheet.take, if_neg hlevel]
        have hend := Trace.stays_breakParagraph
          (((s.breakParagraph.openStyle { bold := some true } none).takeText content).closeStyle
            none)
        exact (firstText_takeText h _).trans (chars_stay hend)
  | code info content =>
      have hchars : (s.breakParagraph.writeCode (Draft.codeText content)).chars =
          s.breakParagraph.chars ++ (Draft.codeText content).toList := chars_write _ _
      exact hchars ▸ chars_stay (Trace.stays_breakParagraph _)
  | _ => exact absurd rfl h

end Sheet

end SlideDeck

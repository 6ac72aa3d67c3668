/-
When a document is refused.

Apart from HTML that cannot be read, two things are refused: a list within a list of another kind,
and a second table on a slide.  A draft has one kind and one depth for all the lists that are open.
That is enough, because a list of another kind never gets in among them, and because a rule
forgets them all: those that were cut by it are closed later without any being open.  So the draft
always agrees with the stack of the lists that were opened since the last rule, and a run fails at
the first token that the stack and the tables since the last rule do not admit.

Nothing is assumed of how the tokens are nested.  A token that closes no open table counts as none.
-/
import SlideDeck.Proofs.Draft.Break

namespace SlideDeck

/-! ### What stands since the last rule -/

/-- What a document has open since its last rule, and how many tables it has closed since. -/
structure Stretch where
  /-- The kinds of the lists that are open, innermost first. -/
  lists : List ListKind := []
  inTable : Bool := false
  tables : Nat := 0

namespace Stretch

/-- Takes a token. -/
def take (s : Stretch) : Token → Stretch
  | .listOpen kind => { s with lists := kind :: s.lists }
  | .listClose _ => { s with lists := s.lists.tail }
  | .tableOpen => { s with inTable := true }
  | .tableClose =>
    { s with inTable := false, tables := if s.inTable then s.tables + 1 else s.tables }
  | .horizontalRule => {}
  | _ => s

/-- What stands after some tokens. -/
def ofTokens (tokens : List Token) : Stretch := tokens.foldl take {}

/-- Why a token may not come next: a list of another kind is open, or a table of this slide was
closed already. -/
def refusal? (s : Stretch) : Token → Option Failure
  | .listOpen kind => if ∃ k ∈ s.lists, k ≠ kind then some .mixedLists else none
  | .tableClose => if s.inTable ∧ 0 < s.tables then some .severalTables else none
  | _ => none

/-- Why some tokens may not come next, as soon as one may not. -/
def firstRefusal? (s : Stretch) : List Token → Option Failure
  | [] => none
  | t :: tokens => (s.refusal? t).or ((s.take t).firstRefusal? tokens)

variable {s : Stretch}

theorem kind_of_refusal? {t : Token} {e : Failure} (h : s.refusal? t = some e) :
    e.kind = .structural := by
  unfold refusal? at h
  split at h
  · split at h
    · rw [← Option.some.inj h]; rfl
    · cases h
  · split at h
    · rw [← Option.some.inj h]; rfl
    · cases h
  · cases h

theorem firstRefusal?_append (before after : List Token) :
    s.firstRefusal? (before ++ after) =
      (s.firstRefusal? before).or ((before.foldl take s).firstRefusal? after) := by
  induction before generalizing s with
  | nil => rfl
  | cons t before ih =>
      rw [List.cons_append, firstRefusal?, firstRefusal?, ih, Option.or_assoc, List.foldl_cons]

/-- Nothing is refused if no token is, wherever the tokens are split. -/
theorem firstRefusal?_eq_none_iff {tokens : List Token} :
    s.firstRefusal? tokens = none ↔
      ∀ before t after, tokens = before ++ t :: after →
        (before.foldl take s).refusal? t = none := by
  constructor
  · rintro h before t after rfl
    rw [firstRefusal?_append, Option.or_eq_none_iff] at h
    exact (Option.or_eq_none_iff.mp h.2).1
  · intro h
    induction tokens generalizing s with
    | nil => rfl
    | cons t tokens ih =>
        refine Option.or_eq_none_iff.mpr ⟨h [] t tokens rfl, ih ?_⟩
        intro before t' after heq
        refine h (t :: before) t' after ?_
        rw [heq, List.cons_append]

/-- The first refusal belongs to a token before which none is refused. -/
theorem firstRefusal?_eq_some_iff {tokens : List Token} {e : Failure} :
    s.firstRefusal? tokens = some e ↔
      ∃ before t after, tokens = before ++ t :: after ∧
        (before.foldl take s).refusal? t = some e ∧ s.firstRefusal? before = none := by
  constructor
  · intro h
    induction tokens generalizing s with
    | nil => cases h
    | cons t tokens ih =>
        cases ht : s.refusal? t with
        | some e' =>
            rw [firstRefusal?, ht] at h
            exact ⟨[], t, tokens, rfl, ht.trans h, rfl⟩
        | none =>
            rw [firstRefusal?, ht, Option.none_or] at h
            obtain ⟨before, t', after, rfl, hrefused, hbefore⟩ := ih h
            refine ⟨t :: before, t', after, rfl, hrefused, ?_⟩
            rw [firstRefusal?, ht, Option.none_or, hbefore]
  · rintro ⟨before, t, after, rfl, hrefused, hbefore⟩
    rw [firstRefusal?_append, hbefore, Option.none_or, firstRefusal?, hrefused, Option.some_or]

end Stretch

/-! ### HTML that can be read -/

/-- The HTML of a token can be read, and the comments in it make notes. -/
def Token.ReadableHtml : Token → Prop
  | .htmlBlock html => ∃ bodies, (Html.commentBodies html).outcome = .ok bodies ∧
      ∀ body ∈ bodies.getD [],
        ∃ notes, (Draft.notesOfTokens (tokenize body)).outcome = .ok notes
  | .htmlInline html => ∃ fragment, (InlineHtml.parse html).outcome = .ok fragment ∧
      ∀ body, fragment = .comment body →
        ∃ notes, (Draft.notesOfTokens (tokenize body)).outcome = .ok notes
  | _ => True

namespace Draft

variable {d d' : Draft}

/-- A comment can be added exactly if it makes notes, whatever the draft is. -/
theorem exists_addNotes_iff (d : Draft) (body : String) :
    (∃ d', (d.addNotes body).outcome = .ok d') ↔
      ∃ notes, (notesOfTokens (tokenize body)).outcome = .ok notes := by
  unfold addNotes
  constructor
  · rintro ⟨d', h⟩
    obtain ⟨notes, hnotes, -⟩ := Logged.bind_ok_iff.mp h
    exact ⟨notes, hnotes⟩
  · intro ⟨notes, hnotes⟩
    by_cases hempty : (Text.trimString notes).isEmpty = true
    · exact ⟨d, Logged.bind_ok_iff.mpr ⟨notes, hnotes, by rw [if_pos hempty]; rfl⟩⟩
    · exact ⟨_, Logged.bind_ok_iff.mpr ⟨notes, hnotes, by rw [if_neg hempty]; rfl⟩⟩

theorem exists_takeComments_iff (d : Draft) (bodies : List String) :
    (∃ d', (d.takeComments addNotes bodies).outcome = .ok d') ↔
      ∀ body ∈ bodies, ∃ notes, (notesOfTokens (tokenize body)).outcome = .ok notes := by
  induction bodies generalizing d with
  | nil =>
      constructor
      · intro _ body hbody
        cases hbody
      · intro _
        exact ⟨d, rfl⟩
  | cons body bodies ih =>
      rw [takeComments, List.foldlM_cons]
      constructor
      · rintro ⟨d', h⟩
        obtain ⟨d₁, hbody, hrest⟩ := Logged.bind_ok_iff.mp h
        have hall := (ih d₁).mp ⟨d', hrest⟩
        intro b hb
        rcases List.mem_cons.mp hb with rfl | hb
        · exact (exists_addNotes_iff d b).mp ⟨d₁, hbody⟩
        · exact hall b hb
      · intro h
        obtain ⟨d₁, hbody⟩ := (exists_addNotes_iff d body).mpr (h body (List.mem_cons_self ..))
        obtain ⟨d', hrest⟩ := (ih d₁).mpr fun b hb => h b (List.mem_cons_of_mem _ hb)
        exact ⟨d', Logged.bind_ok_iff.mpr ⟨d₁, hbody, hrest⟩⟩

theorem exists_takeHtmlBlock_iff (d : Draft) (html : String) :
    (∃ d', (d.takeHtmlBlock addNotes html).outcome = .ok d') ↔
      (Token.htmlBlock html).ReadableHtml := by
  unfold takeHtmlBlock Token.ReadableHtml
  constructor
  · rintro ⟨d', h⟩
    obtain ⟨bodies, hbodies, h⟩ := Logged.bind_ok_iff.mp h
    refine ⟨bodies, hbodies, ?_⟩
    cases bodies with
    | none => intro body hbody; cases hbody
    | some bodies => exact (exists_takeComments_iff d bodies).mp ⟨d', h⟩
  · rintro ⟨bodies, hbodies, hread⟩
    cases bodies with
    | none => exact ⟨d, Logged.bind_ok_iff.mpr ⟨none, hbodies, rfl⟩⟩
    | some bodies =>
        obtain ⟨d', h⟩ := (exists_takeComments_iff d bodies).mpr hread
        exact ⟨d', Logged.bind_ok_iff.mpr ⟨some bodies, hbodies, h⟩⟩

theorem exists_takeInlineHtml_iff (d : Draft) (html : String) :
    (∃ d', (d.takeInlineHtml addNotes html).outcome = .ok d') ↔
      (Token.htmlInline html).ReadableHtml := by
  unfold takeInlineHtml Token.ReadableHtml
  constructor
  · rintro ⟨d', h⟩
    obtain ⟨fragment, hparse, h⟩ := Logged.bind_ok_iff.mp h
    refine ⟨fragment, hparse, ?_⟩
    rintro body rfl
    exact (exists_addNotes_iff d body).mp ⟨d', h⟩
  · rintro ⟨fragment, hparse, hread⟩
    cases fragment with
    | opening tag style => exact ⟨_, Logged.bind_ok_iff.mpr ⟨_, hparse, rfl⟩⟩
    | closing tag =>
        exact ⟨_, Logged.bind_ok_iff.mpr ⟨_, hparse, outcome_closeStyle d (some tag)⟩⟩
    | comment body =>
        obtain ⟨d', h⟩ := (exists_addNotes_iff d body).mpr (hread body rfl)
        exact ⟨d', Logged.bind_ok_iff.mpr ⟨_, hparse, h⟩⟩

/-! ### What tokens leave alone -/

/-- What decides which tokens a draft refuses. -/
def frame (d : Draft) : DraftMode × Option OpenList × Bool × List Table :=
  (d.mode, d.list, d.table.isSome, d.slide.tables)

theorem frame_onBlock (d : Draft) (f : OpenBlock → OpenBlock) : (d.onBlock f).frame = d.frame := rfl

theorem frame_chooseLayout (d : Draft) (name : Option String) :
    (d.chooseLayout name).frame = d.frame := by
  cases name with
  | none => rfl
  | some name =>
      unfold chooseLayout
      simp only
      split <;> rfl

theorem frame_openHeading (d : Draft) (level : Nat) (attributes : Attributes) :
    (d.openHeading level attributes).frame = d.frame := by
  unfold openHeading
  show (Draft.chooseLayout _ _).frame = d.frame
  rw [frame_chooseLayout]
  split
  · split <;> rfl
  · rfl

theorem frame_closeHeading {level : Nat} (h : (d.closeHeading level).outcome = .ok d') :
    d'.frame = d.frame := by
  by_cases hslide : d.isSlideHeading level = true
  · obtain rfl := Except.ok.inj ((outcome_closeHeading_slide hslide).symm.trans h)
    unfold withHeading
    split <;> rfl
  · have hslide : d.isSlideHeading level = false := by simpa using hslide
    obtain rfl := Except.ok.inj ((outcome_closeHeading_text hslide).symm.trans h)
    rfl

theorem frame_paragraphOpened (d : Draft) (attributes : Attributes) :
    (d.paragraphOpened attributes).frame = d.frame := by
  have hlayout := frame_chooseLayout
  unfold paragraphOpened
  simp only [frame, Prod.mk.injEq] at hlayout ⊢
  by_cases hcolumn : attributes.hasClass "column" = true <;>
    by_cases hbig : attributes.hasClass "big" = true <;> simp [hcolumn, hbig, hlayout, onBlock]

theorem frame_addImage (hmode : d.mode = .document) (src alt : String) :
    (d.addImage src alt).frame = d.frame := by
  simp only [addImage, hmode, frame]

theorem frame_closeItem (d : Draft) : d.closeItem.frame = d.frame := by
  unfold closeItem
  split <;> rfl

theorem frame_openRow (d : Draft) : d.openRow.frame = d.frame := by
  simp [openRow, frame]

theorem frame_openCell (hmode : d.mode = .document) : d.openCell.frame = d.frame := by
  unfold openCell
  rw [hmode]
  rfl

theorem frame_closeCell (h : d.closeCell.outcome = .ok d') : d'.frame = d.frame := by
  cases htable : d.table with
  | none =>
      simp only [closeCell, htable, Logged.outcome_pure, Except.ok.injEq] at h
      rw [h]
  | some t =>
      obtain rfl := Except.ok.inj ((outcome_closeCell htable).symm.trans h)
      simp [frame, htable]

theorem frame_closeRow (d : Draft) : d.closeRow.frame = d.frame := by
  unfold closeRow
  split
  · rfl
  · rename_i t htable
    simp [frame, htable]

theorem frame_takeInlineHtml {html : String}
    (h : (d.takeInlineHtml addNotes html).outcome = .ok d') : d'.frame = d.frame := by
  rcases takeInlineHtml_ok h with ⟨_, _, -, rfl⟩ | ⟨_, -, rfl⟩ | ⟨_, _, -, rfl⟩ <;> rfl

end Draft

/-- Whether a token begins or ends a list, a table or a slide. -/
def Token.isFraming : Token → Bool
  | .listOpen _ | .listClose _ | .tableOpen | .tableClose | .horizontalRule => true
  | _ => false

namespace Draft

variable {d d' : Draft} {s : Stretch}

/-- Only tokens that begin or end lists, tables and slides change what is refused. -/
theorem frame_take {t : Token} (hmode : d.mode = .document) (ht : t.isFraming = false)
    (h : (d.take addNotes t).outcome = .ok d') : d'.frame = d.frame := by
  cases t with
  | headingOpen level attributes =>
      obtain rfl := Logged.pure_ok_iff.mp h
      exact frame_openHeading d level attributes
  | headingClose level => exact frame_closeHeading h
  | paragraphOpen attributes =>
      obtain rfl := Except.ok.inj ((outcome_openParagraph hmode attributes).symm.trans h)
      exact frame_paragraphOpened d attributes
  | emphasisClose | strongClose | strikethroughClose | linkClose =>
      obtain rfl := Except.ok.inj ((outcome_closeStyle d none).symm.trans h)
      rfl
  | image src alt =>
      obtain rfl := Logged.pure_ok_iff.mp h
      exact frame_addImage hmode src alt
  | listItemClose =>
      obtain rfl := Logged.pure_ok_iff.mp h
      exact frame_closeItem d
  | tableRowOpen =>
      obtain rfl := Logged.pure_ok_iff.mp h
      exact frame_openRow d
  | tableCellOpen =>
      obtain rfl := Logged.pure_ok_iff.mp h
      exact frame_openCell hmode
  | tableCellClose => exact frame_closeCell h
  | tableRowClose =>
      obtain rfl := Logged.pure_ok_iff.mp h
      exact frame_closeRow d
  | fencedCode info content =>
      obtain rfl := Except.ok.inj ((outcome_takeCode addNotes d info content).symm.trans h)
      exact frame_onBlock _ _
  | inlineCode s =>
      obtain rfl := Except.ok.inj ((outcome_takeInlineCode addNotes d s).symm.trans h)
      exact frame_onBlock _ _
  | htmlBlock html =>
      obtain ⟨_, rfl⟩ := takeHtmlBlock_ok h
      rfl
  | htmlInline html => exact frame_takeInlineHtml h
  | listOpen kind => cases ht
  | listClose kind => cases ht
  | tableOpen => cases ht
  | tableClose => cases ht
  | horizontalRule => cases ht
  | _ =>
      obtain rfl := Logged.pure_ok_iff.mp h
      rfl

/-- Such tokens are taken, if their HTML can be read. -/
theorem exists_take {t : Token} (hmode : d.mode = .document) (hread : t.ReadableHtml)
    (ht : t.isFraming = false) : ∃ d', (d.take addNotes t).outcome = .ok d' := by
  cases t with
  | headingClose level =>
      by_cases hslide : d.isSlideHeading level = true
      · exact ⟨_, outcome_closeHeading_slide hslide⟩
      · exact ⟨_, outcome_closeHeading_text (by simpa using hslide)⟩
  | paragraphOpen attributes => exact ⟨_, outcome_openParagraph hmode attributes⟩
  | emphasisClose | strongClose | strikethroughClose | linkClose =>
      exact ⟨_, outcome_closeStyle d none⟩
  | tableCellClose =>
      show ∃ d', d.closeCell.outcome = .ok d'
      cases htable : d.table with
      | none => exact ⟨d, by simp only [closeCell, htable, Logged.outcome_pure]⟩
      | some t => exact ⟨_, outcome_closeCell htable⟩
  | fencedCode info content => exact ⟨_, outcome_takeCode addNotes d info content⟩
  | inlineCode s => exact ⟨_, outcome_takeInlineCode addNotes d s⟩
  | htmlBlock html => exact (exists_takeHtmlBlock_iff d html).mpr hread
  | htmlInline html => exact (exists_takeInlineHtml_iff d html).mpr hread
  | listOpen kind => cases ht
  | listClose kind => cases ht
  | tableOpen => cases ht
  | tableClose => cases ht
  | horizontalRule => cases ht
  | _ => exact ⟨_, rfl⟩

/-- The HTML of a token that is taken can be read. -/
theorem readableHtml_of_take {t : Token} (h : (d.take addNotes t).outcome = .ok d') :
    t.ReadableHtml := by
  cases t with
  | htmlBlock html => exact (exists_takeHtmlBlock_iff d html).mp ⟨d', h⟩
  | htmlInline html => exact (exists_takeInlineHtml_iff d html).mp ⟨d', h⟩
  | _ => trivial

/-! ### A draft and what stands -/

/-- The kinds of the lists that a draft has open. -/
def listKinds (d : Draft) : List ListKind :=
  match d.list with
  | none => []
  | some l => List.replicate (l.depth + 1) l.kind

/-- A draft agrees with what stands since the last rule. -/
structure Stands (d : Draft) (s : Stretch) : Prop where
  mode : d.mode = .document
  lists : d.listKinds = s.lists
  table : d.table.isSome = s.inTable
  tables : d.slide.tables.length = s.tables
  /-- A rule that is skipped has nothing before it. -/
  fresh : d.started = false → s = {}

theorem stands_empty : (empty .document).Stands {} := ⟨rfl, rfl, rfl, rfl, fun _ => rfl⟩

theorem Stands.of_frame (h : d.Stands s) (hframe : d'.frame = d.frame) :
    Stands { d' with started := true } s := by
  simp only [frame, Prod.mk.injEq] at hframe
  obtain ⟨hmode, hlist, htable, htables⟩ := hframe
  refine ⟨hmode.trans h.mode, ?_, htable.trans h.table, ?_, fun hstarted => nomatch hstarted⟩
  · rw [← h.lists]
    simp only [listKinds, hlist]
  · rw [← h.tables]
    exact congrArg List.length htables

theorem Stands.openList (h : d.Stands s) (kind : ListKind) :
    match s.refusal? (.listOpen kind) with
    | some e => (d.openList kind).outcome = .error e
    | none => ∃ d', (d.openList kind).outcome = .ok d' ∧
        Stands { d' with started := true } (s.take (.listOpen kind)) := by
  cases hlist : d.list with
  | none =>
      have hnone : s.lists = [] := by rw [← h.lists]; simp [listKinds, hlist]
      have hclear : s.refusal? (.listOpen kind) = none := by simp [Stretch.refusal?, hnone]
      rw [hclear]
      refine ⟨_, by simp only [Draft.openList, hlist]; rfl, ?_⟩
      refine ⟨h.mode, ?_, h.table, h.tables, fun hstarted => nomatch hstarted⟩
      simp [listKinds, Stretch.take, hnone]
  | some l =>
      have hkinds : s.lists = List.replicate (l.depth + 1) l.kind := by
        rw [← h.lists]; simp [listKinds, hlist]
      by_cases hkind : l.kind = kind
      · have hclear : s.refusal? (.listOpen kind) = none := by
          simp [Stretch.refusal?, hkinds, hkind]
        rw [hclear]
        refine ⟨_, by simp only [Draft.openList, hlist, hkind, beq_self_eq_true, if_true]; rfl, ?_⟩
        refine ⟨h.mode, ?_, h.table, h.tables, fun hstarted => nomatch hstarted⟩
        simp [listKinds, Stretch.take, hkinds, hkind, List.replicate_succ]
      · have hrefuse : s.refusal? (.listOpen kind) = some .mixedLists := by
          simp [Stretch.refusal?, hkinds, hkind]
        rw [hrefuse]
        simp [Draft.openList, hlist, hkind]

theorem Stands.closeList (h : d.Stands s) (kind : ListKind) :
    ∃ d', d.closeList.outcome = .ok d' ∧
      Stands { d' with started := true } (s.take (.listClose kind)) := by
  cases hlist : d.list with
  | none =>
      have hnone : s.lists = [] := by rw [← h.lists]; simp [listKinds, hlist]
      refine ⟨d, outcome_closeList_none hlist, h.mode, ?_, h.table, h.tables, ?_⟩
      · simp [listKinds, hlist, Stretch.take, hnone]
      · intro hstarted
        cases hstarted
  | some l =>
      have hkinds : s.lists = List.replicate (l.depth + 1) l.kind := by
        rw [← h.lists]; simp [listKinds, hlist]
      by_cases hdepth : 0 < l.depth
      · refine ⟨_, outcome_closeList_inner hlist hdepth, h.mode, ?_, h.table, h.tables, ?_⟩
        · simp [listKinds, Stretch.take, hkinds, Nat.sub_add_cancel hdepth]
        · intro hstarted
          cases hstarted
      · have hzero : l.depth = 0 := by omega
        refine ⟨_, outcome_closeList_outer hlist hzero, h.mode, ?_, h.table, h.tables, ?_⟩
        · simp [listKinds, Stretch.take, hkinds, hzero]
        · intro hstarted
          cases hstarted

theorem Stands.openTable (h : d.Stands s) :
    Stands { d.openTable with started := true } (s.take .tableOpen) := by
  have hopen : d.openTable = { d.park with table := some OpenTable.empty } := by
    simp only [Draft.openTable, h.mode]
  rw [hopen]
  exact ⟨h.mode, h.lists, rfl, h.tables, fun hstarted => nomatch hstarted⟩

theorem Stands.closeTable (h : d.Stands s) :
    match s.refusal? .tableClose with
    | some e => d.closeTable.outcome = .error e
    | none => ∃ d', d.closeTable.outcome = .ok d' ∧
        Stands { d' with started := true } (s.take .tableClose) := by
  have hin := h.table
  have hmany := h.tables
  cases htable : d.table with
  | none =>
      rw [htable] at hin
      have hout : s.inTable = false := hin.symm
      have hclear : s.refusal? .tableClose = none := by simp [Stretch.refusal?, hout]
      rw [hclear]
      refine ⟨d, outcome_closeTable_none htable, h.mode, h.lists, ?_, ?_,
        fun hstarted => nomatch hstarted⟩
      · simp [htable, Stretch.take]
      · simp [hmany, hout, Stretch.take]
  | some t =>
      rw [htable] at hin
      have hinTable : s.inTable = true := hin.symm
      by_cases hempty : d.slide.tables = []
      · have hzero : s.tables = 0 := by rw [← hmany, hempty]; rfl
        have hclear : s.refusal? .tableClose = none := by simp [Stretch.refusal?, hzero]
        rw [hclear]
        refine ⟨_, outcome_closeTable_first htable hempty, h.mode, h.lists, ?_, ?_,
          fun hstarted => nomatch hstarted⟩
        · simp [Stretch.take]
        · simp [Stretch.take, hinTable, hzero]
      · have hpos : 0 < s.tables := by
          rw [← hmany]
          exact List.length_pos_iff.mpr hempty
        have hrefuse : s.refusal? .tableClose = some .severalTables := by
          simp [Stretch.refusal?, hinTable, hpos]
        rw [hrefuse]
        exact outcome_closeTable_second htable hempty

theorem Stands.takeRule (h : d.Stands s) :
    ∃ d', d.takeRule.outcome = .ok d' ∧
      Stands { d' with started := true } (s.take .horizontalRule) := by
  cases hstarted : d.started with
  | false =>
      obtain rfl := h.fresh hstarted
      exact ⟨d, outcome_takeRule_leading h.mode hstarted, h.of_frame rfl⟩
  | true =>
      refine ⟨_, outcome_takeRule h.mode hstarted, ?_⟩
      exact ⟨h.mode, rfl, rfl, rfl, fun hstarted => nomatch hstarted⟩

/-! ### Steps and runs -/

/-- A token is refused for what stands, or taken, and the draft goes on to agree with it. -/
theorem Stands.take (h : d.Stands s) {t : Token} (hread : t.ReadableHtml) :
    match s.refusal? t with
    | some e => (d.take addNotes t).outcome = .error e
    | none => ∃ d', (d.take addNotes t).outcome = .ok d' ∧
        Stands { d' with started := true } (s.take t) := by
  by_cases ht : t.isFraming = true
  · cases t with
    | listOpen kind => exact h.openList kind
    | listClose kind => exact h.closeList kind
    | tableOpen => exact ⟨_, rfl, h.openTable⟩
    | tableClose => exact h.closeTable
    | horizontalRule => exact h.takeRule
    | _ => cases ht
  · have ht : t.isFraming = false := by simpa using ht
    have hclear : s.refusal? t = none := by cases t <;> first | rfl | cases ht
    have hsame : s.take t = s := by cases t <;> first | rfl | cases ht
    rw [hclear, hsame]
    obtain ⟨d', htake⟩ := exists_take h.mode hread ht
    exact ⟨d', htake, h.of_frame (frame_take h.mode ht htake)⟩

theorem Stands.run (h : d.Stands s) {tokens : List Token}
    (hread : ∀ t ∈ tokens, t.ReadableHtml) :
    match s.firstRefusal? tokens with
    | some e => (d.run addNotes tokens).outcome = .error e
    | none => ∃ d', (d.run addNotes tokens).outcome = .ok d' ∧
        d'.Stands (tokens.foldl Stretch.take s) := by
  induction tokens generalizing d s with
  | nil => exact ⟨d, rfl, h⟩
  | cons t tokens ih =>
      have htake := h.take (hread t (List.mem_cons_self ..))
      have hstep : d.step addNotes t = d.take addNotes t >>= fun d =>
        pure { d with started := true } := rfl
      rw [run_cons, Stretch.firstRefusal?, hstep]
      cases hrefusal : s.refusal? t with
      | some e =>
          rw [hrefusal] at htake
          simp only [Option.some_or, Logged.outcome_bind, htake, Except.bind]
      | none =>
          rw [hrefusal] at htake
          obtain ⟨d₁, htake, hstands⟩ := htake
          have hrest := ih hstands fun t ht => hread t (List.mem_cons_of_mem _ ht)
          simp only [Option.none_or, Logged.outcome_bind, htake, Except.bind, Logged.outcome_pure]
          exact hrest

/-- The lists of a draft that agrees with what stands: none if none stands, and otherwise all of one
kind and as many as its depth says. -/
theorem Stands.list (h : d.Stands s) :
    (d.list = none ↔ s.lists = []) ∧
      ∀ l, d.list = some l → s.lists = List.replicate (l.depth + 1) l.kind := by
  have hlists := h.lists
  unfold listKinds at hlists
  cases hlist : d.list with
  | none =>
      rw [hlist] at hlists
      refine ⟨⟨fun _ => hlists.symm, fun _ => rfl⟩, ?_⟩
      intro l hl
      cases hl
  | some l =>
      rw [hlist] at hlists
      constructor
      · constructor
        · intro hnone
          cases hnone
        · intro hnone
          rw [hnone] at hlists
          cases hlists
      · intro l' hl'
        rw [← Option.some.inj hl']
        exact hlists.symm

/-- A run over tokens whose HTML can be read fails at the first token that is refused. -/
theorem run_error_iff {tokens : List Token} (hread : ∀ t ∈ tokens, t.ReadableHtml) {e : Failure} :
    ((empty .document).run addNotes tokens).outcome = .error e ↔
      Stretch.firstRefusal? {} tokens = some e := by
  have hrun := stands_empty.run hread
  cases hrefusal : Stretch.firstRefusal? {} tokens with
  | some e' =>
      rw [hrefusal] at hrun
      rw [hrun]
      simp
  | none =>
      rw [hrefusal] at hrun
      obtain ⟨d, hok, -⟩ := hrun
      rw [hok]
      simp

/-- What a run over tokens whose HTML can be read leaves agrees with what they leave standing. -/
theorem stands_of_run {tokens : List Token} (hread : ∀ t ∈ tokens, t.ReadableHtml)
    (h : ((empty .document).run addNotes tokens).outcome = .ok d) :
    d.Stands (Stretch.ofTokens tokens) := by
  have hrun := stands_empty.run hread
  cases hrefusal : Stretch.firstRefusal? {} tokens with
  | some e =>
      rw [hrefusal] at hrun
      rw [hrun] at h
      cases h
  | none =>
      rw [hrefusal] at hrun
      obtain ⟨d', hok, hstands⟩ := hrun
      obtain rfl := Except.ok.inj (hok.symm.trans h)
      exact hstands

/-- **A document whose HTML can be read fails exactly if a list is opened within a list of another
kind, or if a second table closes, with no rule between.**  The failure is that of the first such
token.  Until then the draft has no list exactly if none stands, and otherwise the kind of all that
stand, and their number as its depth and one more. -/
theorem run_fails_iff {tokens : List Token} (hread : ∀ t ∈ tokens, t.ReadableHtml) :
    ((∃ e, ((empty .document).run addNotes tokens).outcome = .error e) ↔
      ∃ before t after, tokens = before ++ t :: after ∧
        ((Stretch.ofTokens before).refusal? t).isSome = true) ∧
    (∀ e, ((empty .document).run addNotes tokens).outcome = .error e ↔
      ∃ before t after, tokens = before ++ t :: after ∧
        (Stretch.ofTokens before).refusal? t = some e ∧ e.kind = .structural ∧
        ∀ before' t' after', before = before' ++ t' :: after' →
          (Stretch.ofTokens before').refusal? t' = none) ∧
    ∀ before after d, tokens = before ++ after →
      ((empty .document).run addNotes before).outcome = .ok d →
        (d.list = none ↔ (Stretch.ofTokens before).lists = []) ∧
          ∀ l, d.list = some l →
            (Stretch.ofTokens before).lists = List.replicate (l.depth + 1) l.kind := by
  refine ⟨⟨?_, ?_⟩, ?_, ?_⟩
  · rintro ⟨e, h⟩
    obtain ⟨before, t, after, heq, hrefused, -⟩ :=
      Stretch.firstRefusal?_eq_some_iff.mp ((run_error_iff hread).mp h)
    exact ⟨before, t, after, heq, Option.isSome_of_mem hrefused⟩
  · rintro ⟨before, t, after, heq, hsome⟩
    cases hrefusal : Stretch.firstRefusal? {} tokens with
    | some e => exact ⟨e, (run_error_iff hread).mpr hrefusal⟩
    | none =>
        have hnone := Stretch.firstRefusal?_eq_none_iff.mp hrefusal before t after heq
        rw [Stretch.ofTokens, hnone] at hsome
        cases hsome
  · intro e
    rw [run_error_iff hread, Stretch.firstRefusal?_eq_some_iff]
    constructor
    · rintro ⟨before, t, after, heq, hrefused, hfirst⟩
      exact ⟨before, t, after, heq, hrefused, Stretch.kind_of_refusal? hrefused,
        Stretch.firstRefusal?_eq_none_iff.mp hfirst⟩
    · rintro ⟨before, t, after, heq, hrefused, -, hfirst⟩
      exact ⟨before, t, after, heq, hrefused, Stretch.firstRefusal?_eq_none_iff.mpr hfirst⟩
  · rintro before after d rfl h
    exact (stands_of_run (fun t ht => hread t (List.mem_append_left _ ht)) h).list

/-- A list that a rule cuts, and lists of two kinds after the rule. -/
def cutThenMixed : List Token :=
  [.listOpen .unordered, .listItemOpen, .htmlInline "<sup>", .text "a", .horizontalRule,
    .listOpen .ordered, .listItemOpen, .listOpen .ordered, .listItemOpen,
    .listOpen .unordered, .listClose .unordered, .listItemClose, .listClose .ordered,
    .listItemClose, .listClose .ordered, .listItemClose, .listClose .unordered]

/-- It fails at the third list after the rule, and before that two ordered lists are open. -/
theorem cutThenMixed_fails :
    (∀ t ∈ cutThenMixed, t.ReadableHtml) ∧
    (∃ e, ((empty .document).run addNotes cutThenMixed).outcome = .error e ∧
      e.kind = .structural) ∧
    ∃ d l, ((empty .document).run addNotes (cutThenMixed.take 9)).outcome = .ok d ∧
      d.list = some l ∧ [ListKind.ordered, .ordered] = List.replicate (l.depth + 1) l.kind := by
  have hread : ∀ t ∈ cutThenMixed, t.ReadableHtml := by
    have hsup : (Token.htmlInline "<sup>").ReadableHtml := ⟨_, rfl, fun body h => nomatch h⟩
    simpa [cutThenMixed, Token.ReadableHtml] using hsup
  obtain ⟨hfails, herror, hlist⟩ := run_fails_iff hread
  have hsplit : cutThenMixed = cutThenMixed.take 9 ++ .listOpen .unordered :: cutThenMixed.drop 10 :=
    rfl
  obtain ⟨e, he⟩ := hfails.mpr ⟨_, _, _, hsplit, rfl⟩
  obtain ⟨-, -, -, -, -, hkind, -⟩ := (herror e).mp he
  exact ⟨hread, ⟨e, he, hkind⟩, _, _, rfl, rfl, (hlist _ _ _ hsplit rfl).2 _ rfl⟩

/-! ### The tables of a slide -/

/-- A draft with at most one table on every slide. -/
structure Tabled (d : Draft) : Prop where
  mode : d.mode = .document
  slides : ∀ s ∈ d.slides, s.tables.length ≤ 1
  slide : d.slide.tables.length ≤ 1

theorem tabled_empty : (empty .document).Tabled := by
  refine ⟨rfl, ?_, Nat.zero_le 1⟩
  intro s hs
  cases hs

theorem tables_sealedSlide (d : Draft) : d.sealedSlide.tables = d.slide.tables := by
  unfold sealedSlide
  split <;> rfl

/-- A token other than a rule adds a table to the slide only if it has none. -/
theorem tables_take {t : Token} (hmode : d.mode = .document) (ht : t ≠ .horizontalRule)
    (h : (d.take addNotes t).outcome = .ok d') :
    d'.slide.tables = d.slide.tables ∨ ∃ table, d'.slide.tables = [table] := by
  by_cases hframing : t.isFraming = true
  · cases t with
    | listOpen kind =>
        left
        rcases openList_ok h with ⟨-, rfl⟩ | ⟨_, -, -, rfl⟩ <;> rfl
    | listClose kind =>
        left
        cases hlist : d.list with
        | none =>
            obtain rfl := Except.ok.inj ((outcome_closeList_none hlist).symm.trans h)
            rfl
        | some l =>
            rcases Nat.eq_zero_or_pos l.depth with hdepth | hdepth
            · obtain rfl := Except.ok.inj ((outcome_closeList_outer hlist hdepth).symm.trans h)
              rfl
            · obtain rfl := Except.ok.inj ((outcome_closeList_inner hlist hdepth).symm.trans h)
              rfl
    | tableOpen =>
        left
        obtain rfl := Logged.pure_ok_iff.mp h
        simp only [Draft.openTable, hmode]
        rfl
    | tableClose =>
        cases htable : d.table with
        | none =>
            left
            obtain rfl := Except.ok.inj ((outcome_closeTable_none htable).symm.trans h)
            rfl
        | some t =>
            right
            obtain ⟨-, rfl⟩ := closeTable_ok htable h
            exact ⟨_, rfl⟩
    | horizontalRule => exact absurd rfl ht
    | _ => cases hframing
  · left
    have hframe := frame_take hmode (by simpa using hframing) h
    simp only [frame, Prod.mk.injEq] at hframe
    exact hframe.2.2.2

theorem Tabled.take (h : d.Tabled) {t : Token} (htake : (d.take addNotes t).outcome = .ok d') :
    d'.Tabled := by
  by_cases ht : t = .horizontalRule
  · subst ht
    rcases takeRule_ok h.mode htake with ⟨-, rfl⟩ | ⟨-, rfl⟩
    · exact h
    · refine ⟨h.mode, ?_, Nat.zero_le 1⟩
      intro s hs
      rcases List.mem_append.mp hs with hs | hs
      · exact h.slides s hs
      · rw [List.mem_singleton.mp hs, tables_sealedSlide]
        exact h.slide
  · have hcourse := course_take h.mode ht htake
    simp only [course, Prod.mk.injEq] at hcourse
    obtain ⟨hmode, hslides, -⟩ := hcourse
    refine ⟨hmode.trans h.mode, ?_, ?_⟩
    · intro s hs
      rw [hslides] at hs
      exact h.slides s hs
    · rcases tables_take h.mode ht htake with hsame | ⟨table, hone⟩
      · rw [hsame]
        exact h.slide
      · rw [hone]
        exact Nat.le_refl 1

theorem Tabled.run (h : d.Tabled) {tokens : List Token}
    (hrun : (d.run addNotes tokens).outcome = .ok d') : d'.Tabled := by
  refine run_keeps ?_ h hrun
  intro t _ c c' hc htake
  have htabled := hc.take htake
  exact ⟨htabled.mode, htabled.slides, htabled.slide⟩

end Draft

/-- No slide that is compiled has two tables, whatever the tokens are. -/
theorem tables_compileTokens {tokens : List Token} {slides : List Slide}
    (h : (compileTokens tokens).outcome = .ok slides) : ∀ s ∈ slides, s.tables.length ≤ 1 := by
  obtain ⟨d, hrun, rfl⟩ := compileTokens_ok_iff.mp h
  have htabled := Draft.tabled_empty.run hrun
  intro s hs
  rcases List.mem_append.mp hs with hs | hs
  · exact htabled.slides s hs
  · rw [List.mem_singleton.mp hs, Draft.tables_sealedSlide]
    exact htabled.slide

end SlideDeck

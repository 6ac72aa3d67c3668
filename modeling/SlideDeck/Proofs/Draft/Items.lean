/-
Which tabs stand in front of the text of an item.

The tabs of an item are written when it is opened, one for each list around its own.  They stand in
front of its text as long as every piece between leaves the line as it is: text that stands by
itself and paragraphs follow the tabs directly, but the text of a section heading or of code stands
on a line of its own behind them, and nothing indents it.  A rule in front of the list takes the
lists that are open out of the count.

The text of an item is found by what stands in front of it in the document.  One fact about each
piece that stays in the item carries the count of the open lists and the indentation to the text,
and what was written on its sheet then stays there to the end of the document.
-/
import SlideDeck.Proofs.Draft.Indentation

namespace SlideDeck

/-! ### Items -/

/-- The lists that are open. -/
structure OpenLists where
  /-- How many were opened since the last rule. -/
  since : Nat := 0
  /-- How many were opened before it. -/
  earlier : Nat := 0
deriving DecidableEq

/-- The lists that are open behind a piece. -/
def OpenLists.take (o : OpenLists) : Piece → OpenLists
  | .listOpen _ => { o with since := o.since + 1 }
  | .listClose _ =>
    if 0 < o.since then { o with since := o.since - 1 } else { o with earlier := o.earlier - 1 }
  | .rule => ⟨0, o.since + o.earlier⟩
  | _ => o

namespace Piece

/-- Whether a piece stays in a list, or in an item of it, with some lists open in there: it closes
at most one of those, opens and closes no item but in those, and cuts no list. -/
def stays (item : Bool) (inner : Nat) : Piece → Bool
  | listClose _ => 0 < inner
  | itemOpen | itemClose => 0 < inner || !item
  | paragraph attributes _ => !attributes.hasClass "column"
  | rule => false
  | _ => true

/-- Whether pieces stay in a list, or in an item of it, and close every list that is open in
there. -/
def staysIn (item : Bool) : Nat → List Piece → Bool
  | inner, [] => inner == 0
  | inner, p :: ps => p.stays item inner && staysIn item (p.depthAfter inner) ps

/-- Whether a piece without text leaves the line that is being written as it is. -/
def leavesLine : Piece → Bool
  | inline t => !t.val.isBreak
  | heading level .. => level ≤ 2
  | paragraph .. | code .. | itemOpen | itemClose => false
  | _ => true

/-- Whether a piece writes its first text on the line that it finds. -/
def keepsLine : Piece → Bool
  | paragraph _ content => !(beforeText content).any (·.val.isBreak)
  | heading .. | code .. => false
  | _ => true

end Piece

/-- An item of a document that has text in a body, and in front of it only lists without any. -/
structure ItemText (ps : List Piece) where
  before : List Piece
  kind : ListKind
  /-- What stands in the list in front of the item. -/
  inList : List Piece
  /-- What stands in the item in front of its text. -/
  inItem : List Piece
  /-- What begins with the text. -/
  piece : Piece
  after : List Piece
  split : ps = before ++ .listOpen kind :: (inList ++ .itemOpen :: (inItem ++ piece :: after))
  inList_stays : Piece.staysIn false 0 inList = true
  inItem_stays : Piece.staysIn true 0 inItem = true
  inItem_silent : ∀ p ∈ inItem, p.firstText = []
  piece_stays : piece.stays true 0 = true
  text_ne_nil : piece.firstText ≠ []

namespace ItemText

variable {ps : List Piece}

/-- The text of an item, as far as its first token has some. -/
def text (i : ItemText ps) : List Char := i.piece.firstText

/-- What stands in front of the piece with the text. -/
def inFront (i : ItemText ps) : List Piece :=
  i.before ++ .listOpen i.kind :: (i.inList ++ .itemOpen :: i.inItem)

/-- The manuscript as far as the piece with the text. -/
def page (i : ItemText ps) : Manuscript := (manuscripts i.inFront).getLast?.getD {}

/-- Where the text stands in its body. -/
def start (i : ItemText ps) : Nat := (i.page.sheet.takeBefore i.piece).letters.length

/-- The body with the text. -/
def body? (i : ItemText ps) (slides : List Slide) : Option TextBlock :=
  (slides[(manuscripts i.inFront).length - 1]?).bind fun slide =>
    (slide.bodies[i.page.columns.length]?).map (·.text)

/-- The lists that are open around the list of the item. -/
def around (i : ItemText ps) : OpenLists := i.before.foldl OpenLists.take {}

/-- The indentation of the text: the tabs of the item, unless a line was ended or broken since. -/
def indent (i : ItemText ps) : Option Nat :=
  (i.inItem.foldl Line.take ⟨i.around.since, some i.around.since⟩).indentIn i.piece

/-- Nothing between an item and its text ends or breaks a line. -/
def Attached (i : ItemText ps) : Prop :=
  (∀ p ∈ i.inItem, p.leavesLine = true) ∧ i.piece.keepsLine = true

/-- A body has the text of an item in its place and indented as it says. -/
structure SetIn (i : ItemText ps) (body : TextBlock) : Prop where
  spelled : ∀ k c, i.text[k]? = some c → i.start + k < body.length →
    body.rawText.toList[i.start + k]? = some c
  /-- Only line feeds at the end of the body are left out. -/
  whole : ∀ k c, i.text[k]? = some c → c ≠ '\n' → i.start + k < body.length
  indented : i.start < body.length →
    ∀ tabs, IndentedBy (body.rawText.toList.take i.start) tabs ↔ i.indent = some tabs
  /-- Text in a list within a list has the tabs of its item in front exactly if it follows them. -/
  attached : i.start < body.length → 0 < i.around.since →
    (IndentedBy (body.rawText.toList.take i.start) i.around.since ↔ i.Attached)

end ItemText

/-! ### Pieces that stay in a list -/

section Staying

variable {item : Bool} {depth inner : Nat} {p : Piece} {qs : List Piece} {m : Manuscript}

theorem Piece.depthAfter_add (hp : p.stays item inner = true) :
    p.depthAfter (depth + inner) = depth + p.depthAfter inner := by
  cases p with
  | listClose kind =>
      have hpos : 0 < inner := of_decide_eq_true hp
      exact Nat.add_sub_assoc hpos depth
  | _ => rfl

theorem Piece.ne_rule_of_stays (hp : p.stays item inner = true) : p ≠ .rule := by
  rintro rfl
  cases hp

namespace Line

variable {l : Line}

/-- Some tabs are left on the line by a piece exactly if they were there and it leaves the line as
it is: no line begins with as many again but in an item of the same list. -/
theorem indent_take_eq_iff (hdepth : 0 < depth) (hp : p.stays true inner = true)
    (hl : l.depth = depth + inner) :
    (l.take p).indent = some depth ↔ l.indent = some depth ∧ p.leavesLine = true := by
  have hended : some 0 = some depth ↔ l.indent = some depth ∧ false = true := by
    simp only [Option.some.injEq, Bool.false_eq_true, and_false, iff_false]
    omega
  cases p with
  | inline t =>
      show indentBehind l.indent [t] = some depth ↔ l.indent = some depth ∧ (!t.val.isBreak) = true
      rw [indentBehind, List.any_cons, List.any_nil, Bool.or_false]
      cases t.val.isBreak with
      | false => simp
      | true => simp
  | paragraph attributes content => exact hended
  | heading level positive attributes content =>
      by_cases hlevel : level ≤ 2
      · simp [take, indentAfter, Piece.leavesLine, hlevel]
      · simpa [take, indentAfter, Piece.leavesLine, hlevel] using hended
  | code info content => exact hended
  | itemOpen =>
      have hinner : 0 < inner := by simpa [Piece.stays] using hp
      show some l.depth = some depth ↔ l.indent = some depth ∧ false = true
      simp only [Option.some.injEq, Bool.false_eq_true, and_false, iff_false]
      omega
  | itemClose => exact hended
  | listOpen kind => exact (and_iff_left rfl).symm
  | listClose kind => exact (and_iff_left rfl).symm
  | table rows => exact (and_iff_left rfl).symm
  | html html => exact (and_iff_left rfl).symm
  | rule => exact (and_iff_left rfl).symm

theorem depth_take (hp : p.stays item inner = true) (hl : l.depth = depth + inner) :
    (l.take p).depth = depth + p.depthAfter inner := by
  rw [← Piece.depthAfter_add hp, ← hl]
  rfl

theorem indent_foldl_eq_iff (hdepth : 0 < depth) (hqs : Piece.staysIn true inner qs = true)
    (hl : l.depth = depth + inner) :
    (qs.foldl take l).indent = some depth ↔
      l.indent = some depth ∧ ∀ p ∈ qs, p.leavesLine = true := by
  induction qs generalizing inner l with
  | nil => simp
  | cons p qs ih =>
      obtain ⟨hp, hqs⟩ := Bool.and_eq_true_iff.mp hqs
      rw [List.foldl_cons, ih hqs (depth_take hp hl), indent_take_eq_iff hdepth hp hl,
        List.forall_mem_cons, and_assoc]

theorem indentIn_eq_iff (hdepth : 0 < depth) (l : Line) (p : Piece) :
    l.indentIn p = some depth ↔ l.indent = some depth ∧ p.keepsLine = true := by
  cases p with
  | paragraph attributes content =>
      rw [indentIn, indentBehind, Piece.keepsLine]
      cases (beforeText content).any (·.val.isBreak) with
      | false => simp
      | true => simp
  | heading level positive attributes content =>
      rw [indentIn, indentBehind, Piece.keepsLine]
      cases (beforeText content).any (·.val.isBreak) with
      | false =>
          simp
          omega
      | true => simp
  | code info content =>
      simp only [indentIn, Piece.keepsLine, Option.some.injEq, Bool.false_eq_true, and_false,
        iff_false]
      omega
  | _ => exact (and_iff_left rfl).symm

end Line

/-- The tabs of an item in a list within a list stand in front of its text exactly if it follows
them. -/
theorem ItemText.indent_eq_iff {ps : List Piece} (i : ItemText ps) (hsince : 0 < i.around.since) :
    i.indent = some i.around.since ↔ i.Attached := by
  have hfold := Line.indent_foldl_eq_iff (l := ⟨i.around.since, some i.around.since⟩) hsince
    i.inItem_stays rfl
  rw [indent, Line.indentIn_eq_iff hsince, hfold, Attached]
  simp

namespace Manuscript

theorem take_of_stays (hp : p.stays item inner = true) (m : Manuscript) :
    (m.take p).sheet = m.sheet.take p ∧ (m.take p).columns = m.columns := by
  cases p with
  | paragraph attributes content =>
      have hcolumn : ¬attributes.hasClass "column" = true := by
        simpa [Piece.stays] using hp
      rw [take, if_neg hcolumn]
      exact ⟨rfl, rfl⟩
  | heading level positive attributes content =>
      rw [take, Sheet.take]
      by_cases hone : level = 1
      · simp [hone]
      · by_cases htwo : level = 2
        · simp [htwo]
        · rw [if_neg hone, if_neg htwo, if_neg (by omega)]
          exact ⟨rfl, rfl⟩
  | _ => exact ⟨rfl, rfl⟩

theorem within_take (hp : p.stays item inner = true) (h : m.sheet.Within (depth + inner)) :
    (m.take p).sheet.Within (depth + p.depthAfter inner) := by
  rw [(take_of_stays hp m).1, ← Piece.depthAfter_add hp]
  refine h.take fun kind hkind => ?_
  subst hkind
  have hpos : 0 < inner := of_decide_eq_true hp
  omega

theorem within_foldl (hqs : Piece.staysIn item inner qs = true)
    (h : m.sheet.Within (depth + inner)) : (qs.foldl take m).sheet.Within depth := by
  induction qs generalizing inner m with
  | nil =>
      obtain rfl : inner = 0 := eq_of_beq hqs
      exact h
  | cons p qs ih =>
      obtain ⟨hp, hqs⟩ := Bool.and_eq_true_iff.mp hqs
      exact ih hqs (within_take hp h)

theorem indent_foldl {l : Line} (hqs : Piece.staysIn item inner qs = true)
    (hsilent : ∀ p ∈ qs, p.firstText = []) (hl : l.depth = depth + inner)
    (h : m.sheet.Within l.depth) (hindent : m.sheet.indent = l.indent) :
    (qs.foldl take m).sheet.indent = (qs.foldl Line.take l).indent := by
  induction qs generalizing inner m l with
  | nil => exact hindent
  | cons p qs ih =>
      obtain ⟨hp, hqs⟩ := Bool.and_eq_true_iff.mp hqs
      obtain ⟨hpsilent, hsilent⟩ := List.forall_mem_cons.mp hsilent
      have hdepth := Line.depth_take hp hl
      refine ih hqs hsilent hdepth ?_ ?_
      · rw [hdepth]
        exact within_take hp (hl ▸ h)
      · rw [(take_of_stays hp m).1]
        exact h.indent_take hindent hpsilent

theorem written_foldl (hqs : Piece.staysIn item inner qs = true) (m : Manuscript)
    (ps : List Piece) : m.written (qs ++ ps) = (qs.foldl take m).written ps := by
  induction qs generalizing inner m with
  | nil => rfl
  | cons p qs ih =>
      obtain ⟨hp, hqs⟩ := Bool.and_eq_true_iff.mp hqs
      rw [List.cons_append, written_cons (Piece.ne_rule_of_stays hp), ih hqs, List.foldl_cons]

end Manuscript

end Staying

/-! ### Lists that are open -/

/-- How many lists are open: those from the slide, and those from earlier ones. -/
def Lists.count (l : Lists) : OpenLists where
  since := if l.outer.isSome then l.depth + 1 else 0
  earlier := l.carried.length

theorem Lists.count_opening (l : Lists) (kind : ListKind) (start : Nat) :
    (l.opening kind start).count = l.count.take (.listOpen kind) := by
  cases houter : l.outer <;> simp [opening, count, OpenLists.take, houter]

theorem Lists.count_closing (l : Lists) (kind : ListKind) :
    l.closing.count = l.count.take (.listClose kind) := by
  cases houter : l.outer with
  | none => simp [closing, count, OpenLists.take, houter]
  | some o =>
      rcases Nat.eq_zero_or_pos l.depth with hzero | hpos
      · simp [closing, count, OpenLists.take, houter, hzero]
      · simp [closing, count, OpenLists.take, houter, hpos]
        omega

theorem Lists.count_carriedOver (l : Lists) : l.carriedOver.count = l.count.take .rule := by
  cases houter : l.outer <;> simp [carriedOver, count, OpenLists.take, houter]

theorem Sheet.exists_opening (s : Sheet) (kind : ListKind) :
    ∃ start, (s.openList kind).lists = s.lists.opening kind start := by
  unfold Sheet.openList
  split
  · exact ⟨_, congrArg (Lists.opening · kind _) s.lists_breakParagraph⟩
  · exact ⟨_, rfl⟩

theorem Sheet.within_openList (s : Sheet) (kind : ListKind) :
    (s.openList kind).Within s.lists.count.since := by
  cases houter : s.lists.outer with
  | none =>
      rw [openList_outer houter]
      exact ⟨rfl, by simp [Lists.count, houter]⟩
  | some o =>
      have hwithin : s.Within s.lists.depth := ⟨by rw [houter]; rfl, rfl⟩
      have hsince : s.lists.count.since = s.lists.depth + 1 := by simp [Lists.count, houter]
      rw [hsince]
      exact hwithin.openList kind

namespace Manuscript

theorem count_take {p : Piece} (hp : p ≠ .rule) (m : Manuscript) :
    (m.take p).sheet.lists.count = m.sheet.lists.count.take p := by
  have hkept : ∀ lists : Lists, Sheet.Kept fun s => s.lists = lists :=
    fun _ => ⟨fun _ _ h => h, fun _ _ h => h⟩
  have hself : m.sheet.lists = m.sheet.lists := rfl
  cases p with
  | inline t => exact congrArg Lists.count ((hkept _).takeInline hself t.val)
  | paragraph attributes content =>
      have hturn : (if attributes.hasClass "column" then m.turn else m).sheet.lists =
          m.sheet.lists := by
        split <;> rfl
      exact congrArg Lists.count ((hkept _).breakParagraph ((hkept _).takeText hturn content))
  | heading level positive attributes content =>
      rw [take]
      split
      · rfl
      · split
        · rfl
        · exact congrArg Lists.count ((hkept _).takeHeading hself content)
  | table rows => rfl
  | code info content => exact congrArg Lists.count ((hkept _).takeCode hself content)
  | html html => rfl
  | rule => exact absurd rfl hp
  | listOpen kind =>
      obtain ⟨start, hlists⟩ := m.sheet.exists_opening kind
      exact (congrArg Lists.count hlists).trans (m.sheet.lists.count_opening kind start)
  | listClose kind => exact m.sheet.lists.count_closing kind
  | itemOpen => exact congrArg Lists.count ((hkept _).openItem hself)
  | itemClose => exact congrArg Lists.count ((hkept _).closeItem hself)

/-- The manuscripts of some pieces are complete but for the last one, with which more pieces go
on, and which counts the lists that are open. -/
theorem exists_written (m : Manuscript) (qs : List Piece) :
    ∃ done last, (∀ ps, m.written (qs ++ ps) = done ++ Manuscript.written last ps) ∧
      last.sheet.lists.count = qs.foldl OpenLists.take m.sheet.lists.count := by
  induction qs generalizing m with
  | nil => exact ⟨[], m, fun ps => rfl, rfl⟩
  | cons p qs ih =>
      by_cases hp : p = .rule
      · subst hp
        obtain ⟨done, last, hwritten, hcount⟩ := ih m.next
        refine ⟨m :: done, last, fun ps => congrArg (m :: ·) (hwritten ps), ?_⟩
        rw [hcount, List.foldl_cons, ← Lists.count_carriedOver]
        rfl
      · obtain ⟨done, last, hwritten, hcount⟩ := ih (m.take p)
        refine ⟨done, last, fun ps => ?_, ?_⟩
        · rw [List.cons_append, written_cons hp, hwritten ps]
        · rw [hcount, List.foldl_cons, count_take hp]

end Manuscript

theorem exists_manuscripts (qs : List Piece) :
    ∃ done last, (∀ p ps, p ≠ .rule →
        manuscripts (qs ++ p :: ps) = done ++ Manuscript.written last (p :: ps)) ∧
      last.sheet.lists.count = qs.foldl OpenLists.take {} := by
  cases qs with
  | nil => exact ⟨[], {}, fun p ps hp => manuscripts_cons hp ps, rfl⟩
  | cons q qs =>
      by_cases hq : q = .rule
      · subst hq
        obtain ⟨done, last, hwritten, hcount⟩ := Manuscript.exists_written {} qs
        exact ⟨done, last, fun p ps _ => hwritten (p :: ps), hcount⟩
      · obtain ⟨done, last, hwritten, hcount⟩ := Manuscript.exists_written {} (q :: qs)
        refine ⟨done, last, fun p ps _ => ?_, hcount⟩
        rw [List.cons_append, manuscripts_cons hq, ← List.cons_append, hwritten]

/-! ### Columns that grow -/

namespace Manuscript

/-- The columns, with the one that is being written. -/
def allColumns (m : Manuscript) : List Sheet := m.columns ++ [m.sheet]

/-- Every column is still there, and what was written in it. -/
def GrowsTo (m m' : Manuscript) : Prop :=
  ∀ (k : Nat) (s : Sheet), m.allColumns[k]? = some s →
    ∃ s', m'.allColumns[k]? = some s' ∧ s.letters <+: s'.letters

variable {m m' m'' : Manuscript}

theorem GrowsTo.refl (m : Manuscript) : m.GrowsTo m := fun _ s hs => ⟨s, hs, List.prefix_refl _⟩

theorem GrowsTo.trans (h : m.GrowsTo m') (h' : m'.GrowsTo m'') : m.GrowsTo m'' := by
  intro k s hs
  obtain ⟨s', hs', hstays⟩ := h k s hs
  obtain ⟨s'', hs'', hstays'⟩ := h' k s' hs'
  exact ⟨s'', hs'', hstays.trans hstays'⟩

/-- Something more in the last column. -/
theorem growsTo_of_columns (hcolumns : m'.columns = m.columns)
    (hstays : m.sheet.letters <+: m'.sheet.letters) : m.GrowsTo m' := by
  intro k s hs
  unfold allColumns at hs ⊢
  rw [hcolumns]
  rcases Nat.lt_or_ge k m.columns.length with hk | hk
  · rw [List.getElem?_append_left hk] at hs ⊢
    exact ⟨s, hs, List.prefix_refl _⟩
  · rw [List.getElem?_append_right hk, List.getElem?_singleton] at hs ⊢
    split at hs
    · rename_i hlast
      obtain rfl := Option.some.inj hs
      exact ⟨m'.sheet, if_pos hlast, hstays⟩
    · cases hs

theorem growsTo_turn (m : Manuscript) : m.GrowsTo m.turn := by
  intro k s hs
  refine ⟨s, ?_, List.prefix_refl _⟩
  have hk : k < m.allColumns.length := (List.getElem?_eq_some_iff.mp hs).1
  exact (List.getElem?_append_left hk).trans hs

/-- A piece writes in the last column or begins one.  Within a list in a list every other piece than
a rule and a column paragraph stays, which is the case split here. -/
theorem growsTo_take (m : Manuscript) (p : Piece) : m.GrowsTo (m.take p) := by
  by_cases hp : p.stays false 1 = true
  · obtain ⟨hsheet, hcolumns⟩ := take_of_stays hp m
    exact growsTo_of_columns hcolumns (hsheet ▸ m.sheet.stays_take p)
  · cases p with
    | paragraph attributes content =>
        have hcolumn : attributes.hasClass "column" = true := by
          simpa [Piece.stays] using hp
        rw [take, if_pos hcolumn]
        refine m.growsTo_turn.trans (growsTo_of_columns rfl ?_)
        exact (Trace.stays_takeText _ content).trans (Trace.stays_breakParagraph _)
    | rule => exact GrowsTo.refl m
    | _ => exact absurd rfl hp

theorem exists_written_cons (m : Manuscript) (ps : List Piece) :
    ∃ first rest, m.written ps = first :: rest ∧ m.GrowsTo first := by
  induction ps generalizing m with
  | nil => exact ⟨m, [], rfl, GrowsTo.refl m⟩
  | cons p ps ih =>
      by_cases hp : p = .rule
      · subst hp
        exact ⟨m, _, rfl, GrowsTo.refl m⟩
      · obtain ⟨first, rest, hwritten, hgrows⟩ := ih (m.take p)
        rw [written_cons hp]
        exact ⟨first, rest, hwritten, (m.growsTo_take p).trans hgrows⟩

/-- A body is a column. -/
theorem getElem?_allColumns {k : Nat} {s : Sheet} (hs : m.bodies[k]? = some s) :
    m.allColumns[k]? = some s := by
  unfold bodies at hs
  unfold allColumns
  split at hs
  · rw [List.append_nil] at hs
    rw [List.getElem?_append_left (List.getElem?_eq_some_iff.mp hs).1, hs]
  · exact hs

/-- A column that is not blank is a body. -/
theorem getElem?_bodies {k : Nat} {s : Sheet} (hs : m.allColumns[k]? = some s)
    (hblank : s.isBlank = false) : m.bodies[k]? = some s := by
  unfold allColumns at hs
  unfold bodies
  rcases Nat.lt_or_ge k m.columns.length with hk | hk
  · rw [List.getElem?_append_left hk] at hs ⊢
    exact hs
  · -- The column is the last one, which so makes a body.
    have hlast : s = m.sheet := by
      rw [List.getElem?_append_right hk] at hs
      exact List.mem_singleton.mp (List.mem_of_getElem? hs)
    rw [if_neg (by rw [← hlast, hblank]; exact Bool.false_ne_true)]
    exact hs

end Manuscript

/-! ### The text of an item -/

namespace ItemText

variable {ps : List Piece}

/-- The manuscript of an item in front of its text, if its list is opened on a given one. -/
def pageFrom (i : ItemText ps) (m : Manuscript) : Manuscript :=
  i.inItem.foldl .take ((i.inList.foldl .take (m.take (.listOpen i.kind))).take .itemOpen)

theorem written_pageFrom (i : ItemText ps) (m : Manuscript) (qs : List Piece) :
    m.written (.listOpen i.kind :: (i.inList ++ .itemOpen :: (i.inItem ++ qs))) =
      (i.pageFrom m).written qs := by
  rw [Manuscript.written_cons Piece.noConfusion, Manuscript.written_foldl i.inList_stays,
    Manuscript.written_cons Piece.noConfusion, Manuscript.written_foldl i.inItem_stays]
  rfl

theorem indent_pageFrom (i : ItemText ps) {m : Manuscript}
    (hcount : m.sheet.lists.count = i.around) :
    (i.pageFrom m).sheet.indent =
      (i.inItem.foldl Line.take ⟨i.around.since, some i.around.since⟩).indent := by
  have hopen : (m.take (.listOpen i.kind)).sheet.Within (i.around.since + 0) := by
    have hwithin := m.sheet.within_openList i.kind
    rwa [hcount] at hwithin
  have hlist := Manuscript.within_foldl i.inList_stays hopen
  refine Manuscript.indent_foldl i.inItem_stays i.inItem_silent rfl ?_ hlist.indent_openItem
  exact (Sheet.Within.kept _).openItem hlist

/-- The manuscript of an item goes on with its text, on a line that is as the item says. -/
theorem reached (i : ItemText ps) :
    ∃ done, manuscripts i.inFront = done ++ [i.page] ∧
      manuscripts ps = done ++ (i.page.take i.piece).written i.after ∧
      i.page.sheet.indent =
        (i.inItem.foldl Line.take ⟨i.around.since, some i.around.since⟩).indent := by
  obtain ⟨done, m, hmanuscripts, hcount⟩ := exists_manuscripts i.before
  have hgo : ∀ qs, manuscripts (i.before ++ .listOpen i.kind ::
      (i.inList ++ .itemOpen :: (i.inItem ++ qs))) = done ++ (i.pageFrom m).written qs := by
    intro qs
    rw [hmanuscripts _ _ Piece.noConfusion, i.written_pageFrom]
  have hfront : manuscripts i.inFront = done ++ [i.pageFrom m] := by
    have hnil := hgo []
    rwa [List.append_nil] at hnil
  have hpage : i.page = i.pageFrom m := by
    rw [page, hfront, List.getLast?_concat]
    rfl
  refine ⟨done, hpage ▸ hfront, ?_, ?_⟩
  · have hpiece := hgo (i.piece :: i.after)
    rwa [← i.split, Manuscript.written_cons (Piece.ne_rule_of_stays i.piece_stays), ← hpage]
      at hpiece
  · rw [hpage]
    exact i.indent_pageFrom hcount

/-- The column of an item has its text behind what is indented as the item says. -/
theorem exists_column (i : ItemText ps) :
    ∃ done first rest s front, manuscripts ps = done ++ first :: rest ∧
      done.length = (manuscripts i.inFront).length - 1 ∧
      first.allColumns[i.page.columns.length]? = some s ∧
      front.length = i.start ∧ indentOf front = i.indent ∧ front ++ i.text <+: s.chars := by
  obtain ⟨done, hfront, hps, hindent⟩ := i.reached
  obtain ⟨hsheet, hcolumns⟩ := Manuscript.take_of_stays i.piece_stays i.page
  obtain ⟨first, rest, hwritten, hgrows⟩ := (i.page.take i.piece).exists_written_cons i.after
  have hcolumn : (i.page.take i.piece).allColumns[i.page.columns.length]? =
      some (i.page.sheet.take i.piece) := by
    rw [Manuscript.allColumns, hcolumns, hsheet, List.getElem?_concat_length]
  obtain ⟨s, hs, hstays⟩ := hgrows _ _ hcolumn
  refine ⟨done, first, rest, s, (i.page.sheet.takeBefore i.piece).chars, ?_, ?_, hs, ?_, ?_, ?_⟩
  · rw [hps, hwritten]
  · rw [hfront, List.length_append]
    rfl
  · exact List.length_map _
  · exact Sheet.indent_takeBefore hindent i.piece
  · exact (Sheet.firstText_take i.text_ne_nil _).trans (Sheet.chars_stay hstays)

/-- A block that renders the column of an item has its text in its place. -/
theorem setIn_of_renders (i : ItemText ps) {body : TextBlock} {s : Sheet} {front : List Char}
    (hrenders : body.Renders s) (hlength : front.length = i.start)
    (hindent : indentOf front = i.indent) (hstands : front ++ i.text <+: s.chars) :
    i.SetIn body := by
  obtain ⟨newlines, hspelled, hnewline⟩ :=
    exists_eq_dropEndWhile_append (· == '\n') s.chars
  have hchars : s.chars = body.rawText.toList ++ newlines := by
    rwa [Sheet.chars, ← hrenders.spelled] at hspelled
  obtain ⟨behind, hbehind⟩ := hstands
  have htext : ∀ k c, i.text[k]? = some c →
      (body.rawText.toList ++ newlines)[i.start + k]? = some c := by
    intro k c hc
    rw [← hchars, ← hbehind, List.append_assoc, ← hlength,
      List.getElem?_append_right (Nat.le_add_right _ _), Nat.add_sub_cancel_left,
      List.getElem?_append_left (List.getElem?_eq_some_iff.mp hc).1, hc]
  have hindented : i.start < body.length →
      ∀ tabs, IndentedBy (body.rawText.toList.take i.start) tabs ↔ i.indent = some tabs := by
    intro hstart tabs
    have hbefore : body.rawText.toList.take i.start = front := by
      have htake := congrArg (List.take i.start) hbehind
      rw [hchars, List.append_assoc, ← hlength, List.take_left, hlength,
        List.take_append_of_le_length (Nat.le_of_lt hstart)] at htake
      exact htake.symm
    rw [hbefore, indentedBy_iff, hindent]
  refine ⟨?_, ?_, hindented, ?_⟩
  · intro k c hc hk
    have hat := htext k c hc
    rwa [List.getElem?_append_left hk] at hat
  · intro k c hc hother
    by_contra hout
    have hat := htext k c hc
    rw [List.getElem?_append_right (Nat.le_of_not_lt hout)] at hat
    exact hother (eq_of_beq (hnewline c (List.mem_of_getElem? hat)))
  · intro hstart hsince
    rw [hindented hstart, i.indent_eq_iff hsince]

end ItemText

/-! ### The theorem -/

theorem exists_of_forall₂ {α β : Type} {R : α → β → Prop} {as : List α} {bs : List β}
    (h : List.Forall₂ R as bs) {k : Nat} {b : β} (hb : bs[k]? = some b) :
    ∃ a, as[k]? = some a ∧ R a b := by
  induction h generalizing k with
  | nil => cases hb
  | cons hab _ ih =>
      cases k with
      | zero =>
          obtain rfl := Option.some.inj hb
          exact ⟨_, rfl, hab⟩
      | succ k => exact ih hb

/-- **How far the text of an item is indented.**  If a document with properly nested tokens
compiles, the text of an item stands in its body, and in front of it on its line are the tabs of the
item, one for each list around its own that was opened since the last rule.  In a list within a
list that is so exactly if no line is ended or broken between the item and its text.  Text that is
not white space has a body to stand in. -/
theorem indented_compileTokens {ps : List Piece} {slides : List Slide}
    (h : (compileTokens (ps.flatMap Piece.tokens)).outcome = .ok slides) (i : ItemText ps) :
    (∀ body, i.body? slides = some body → i.SetIn body) ∧
      ((∃ c ∈ i.text, Text.isBlank c = false) → ∃ body, i.body? slides = some body) := by
  obtain ⟨done, first, rest, s, front, hps, hdone, hs, hlength, hindent, hstands⟩ :=
    i.exists_column
  have hfirst : (manuscripts ps)[done.length]? = some first := by
    rw [hps, List.getElem?_append_right (Nat.le_refl _), Nat.sub_self, List.getElem?_cons_zero]
  obtain ⟨slide, hslide, hshows⟩ := exists_of_forall₂ (shown_compileTokens h) hfirst
  have hbody : i.body? slides = (slide.bodies[i.page.columns.length]?).map (·.text) := by
    rw [ItemText.body?, ← hdone, hslide]
    rfl
  rw [hbody]
  constructor
  · intro body hat
    obtain ⟨b, hb, rfl⟩ := Option.map_eq_some_iff.mp hat
    obtain ⟨s', hs', hrenders⟩ := exists_of_forall₂ hshows.bodies.flip hb
    obtain rfl : s' = s := Option.some.inj ((first.getElem?_allColumns hs').symm.trans hs)
    exact i.setIn_of_renders hrenders hlength hindent hstands
  · rintro ⟨c, hc, hblank⟩
    have hsheet : s.isBlank = false := by
      have hmem : c ∈ s.chars := hstands.subset (List.mem_append_right _ hc)
      obtain ⟨l, hl, rfl⟩ := List.mem_map.mp hmem
      exact List.all_eq_false.mpr ⟨l, hl, by rw [hblank]; exact Bool.false_ne_true⟩
    obtain ⟨b, hb, -⟩ := exists_of_forall₂ hshows.bodies (first.getElem?_bodies hs hsheet)
    exact ⟨b.text, by rw [hb]; rfl⟩

/-- A list in a list, with a paragraph in its item. -/
def nestedParagraph : List Piece :=
  [.listOpen .unordered, .itemOpen, .inline ⟨.text "a", Eq.refl true⟩, .listOpen .unordered,
    .itemOpen, .paragraph .empty (runningText [.strongOpen, .text "b", .strongClose]), .itemClose,
    .listClose .unordered, .itemClose, .listClose .unordered]

/-- The inner item. -/
def nestedParagraph.item : ItemText nestedParagraph where
  before := [.listOpen .unordered, .itemOpen, .inline ⟨.text "a", Eq.refl true⟩]
  kind := .unordered
  inList := []
  inItem := []
  piece := .paragraph .empty (runningText [.strongOpen, .text "b", .strongClose])
  after := [.itemClose, .listClose .unordered, .itemClose, .listClose .unordered]
  split := rfl
  inList_stays := rfl
  inItem_stays := rfl
  inItem_silent _ hp := nomatch hp
  piece_stays := rfl
  text_ne_nil := List.cons_ne_nil _ _

/-- A list in a list, with a section heading in its item. -/
def nestedHeading : List Piece :=
  [.listOpen .unordered, .itemOpen, .inline ⟨.text "a", Eq.refl true⟩, .listOpen .unordered,
    .itemOpen, .heading 3 (by decide) .empty (runningText [.text "b"]), .itemClose,
    .listClose .unordered, .itemClose, .listClose .unordered]

/-- The inner item. -/
def nestedHeading.item : ItemText nestedHeading where
  before := [.listOpen .unordered, .itemOpen, .inline ⟨.text "a", Eq.refl true⟩]
  kind := .unordered
  inList := []
  inItem := []
  piece := .heading 3 (by decide) .empty (runningText [.text "b"])
  after := [.itemClose, .listClose .unordered, .itemClose, .listClose .unordered]
  split := rfl
  inList_stays := rfl
  inItem_stays := rfl
  inItem_silent _ hp := nomatch hp
  piece_stays := rfl
  text_ne_nil := List.cons_ne_nil _ _

theorem indented_nestedParagraph :
    ∃ slides, (compileTokens (nestedParagraph.flatMap Piece.tokens)).outcome = .ok slides ∧
      (∃ body, nestedParagraph.item.body? slides = some body ∧ body.rawText = "a\n\tb" ∧
        nestedParagraph.item.SetIn body ∧ nestedParagraph.item.Attached) ∧
      ∃ body, nestedParagraph.item.body? slides = some body := by
  have h : (compileTokens (nestedParagraph.flatMap Piece.tokens)).outcome = .ok _ := rfl
  obtain ⟨hset, hexists⟩ := indented_compileTokens h nestedParagraph.item
  refine ⟨_, h, ⟨_, rfl, rfl, hset _ rfl, ?_⟩, hexists ⟨'b', by decide, by decide⟩⟩
  exact ⟨fun p hp => (nomatch hp), rfl⟩

/-- The tabs of an item that begins with a section heading stay behind on a line of their own. -/
theorem nestedHeading_not_indented :
    ∃ slides, (compileTokens (nestedHeading.flatMap Piece.tokens)).outcome = .ok slides ∧
      slides.map (fun s => s.bodies.map fun b => b.text.rawText) = [["a\n\t\nb"]] ∧
      ¬∀ (i : ItemText nestedHeading) (body : TextBlock), i.body? slides = some body →
        IndentedBy (body.rawText.toList.take i.start) (i.around.since + i.around.earlier) := by
  refine ⟨_, rfl, rfl, ?_⟩
  intro h
  have hitem := h nestedHeading.item _ rfl
  revert hitem
  decide

end SlideDeck

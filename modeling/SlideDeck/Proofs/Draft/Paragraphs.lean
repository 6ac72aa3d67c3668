/-
Where blocks of text are parted.

The text of a body comes from blocks of the document: paragraphs, section headings, code, and text
that stands by itself, as that of a list item may.  A line feed parts two of them wherever a
paragraph is ended between, and every block but text that stands by itself ends one behind itself.
Such text is ended only by what ends a paragraph in front of itself: a section heading, code, an
item, or the first of some lists.  A paragraph does not, nor does what is written elsewhere, so
text that stands by itself runs on into a paragraph behind it, and into more such text behind the
heading of a slide or a table.

To say this the letters of a sheet are traced: each knows the block it was written for and how
many paragraphs had been ended before it.  What a line feed is needed for is carried by three facts
about a trace.  Every letter from before the last end of a paragraph has a line feed behind it.  A
line feed that was not in a block has an end of a paragraph behind it.  And after a piece, letters
from after the last end of a paragraph stand by themselves.
-/
import SlideDeck.Proofs.Draft.Lists

namespace SlideDeck

/-! ### Sheets that grow -/

namespace Sheet

variable {s s' : Sheet}

/-- A line feed stands at a place. -/
def NewlineAt (s : Sheet) (k : Nat) : Prop := ∃ l, s.letters[k]? = some l ∧ l.char = '\n'

theorem NewlineAt.lt_length {k : Nat} (h : s.NewlineAt k) : k < s.letters.length := by
  obtain ⟨l, hl, -⟩ := h
  exact (List.getElem?_eq_some_iff.mp hl).1

/-- What was written on a sheet stays there. -/
theorem newlineAt_iff_of_stays (hstays : s.letters <+: s'.letters) {k : Nat}
    (hk : k < s.letters.length) : s'.NewlineAt k ↔ s.NewlineAt k := by
  obtain ⟨new, hnew⟩ := hstays
  unfold NewlineAt
  rw [← hnew, List.getElem?_append_left hk]

theorem NewlineAt.mono {k : Nat} (h : s.NewlineAt k) (hstays : s.letters <+: s'.letters) :
    s'.NewlineAt k :=
  (newlineAt_iff_of_stays hstays h.lt_length).mpr h

theorem newlineAt_of_endsWithNewline (h : s.endsWithNewline = true) :
    s.NewlineAt (s.letters.length - 1) := by
  unfold endsWithNewline at h
  rw [List.getLast?_eq_getElem?] at h
  cases hlast : s.letters[s.letters.length - 1]? with
  | none =>
      rw [hlast] at h
      cases h
  | some l =>
      rw [hlast] at h
      exact ⟨l, hlast, eq_of_beq h⟩

/-- Sheets on which something is written after given letters. -/
theorem kept_stays (letters : List Letter) : Kept fun s => letters <+: s.letters where
  write _ _ h := h.trans (List.prefix_append _ _)
  styles _ _ h := h

/-- No paragraph has begun. -/
def AtStart (s : Sheet) : Prop := s.letters = [] ∨ s.endsWithNewline = true

theorem endsWithNewline_write_newline (s : Sheet) : (s.write ['\n']).endsWithNewline = true := by
  simp [endsWithNewline, write, letter]

theorem atStart_breakParagraph (s : Sheet) : s.breakParagraph.AtStart := by
  unfold breakParagraph
  by_cases h : (s.letters.isEmpty || s.endsWithNewline) = true
  · rw [if_pos h]
    rcases Bool.or_eq_true_iff.mp h with hempty | hnewline
    · exact .inl (List.isEmpty_iff.mp hempty)
    · exact .inr hnewline
  · rw [if_neg h]
    exact .inr s.endsWithNewline_write_newline

theorem atStart_closeItem (s : Sheet) : s.closeItem.AtStart := by
  unfold closeItem
  by_cases h : s.endsWithNewline = true
  · rw [if_pos h]
    exact .inr h
  · rw [if_neg h]
    exact .inr s.endsWithNewline_write_newline

theorem letters_openList_outer (h : s.lists.outer.isNone = true) (kind : ListKind) :
    (s.openList kind).letters = s.breakParagraph.letters := by
  unfold openList
  rw [if_pos h]

theorem letters_openList_inner (h : ¬s.lists.outer.isNone = true) (kind : ListKind) :
    (s.openList kind).letters = s.letters := by
  unfold openList
  rw [if_neg h]

end Sheet

/-! ### Traces -/

/-- What a block of text is. -/
inductive BlockKind where
  /-- Text that stands by itself. -/
  | bare
  | paragraph
  | heading
  | code
deriving DecidableEq

/-- Where a letter comes from. -/
structure Origin where
  /-- The number of its block on the slide. -/
  block : Nat
  kind : BlockKind
  /-- How many paragraphs were ended before it in its column. -/
  ended : Nat
deriving DecidableEq

/-- A sheet with the origins of its letters.  What only parts or indents blocks has none. -/
structure Trace where
  sheet : Sheet := {}
  origins : List (Option Origin) := []
  /-- How many paragraphs were ended. -/
  ended : Nat := 0

namespace Trace

/-- Writes something, all of one origin. -/
def put (t : Trace) (f : Sheet → Sheet) (origin : Option Origin) : Trace :=
  { t with
    sheet := f t.sheet
    origins := t.origins ++
      List.replicate ((f t.sheet).letters.length - t.sheet.letters.length) origin }

/-- Writes text of a block. -/
def write (t : Trace) (block : Nat) (kind : BlockKind) (f : Sheet → Sheet) : Trace :=
  t.put f (some ⟨block, kind, t.ended⟩)

/-- Ends a paragraph. -/
def endParagraph (t : Trace) (f : Sheet → Sheet) : Trace :=
  { t.put f none with ended := t.ended + 1 }

/-- Writes a paragraph. -/
def paragraph (t : Trace) (block : Nat) (content : List InlineToken) : Trace :=
  (t.write block .paragraph (·.takeText content)).endParagraph Sheet.breakParagraph

/-- Writes a section heading. -/
def heading (t : Trace) (block : Nat) (content : List InlineToken) : Trace :=
  ((t.endParagraph Sheet.breakParagraph).write block .heading fun s =>
    ((s.openStyle { bold := some true } none).takeText content).closeStyle none).endParagraph
      Sheet.breakParagraph

/-- Writes code. -/
def code (t : Trace) (block : Nat) (content : String) : Trace :=
  ((t.endParagraph Sheet.breakParagraph).write block .code
    (·.writeCode (Draft.codeText content))).endParagraph Sheet.breakParagraph

/-- Opens a list, which ends a paragraph if no other is open. -/
def openList (t : Trace) (kind : ListKind) : Trace :=
  if t.sheet.lists.outer.isNone then t.endParagraph (·.openList kind)
  else t.put (·.openList kind) none

/-- Opens an item. -/
def openItem (t : Trace) : Trace :=
  (t.endParagraph Sheet.breakParagraph).put (·.write (List.replicate
    (if t.sheet.lists.outer.isSome then t.sheet.lists.depth else 0) '\t')) none

end Trace

/-- A manuscript with traces of its columns. -/
structure Tracing where
  page : Manuscript := {}
  columns : List Trace := []
  column : Trace := {}
  /-- The number of the block for text that stands by itself. -/
  block : Nat := 0

namespace Tracing

/-- Begins a column. -/
def turn (t : Tracing) : Tracing :=
  { t with columns := t.columns ++ [t.column], column := { sheet := t.column.sheet.next } }

/-- The tracing of the next slide. -/
def next (t : Tracing) : Tracing := { page := t.page.next, column := { sheet := t.page.next.sheet } }

/-- Takes a piece.  Text that stands by itself belongs to one block as long as nothing but HTML
stands in between. -/
def take (t : Tracing) (p : Piece) : Tracing :=
  { match p with
    | .inline s => { t with column := t.column.write t.block .bare (·.takeInline s.val) }
    | .paragraph attributes content =>
      let t := if attributes.hasClass "column" then t.turn else t
      { t with column := t.column.paragraph (t.block + 1) content, block := t.block + 2 }
    | .heading level _ _ content =>
      if level ≤ 2 then { t with block := t.block + 1 }
      else { t with column := t.column.heading (t.block + 1) content, block := t.block + 2 }
    | .table _ => { t with block := t.block + 1 }
    | .code _ content =>
      { t with column := t.column.code (t.block + 1) content, block := t.block + 2 }
    | .listOpen kind => { t with column := t.column.openList kind, block := t.block + 1 }
    | .listClose _ => { t with column := t.column.put Sheet.closeList none, block := t.block + 1 }
    | .itemOpen => { t with column := t.column.openItem, block := t.block + 1 }
    | .itemClose => { t with column := t.column.endParagraph Sheet.closeItem, block := t.block + 1 }
    | .html _ | .rule => t
    with page := t.page.take p }

/-- The traces of the columns that make bodies. -/
def bodies (t : Tracing) : List Trace :=
  t.columns ++ if t.page.sheet.isBlank then [] else [t.column]

/-- The tracings of some pieces, the first of which goes on with one that is begun. -/
def written (t : Tracing) : List Piece → List Tracing
  | [] => [t]
  | .rule :: ps => t :: written t.next ps
  | p :: ps => written (t.take p) ps

end Tracing

/-- The tracings of a document. -/
def tracings : List Piece → List Tracing
  | .rule :: ps => Tracing.written {} ps
  | ps => Tracing.written {} ps

/-! ### What parts two letters -/

namespace Trace

variable {t : Trace} {f : Sheet → Sheet} {origin : Option Origin} {i j k : Nat} {o o' : Origin}

/-- A letter has an origin. -/
def From (t : Trace) (i : Nat) (o : Origin) : Prop := t.origins[i]? = some (some o)

/-- A line feed that belongs to no block stands at a place. -/
def PartedAt (t : Trace) (k : Nat) : Prop := t.origins[k]? = some none ∧ t.sheet.NewlineAt k

/-- Two letters are parted if a paragraph was ended between them.  Otherwise the first belongs to
text that stands by itself, and the second to such text or to a paragraph. -/
def Apart (t : Trace) (i j : Nat) (o o' : Origin) : Prop :=
  (o.ended < o'.ended ∧ ∃ k, i ≤ k ∧ k < j ∧ t.sheet.NewlineAt k) ∨
    (o.ended = o'.ended ∧ o.kind = .bare ∧ (o'.kind = .bare ∨ o'.kind = .paragraph) ∧
      ∀ k, i < k → k < j → ¬t.PartedAt k)

/-- What holds of a trace at any time. -/
structure Sound (t : Trace) : Prop where
  length : t.origins.length = t.sheet.letters.length
  reached : ∀ i o, t.From i o → o.ended ≤ t.ended
  /-- A letter from before the last end of a paragraph has a line feed behind it. -/
  passed : ∀ i o, t.From i o → o.ended < t.ended → ∃ k, i ≤ k ∧ t.sheet.NewlineAt k
  /-- A line feed that was put in ended a paragraph. -/
  parting : ∀ i k o, i < k → t.From i o → t.PartedAt k → o.ended < t.ended
  apart : ∀ i j o o', i < j → t.From i o → t.From j o' → o.block ≠ o'.block → t.Apart i j o o'

/-- What was written since the last end of a paragraph stands by itself. -/
def Settled (t : Trace) : Prop := ∀ i o, t.From i o → o.ended = t.ended → o.kind = .bare

theorem length_put (hstays : t.sheet.letters <+: (f t.sheet).letters)
    (hlength : t.origins.length = t.sheet.letters.length) :
    (t.put f origin).origins.length = (t.put f origin).sheet.letters.length := by
  have hle := hstays.length_le
  simp only [put, List.length_append, List.length_replicate]
  omega

theorem origins_put_of_lt (hi : i < t.origins.length) :
    (t.put f origin).origins[i]? = t.origins[i]? := by
  unfold put
  exact List.getElem?_append_left hi

/-- What is written has the origin that is given. -/
theorem eq_of_origins_put {x : Option Origin} (h : (t.put f origin).origins[i]? = some x)
    (hi : t.origins.length ≤ i) : x = origin := by
  unfold put at h
  simp only at h
  rw [List.getElem?_append_right hi, List.getElem?_replicate] at h
  split at h
  · exact (Option.some.inj h).symm
  · cases h

/-- A letter with an origin was there before or is new. -/
theorem From.of_put (h : (t.put f origin).From i o) :
    (i < t.origins.length ∧ t.From i o) ∨ (t.origins.length ≤ i ∧ origin = some o) := by
  by_cases hi : i < t.origins.length
  · rw [From, origins_put_of_lt hi] at h
    exact .inl ⟨hi, h⟩
  · exact .inr ⟨by omega, (eq_of_origins_put h (by omega)).symm⟩

theorem From.of_put_none (h : (t.put f none).From i o) : i < t.origins.length ∧ t.From i o := by
  rcases h.of_put with hold | ⟨-, hnone⟩
  · exact hold
  · cases hnone

theorem partedAt_put_iff (hlength : t.origins.length = t.sheet.letters.length)
    (hstays : t.sheet.letters <+: (f t.sheet).letters) (hk : k < t.origins.length) :
    (t.put f origin).PartedAt k ↔ t.PartedAt k := by
  unfold PartedAt
  rw [origins_put_of_lt hk]
  exact and_congr_right fun _ => Sheet.newlineAt_iff_of_stays hstays (hlength ▸ hk)

/-- Text of a block puts in no line feed that is not its own. -/
theorem PartedAt.of_write {block : Nat} {kind : BlockKind}
    (h : (t.write block kind f).PartedAt k) (hlength : t.origins.length = t.sheet.letters.length)
    (hstays : t.sheet.letters <+: (f t.sheet).letters) : k < t.origins.length ∧ t.PartedAt k := by
  by_cases hk : k < t.origins.length
  · exact ⟨hk, (partedAt_put_iff hlength hstays hk).mp h⟩
  · cases eq_of_origins_put h.1 (by omega)

/-- What was apart stays apart. -/
theorem Apart.put (h : t.Apart i j o o') (hlength : t.origins.length = t.sheet.letters.length)
    (hstays : t.sheet.letters <+: (f t.sheet).letters) (hj : j < t.origins.length) :
    (t.put f origin).Apart i j o o' := by
  rcases h with ⟨hended, k, hik, hkj, hnewline⟩ | ⟨hended, hkind, hkind', hnone⟩
  · exact .inl ⟨hended, k, hik, hkj, hnewline.mono hstays⟩
  · refine .inr ⟨hended, hkind, hkind', ?_⟩
    intro k hik hkj hparted
    exact hnone k hik hkj ((partedAt_put_iff hlength hstays (hkj.trans hj)).mp hparted)

/-- Text that is written is apart from what was there: what is from before the last end of a
paragraph has a line feed behind it, and the rest stands by itself. -/
theorem Sound.apart_written (h : t.Sound) (hsettled : t.Settled) {block : Nat} {kind : BlockKind}
    (hstays : t.sheet.letters <+: (f t.sheet).letters)
    (hkind : kind = .bare ∨ kind = .paragraph ∨ ∀ i o, t.From i o → o.ended < t.ended)
    (ho : t.From i o) (hj : t.origins.length ≤ j) :
    (t.write block kind f).Apart i j o ⟨block, kind, t.ended⟩ := by
  rcases Nat.lt_or_eq_of_le (h.reached i o ho) with hended | hended
  · obtain ⟨k, hik, hnewline⟩ := h.passed i o ho hended
    have hk := hnewline.lt_length
    rw [← h.length] at hk
    exact .inl ⟨hended, k, hik, by omega, hnewline.mono hstays⟩
  · -- No paragraph was ended behind the letter, so it cannot be of a block that ends its own.
    refine .inr ⟨hended, hsettled i o ho hended, ?_, ?_⟩
    · rcases hkind with hbare | hparagraph | hpassed
      · exact .inl hbare
      · exact .inr hparagraph
      · have hlt := hpassed i o ho
        omega
    · intro k hik hkj hparted
      have hlt := h.parting i k o hik ho (hparted.of_write h.length hstays).2
      omega

theorem Sound.write (h : t.Sound) (hsettled : t.Settled) {block : Nat} {kind : BlockKind}
    (hstays : t.sheet.letters <+: (f t.sheet).letters)
    (hkind : kind = .bare ∨ kind = .paragraph ∨ ∀ i o, t.From i o → o.ended < t.ended) :
    (t.write block kind f).Sound := by
  refine ⟨length_put hstays h.length, ?_, ?_, ?_, ?_⟩
  · intro i o ho
    rcases ho.of_put with ⟨-, ho⟩ | ⟨-, hnew⟩
    · exact h.reached i o ho
    · obtain rfl := Option.some.inj hnew
      exact Nat.le_refl _
  · intro i o ho hended
    rcases ho.of_put with ⟨-, ho⟩ | ⟨-, hnew⟩
    · obtain ⟨k, hik, hnewline⟩ := h.passed i o ho hended
      exact ⟨k, hik, hnewline.mono hstays⟩
    · obtain rfl := Option.some.inj hnew
      exact absurd hended (Nat.lt_irrefl _)
  · intro i k o hik ho hparted
    obtain ⟨hk, hparted⟩ := hparted.of_write h.length hstays
    rcases ho.of_put with ⟨-, ho⟩ | ⟨hi, -⟩
    · exact h.parting i k o hik ho hparted
    · omega
  · intro i j o o' hij ho ho' hblock
    rcases ho'.of_put with ⟨hj, ho'⟩ | ⟨hj, hnew'⟩
    · rcases ho.of_put with ⟨-, ho⟩ | ⟨hi, -⟩
      · exact (h.apart i j o o' hij ho ho' hblock).put h.length hstays hj
      · omega
    · obtain rfl := Option.some.inj hnew'
      rcases ho.of_put with ⟨-, ho⟩ | ⟨-, hnew⟩
      · exact h.apart_written hsettled hstays hkind ho hj
      · obtain rfl := Option.some.inj hnew
        exact absurd rfl hblock

/-- The end of a paragraph puts a line feed behind everything. -/
theorem Sound.endParagraph (h : t.Sound) (hstays : t.sheet.letters <+: (f t.sheet).letters)
    (hstart : (f t.sheet).AtStart) : (t.endParagraph f).Sound ∧
      ∀ i o, (t.endParagraph f).From i o → o.ended < (t.endParagraph f).ended := by
  have hold : ∀ i o, (t.endParagraph f).From i o → i < t.origins.length ∧ t.From i o := by
    intro i o ho
    have hput : (t.put f none).From i o := ho
    exact hput.of_put_none
  have hlt : ∀ i o, (t.endParagraph f).From i o → o.ended < (t.endParagraph f).ended := by
    intro i o ho
    exact Nat.lt_succ_of_le (h.reached i o (hold i o ho).2)
  refine ⟨⟨length_put hstays h.length, ?_, ?_, ?_, ?_⟩, hlt⟩
  · intro i o ho
    exact Nat.le_of_lt (hlt i o ho)
  · intro i o ho _
    obtain ⟨hi, -⟩ := hold i o ho
    have hle := hstays.length_le
    rw [h.length] at hi
    rcases hstart with hempty | hnewline
    · rw [hempty, List.length_nil] at hle
      omega
    · refine ⟨(f t.sheet).letters.length - 1, by omega, ?_⟩
      exact Sheet.newlineAt_of_endsWithNewline hnewline
  · intro i k o _ ho _
    exact hlt i o ho
  · intro i j o o' hij ho ho' hblock
    obtain ⟨-, ho⟩ := hold i o ho
    obtain ⟨hj, ho'⟩ := hold j o' ho'
    exact (h.apart i j o o' hij ho ho' hblock).put h.length hstays hj

/-- What indents or opens lists parts nothing. -/
theorem Sound.indent (h : t.Sound) (hstays : t.sheet.letters <+: (f t.sheet).letters)
    (hplain : ∀ k, t.sheet.letters.length ≤ k → ¬(f t.sheet).NewlineAt k) :
    (t.put f none).Sound ∧ ∀ i o, (t.put f none).From i o → t.From i o := by
  refine ⟨⟨length_put hstays h.length, ?_, ?_, ?_, ?_⟩, fun i o ho => ho.of_put_none.2⟩
  · intro i o ho
    exact h.reached i o ho.of_put_none.2
  · intro i o ho hended
    obtain ⟨k, hik, hnewline⟩ := h.passed i o ho.of_put_none.2 hended
    exact ⟨k, hik, hnewline.mono hstays⟩
  · intro i k o hik ho hparted
    by_cases hk : k < t.origins.length
    · exact h.parting i k o hik ho.of_put_none.2 ((partedAt_put_iff h.length hstays hk).mp hparted)
    · rw [h.length] at hk
      exact absurd hparted.2 (hplain k (by omega))
  · intro i j o o' hij ho ho' hblock
    obtain ⟨hj, ho'⟩ := ho'.of_put_none
    exact (h.apart i j o o' hij ho.of_put_none.2 ho' hblock).put h.length hstays hj

end Trace

/-! ### Pieces -/

namespace Trace

variable {t : Trace}

/-- A trace as it is between two pieces. -/
structure Between (t : Trace) : Prop where
  sound : t.Sound
  settled : t.Settled

theorem between_blank {s : Sheet} (hletters : s.letters = []) : Between { sheet := s } := by
  refine ⟨⟨?_, ?_, ?_, ?_, ?_⟩, ?_⟩
  · rw [hletters]
    rfl
  · intro i o ho
    cases ho
  · intro i o ho
    cases ho
  · intro i k o _ ho
    cases ho
  · intro i j o o' _ ho
    cases ho
  · intro i o ho
    cases ho

theorem stays_takeText (s : Sheet) (content : List InlineToken) :
    s.letters <+: (s.takeText content).letters :=
  (Sheet.kept_stays s.letters).takeText (List.prefix_refl _) content

theorem stays_breakParagraph (s : Sheet) : s.letters <+: s.breakParagraph.letters :=
  (Sheet.kept_stays s.letters).breakParagraph (List.prefix_refl _)

/-- Behind the end of a paragraph a trace is settled. -/
theorem Sound.between_endParagraph (h : t.Sound) {f : Sheet → Sheet}
    (hstays : t.sheet.letters <+: (f t.sheet).letters) (hstart : (f t.sheet).AtStart) :
    (t.endParagraph f).Between := by
  obtain ⟨hsound, hlt⟩ := h.endParagraph hstays hstart
  refine ⟨hsound, ?_⟩
  intro i o ho hended
  exact absurd hended (Nat.ne_of_lt (hlt i o ho))

theorem Between.bare (h : t.Between) (block : Nat) (s : InlineToken) :
    (t.write block .bare (·.takeInline s.val)).Between := by
  have hstays := (Sheet.kept_stays t.sheet.letters).takeInline (List.prefix_refl _) s.val
  refine ⟨h.sound.write h.settled hstays (.inl rfl), ?_⟩
  intro i o ho hended
  rcases ho.of_put with ⟨-, ho⟩ | ⟨-, hnew⟩
  · exact h.settled i o ho hended
  · obtain rfl := Option.some.inj hnew
    rfl

theorem Between.paragraph (h : t.Between) (block : Nat) (content : List InlineToken) :
    (t.paragraph block content).Between := by
  have hwrite : (t.write block .paragraph (·.takeText content)).Sound :=
    h.sound.write h.settled (stays_takeText t.sheet content) (.inr (.inl rfl))
  exact hwrite.between_endParagraph (stays_breakParagraph _) (Sheet.atStart_breakParagraph _)

/-- A block that ends the paragraph in front of it and its own. -/
theorem Between.enclosed (h : t.Between) (block : Nat) (kind : BlockKind) {f : Sheet → Sheet}
    (hstays : ∀ s : Sheet, s.letters <+: (f s).letters) :
    (((t.endParagraph Sheet.breakParagraph).write block kind f).endParagraph
      Sheet.breakParagraph).Between := by
  have hbreak := stays_breakParagraph t.sheet
  have hstart := Sheet.atStart_breakParagraph t.sheet
  have hended := h.sound.between_endParagraph hbreak hstart
  have hwrite : ((t.endParagraph Sheet.breakParagraph).write block kind f).Sound :=
    hended.sound.write hended.settled (hstays _)
      (.inr (.inr (h.sound.endParagraph hbreak hstart).2))
  exact hwrite.between_endParagraph (stays_breakParagraph _) (Sheet.atStart_breakParagraph _)

theorem Between.heading (h : t.Between) (block : Nat) (content : List InlineToken) :
    (t.heading block content).Between :=
  h.enclosed block .heading fun s =>
    stays_takeText (s.openStyle { bold := some true } none) content

theorem Between.code (h : t.Between) (block : Nat) (content : String) :
    (t.code block content).Between :=
  h.enclosed block .code fun s =>
    (Sheet.kept_stays s.letters).writeCode (List.prefix_refl _) _

theorem Between.indent (h : t.Between) {f : Sheet → Sheet}
    (hstays : t.sheet.letters <+: (f t.sheet).letters)
    (hplain : ∀ k, t.sheet.letters.length ≤ k → ¬(f t.sheet).NewlineAt k) :
    (t.put f none).Between := by
  obtain ⟨hsound, hold⟩ := h.sound.indent hstays hplain
  exact ⟨hsound, fun i o ho => h.settled i o (hold i o ho)⟩

/-- A change that writes nothing. -/
theorem Between.same (h : t.Between) {f : Sheet → Sheet}
    (hsame : (f t.sheet).letters = t.sheet.letters) : (t.put f none).Between := by
  refine h.indent (hsame ▸ List.prefix_refl _) ?_
  intro k hk hnewline
  have hlt := hnewline.lt_length
  rw [hsame] at hlt
  omega

theorem Between.openList (h : t.Between) (kind : ListKind) : (t.openList kind).Between := by
  unfold Trace.openList
  by_cases houter : t.sheet.lists.outer.isNone = true
  · rw [if_pos houter]
    have hletters := Sheet.letters_openList_outer houter kind
    refine h.sound.between_endParagraph ?_ ?_
    · rw [hletters]
      exact stays_breakParagraph t.sheet
    · rcases Sheet.atStart_breakParagraph t.sheet with hempty | hnewline
      · exact .inl (hletters.trans hempty)
      · refine .inr ?_
        unfold Sheet.endsWithNewline at hnewline ⊢
        rwa [hletters]
  · rw [if_neg houter]
    exact h.same (Sheet.letters_openList_inner houter kind)

theorem Between.openItem (h : t.Between) : t.openItem.Between := by
  have hended := h.sound.between_endParagraph (stays_breakParagraph t.sheet)
    (Sheet.atStart_breakParagraph t.sheet)
  refine hended.indent (List.prefix_append _ _) ?_
  intro k hk hnewline
  obtain ⟨l, hl, hchar⟩ := hnewline
  rw [Sheet.write, List.getElem?_append_right hk, List.getElem?_map,
    Option.map_eq_some_iff] at hl
  obtain ⟨c, hc, rfl⟩ := hl
  obtain rfl := List.eq_of_mem_replicate (List.mem_of_getElem? hc)
  cases hchar

theorem Between.closeItem (h : t.Between) : (t.endParagraph Sheet.closeItem).Between :=
  h.sound.between_endParagraph ((Sheet.kept_stays t.sheet.letters).closeItem (List.prefix_refl _))
    (Sheet.atStart_closeItem t.sheet)

end Trace

namespace Tracing

variable {t : Tracing}

/-- The columns of a tracing are those of its manuscript, with their origins. -/
structure Keeps (t : Tracing) : Prop where
  columns : t.columns.map (·.sheet) = t.page.columns
  column : t.column.sheet = t.page.sheet
  complete : ∀ c ∈ t.columns, c.Sound
  between : t.column.Between

theorem Keeps.turn (h : t.Keeps) :
    ({ t.turn with page := t.page.turn } : Tracing).Keeps := by
  refine ⟨?_, ?_, ?_, Trace.between_blank rfl⟩
  · show (t.columns ++ [t.column]).map (·.sheet) = t.page.columns ++ [t.page.sheet]
    rw [List.map_append, h.columns, List.map_singleton, h.column]
  · exact congrArg Sheet.next h.column
  · intro c hc
    rcases List.mem_append.mp hc with hc | hc
    · exact h.complete c hc
    · rw [List.mem_singleton.mp hc]
      exact h.between.sound

/-- A tracing goes on with its column as its manuscript does. -/
theorem Keeps.withColumn (h : t.Keeps) {c : Trace} {page : Manuscript} (block : Nat)
    (hcolumns : page.columns = t.page.columns) (hsheet : c.sheet = page.sheet)
    (hbetween : c.Between) : Keeps { t with page := page, column := c, block := block } :=
  ⟨h.columns.trans hcolumns.symm, hsheet, h.complete, hbetween⟩

theorem Keeps.take (h : t.Keeps) (p : Piece) : (t.take p).Keeps := by
  cases p with
  | inline s =>
      refine h.withColumn t.block rfl ?_ (h.between.bare t.block s)
      exact congrArg (·.takeInline s.val) h.column
  | paragraph attributes content =>
      by_cases hcolumn : attributes.hasClass "column" = true
      · have hturn := h.turn
        simp only [Tracing.take, Manuscript.take, hcolumn, if_true]
        refine hturn.withColumn (t.block + 2) rfl ?_ (hturn.between.paragraph _ content)
        exact congrArg (fun s => (s.takeText content).breakParagraph) hturn.column
      · simp only [Tracing.take, Manuscript.take, hcolumn]
        refine h.withColumn (t.block + 2) rfl ?_ (h.between.paragraph _ content)
        exact congrArg (fun s => (s.takeText content).breakParagraph) h.column
  | heading level positive attributes content =>
      by_cases hlevel : level ≤ 2
      · have hsame : (t.page.take (.heading level positive attributes content)).columns =
            t.page.columns ∧
            (t.page.take (.heading level positive attributes content)).sheet = t.page.sheet := by
          unfold Manuscript.take
          by_cases hone : level = 1
          · simp [hone]
          · have htwo : level = 2 := by omega
            simp [htwo]
        simp only [Tracing.take, hlevel, if_true]
        exact h.withColumn (t.block + 1) hsame.1 (h.column.trans hsame.2.symm) h.between
      · have hsection : t.page.take (.heading level positive attributes content) =
            t.page.onSheet (·.takeHeading content) := by
          unfold Manuscript.take
          simp only
          rw [if_neg (by omega), if_neg (by omega)]
        simp only [Tracing.take, hlevel, if_false, hsection]
        refine h.withColumn (t.block + 2) rfl ?_ (h.between.heading _ content)
        exact congrArg (·.takeHeading content) h.column
  | table rows => exact h.withColumn (t.block + 1) rfl h.column h.between
  | code info content =>
      refine h.withColumn (t.block + 2) rfl ?_ (h.between.code _ content)
      exact congrArg (·.takeCode content) h.column
  | listOpen kind =>
      refine h.withColumn (t.block + 1) rfl ?_ (h.between.openList kind)
      have hsheet : (t.column.openList kind).sheet = t.column.sheet.openList kind := by
        unfold Trace.openList
        split <;> rfl
      exact hsheet.trans (congrArg (·.openList kind) h.column)
  | listClose kind =>
      refine h.withColumn (t.block + 1) rfl ?_ (h.between.same rfl)
      exact congrArg Sheet.closeList h.column
  | itemOpen =>
      refine h.withColumn (t.block + 1) rfl ?_ h.between.openItem
      exact congrArg Sheet.openItem h.column
  | itemClose =>
      refine h.withColumn (t.block + 1) rfl ?_ h.between.closeItem
      exact congrArg Sheet.closeItem h.column
  | html s => exact h
  | rule => exact h

theorem keeps_empty {m : Manuscript} (hcolumns : m.columns = []) (hletters : m.sheet.letters = []) :
    Keeps { page := m, column := { sheet := m.sheet } } :=
  ⟨hcolumns.symm, rfl, fun _ hc => (nomatch hc), Trace.between_blank hletters⟩

theorem Keeps.written (h : t.Keeps) (ps : List Piece) :
    (∀ t' ∈ t.written ps, t'.Keeps) ∧ (t.written ps).map (·.page) = t.page.written ps := by
  induction ps generalizing t with
  | nil =>
      constructor
      · intro t' ht'
        rw [List.mem_singleton.mp ht']
        exact h
      · rfl
  | cons p ps ih =>
      by_cases hp : p = .rule
      · subst hp
        obtain ⟨hkeeps, hpages⟩ := ih (keeps_empty (m := t.page.next) rfl rfl)
        constructor
        · intro t' ht'
          rcases List.mem_cons.mp ht' with rfl | ht'
          · exact h
          · exact hkeeps t' ht'
        · exact congrArg (t.page :: ·) hpages
      · have hwritten : t.written (p :: ps) = (t.take p).written ps := by
          cases p with
          | rule => exact absurd rfl hp
          | _ => rfl
        have hpage : (t.take p).page = t.page.take p := rfl
        obtain ⟨hkeeps, hpages⟩ := ih (h.take p)
        rw [hwritten, Manuscript.written_cons hp, ← hpage]
        exact ⟨hkeeps, hpages⟩

/-- The tracings of a document are those of its manuscripts. -/
theorem keeps_tracings (ps : List Piece) :
    (∀ t ∈ tracings ps, t.Keeps) ∧ (tracings ps).map (·.page) = manuscripts ps := by
  have hempty : Keeps {} := keeps_empty rfl rfl
  cases ps with
  | nil => exact hempty.written []
  | cons p ps =>
      by_cases hp : p = .rule
      · subst hp
        exact hempty.written ps
      · have htracings : tracings (p :: ps) = Tracing.written {} (p :: ps) := by
          cases p with
          | rule => exact absurd rfl hp
          | _ => rfl
        rw [htracings, manuscripts_cons hp]
        exact hempty.written (p :: ps)

theorem Keeps.bodies (h : t.Keeps) :
    t.bodies.map (·.sheet) = t.page.bodies ∧ ∀ c ∈ t.bodies, c.Sound := by
  unfold Tracing.bodies Manuscript.bodies
  by_cases hblank : t.page.sheet.isBlank = true
  · rw [if_pos hblank, if_pos hblank, List.append_nil, List.append_nil]
    exact ⟨h.columns, h.complete⟩
  · rw [if_neg hblank, if_neg hblank, List.map_append, h.columns, List.map_singleton, h.column]
    refine ⟨rfl, ?_⟩
    intro c hc
    rcases List.mem_append.mp hc with hc | hc
    · exact h.complete c hc
    · rw [List.mem_singleton.mp hc]
      exact h.between.sound

end Tracing

/-! ### The theorem -/

/-- The bodies of some slides are in a relation with those of some tracings. -/
def BodiesTraced (R : TextBlock → Trace → Prop) (slides : List Slide) (ts : List Tracing) : Prop :=
  List.Forall₂ (fun slide t => List.Forall₂ (fun body c => R body.text c) slide.bodies t.bodies)
    slides ts

/-- Any two characters of different blocks have a line feed between them.  One that ends the text of
the first itself will do. -/
def TextBlock.AlwaysParted (b : TextBlock) (t : Trace) : Prop :=
  ∀ i j o o', i < j → j < b.length → t.From i o → t.From j o' → o.block ≠ o'.block →
    ∃ k, i ≤ k ∧ k < j ∧ b.rawText.toList[k]? = some '\n'

/-- The characters of a block are those of a trace.  Two of different blocks have a line feed
between them if a paragraph was ended there.  Otherwise none was put in, and the first belongs to
text that stands by itself, the second to such text or to a paragraph. -/
def TextBlock.PartedWhereEnded (b : TextBlock) (t : Trace) : Prop :=
  (∀ i, i < b.length → i < t.origins.length ∧
    b.rawText.toList[i]? = (t.sheet.letters[i]?).map (·.char)) ∧
  ∀ i j o o', i < j → j < b.length → t.From i o → t.From j o' → o.block ≠ o'.block →
    (o.ended < o'.ended ∧ ∃ k, i ≤ k ∧ k < j ∧ b.rawText.toList[k]? = some '\n') ∨
    (o.ended = o'.ended ∧ o.kind = .bare ∧ (o'.kind = .bare ∨ o'.kind = .paragraph) ∧
      ∀ k, i < k → k < j → t.origins[k]? = some none → b.rawText.toList[k]? ≠ some '\n')

theorem TextBlock.Renders.newlineAt_iff {b : TextBlock} {s : Sheet} (h : b.Renders s) {k : Nat}
    (hk : k < b.length) : b.rawText.toList[k]? = some '\n' ↔ s.NewlineAt k := by
  obtain ⟨l, hl, hchar⟩ := h.letter hk
  rw [hchar, Option.some.injEq]
  constructor
  · intro hnewline
    exact ⟨l, hl, hnewline⟩
  · rintro ⟨l', hl', hnewline⟩
    obtain rfl := Option.some.inj (hl.symm.trans hl')
    exact hnewline

theorem Trace.Sound.partedWhereEnded {b : TextBlock} {t : Trace} (h : t.Sound)
    (hrenders : b.Renders t.sheet) : b.PartedWhereEnded t := by
  constructor
  · intro i hi
    obtain ⟨l, hl, hchar⟩ := hrenders.letter hi
    refine ⟨?_, ?_⟩
    · rw [h.length]
      exact (List.getElem?_eq_some_iff.mp hl).1
    · rw [hchar, hl]
      rfl
  · intro i j o o' hij hj ho ho' hblock
    rcases h.apart i j o o' hij ho ho' hblock with
      ⟨hended, k, hik, hkj, hnewline⟩ | ⟨hended, hkind, hkind', hnone⟩
    · exact .inl ⟨hended, k, hik, hkj, (hrenders.newlineAt_iff (hkj.trans hj)).mpr hnewline⟩
    · refine .inr ⟨hended, hkind, hkind', ?_⟩
      intro k hik hkj horigin hnewline
      exact hnone k hik hkj ⟨horigin, (hrenders.newlineAt_iff (hkj.trans hj)).mp hnewline⟩

/-- **Where blocks of text are parted.**  If a document with properly nested tokens compiles, two
characters of a body that belong to different blocks have a line feed between them exactly if a
paragraph was ended there.  That is so for all blocks but text that stands by itself, and for that
text too unless a paragraph follows, or more such text behind something that is written elsewhere
or behind lists. -/
theorem parted_compileTokens {ps : List Piece} {slides : List Slide}
    (h : (compileTokens (ps.flatMap Piece.tokens)).outcome = .ok slides) :
    BodiesTraced TextBlock.PartedWhereEnded slides (tracings ps) := by
  obtain ⟨hkeeps, hpages⟩ := Tracing.keeps_tracings ps
  have hshown := shown_compileTokens h
  unfold Shown at hshown
  rw [← hpages, List.forall₂_map_right_iff] at hshown
  refine forall₂_of_forall_mem hshown hkeeps ?_
  intro slide t ht hslide
  obtain ⟨hsheets, hsound⟩ := ht.bodies
  have hbodies := hslide.bodies
  rw [← hsheets, List.forall₂_map_right_iff] at hbodies
  exact forall₂_of_forall_mem hbodies hsound fun body c hc hrenders => hc.partedWhereEnded hrenders

/-- An item with text, code and a paragraph. -/
def itemWithCode : List Piece :=
  [.listOpen .unordered, .itemOpen, .inline ⟨.text "a", Eq.refl true⟩, .code "" "c\n",
    .paragraph .empty (runningText [.text "b"]), .itemClose, .listClose .unordered]

/-- An item with text and a paragraph. -/
def itemWithParagraph : List Piece :=
  [.listOpen .unordered, .itemOpen, .inline ⟨.text "a", Eq.refl true⟩,
    .paragraph .empty (runningText [.text "b"]), .itemClose, .listClose .unordered]

theorem parted_itemWithCode :
    ∃ slides, (compileTokens (itemWithCode.flatMap Piece.tokens)).outcome = .ok slides ∧
      slides.map (fun s => s.bodies.map fun b => b.text.rawText) = [["a\nc\nb"]] ∧
      BodiesTraced TextBlock.PartedWhereEnded slides (tracings itemWithCode) := by
  have h : (compileTokens (itemWithCode.flatMap Piece.tokens)).outcome = .ok _ := rfl
  exact ⟨_, h, rfl, parted_compileTokens h⟩

/-- Code is parted from the text of its item, but a paragraph is not. -/
theorem itemWithParagraph_not_alwaysParted :
    ∃ slides, (compileTokens (itemWithParagraph.flatMap Piece.tokens)).outcome = .ok slides ∧
      slides.map (fun s => s.bodies.map fun b => b.text.rawText) = [["ab"]] ∧
      ¬BodiesTraced TextBlock.AlwaysParted slides (tracings itemWithParagraph) := by
  refine ⟨_, rfl, rfl, ?_⟩
  intro h
  cases h with
  | cons hslide _ =>
      cases hslide with
      | cons hbody _ =>
          obtain ⟨k, -, hk, hnewline⟩ := hbody 0 1 ⟨2, .bare, 2⟩ ⟨3, .paragraph, 2⟩ (by decide)
            (by decide) rfl rfl (by decide)
          obtain rfl : k = 0 := by omega
          cases hnewline

end SlideDeck

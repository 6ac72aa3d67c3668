/-
What the requests on a text do to it.

A shape or a cell holds paragraphs, and an offset counts its characters from the first one on.
Text is inserted only where there is none, an update overwrites the fields that it names, and a
bullet list takes the tabs in front of its paragraphs away, which moves what comes after them.
Nothing is assumed where a request does not find its target, or its range, as it needs it: then
there is no next content.
-/
import Mathlib.Algebra.GroupWithZero.Nat
import Mathlib.Data.List.Forall2
import Mathlib.Data.List.SplitBy
import SlideDeck.Plan.Text

namespace SlideDeck

/-! ### Overwriting a style -/

namespace TextStyle

/-- A style where the fields with the given names are overwritten by those of another one. -/
def overwrite (names : List String) (new old : TextStyle) : TextStyle where
  backgroundColor :=
    if "backgroundColor" ∈ names then new.backgroundColor else old.backgroundColor
  baselineOffset := if "baselineOffset" ∈ names then new.baselineOffset else old.baselineOffset
  bold := if "bold" ∈ names then new.bold else old.bold
  fontFamily := if "fontFamily" ∈ names then new.fontFamily else old.fontFamily
  fontSize := if "fontSize" ∈ names then new.fontSize else old.fontSize
  foregroundColor :=
    if "foregroundColor" ∈ names then new.foregroundColor else old.foregroundColor
  italic := if "italic" ∈ names then new.italic else old.italic
  link := if "link" ∈ names then new.link else old.link
  smallCaps := if "smallCaps" ∈ names then new.smallCaps else old.smallCaps
  strikethrough := if "strikethrough" ∈ names then new.strikethrough else old.strikethrough
  underline := if "underline" ∈ names then new.underline else old.underline

/-- The names of the attributes that an update lists. -/
def namesOf (fields : String) : List String := (fields.toList.splitOn ',').map String.ofList

end TextStyle

namespace Server

/-! ### Texts -/

/-- A character with its style. -/
structure Glyph where
  char : Char
  style : TextStyle := {}
deriving DecidableEq

/-- Changes the style of the character at an offset if it is in a range. -/
def Glyph.restyle (range : TextRange) (f : TextStyle → TextStyle) (offset : Nat) (g : Glyph) :
    Glyph :=
  if range.startIndex ≤ offset ∧ offset < range.endIndex then { g with style := f g.style } else g

/-- The bullet of a paragraph, which is nested in as many others as its level says. -/
structure Bullet where
  preset : BulletPreset
  level : Nat
deriving Repr, DecidableEq

/-- A paragraph with the line feed at its end, which the last one does not have. -/
structure Paragraph where
  glyphs : List Glyph
  bullet : Option Bullet := none
deriving DecidableEq

/-- Whether a character is a tab. -/
def isTab (c : Char) : Bool := c == '\t'

namespace Paragraph

/-- The characters of a paragraph. -/
def chars (p : Paragraph) : List Char := p.glyphs.map (·.char)

/-- Makes a list item of a paragraph. -/
def itemize (preset : BulletPreset) (p : Paragraph) : Paragraph where
  glyphs := p.glyphs.dropWhile (isTab ·.char)
  bullet := some ⟨preset, (p.glyphs.takeWhile (isTab ·.char)).length⟩

/-- Changes the styles of the characters in a range, of a paragraph that begins at an offset. -/
def restyle (range : TextRange) (f : TextStyle → TextStyle) (offset : Nat) (p : Paragraph) :
    Paragraph :=
  { p with glyphs := p.glyphs.mapIdx fun i => Glyph.restyle range f (offset + i) }

/-- The number of characters. -/
def length (p : Paragraph) : Nat := p.glyphs.length

end Paragraph

/-- Some pieces of a text with the offsets at which they begin, the first of which is given. -/
def spans {α : Type} (length : α → Nat) (offset : Nat) : List α → List (Nat × α)
  | [] => []
  | a :: as => (offset, a) :: spans length (offset + length a) as

/-- The paragraphs of a shape or a cell. -/
structure TextContent where
  paragraphs : List Paragraph := []
deriving DecidableEq

/-- Whether a paragraph of a given length at an offset has characters in a range. -/
def overlaps (start stop offset length : Nat) : Prop := offset < stop ∧ start < offset + length

instance (start stop offset length : Nat) : Decidable (overlaps start stop offset length) :=
  inferInstanceAs (Decidable (_ ∧ _))

/-- A shape, or a cell of a table. -/
structure Target where
  objectId : String
  cell : Option CellLocation := none
deriving DecidableEq

namespace TextContent

/-- The paragraphs of a text: each line feed ends one. -/
def lines (cs : List Char) : List (List Char) := cs.splitBy fun c _ => c != '\n'

/-- Plain text. -/
def ofString (text : String) : TextContent :=
  ⟨(lines text.toList).map fun cs => ⟨cs.map fun c => ⟨c, {}⟩, none⟩⟩

/-- The characters with their styles. -/
def glyphs (t : TextContent) : List Glyph := t.paragraphs.flatMap (·.glyphs)

/-- The characters. -/
def chars (t : TextContent) : List Char := t.paragraphs.flatMap (·.chars)

/-- Changes every paragraph, given its offset. -/
def edit (f : Nat → Paragraph → Paragraph) (t : TextContent) : TextContent :=
  ⟨(spans Paragraph.length 0 t.paragraphs).map fun s => f s.1 s.2⟩

/-- Gives a range of the text a style, as far as the given names go. -/
def restyle (range : TextRange) (names : List String) (style : TextStyle) (t : TextContent) :
    TextContent :=
  t.edit (Paragraph.restyle range (TextStyle.overwrite names style))

/-- Makes list items of the paragraphs in a range. -/
def itemize (range : TextRange) (preset : BulletPreset) (t : TextContent) : TextContent :=
  t.edit fun offset p =>
    if overlaps range.startIndex range.endIndex offset p.length then p.itemize preset else p

/-- A range is one of characters that are there. -/
def Admits (t : TextContent) (range : TextRange) : Prop :=
  range.type = .fixedRange ∧ range.startIndex < range.endIndex ∧ range.endIndex ≤ t.chars.length

instance (t : TextContent) (range : TextRange) : Decidable (t.Admits range) :=
  inferInstanceAs (Decidable (_ ∧ _ ∧ _))

/-- What a request makes of the content of a target, where that is known. -/
def exec? (target : Target) (t : TextContent) : Request → Option TextContent
  | .insertText r =>
    if ⟨r.objectId, r.cellLocation⟩ = target ∧ r.insertionIndex = 0 ∧ t.chars = [] then
      some (ofString r.text)
    else none
  | .updateTextStyle r =>
    if ⟨r.objectId, r.cellLocation⟩ = target ∧ t.Admits r.textRange then
      some (t.restyle r.textRange (TextStyle.namesOf r.fields) r.style)
    else none
  | .createParagraphBullets r =>
    if ⟨r.objectId, r.cellLocation⟩ = target ∧ t.Admits r.textRange then
      some (t.itemize r.textRange r.bulletPreset)
    else none
  | _ => none

/-- Requests are carried out one after the other, each where something holds of it. -/
inductive Steps (target : Target) (P : TextContent → Request → Prop) :
    TextContent → List Request → TextContent → Prop
  | nil (t : TextContent) : Steps target P t [] t
  | cons {t t' t'' : TextContent} {r : Request} {rs : List Request}
      (here : P t r) (step : t.exec? target r = some t') (rest : Steps target P t' rs t'') :
      Steps target P t (r :: rs) t''

end TextContent

/-! ### Offsets -/

section Spans

variable {α β : Type} {length : α → Nat}

theorem spans_append (offset : Nat) (as bs : List α) :
    spans length offset (as ++ bs) =
      spans length offset as ++ spans length (offset + (as.map length).sum) bs := by
  induction as generalizing offset with
  | nil => rfl
  | cons a as ih => simp [spans, ih, Nat.add_assoc]

theorem spans_map (f : β → α) (offset : Nat) (bs : List β) :
    spans length offset (bs.map f) =
      (spans (fun b => length (f b)) offset bs).map fun s => (s.1, f s.2) := by
  induction bs generalizing offset with
  | nil => rfl
  | cons b bs ih => simp [spans, ih]

theorem map_snd_spans (length : α → Nat) (offset : Nat) (as : List α) :
    (spans length offset as).map Prod.snd = as := by
  induction as generalizing offset with
  | nil => rfl
  | cons a as ih => simp [spans, ih]

/-- A piece of a text lies within it. -/
theorem bounds_of_mem_spans {offset : Nat} {as : List α} {s : Nat × α}
    (h : s ∈ spans length offset as) :
    offset ≤ s.1 ∧ s.1 + length s.2 ≤ offset + (as.map length).sum := by
  induction as generalizing offset with
  | nil => cases h
  | cons a as ih =>
      rw [List.map_cons, List.sum_cons]
      rcases List.mem_cons.mp h with rfl | h
      · exact ⟨Nat.le_refl _, by simp only; omega⟩
      · have hrest := ih h
        omega

end Spans

namespace TextContent

variable {target : Target} {P : TextContent → Request → Prop} {t t' t'' : TextContent}
  {rs rs' : List Request}

/-! ### Carrying out requests -/

theorem Steps.append (h : Steps target P t rs t') (h' : Steps target P t' rs' t'') :
    Steps target P t (rs ++ rs') t'' := by
  induction h with
  | nil => exact h'
  | cons here step _ ih => exact .cons here step (ih h')

/-! ### Characters -/

theorem length_chars (p : Paragraph) : p.chars.length = p.length := by
  rw [Paragraph.chars, List.length_map, Paragraph.length]

theorem flatten_lines (cs : List Char) : (lines cs).flatten = cs := List.flatten_splitBy _ cs

theorem map_chars_ofString (text : String) :
    (ofString text).paragraphs.map Paragraph.chars = lines text.toList := by
  rw [ofString, List.map_map]
  refine (List.map_congr_left fun cs _ => ?_).trans (List.map_id _)
  simp [Paragraph.chars, Function.comp_def]

theorem chars_eq_flatten (t : TextContent) :
    t.chars = (t.paragraphs.map Paragraph.chars).flatten := List.flatMap_def

@[simp] theorem chars_ofString (text : String) : (ofString text).chars = text.toList := by
  rw [chars_eq_flatten, map_chars_ofString, flatten_lines]

/-! ### Restyling -/

theorem char_restyle (range : TextRange) (f : TextStyle → TextStyle) (offset : Nat) (g : Glyph) :
    (g.restyle range f offset).char = g.char := by
  unfold Glyph.restyle
  split <;> rfl

theorem chars_restyle (range : TextRange) (f : TextStyle → TextStyle) (offset : Nat)
    (p : Paragraph) : (p.restyle range f offset).chars = p.chars := by
  refine List.ext_getElem? fun i => ?_
  simp only [Paragraph.chars, Paragraph.restyle, List.getElem?_map, List.getElem?_mapIdx,
    Option.map_map, Function.comp_def, char_restyle]

theorem flatMap_glyphs_restyle (range : TextRange) (f : TextStyle → TextStyle) (offset : Nat)
    (ps : List Paragraph) :
    ((spans Paragraph.length offset ps).map fun s => s.2.restyle range f s.1).flatMap (·.glyphs) =
      (ps.flatMap (·.glyphs)).mapIdx fun i => Glyph.restyle range f (offset + i) := by
  induction ps generalizing offset with
  | nil => rfl
  | cons p ps ih =>
      rw [spans, List.map_cons, List.flatMap_cons, List.flatMap_cons, List.mapIdx_append, ih]
      simp only [Paragraph.restyle, Paragraph.length, Nat.add_assoc, Nat.add_comm p.glyphs.length]

theorem glyphs_restyle (range : TextRange) (names : List String) (style : TextStyle)
    (t : TextContent) :
    (t.restyle range names style).glyphs =
      t.glyphs.mapIdx (Glyph.restyle range (TextStyle.overwrite names style)) := by
  refine (flatMap_glyphs_restyle range _ 0 t.paragraphs).trans ?_
  simp only [Nat.zero_add, glyphs]

/-- Restyling leaves the characters and the bullets of every paragraph as they are. -/
theorem paragraphs_restyle (range : TextRange) (names : List String) (style : TextStyle)
    (t : TextContent) :
    (t.restyle range names style).paragraphs.map (fun p => (p.chars, p.bullet)) =
      t.paragraphs.map fun p => (p.chars, p.bullet) := by
  show ((spans Paragraph.length 0 t.paragraphs).map _).map _ = _
  conv_rhs => rw [← map_snd_spans Paragraph.length 0 t.paragraphs]
  rw [List.map_map, List.map_map]
  refine List.map_congr_left fun s _ => ?_
  show ((s.2.restyle range _ s.1).chars, s.2.bullet) = _
  rw [chars_restyle]
  rfl

end TextContent

end Server

/-! ### Masks -/

namespace TextStyle

/-- A style laid over another one, which shows where the upper one sets nothing. -/
def onto (upper lower : TextStyle) : TextStyle where
  backgroundColor := upper.backgroundColor.or lower.backgroundColor
  baselineOffset := upper.baselineOffset.or lower.baselineOffset
  bold := upper.bold.or lower.bold
  fontFamily := upper.fontFamily.or lower.fontFamily
  fontSize := upper.fontSize.or lower.fontSize
  foregroundColor := upper.foregroundColor.or lower.foregroundColor
  italic := upper.italic.or lower.italic
  link := upper.link.or lower.link
  smallCaps := upper.smallCaps.or lower.smallCaps
  strikethrough := upper.strikethrough.or lower.strikethrough
  underline := upper.underline.or lower.underline

theorem mem_names_optionalField {α : Type} {n name : String} {f : α → Json} {o : Option α} :
    n ∈ (Json.optionalField name f o).map (·.1) ↔ n = name ∧ o.isSome := by
  cases o <;> simp [Json.optionalField]

/-- The mask of a style names exactly the attributes that it sets. -/
theorem mem_fieldMask {s : TextStyle} {n : String} :
    n ∈ s.fieldMask ↔
      n = "backgroundColor" ∧ s.backgroundColor.isSome ∨
      n = "baselineOffset" ∧ s.baselineOffset.isSome ∨
      n = "bold" ∧ s.bold.isSome ∨
      n = "fontFamily" ∧ s.fontFamily.isSome ∨
      n = "fontSize" ∧ s.fontSize.isSome ∨
      n = "foregroundColor" ∧ s.foregroundColor.isSome ∨
      n = "italic" ∧ s.italic.isSome ∨
      n = "link" ∧ s.link.isSome ∨
      n = "smallCaps" ∧ s.smallCaps.isSome ∨
      n = "strikethrough" ∧ s.strikethrough.isSome ∨
      n = "underline" ∧ s.underline.isSome := by
  simp only [fieldMask, fields, List.map_append, List.mem_append, mem_names_optionalField,
    or_assoc]

theorem ite_isSome {α : Type} (o o' : Option α) : (if o.isSome then o else o') = o.or o' := by
  cases o <;> rfl

/-- Overwriting the attributes in the mask of a style lays the style over the old one. -/
theorem overwrite_fieldMask (new old : TextStyle) :
    overwrite new.fieldMask new old = new.onto old := by
  simp [overwrite, onto, mem_fieldMask, ite_isSome]

theorem optionalField_eq_nil {α : Type} {name : String} {f : α → Json} {o : Option α} :
    Json.optionalField name f o = [] ↔ o = none := by
  cases o <;> simp [Json.optionalField]

theorem fieldMask_ne_nil {s : TextStyle} (h : s.isEmpty = false) : s.fieldMask ≠ [] := by
  intro hnil
  simp only [fieldMask, fields, List.map_eq_nil_iff, List.append_eq_nil_iff,
    optionalField_eq_nil] at hnil
  have hempty : s = empty := by
    cases s
    simp_all only [empty]
  rw [hempty] at h
  cases h

theorem namesOf_maskText {names : List String} (hne : names ≠ [])
    (hcomma : ∀ n ∈ names, ',' ∉ n.toList) : namesOf (Plan.maskText names) = names := by
  have hchars : (Plan.maskText names).toList = [','].intercalate (names.map String.toList) :=
    String.toList_intercalate
  rw [namesOf, hchars, List.splitOn_intercalate]
  · simp [Function.comp_def]
  · simpa using hcomma
  · simpa using hne

theorem comma_notMem_fieldMask {s : TextStyle} {n : String} (h : n ∈ s.fieldMask) :
    ',' ∉ n.toList := by
  rcases mem_fieldMask.mp h with h | h | h | h | h | h | h | h | h | h | h <;> rw [h.1] <;> decide

theorem namesOf_maskText_fieldMask {s : TextStyle} (h : s.isEmpty = false) :
    namesOf (Plan.maskText s.fieldMask) = s.fieldMask :=
  namesOf_maskText (fieldMask_ne_nil h) fun _ => comma_notMem_fieldMask

end TextStyle

/-! ### The requests of runs -/

namespace Server.TextContent

variable {target : Target} {P : TextContent → Request → Prop}

/-- The request that gives a run its style. -/
def styleUpdate (target : Target) (r : StyleRun) : UpdateTextStyle where
  objectId := target.objectId
  cellLocation := target.cell
  style := r.style
  textRange := TextRange.fixed r.start r.stop
  fields := Plan.maskText r.style.fieldMask

theorem styleRequest?_eq {r : StyleRun} (h : r.style.isEmpty = false) :
    Plan.styleRequest? target.objectId target.cell r =
      some (.updateTextStyle (styleUpdate target r)) := by
  have hmask : r.style.fieldMask.isEmpty = false :=
    Bool.eq_false_iff.mpr fun hnil => TextStyle.fieldMask_ne_nil h (List.isEmpty_iff.mp hnil)
  rw [Plan.styleRequest?, hmask]
  rfl

/-- A content with a run laid over it. -/
def dress (t : TextContent) (r : StyleRun) : TextContent :=
  t.restyle (TextRange.fixed r.start r.stop) r.style.fieldMask r.style

theorem chars_of_paragraphs_eq {t t' : TextContent}
    (h : t.paragraphs.map (fun p => (p.chars, p.bullet)) =
      t'.paragraphs.map fun p => (p.chars, p.bullet)) : t.chars = t'.chars := by
  have hchars := congrArg (List.map Prod.fst) h
  rw [List.map_map, List.map_map] at hchars
  rw [chars_eq_flatten, chars_eq_flatten]
  exact congrArg List.flatten hchars

theorem chars_dress (t : TextContent) (r : StyleRun) : (t.dress r).chars = t.chars :=
  chars_of_paragraphs_eq (paragraphs_restyle _ _ _ t)

theorem paragraphs_foldl_dress (runs : List StyleRun) (t : TextContent) :
    (runs.foldl dress t).paragraphs.map (fun p => (p.chars, p.bullet)) =
      t.paragraphs.map fun p => (p.chars, p.bullet) := by
  induction runs generalizing t with
  | nil => rfl
  | cons r runs ih => exact (ih (t.dress r)).trans (paragraphs_restyle _ _ _ t)

/-- The requests of some runs lay them over the text one after the other. -/
theorem steps_styleRequests (target : Target) {runs : List StyleRun} {t : TextContent}
    (hruns : ∀ r ∈ runs, r.start < r.stop ∧ r.stop ≤ t.chars.length ∧ r.style.isEmpty = false)
    (hP : ∀ r ∈ runs, ∀ t' : TextContent, t'.chars = t.chars →
      P t' (.updateTextStyle (styleUpdate target r))) :
    Steps target P t (runs.filterMap (Plan.styleRequest? target.objectId target.cell))
      (runs.foldl dress t) := by
  induction runs generalizing t with
  | nil => exact .nil t
  | cons r runs ih =>
      obtain ⟨hlt, hle, hset⟩ := hruns r (List.mem_cons_self ..)
      have hstep : t.exec? target (.updateTextStyle (styleUpdate target r)) = some (t.dress r) := by
        simp only [exec?]
        rw [if_pos ⟨rfl, rfl, hlt, hle⟩]
        simp only [styleUpdate, TextStyle.namesOf_maskText_fieldMask hset, dress]
      rw [List.filterMap_cons, styleRequest?_eq hset]
      refine .cons (hP r (List.mem_cons_self ..) t rfl) hstep (ih ?_ ?_)
      · intro r' hr'
        rw [chars_dress]
        exact hruns r' (List.mem_cons_of_mem _ hr')
      · intro r' hr' t' ht'
        rw [chars_dress] at ht'
        exact hP r' (List.mem_cons_of_mem _ hr') t' ht'

end Server.TextContent

end SlideDeck

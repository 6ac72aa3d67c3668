/-
Which of the styles around a character is seen.

The updates of a block are carried out in the order of its runs, and each overwrites what it sets.
The runs of nested styles are recorded from the inside out, so the outer ones come later and lie on
top: of those that set an attribute the outermost one is seen.  Where no two of them disagree that
is also what the innermost one says.
-/
import SlideDeck.Proofs.Draft.Order
import SlideDeck.Proofs.Server.TextContent

namespace SlideDeck

open Server

/-! ### Styles that lie on each other -/

namespace TextStyle

/-- What is seen of styles that lie on each other, the top one first: each attribute is that of
the first style that sets it. -/
def layered (styles : List TextStyle) : TextStyle where
  backgroundColor := styles.findSome? (·.backgroundColor)
  baselineOffset := styles.findSome? (·.baselineOffset)
  bold := styles.findSome? (·.bold)
  fontFamily := styles.findSome? (·.fontFamily)
  fontSize := styles.findSome? (·.fontSize)
  foregroundColor := styles.findSome? (·.foregroundColor)
  italic := styles.findSome? (·.italic)
  link := styles.findSome? (·.link)
  smallCaps := styles.findSome? (·.smallCaps)
  strikethrough := styles.findSome? (·.strikethrough)
  underline := styles.findSome? (·.underline)

/-- Two styles set no attribute differently, so it does not matter which one lies on top. -/
def Agree (s s' : TextStyle) : Prop := s.onto s' = s'.onto s

instance : Std.Symm Agree := ⟨fun _ _ h => h.symm⟩

theorem onto_assoc (s s' s'' : TextStyle) : (s.onto s').onto s'' = s.onto (s'.onto s'') := by
  simp only [onto, Option.or_assoc]

theorem findSome?_cons_eq_or {α β : Type} (f : α → Option β) (a : α) (as : List α) :
    (a :: as).findSome? f = (f a).or (as.findSome? f) := by
  rw [List.findSome?_cons]
  cases f a <;> rfl

theorem layered_cons (s : TextStyle) (styles : List TextStyle) :
    layered (s :: styles) = s.onto (layered styles) := by
  simp only [layered, onto, findSome?_cons_eq_or]

theorem layered_eq_foldr (styles : List TextStyle) : layered styles = styles.foldr onto {} := by
  induction styles with
  | nil => rfl
  | cons s styles ih => rw [layered_cons, ih, List.foldr_cons]

/-- Styles that are laid on each other one after the other: the last one lies on top. -/
theorem foldl_onto (styles : List TextStyle) :
    styles.foldl (fun lower upper => onto upper lower) {} = layered styles.reverse := by
  rw [layered_eq_foldr, List.foldr_reverse]

/-- Styles that agree look the same in any order. -/
theorem layered_reverse {styles : List TextStyle} (h : styles.Pairwise Agree) :
    layered styles.reverse = layered styles := by
  rw [layered_eq_foldr, layered_eq_foldr]
  refine (List.reverse_perm styles).foldr_eq' (fun s hs s' hs' lower => ?_) empty
  have hrefl : ∀ s ∈ styles, Agree s s := fun _ _ => rfl
  have hagree : Agree s' s :=
    h.forall_of_forall hrefl (List.mem_reverse.mp hs') (List.mem_reverse.mp hs)
  rw [← onto_assoc, hagree, onto_assoc]

end TextStyle

/-! ### Updates -/

namespace Server.TextContent

variable {target : Target}

theorem Steps.foldlM {P : TextContent → Request → Prop} {t t' : TextContent} {rs : List Request}
    (h : Steps target P t rs t') : rs.foldlM (exec? target) t = some t' := by
  induction h with
  | nil => rfl
  | cons _ step _ ih => rw [List.foldlM_cons, step]; exact ih

/-- A run lies on the characters that it covers. -/
theorem restyle_eq (r : StyleRun) (i : Nat) (g : Glyph) :
    g.restyle (TextRange.fixed r.start r.stop) (TextStyle.overwrite r.style.fieldMask r.style) i =
      ⟨g.char, ((r.styleAt i).map (·.onto g.style)).getD g.style⟩ := by
  unfold Glyph.restyle StyleRun.styleAt
  show (if r.start ≤ i ∧ i < r.stop then _ else _) = _
  by_cases hcover : r.start ≤ i ∧ i < r.stop
  · rw [if_pos hcover, if_pos hcover, TextStyle.overwrite_fieldMask]
    rfl
  · rw [if_neg hcover, if_neg hcover]
    rfl

/-- The runs that cover a character lie on it in their order. -/
theorem getElem?_glyphs_foldl_dress (runs : List StyleRun) (t : TextContent) (i : Nat) :
    (runs.foldl dress t).glyphs[i]? = t.glyphs[i]?.map fun g =>
      ⟨g.char, (runs.filterMap (·.styleAt i)).foldl (fun lower upper => upper.onto lower)
        g.style⟩ := by
  induction runs generalizing t with
  | nil => exact Option.map_id'.symm
  | cons r runs ih =>
      rw [List.foldl_cons, ih, dress, glyphs_restyle, List.getElem?_mapIdx, Option.map_map]
      refine congrArg (fun f => Option.map f t.glyphs[i]?) (funext fun g => ?_)
      rw [Function.comp_apply, restyle_eq, List.filterMap_cons]
      cases r.styleAt i <;> rfl

theorem glyphs_ofString (text : String) :
    (ofString text).glyphs = text.toList.map fun c => ⟨c, {}⟩ := by
  conv_rhs => rw [← flatten_lines text.toList, List.map_flatten]
  rw [glyphs, ofString, List.flatMap_map, List.flatMap_def]

end Server.TextContent

/-! ### Blocks -/

/-- The updates among some requests. -/
def Request.isStyleUpdate : Request → Bool
  | .updateTextStyle _ => true
  | _ => false

/-- The updates of a block, carried out in order on its plain text, give every character a style
that is in a relation with the styles around it, innermost first. -/
def TextBlock.DressedAs (look : List TextStyle → TextStyle → Prop) (b : TextBlock) (s : Sheet) :
    Prop :=
  ∀ target : Target, ∃ t : TextContent,
    ((Plan.textRequests target.objectId target.cell b).filter Request.isStyleUpdate).foldlM
        (TextContent.exec? target) (TextContent.ofString b.rawText) = some t ∧
      ∀ i, i < b.length → ∃ l style, s.letters[i]? = some l ∧
        t.glyphs[i]? = some ⟨l.char, style⟩ ∧ look l.styles style

/-- Each attribute is that of the innermost style that sets it. -/
def TextStyle.InnermostSeen (styles : List TextStyle) (style : TextStyle) : Prop :=
  style = layered styles

/-- Each attribute is that of the outermost style that sets it, which is that of the innermost one
as well if no two styles set it differently. -/
def TextStyle.OutermostSeen (styles : List TextStyle) (style : TextStyle) : Prop :=
  style = layered styles.reverse ∧ (styles.Pairwise Agree → InnermostSeen styles style)

namespace TextBlock

variable {b : TextBlock} {s : Sheet}

theorem filter_textRequests (hsealed : b.Sealed) (target : Target) :
    (Plan.textRequests target.objectId target.cell b).filter Request.isStyleUpdate =
      b.runs.filterMap (Plan.styleRequest? target.objectId target.cell) := by
  have hstyles : ∀ r ∈ b.runs.filterMap (Plan.styleRequest? target.objectId target.cell),
      r.isStyleUpdate = true := by
    intro r hr
    obtain ⟨run, hrun, hrequest⟩ := List.mem_filterMap.mp hr
    rw [TextContent.styleRequest?_eq (hsealed.runs run hrun).2.2] at hrequest
    rw [← Option.some.inj hrequest]
    rfl
  have hbullets : ∀ r ∈ (Plan.markersFromEnd b.listMarkers).map
      (Plan.bulletRequest target.objectId target.cell), ¬r.isStyleUpdate = true := by
    intro r hr
    obtain ⟨m, -, rfl⟩ := List.mem_map.mp hr
    exact Bool.false_ne_true
  unfold Plan.textRequests
  split
  · rename_i hempty
    have hlength : b.length = 0 := by
      rw [TextBlock.length, String.isEmpty_iff.mp hempty]
      rfl
    have hruns : b.runs = [] := by
      refine List.eq_nil_iff_forall_not_mem.mpr fun r hr => ?_
      have hin := hsealed.runs r hr
      omega
    rw [hruns]
    rfl
  · rw [List.filter_append, List.filter_cons_of_neg Bool.false_ne_true,
      List.filter_eq_self.mpr hstyles, List.filter_eq_nil_iff.mpr hbullets, List.append_nil]

/-- The runs of nested styles are laid on from the inside out. -/
theorem InOrder.dressedAs (h : b.InOrder s) : b.DressedAs TextStyle.OutermostSeen s := by
  intro target
  have hruns : ∀ r ∈ b.runs, r.start < r.stop ∧
      r.stop ≤ (TextContent.ofString b.rawText).chars.length ∧ r.style.isEmpty = false := by
    rw [TextContent.chars_ofString]
    exact h.sound.runs
  have hsteps := TextContent.steps_styleRequests target (P := fun _ _ => True) hruns
    fun _ _ _ _ => trivial
  refine ⟨_, by rw [filter_textRequests h.sound]; exact hsteps.foldlM, fun i hi => ?_⟩
  obtain ⟨l, hl, hchar⟩ := h.renders.letter hi
  refine ⟨l, TextStyle.layered l.styles.reverse, hl, ?_, rfl, TextStyle.layered_reverse⟩
  have hstyles : b.runs.filterMap (·.styleAt i) = l.styles := h.ordered i l hi hl
  rw [TextContent.getElem?_glyphs_foldl_dress, TextContent.glyphs_ofString, List.getElem?_map,
    hchar, hstyles]
  exact congrArg (fun style => some (Glyph.mk l.char style)) (TextStyle.foldl_onto l.styles)

/-- The updates give a character one style, of which all holds that is known of it. -/
theorem DressedAs.both {look look' : List TextStyle → TextStyle → Prop} (h : b.DressedAs look s)
    (h' : b.DressedAs look' s) {i : Nat} (hi : i < b.length) :
    ∃ l style, s.letters[i]? = some l ∧ look l.styles style ∧ look' l.styles style := by
  obtain ⟨t, hrun, hseen⟩ := h ⟨"", none⟩
  obtain ⟨t', hrun', hseen'⟩ := h' ⟨"", none⟩
  obtain rfl : t = t' := Option.some.inj (hrun.symm.trans hrun')
  obtain ⟨l, style, hl, hglyph, hlook⟩ := hseen i hi
  obtain ⟨l', style', hl', hglyph', hlook'⟩ := hseen' i hi
  obtain rfl : l = l' := Option.some.inj (hl.symm.trans hl')
  obtain rfl : style = style' :=
    congrArg Glyph.style (Option.some.inj (hglyph.symm.trans hglyph'))
  exact ⟨l, style, hl, hlook, hlook'⟩

end TextBlock

/--
**The outermost style is seen.**  If a document with nested styles compiles, carrying out the
updates of any block in order on its plain text gives every character, for each attribute, the
value of the outermost style around it that sets the attribute.  If no two styles around the
character set an attribute differently, that is also the value of the innermost one.
-/
theorem dressedAs_compileTokens {ps : List Piece} {slides : List Slide}
    (h : (compileTokens (ps.flatMap Piece.tokens)).outcome = .ok slides)
    (hnest : Piece.nested ps = true) :
    Shown (TextBlock.DressedAs TextStyle.OutermostSeen) slides (manuscripts ps) :=
  (inOrder_compileTokens h hnest).imp fun _ _ horder => horder.dressedAs

/-- A subscript in a superscript. -/
def subInSup : List Piece :=
  [.paragraph .empty (runningText [.htmlInline "<sup>", .text "a", .htmlInline "<sub>",
    .emphasisOpen, .text "b", .emphasisClose, .htmlInline "</sub>", .htmlInline "</sup>"])]

theorem dressedAs_subInSup :
    ∃ slides, (compileTokens (subInSup.flatMap Piece.tokens)).outcome = .ok slides ∧
      Piece.nested subInSup = true ∧
      Shown (TextBlock.DressedAs TextStyle.OutermostSeen) slides (manuscripts subInSup) :=
  ⟨_, rfl, rfl, dressedAs_compileTokens rfl rfl⟩

/-- A subscript in a superscript is not one. -/
theorem subInSup_not_innermostSeen :
    ∃ slides, (compileTokens (subInSup.flatMap Piece.tokens)).outcome = .ok slides ∧
      Piece.nested subInSup = true ∧
      ¬Shown (TextBlock.DressedAs TextStyle.InnermostSeen) slides (manuscripts subInSup) := by
  have hcompiles : (compileTokens (subInSup.flatMap Piece.tokens)).outcome = .ok _ := rfl
  have hshown := inOrder_compileTokens hcompiles rfl
  refine ⟨_, hcompiles, rfl, fun h => ?_⟩
  cases h with
  | cons hslide _ =>
      cases hshown with
      | cons horder _ =>
          cases hslide.bodies with
          | cons hbody _ =>
              cases horder.bodies with
              | cons hbodyOrder _ =>
                  obtain ⟨l, style, hl, hinner, houter, -⟩ :=
                    hbody.both hbodyOrder.dressedAs (by decide : 1 < _)
                  have hconflict :
                      TextStyle.layered l.styles = TextStyle.layered l.styles.reverse :=
                    Eq.trans (Eq.symm hinner) houter
                  cases hl
                  exact absurd hconflict (by decide)

end SlideDeck

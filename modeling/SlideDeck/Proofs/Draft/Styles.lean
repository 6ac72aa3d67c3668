/-
Runs record the styles that were open.

A style is open in its block from where it is opened to where it is closed, or to the end of
the block, and the runs of a block say exactly that about each of its characters, in every
title, subtitle, body and cell.  Headings and tables that interrupt a block do not show in it,
HTML tags need not be paired, and a tag that is left open styles nothing outside its block.
-/
import SlideDeck.Proofs.Draft.Script

namespace SlideDeck

/-- The runs that cover a character of a block have the styles of its letter, as often as they
were open. -/
def TextBlock.StyledAs (b : TextBlock) (s : Sheet) : Prop :=
  ∀ i, i < b.length → ∃ l, s.letters[i]? = some l ∧ b.rawText.toList[i]? = some l.char ∧
    (b.stylesAt i).Perm l.styles

theorem TextBlock.Renders.styledAs {b : TextBlock} {s : Sheet} (h : b.Renders s) :
    b.StyledAs s := by
  intro i hi
  obtain ⟨l, hl, hchar⟩ := h.letter hi
  exact ⟨l, hl, hchar, h.styled i l hi hl⟩

/--
**Runs record exactly which styles were open.**  If a document with properly nested tokens
compiles, every block of its slides gives every character the styles that set something and
were open on that block when the character was written, each as often as it was open.
-/
theorem stylesAt_compileTokens {ps : List Piece} {slides : List Slide}
    (h : (compileTokens (ps.flatMap Piece.tokens)).outcome = .ok slides) :
    Shown TextBlock.StyledAs slides (manuscripts ps) :=
  (shown_compileTokens h).imp fun _ _ hrenders => hrenders.styledAs

/-- An element that overlaps with emphasis, after one in a title that is left open, and code in the
paragraph and under it. -/
def overlapping : List Piece :=
  [.heading 1 Nat.one_pos .empty (runningText [.htmlInline "<sup>", .text "T"]),
    .paragraph .empty (runningText [.emphasisOpen, .text "a", .htmlInline "<sup>", .text "b",
      .emphasisClose, .inlineCode "c", .htmlInline "</sup>", .text "d"]),
    .code "" "e\n"]

theorem stylesAt_overlapping :
    ∃ slides, (compileTokens (overlapping.flatMap Piece.tokens)).outcome = .ok slides ∧
      Shown TextBlock.StyledAs slides (manuscripts overlapping) ∧
      slides.map (fun s => s.bodies.map fun b =>
          (b.text.rawText, (List.range 6).map (b.text.stylesAt ·))) =
        [[("abcd\ne",
          [[{ italic := some true }],
            [{ italic := some true }, { baselineOffset := some .superscript }],
            [{ fontFamily := some "Courier New" }, { baselineOffset := some .superscript }],
            [],
            [],
            [{ fontFamily := some "Courier New" }]])]] :=
  ⟨_, rfl, stylesAt_compileTokens rfl, rfl⟩

end SlideDeck

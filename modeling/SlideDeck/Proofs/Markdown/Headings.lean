/-
The source of a heading of the second level.

A heading with number signs is one line.  Any other one has a line of hyphens under its text, which
a parser of documents takes for an underline.  In front of the hyphens stand the marks of the
containers around the heading, from the outermost to the innermost: a quote marks each of its lines,
and an item indents them.  No line of hyphens can do without one of these marks, so there is the
mark of a quote in front of them exactly if the heading stands in a quote.
-/
import SlideDeck.Proofs.Markdown.Nesting
import SlideDeck.Text.Blank

namespace SlideDeck.Markdown

/-- What ends a line. -/
def lineEnds : List (List Char) := [['\n'], ['\r', '\n'], ['\r']]

theorem isBlank_of_mem_lineEnds {lineEnd : List Char} (h : lineEnd ∈ lineEnds) :
    ∀ c ∈ lineEnd, Text.isBlank c = true := by
  simp only [lineEnds, List.mem_cons, List.not_mem_nil, or_false] at h
  rcases h with rfl | rfl | rfl
  · exact List.forall_mem_singleton.mpr rfl
  · exact List.forall_mem_cons.mpr ⟨rfl, List.forall_mem_singleton.mpr rfl⟩
  · exact List.forall_mem_singleton.mpr rfl

/-- The source of a heading with number signs. -/
structure NumberSigned where
  line : List Char
  /-- The end of the line, unless the document ends there. -/
  lineEnd : List Char
  sign : '#' ∈ line
  one_line : '\n' ∉ line
  lineEnd_mem : lineEnd ∈ [] :: lineEnds

/-- The whole source. -/
def NumberSigned.source (n : NumberSigned) : List Char := n.line ++ n.lineEnd

/-- What stands in front of the text of a line in some containers, of which the innermost is given
first. -/
inductive Led : List Tag → List Char → Prop
  | indent {blanks : List Char} (hblanks : ∀ c ∈ blanks, c ∈ [' ', '\t']) : Led [] blanks
  | quote {tags : List Tag} {lead blanks : List Char} (h : Led tags lead)
    (hblanks : ∀ c ∈ blanks, c ∈ [' ', '\t']) : Led (.quote :: tags) (lead ++ '>' :: blanks)
  | other {tag : Tag} {tags : List Tag} {lead blanks : List Char} (htag : tag ≠ .quote)
    (h : Led tags lead) (hblanks : ∀ c ∈ blanks, c ∈ [' ', '\t']) :
    Led (tag :: tags) (lead ++ blanks)

namespace Led

variable {tags : List Tag} {lead : List Char}

theorem chars (h : Led tags lead) : ∀ c ∈ lead, c ∈ [' ', '\t', '>'] := by
  have hblank {blanks : List Char} (hblanks : ∀ c ∈ blanks, c ∈ [' ', '\t']) :
      ∀ c ∈ blanks, c ∈ [' ', '\t', '>'] := fun c hc =>
    List.mem_append_left ['>'] (hblanks c hc)
  induction h with
  | indent hblanks => exact hblank hblanks
  | quote _ hblanks ih =>
      rw [List.forall_mem_append, List.forall_mem_cons]
      exact ⟨ih, by simp, hblank hblanks⟩
  | other _ _ hblanks ih =>
      rw [List.forall_mem_append]
      exact ⟨ih, hblank hblanks⟩

/-- The mark of a quote stands there exactly in quotes. -/
theorem mem_iff (h : Led tags lead) : '>' ∈ lead ↔ .quote ∈ tags := by
  have hblank {blanks : List Char} (hblanks : ∀ c ∈ blanks, c ∈ [' ', '\t']) : '>' ∉ blanks :=
    fun hmem => absurd (hblanks _ hmem) (by simp)
  induction h with
  | indent hblanks => exact iff_of_false (hblank hblanks) List.not_mem_nil
  | quote _ _ _ => exact iff_of_true (by simp) (by simp)
  | other htag _ hblanks ih =>
      rw [List.mem_append, or_iff_left (hblank hblanks), List.mem_cons, or_iff_right htag.symm]
      exact ih

end Led

/-- The source of a heading with a line of hyphens under it, in some containers. -/
structure Underlined (tags : List Tag) where
  /-- The lines of the heading. -/
  body : List Char
  /-- The end of the last of them. -/
  lineEnd : List Char
  /-- What stands in front of the hyphens on their line. -/
  lead : List Char
  hyphens : Nat
  /-- What stands behind the hyphens. -/
  trail : List Char
  lineEnd_mem : lineEnd ∈ lineEnds
  led : Led tags lead
  hyphens_pos : 0 < hyphens
  trail_blank : ∀ c ∈ trail, c ∈ [' ', '\t', '\r', '\n']

namespace Underlined

variable {tags : List Tag}

/-- The whole source. -/
def source (u : Underlined tags) : List Char :=
  u.body ++ u.lineEnd ++ u.lead ++ List.replicate u.hyphens '-' ++ u.trail

/-- The hyphens are all that the line with them has, as far as lines end in a line feed: no mark of
a quote stands in front of them, and no text that only a carriage return parts from them. -/
def StandsAlone (u : Underlined tags) : Prop :=
  .quote ∉ tags ∧ (u.lineEnd = ['\r'] →
    ∀ line, line <:+ u.body → '\n' ∉ line → ∀ c ∈ line, Text.isBlank c = true)

end Underlined

end SlideDeck.Markdown

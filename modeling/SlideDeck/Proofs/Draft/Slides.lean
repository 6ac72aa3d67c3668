/-
Slide by slide.

What is known of a draft between two pieces may depend on the pieces of the slide that is being
written, and no others.  If every piece keeps this up, a rule begins it anew, and it says what is
to be said of the slide when it is complete, then that holds of every slide of a document and the
pieces it is made of.
-/
import SlideDeck.Proofs.Draft.Words

namespace SlideDeck

theorem Piece.slides_cons {p : Piece} (hp : p ≠ .rule) (ps : List Piece) :
    slides (p :: ps) = (p :: ps).splitOnP isRule := by
  cases p with
  | rule => exact absurd rfl hp
  | _ => rfl

namespace Draft

variable {Has : List Piece → Draft → Prop} {Shows : Slide → List Piece → Prop} {d d' : Draft}

/-- What a draft has between two pieces, by the pieces of the slide that is being written, and
what the slide shows of them when it is complete. -/
structure Tracks (Has : List Piece → Draft → Prop) (Shows : Slide → List Piece → Prop) :
    Prop where
  empty : Has [] (empty .document)
  mode : ∀ {first d}, Has first d → d.mode = .document
  started : ∀ {first d}, Has first d → Has first { d with started := true }
  piece : ∀ {first d d' p}, Has first d → p ≠ .rule →
    (d.run addNotes p.tokens).outcome = .ok d' → Has (first ++ [p]) d'
  ruled : ∀ {first d}, Has first d → Has [] d.ruled
  complete : ∀ {first d}, Has first d → Shows d.sealedSlide first

/-- Two things that are known of a draft are known together. -/
theorem Tracks.and {Has' : List Piece → Draft → Prop} {Shows' : Slide → List Piece → Prop}
    (h : Tracks Has Shows) (h' : Tracks Has' Shows') :
    Tracks (fun ps d => Has ps d ∧ Has' ps d) (fun slide ps => Shows slide ps ∧ Shows' slide ps)
    where
  empty := ⟨h.empty, h'.empty⟩
  mode := fun hd => h.mode hd.1
  started := fun hd => ⟨h.started hd.1, h'.started hd.2⟩
  piece := fun hd hp hrun => ⟨h.piece hd.1 hp hrun, h'.piece hd.2 hp hrun⟩
  ruled := fun hd => ⟨h.ruled hd.1, h'.ruled hd.2⟩
  complete := fun hd => ⟨h.complete hd.1, h'.complete hd.2⟩

/-- The induction is on the pieces that are left, with those of the slide that is begun as what
the draft has. -/
theorem Tracks.run (h : Tracks Has Shows) {first ps : List Piece} {done : List (List Piece)}
    (hfirst : Has first d) (hstarted : d.started = true) (hdone : List.Forall₂ Shows d.slides done)
    (hrun : (d.run addNotes (ps.flatMap Piece.tokens)).outcome = .ok d') :
    List.Forall₂ Shows (d'.slides ++ [d'.sealedSlide])
      (done ++ (ps.splitOnP Piece.isRule).modifyHead (first ++ ·)) := by
  induction ps generalizing d first done with
  | nil =>
      obtain rfl := Logged.pure_ok_iff.mp hrun
      rw [List.splitOnP_nil, List.modifyHead_cons, List.append_nil]
      exact List.rel_append hdone (.cons (h.complete hfirst) .nil)
  | cons p ps ih =>
      rw [List.flatMap_cons, run_append] at hrun
      obtain ⟨d₁, hpiece, hrest⟩ := Logged.bind_ok_iff.mp hrun
      by_cases hp : p = .rule
      · subst hp
        obtain ⟨d₂, htake, rfl⟩ := run_single hpiece
        obtain rfl := Except.ok.inj ((outcome_takeRule (h.mode hfirst) hstarted).symm.trans htake)
        have hslides : List.Forall₂ Shows d.ruled.slides (done ++ [first]) :=
          List.rel_append hdone (.cons (h.complete hfirst) .nil)
        have hall := ih (h.started (h.ruled hfirst)) rfl hslides hrest
        rw [show (([] : List Piece) ++ ·) = id from rfl, List.modifyHead_id, List.append_assoc]
          at hall
        rw [Manuscript.splitOnP_rule, List.modifyHead_cons, List.append_nil]
        exact hall
      · have hslides : List.Forall₂ Shows d₁.slides done := by
          rwa [slides_run (h.mode hfirst) (rule_notMem_tokens hp) hpiece]
        have hall := ih (h.piece hfirst hp hpiece) (started_run (Or.inr p.tokens_ne_nil) hpiece)
          hslides hrest
        have hcons : (fun rest => first ++ [p] ++ rest) = (first ++ ·) ∘ (p :: ·) :=
          funext fun rest => List.append_assoc first [p] rest
        rw [hcons] at hall
        rwa [Manuscript.splitOnP_cons hp, List.modifyHead_modifyHead]

/-- Every slide of a document shows its pieces. -/
theorem Tracks.compileTokens (h : Tracks Has Shows) {ps : List Piece} {slides : List Slide}
    (hcompile : (compileTokens (ps.flatMap Piece.tokens)).outcome = .ok slides) :
    List.Forall₂ Shows slides (Piece.slides ps) := by
  obtain ⟨d, hrun, rfl⟩ := compileTokens_ok_iff.mp hcompile
  cases ps with
  | nil =>
      obtain rfl := Logged.pure_ok_iff.mp hrun
      exact .cons (h.complete h.empty) .nil
  | cons p ps =>
      rw [List.flatMap_cons, run_append] at hrun
      obtain ⟨d₁, hpiece, hrest⟩ := Logged.bind_ok_iff.mp hrun
      by_cases hp : p = .rule
      · subst hp
        -- A leading rule only counts as the first thing in the document.
        have hrule : (Draft.empty .document).run addNotes Piece.rule.tokens = pure fresh :=
          (run_cons _ _ _).trans (Logged.pure_bind _ _)
        rw [hrule] at hpiece
        obtain rfl := Logged.pure_ok_iff.mp hpiece
        have hall := h.run (h.started h.empty) rfl .nil hrest
        rwa [show (([] : List Piece) ++ ·) = id from rfl, List.modifyHead_id] at hall
      · have hslides : List.Forall₂ Shows d₁.slides [] := by
          rw [slides_run rfl (rule_notMem_tokens hp) hpiece]
          exact .nil
        have hall := h.run (h.piece h.empty hp hpiece) (started_run (Or.inr p.tokens_ne_nil) hpiece)
          hslides hrest
        rw [Piece.slides_cons hp, Manuscript.splitOnP_cons hp]
        exact hall

end Draft

end SlideDeck

/-
The layout that a slide is created with.

A deck may have several layouts with one name, and layouts without any.  The planner looks names up
in a map, in which a name keeps its first place and has the last id.  Here the same is said of the
layouts themselves: which of them have a name, which one a name stands for, and which one is for a
slide.
-/
import Mathlib.Data.List.Induction
import SlideDeck.Deck.Presentation
import SlideDeck.Layout

namespace SlideDeck.Presentation

/-- The layouts that have a name, with their ids. -/
def namedLayouts (p : Presentation) : List (String × String) :=
  (p.layouts.getD []).filterMap namedLayout?

/-- Whether the deck has a layout with a name. -/
def hasLayout (p : Presentation) (name : String) : Bool := p.namedLayouts.any (·.1 == name)

/-- The id of the last layout with a name. -/
def layoutNamed? (p : Presentation) (name : String) : Option String :=
  (p.namedLayouts.reverse.find? (·.1 == name)).map (·.2)

/-- The name of the layout that a slide is created with: the one that the author asks for, else the
class of the slide if the deck has it, else the first one.  There is none if the author asks for a
layout that the deck does not have, or the deck has no layout with a name. -/
def layoutNameFor? (p : Presentation) (s : Slide) : Option String :=
  match s.customLayout with
  | some custom => if p.hasLayout custom then some custom else none
  | none =>
    if p.hasLayout (Layout.classify s).name then some (Layout.classify s).name
    else p.namedLayouts.head?.map (·.1)

/-- The id of the layout that a slide is created with. -/
def layoutFor? (p : Presentation) (s : Slide) : Option String :=
  (p.layoutNameFor? s).bind p.layoutNamed?

variable {p : Presentation}

theorem find?_putLayout (layouts : List (String × String)) (name id n : String) :
    (putLayout layouts name id).find? (·.1 == n) =
      if name == n then some (name, id) else layouts.find? (·.1 == n) := by
  induction layouts with
  | nil =>
      rw [putLayout, List.find?_cons]
      cases name == n <;> rfl
  | cons l layouts ih =>
      unfold putLayout
      split
      · rename_i hname
        rw [List.find?_cons, List.find?_cons, eq_of_beq hname]
        cases name == n <;> rfl
      · rename_i hname
        rw [List.find?_cons, ih, List.find?_cons]
        by_cases hn : (name == n) = true
        · have hl : (l.1 == n) = false := by
            rw [← eq_of_beq hn]
            exact Bool.eq_false_iff.mpr hname
          rw [if_pos hn, if_pos hn, hl]
        · rw [if_neg hn, if_neg hn]

theorem head?_putLayout (layouts : List (String × String)) (name id : String) :
    (putLayout layouts name id).head?.map (·.1) =
      (layouts.head?.map (·.1)).or (some name) := by
  cases layouts with
  | nil => rfl
  | cons l layouts =>
      unfold putLayout
      split
      · rename_i hname
        exact congrArg some (eq_of_beq hname).symm
      · rfl

/-- Of the layouts with a name the map of the deck has the last. -/
theorem find?_layoutIds (p : Presentation) (n : String) :
    p.layoutIds.find? (·.1 == n) = p.namedLayouts.reverse.find? (·.1 == n) := by
  have hfold : ∀ layouts : List (String × String),
      (layouts.foldl (fun ls l => putLayout ls l.1 l.2) []).find? (·.1 == n) =
        layouts.reverse.find? (·.1 == n) := by
    intro layouts
    induction layouts using List.reverseRecOn with
    | nil => rfl
    | append_singleton layouts l ih =>
        rw [List.foldl_append, List.foldl_cons, List.foldl_nil, find?_putLayout, ih,
          List.reverse_concat, List.find?_cons]
        cases l.1 == n <;> rfl
  exact hfold p.namedLayouts

/-- The map of the deck begins with the name of its first layout. -/
theorem head?_layoutIds (p : Presentation) :
    p.layoutIds.head?.map (·.1) = p.namedLayouts.head?.map (·.1) := by
  have hfold : ∀ layouts : List (String × String),
      (layouts.foldl (fun ls l => putLayout ls l.1 l.2) []).head?.map (·.1) =
        layouts.head?.map (·.1) := by
    intro layouts
    induction layouts using List.reverseRecOn with
    | nil => rfl
    | append_singleton layouts l ih =>
        rw [List.foldl_append, List.foldl_cons, List.foldl_nil, head?_putLayout, ih,
          List.head?_append]
        cases layouts.head? <;> rfl
  exact hfold p.namedLayouts

theorem contains_layoutIds (p : Presentation) (n : String) :
    (p.layoutIds.map (·.1)).contains n = p.hasLayout n := by
  have hmap : (p.layoutIds.map (·.1)).contains n = (p.layoutIds.find? (·.1 == n)).isSome := by
    rw [Bool.eq_iff_iff, List.contains_iff_mem, List.mem_map, List.find?_isSome]
    simp only [beq_iff_eq]
  have hlayouts : p.hasLayout n = (p.namedLayouts.reverse.find? (·.1 == n)).isSome := by
    rw [Bool.eq_iff_iff, hasLayout, List.any_eq_true, List.find?_isSome]
    simp only [List.mem_reverse]
  rw [hmap, hlayouts, find?_layoutIds]

theorem isSome_layoutNamed? (p : Presentation) (n : String) :
    (p.layoutNamed? n).isSome = p.hasLayout n := by
  rw [← contains_layoutIds, layoutNamed?, ← find?_layoutIds, Option.isSome_map, Bool.eq_iff_iff,
    List.contains_iff_mem, List.mem_map, List.find?_isSome]
  simp only [beq_iff_eq]

/-- The first layout is one that the deck has. -/
theorem hasLayout_of_head? {n : String} (h : p.namedLayouts.head?.map (·.1) = some n) :
    p.hasLayout n = true := by
  obtain ⟨l, hl, rfl⟩ := Option.map_eq_some_iff.mp h
  exact List.any_eq_true.mpr ⟨l, List.mem_of_mem_head? hl, beq_self_eq_true l.1⟩

theorem hasLayout_of_layoutNameFor? {s : Slide} {n : String} (h : p.layoutNameFor? s = some n) :
    p.hasLayout n = true := by
  unfold layoutNameFor? at h
  split at h
  · split at h
    · rename_i hhas
      rwa [← Option.some.inj h]
    · cases h
  · split at h
    · rename_i hhas
      rwa [← Option.some.inj h]
    · exact hasLayout_of_head? h

/-- If an author's wish can be met, there is no name only if no layout has one. -/
theorem layoutNameFor?_eq_none {s : Slide}
    (hhas : ∀ custom ∈ s.customLayout, p.hasLayout custom = true)
    (h : p.layoutNameFor? s = none) : s.customLayout = none ∧ p.namedLayouts = [] := by
  unfold layoutNameFor? at h
  cases hcustom : s.customLayout with
  | some custom =>
      rw [hcustom] at h
      simp only [hhas custom hcustom, if_true] at h
      cases h
  | none =>
      rw [hcustom] at h
      simp only at h
      split at h
      · cases h
      · exact ⟨rfl, by simpa using h⟩

end SlideDeck.Presentation

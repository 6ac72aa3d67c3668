/-
The placeholders that the text of a slide goes into.

Placeholders are found by role, and put in the order in which they stand on the page.  An element
has one role at most, so the title, the subtitle and the bodies of a slide go into different ones.
-/
import Mathlib.Data.List.Perm.Subperm
import SlideDeck.Deck.Presentation

namespace SlideDeck

/-- Two parts of a list that have nothing in common are together a part of it. -/
theorem perm_filter_append_filter {α : Type} {q q' : α → Bool}
    (h : ∀ a, q a = true → q' a = false) (as : List α) :
    (as.filter q ++ as.filter q').Perm (as.filter fun a => q a || q' a) := by
  induction as with
  | nil => exact List.Perm.refl _
  | cons a as ih =>
      by_cases hq : q a = true
      · rw [List.filter_cons_of_pos hq, List.filter_cons_of_neg (by simp [h a hq]),
          List.filter_cons_of_pos (by simp [hq]), List.cons_append]
        exact ih.cons a
      · by_cases hq' : q' a = true
        · rw [List.filter_cons_of_neg hq, List.filter_cons_of_pos hq',
            List.filter_cons_of_pos (by simp [hq'])]
          exact List.perm_middle.trans (ih.cons a)
        · rw [List.filter_cons_of_neg hq, List.filter_cons_of_neg hq',
            List.filter_cons_of_neg (by simp [hq, hq'])]
          exact ih

/-- An element has one of some roles. -/
def PageElement.hasRole (roles : List PlaceholderRole) (e : PageElement) : Bool :=
  roles.any fun role => e.role? == some role

theorem PageElement.hasRole_iff {roles : List PlaceholderRole} {e : PageElement} :
    e.hasRole roles = true ↔ ∃ role ∈ roles, e.role? = some role := by
  simp only [hasRole, List.any_eq_true, beq_iff_eq]

namespace Presentation

/-- The elements of a slide. -/
def elementsOf (p : Presentation) (slideId : String) : List PageElement :=
  ((p.findSlide? slideId).map Page.elements).getD []

/-- The ids of the elements of a slide and of the shape for its notes. -/
def elementIds (p : Presentation) (slideId : String) : List String :=
  (p.elementsOf slideId).map (·.objectId) ++ (p.speakerNotesId? slideId).toList

/-- The placeholders of a slide. -/
def placeholders (p : Presentation) (slideId : String) : List PageElement :=
  (p.elementsOf slideId).filter (·.role?.isSome)

/-- The ids of the shapes that take the text of a slide. -/
def textShapes (p : Presentation) (slideId : String) : List String :=
  (p.placeholders slideId).map (·.objectId) ++ (p.speakerNotesId? slideId).toList

variable {p : Presentation} {slideId : String}

theorem textShapes_sublist (p : Presentation) (slideId : String) :
    (p.textShapes slideId).Sublist (p.elementIds slideId) :=
  (List.filter_sublist.map _).append_right _

/-- Placeholders are elements that were put in order. -/
theorem perm_findPlaceholders (p : Presentation) (slideId : String) (role : PlaceholderRole) :
    (p.findPlaceholders slideId role).Perm
      ((p.elementsOf slideId).filter (·.hasRole [role])) := by
  have hrole : (PageElement.hasRole [role]) = fun e => e.role? == some role := by
    funext e
    exact Bool.or_false _
  rw [hrole]
  unfold findPlaceholders elementsOf
  cases p.findSlide? slideId with
  | none => exact List.Perm.refl _
  | some page => exact List.mergeSort_perm _ _

/-- The first element with one of some roles is one of those that have them. -/
theorem subperm_findFirstPlaceholder? (p : Presentation) (slideId : String)
    (roles : List PlaceholderRole) :
    (p.findFirstPlaceholder? slideId roles).toList.Subperm
      ((p.elementsOf slideId).filter (·.hasRole roles)) := by
  cases he : p.findFirstPlaceholder? slideId roles with
  | none => exact List.nil_subperm
  | some e =>
      obtain ⟨role, hrole, hhead⟩ := List.exists_of_findSome?_eq_some he
      obtain ⟨hmem, hhas⟩ := List.mem_filter.mp
        ((p.perm_findPlaceholders slideId role).subset (List.mem_of_mem_head? hhead))
      obtain ⟨role', hrole', heq⟩ := PageElement.hasRole_iff.mp hhas
      obtain rfl := List.mem_singleton.mp hrole'
      exact List.singleton_subperm_iff.mpr
        (List.mem_filter.mpr ⟨hmem, PageElement.hasRole_iff.mpr ⟨role', hrole, heq⟩⟩)

/-- Elements with different roles are different. -/
theorem perm_filter_hasRole (roles roles' : List PlaceholderRole) (h : roles.Disjoint roles')
    (es : List PageElement) :
    (es.filter (·.hasRole roles) ++ es.filter (·.hasRole roles')).Perm
      (es.filter (·.hasRole (roles ++ roles'))) := by
  have hne : ∀ e : PageElement, e.hasRole roles = true → e.hasRole roles' = false := by
    intro e he
    obtain ⟨role, hrole, heq⟩ := PageElement.hasRole_iff.mp he
    refine Bool.eq_false_iff.mpr fun he' => ?_
    obtain ⟨role', hrole', heq'⟩ := PageElement.hasRole_iff.mp he'
    obtain rfl := Option.some.inj (heq.symm.trans heq')
    exact h hrole hrole'
  have happend : PageElement.hasRole (roles ++ roles') = fun e =>
      e.hasRole roles || e.hasRole roles' := by
    funext e
    exact List.any_append
  rw [happend]
  exact perm_filter_append_filter hne es

/-- The title, the subtitle and the bodies of a slide go into different placeholders. -/
theorem subperm_placeholders (p : Presentation) (slideId : String) :
    ((p.findFirstPlaceholder? slideId PlaceholderRole.titles).toList ++
        (p.findFirstPlaceholder? slideId [.subtitle]).toList ++
        p.findPlaceholders slideId .body).Subperm (p.placeholders slideId) := by
  have hparts := ((p.subperm_findFirstPlaceholder? slideId PlaceholderRole.titles).append
    (p.subperm_findFirstPlaceholder? slideId [.subtitle])).append
      (p.perm_findPlaceholders slideId .body).subperm
  have hheads := perm_filter_hasRole PlaceholderRole.titles [.subtitle]
    (by simp [PlaceholderRole.titles]) (p.elementsOf slideId)
  have hroles := (hheads.append_right _).trans
    (perm_filter_hasRole (PlaceholderRole.titles ++ [.subtitle]) [.body]
      (by simp [PlaceholderRole.titles]) (p.elementsOf slideId))
  have hsome : ((p.elementsOf slideId).filter (·.hasRole
      (PlaceholderRole.titles ++ [.subtitle] ++ [.body]))).Sublist (p.placeholders slideId) := by
    refine List.monotone_filter_right _ fun e he => ?_
    obtain ⟨role, -, heq⟩ := PageElement.hasRole_iff.mp he
    exact Option.isSome_of_eq_some heq
  exact hparts.trans (hroles.subperm.trans hsome.subperm)

end Presentation

end SlideDeck

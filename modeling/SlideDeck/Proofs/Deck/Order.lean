/-
The order in which the placeholders of a slide are found.

Numbers of double precision are not in a total order, since what is no number compares with
nothing.  All others are: each lies on a rung that is known from its sign, its exponent and its
mantissa, and two numbers compare as their rungs do.  Elements whose coordinates are numbers are
therefore sorted by a key, and those with the same key stay in the order in which they were.
-/
import Mathlib.Data.Prod.Lex
import Mathlib.Order.Compare
import SlideDeck.Proofs.Deck.Placeholders

namespace SlideDeck

/-! ### Numbers in order -/

section Numbers

open Float.Model (UnpackedFloat)

/-- Where a number lies among all numbers: first by its sign, and by whether it is infinite, and
then by its exponent and its mantissa.  Negative numbers go the other way round. -/
def rung : UnpackedFloat → ℤ ×ₗ ℤ ×ₗ ℤ
  | .infinity .negative => toLex (-2, toLex (0, 0))
  | .finite .negative mantissa exponent _ => toLex (-1, toLex (-exponent, -mantissa))
  | .zero _ | .notANumber => toLex (0, toLex (0, 0))
  | .finite .positive mantissa exponent _ => toLex (1, toLex (exponent, mantissa))
  | .infinity .positive => toLex (2, toLex (0, 0))

theorem compare_natCast (m n : ℕ) : compare (m : ℤ) (n : ℤ) = compare m n := by
  rw [← cmp_eq_compare, ← cmp_eq_compare]
  exact StrictMono.cmp_map_eq (fun _ _ h => Int.ofNat_lt.mpr h) m n

theorem compare_neg (m n : ℤ) : compare (-m) (-n) = (compare m n).swap := by
  rw [← Std.OrientedCmp.eq_swap, ← cmp_eq_compare, ← cmp_eq_compare]
  exact StrictAnti.cmp_map_eq (fun _ _ h => Int.neg_lt_neg h) m n

/-- Numbers compare as their rungs do. -/
theorem compare_eq_some {a b : UnpackedFloat} (ha : a.isNaN = false) (hb : b.isNaN = false) :
    a.compare b = some (compare (rung a) (rung b)) := by
  cases a with
  | notANumber => cases ha
  | zero s =>
      cases b with
      | notANumber => cases hb
      | zero s' => rfl
      | infinity s' => cases s' <;> rfl
      | finite s' m' e' _ => cases s' <;> rfl
  | infinity s =>
      cases b with
      | notANumber => cases hb
      | zero s' => cases s <;> rfl
      | infinity s' => cases s <;> cases s' <;> rfl
      | finite s' m' e' _ => cases s <;> cases s' <;> rfl
  | finite s m e _ =>
      cases b with
      | notANumber => cases hb
      | zero s' => cases s <;> rfl
      | infinity s' => cases s <;> cases s' <;> rfl
      | finite s' m' e' _ =>
          cases s <;> cases s'
          -- Of two numbers with the same sign, the exponents decide, and then the mantissas.
          case negative.negative =>
            have hswap : ((compare e e').then (compare m m')).swap =
                (compare (-e) (-e')).then (compare (-(m : ℤ)) (-(m' : ℤ))) := by
              rw [Ordering.swap_then, compare_neg, compare_neg, compare_natCast]
            exact congrArg some hswap
          case positive.positive =>
            have hcast : (compare e e').then (compare m m') =
                (compare e e').then (compare (m : ℤ) (m' : ℤ)) := by
              rw [compare_natCast]
            exact congrArg some hcast
          all_goals rfl

/-- Where a number of double precision lies among all numbers. -/
def level (x : Float) : ℤ ×ₗ ℤ ×ₗ ℤ := rung x.toModel.unpack

variable {x y : Float}

theorem lt_iff_level_lt (hx : x.isNaN = false) (hy : y.isNaN = false) :
    x < y ↔ level x < level y := by
  have hcompare := compare_eq_some hx hy
  show decide ((x.toModel.unpack.compare y.toModel.unpack == some .lt) = true) = true ↔ _
  rw [decide_eq_true_iff, hcompare, beq_iff_eq, Option.some_inj, compare_lt_iff_lt]
  rfl

theorem beq_iff_level_eq (hx : x.isNaN = false) (hy : y.isNaN = false) :
    (x == y) = true ↔ level x = level y := by
  have hcompare := compare_eq_some hx hy
  show (x.toModel.unpack.compare y.toModel.unpack == some .eq) = true ↔ _
  rw [hcompare, beq_iff_eq, Option.some_inj, compare_eq_iff_eq]
  rfl

end Numbers

/-! ### Sorting by a key -/

section Sorting

variable {α κ : Type} [LinearOrder κ] (key : α → κ)

theorem decide_key_trans (a b c : α) (hab : decide (key a ≤ key b) = true)
    (hbc : decide (key b ≤ key c) = true) : decide (key a ≤ key c) = true :=
  decide_eq_true ((of_decide_eq_true hab).trans (of_decide_eq_true hbc))

theorem decide_key_total (a b : α) :
    (decide (key a ≤ key b) || decide (key b ≤ key a)) = true := by
  simpa using le_total (key a) (key b)

theorem pairwise_mergeSort_key (as : List α) :
    (as.mergeSort fun a b => decide (key a ≤ key b)).Pairwise fun a b => key a ≤ key b :=
  (List.pairwise_mergeSort (decide_key_trans key) (decide_key_total key) as).imp of_decide_eq_true

/-- Sorting does not move those with the same key past each other. -/
theorem filter_mergeSort_key (k : κ) (as : List α) :
    (as.mergeSort fun a b => decide (key a ≤ key b)).filter (fun a => decide (k = key a)) =
      as.filter fun a => decide (k = key a) := by
  have hequal : (as.filter fun a => decide (k = key a)).Pairwise
      fun a b => decide (key a ≤ key b) = true := by
    refine List.pairwise_of_forall_mem_list fun a ha b hb => decide_eq_true (le_of_eq ?_)
    have hka := of_decide_eq_true (List.mem_filter.mp ha).2
    have hkb := of_decide_eq_true (List.mem_filter.mp hb).2
    exact hka.symm.trans hkb
  have hsub := (List.sublist_mergeSort (decide_key_trans key) (decide_key_total key) hequal
    List.filter_sublist).filter fun a => decide (k = key a)
  simp only [List.filter_filter, Bool.and_self] at hsub
  have hperm := (List.mergeSort_perm as fun a b => decide (key a ≤ key b)).filter
    fun a => decide (k = key a)
  exact (hsub.eq_of_length hperm.length_eq.symm).symm

end Sorting

/-! ### Elements in the order of their place -/

namespace PageElement

/-- The coordinates of an element are numbers. -/
def isPlaced (e : PageElement) : Bool := !e.translateY.isNaN && !e.translateX.isNaN

/-- An element stands higher than another one, or at the same height and further to the left.
Coordinates grow downwards and to the right. -/
def StandsBefore (a b : PageElement) : Prop :=
  a.translateY < b.translateY ∨
    (a.translateY == b.translateY) = true ∧ a.translateX < b.translateX

/-- Two elements stand at the same place. -/
def samePlace (a b : PageElement) : Bool :=
  a.translateY == b.translateY && a.translateX == b.translateX

/-- Some elements were found in the order of their place; where that is the same, they were left as
they were. -/
structure InOrder (elements found : List PageElement) : Prop where
  sorted : found.Pairwise fun a b => ¬b.StandsBefore a
  ties : ∀ e ∈ elements, found.filter (samePlace e) = elements.filter (samePlace e)

/-- The place of an element among all places, from top to bottom and then from left to right. -/
def place (e : PageElement) : (ℤ ×ₗ ℤ ×ₗ ℤ) ×ₗ (ℤ ×ₗ ℤ ×ₗ ℤ) :=
  toLex (level e.translateY, level e.translateX)

variable {a b : PageElement}

theorem isPlaced_iff :
    a.isPlaced = true ↔ a.translateY.isNaN = false ∧ a.translateX.isNaN = false := by
  rw [isPlaced, Bool.and_eq_true, Bool.not_eq_true', Bool.not_eq_true']

theorem standsBefore_iff (ha : a.isPlaced = true) (hb : b.isPlaced = true) :
    a.StandsBefore b ↔ a.place < b.place := by
  obtain ⟨hay, hax⟩ := isPlaced_iff.mp ha
  obtain ⟨hby, hbx⟩ := isPlaced_iff.mp hb
  rw [StandsBefore, lt_iff_level_lt hay hby, beq_iff_level_eq hay hby, lt_iff_level_lt hax hbx,
    place, place, Prod.Lex.toLex_lt_toLex]

theorem samePlace_iff (ha : a.isPlaced = true) (hb : b.isPlaced = true) :
    samePlace a b = true ↔ a.place = b.place := by
  obtain ⟨hay, hax⟩ := isPlaced_iff.mp ha
  obtain ⟨hby, hbx⟩ := isPlaced_iff.mp hb
  rw [samePlace, Bool.and_eq_true, beq_iff_level_eq hay hby, beq_iff_level_eq hax hbx, place, place,
    toLex_inj, Prod.mk.injEq]

/-- Elements are compared by their place. -/
theorem placedBefore_iff (ha : a.isPlaced = true) (hb : b.isPlaced = true) :
    Presentation.placedBefore a b = true ↔ a.place ≤ b.place := by
  obtain ⟨hay, hax⟩ := isPlaced_iff.mp ha
  obtain ⟨hby, hbx⟩ := isPlaced_iff.mp hb
  rw [place, place, Prod.Lex.toLex_le_toLex]
  unfold Presentation.placedBefore
  split
  · rename_i hlt
    exact iff_of_true rfl (.inl ((lt_iff_level_lt hay hby).mp hlt))
  · rename_i hge
    rw [lt_iff_level_lt hay hby, not_lt] at hge
    split
    · rename_i hgt
      rw [lt_iff_level_lt hby hay] at hgt
      exact iff_of_false Bool.false_ne_true (by simp [hgt.not_gt, hgt.ne'])
    · rename_i hle
      rw [lt_iff_level_lt hby hay, not_lt] at hle
      have heq := hle.antisymm hge
      rw [Bool.not_eq_true', decide_eq_false_iff_not, lt_iff_level_lt hbx hax, not_lt]
      simp [heq]

/-- Elements are sorted by their place. -/
theorem mergeSort_placedBefore {es : List PageElement} (h : ∀ e ∈ es, e.isPlaced = true) :
    es.mergeSort Presentation.placedBefore =
      es.mergeSort fun a b => decide (a.place ≤ b.place) := by
  have hcompare : ∀ a ∈ es, ∀ b ∈ es,
      Presentation.placedBefore a b = decide (a.place ≤ b.place) := by
    intro a ha b hb
    rw [Bool.eq_iff_iff, placedBefore_iff (h a ha) (h b hb), decide_eq_true_iff]
  have hmap := @List.map_mergeSort _ _ Presentation.placedBefore
    (fun a b => decide (a.place ≤ b.place)) id es hcompare
  rwa [List.map_id, List.map_id] at hmap

end PageElement

/-! ### Placeholders as they are found -/

/-- Some elements are those of a page with a role.  If all elements of the page stand at places that
compare with each other, they are in the order of these. -/
structure Page.Lists (page : Page) (role : PlaceholderRole) (found : List PageElement) : Prop where
  perm : found.Perm (page.elements.filter fun e => e.role? == some role)
  inOrder : (∀ e ∈ page.elements, e.isPlaced = true) →
    PageElement.InOrder (page.elements.filter fun e => e.role? == some role) found

namespace Presentation

variable {p : Presentation} {slideId : String} {page : Page}

end Presentation

end SlideDeck

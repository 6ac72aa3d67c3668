/-
The places of the elements of a page in one unit of length.

The coordinates of an element are counted in English metric units or in points, as its transform
says, and 12700 of the one are one of the other.  Elements are sorted by their bare coordinates.
That is the order of their places on the page where all of them count in the same unit, and in
general where no two of them stand the one way round by their coordinates and the other way round on
the page.

Places are compared by exact values.  A number of double precision is a multiple of a power of two,
and since its mantissa is as long as it can be, exponents and mantissas order numbers as their
values do.
-/
import Mathlib.Algebra.Order.Field.Power
import Mathlib.Tactic.Linarith
import Mathlib.Tactic.Positivity
import Mathlib.Tactic.Ring
import SlideDeck.Proofs.Deck.Order

namespace SlideDeck

/-! ### Values of numbers -/

section Values

open Float.Model (UnpackedFloat Format)

/-- The value of a number that is counted in a unit.  What is infinite lies on either side of all
that is finite. -/
def amountIn (unit : ℚ) : UnpackedFloat → ℤ ×ₗ ℚ
  | .infinity s => toLex (s.apply 1, 0)
  | .zero _ | .notANumber => toLex (0, 0)
  | .finite s mantissa exponent _ => toLex (0, s.apply mantissa * 2 ^ exponent * unit)

/-- The mantissa of a number is as long as it can be. -/
def IsNormal (mantissa : ℕ) (exponent : ℤ) : Prop :=
  mantissa < 2 ^ 53 ∧ -1074 ≤ exponent ∧ (exponent = -1074 ∨ 2 ^ 52 ≤ mantissa)

/-- Behind the leading bit of a mantissa come the bits that are stored. -/
theorem toNat_leading {m : BitVec 52} : (1#1 ++ m).toNat = 2 ^ 52 + m.toNat := by
  rw [BitVec.toNat_append, ← Nat.shiftLeft_add_eq_or_of_lt m.isLt]
  rfl

theorem isNormal_unpack {b : BitVec Format.binary64.numBits} {s : UnpackedFloat.Sign} {m : ℕ}
    {e : ℤ} {hm : 0 < m} (h : UnpackedFloat.unpack .binary64 b = .finite s m e hm) :
    IsNormal m e := by
  have hbias : (Format.binary64.exponentBias : ℤ) = 1023 := rfl
  have hwidth : (Format.binary64.mantissaBitsWithoutImplicit : ℤ) = 52 := rfl
  have hstored : (UnpackedFloat.unpackMantissa b).toNat < 2 ^ 52 := BitVec.isLt _
  unfold IsNormal
  by_cases hexponent : UnpackedFloat.unpackExponent b = -1#_
  · by_cases hmantissa : UnpackedFloat.unpackMantissa b = 0#_
    · have hinfinity : UnpackedFloat.unpack .binary64 b = .infinity _ :=
        (if_pos hexponent).trans (if_pos hmantissa)
      cases hinfinity.symm.trans h
    · have hnone : UnpackedFloat.unpack .binary64 b = .notANumber :=
        (if_pos hexponent).trans (if_neg hmantissa)
      cases hnone.symm.trans h
  · by_cases hsmall : UnpackedFloat.unpackExponent b = 0#_
    · by_cases hmantissa : UnpackedFloat.unpackMantissa b = 0#_
      · have hzero : UnpackedFloat.unpack .binary64 b = .zero _ :=
          (if_neg hexponent).trans ((if_pos hsmall).trans (dif_pos hmantissa))
        cases hzero.symm.trans h
      · have hsubnormal : UnpackedFloat.unpack .binary64 b = .finite _ _ _ _ :=
          (if_neg hexponent).trans ((if_pos hsmall).trans (dif_neg hmantissa))
        cases hsubnormal.symm.trans h
        rw [hsmall, hbias, hwidth, BitVec.toNat_ofNat, Nat.zero_mod]
        omega
    · have hnormal : UnpackedFloat.unpack .binary64 b = .finite _ _ _ _ :=
        (if_neg hexponent).trans (if_neg hsmall)
      have hpos : (UnpackedFloat.unpackExponent b).toNat ≠ 0 :=
        fun hzero => hsmall (BitVec.eq_of_toNat_eq hzero)
      cases hnormal.symm.trans h
      rw [hbias, hwidth, toNat_leading]
      omega

/-- Of two mantissas the one with the larger exponent has the larger value. -/
theorem IsNormal.value_lt {m m' : ℕ} {e e' : ℤ} (h : IsNormal m e) (h' : IsNormal m' e')
    (hlt : e < e' ∨ e = e' ∧ m < m') : (m : ℚ) * 2 ^ e < m' * 2 ^ e' := by
  have hpos : (0 : ℚ) < 2 ^ e := zpow_pos two_pos e
  rcases hlt with hexponent | ⟨rfl, hmantissa⟩
  · obtain ⟨hlong, hleast, -⟩ := h
    have hlong' : 2 ^ 52 ≤ m' := h'.2.2.resolve_left (by omega)
    calc (m : ℚ) * 2 ^ e < 2 ^ 53 * 2 ^ e := by
          exact mul_lt_mul_of_pos_right (mod_cast hlong) hpos
      _ = 2 ^ 52 * 2 ^ (e + 1) := by
          rw [zpow_add_one₀ two_ne_zero]
          ring
      _ ≤ 2 ^ 52 * 2 ^ e' := by
          exact mul_le_mul_of_nonneg_left (zpow_le_zpow_right₀ one_le_two hexponent) (by positivity)
      _ ≤ m' * 2 ^ e' := by
          exact mul_le_mul_of_nonneg_right (mod_cast hlong') (zpow_pos two_pos e').le
  · exact mul_lt_mul_of_pos_right (mod_cast hmantissa) hpos

variable {unit : ℚ}

/-- Numbers that are counted in one unit are in the order of their values. -/
theorem amountIn_lt (hunit : 0 < unit) {a b : UnpackedFloat}
    (ha : ∀ s m e hm, a = .finite s m e hm → IsNormal m e)
    (hb : ∀ s m e hm, b = .finite s m e hm → IsNormal m e) (h : rung a < rung b) :
    amountIn unit a < amountIn unit b := by
  have hpos : ∀ (m : ℕ) (e : ℤ), 0 < m → (0 : ℚ) < m * 2 ^ e * unit := by
    intro m e hm
    have hm : (0 : ℚ) < m := mod_cast hm
    positivity
  rcases a with s | _ | s | ⟨s, m, e, hm⟩ <;> rcases b with s' | _ | s' | ⟨s', m', e', hm'⟩ <;>
    (try cases s) <;> (try cases s') <;>
    dsimp only [rung, amountIn, UnpackedFloat.Sign.apply] at h ⊢ <;>
    simp only [Prod.Lex.toLex_lt_toLex] at h ⊢
  case finite.finite.negative.negative =>
    have hlt := (hb _ _ _ _ rfl).value_lt (ha _ _ _ _ rfl) (by simpa [eq_comm] using h)
    have hscaled := mul_lt_mul_of_pos_right hlt hunit
    simpa using hscaled
  case finite.finite.positive.positive =>
    have hlt := (ha _ _ _ _ rfl).value_lt (hb _ _ _ _ rfl) (by simpa using h)
    have hscaled := mul_lt_mul_of_pos_right hlt hunit
    simpa using hscaled
  case finite.finite.negative.positive =>
    have hbelow := hpos m e hm
    have habove := hpos m' e' hm'
    have hneg : -(m : ℚ) * 2 ^ e * unit < 0 := by linarith
    simpa using hneg.trans habove
  case notANumber.finite.positive | zero.finite.negative.positive | zero.finite.positive.positive =>
    simpa using hpos m' e' hm'
  case finite.notANumber.negative | finite.zero.negative.negative | finite.zero.negative.positive =>
    simpa using hpos m e hm
  all_goals simp at h ⊢

/-- Where numbers lie among all numbers says all of their values. -/
theorem amountIn_eq {a b : UnpackedFloat} (h : rung a = rung b) :
    amountIn unit a = amountIn unit b := by
  rcases a with s | _ | s | ⟨s, m, e, hm⟩ <;> rcases b with s' | _ | s' | ⟨s', m', e', hm'⟩ <;>
    (try cases s) <;> (try cases s') <;> dsimp only [rung, amountIn] at h ⊢ <;> simp_all

/-- A length of double precision that is counted in a unit. -/
def lengthIn (unit : ℚ) (x : Float) : ℤ ×ₗ ℚ := amountIn unit x.toModel.unpack

example : lengthIn 1 Presentation.emuPerPoint = toLex (0, 12700) := by
  have hunpack : Presentation.emuPerPoint.toModel.unpack =
      .finite .positive 6981898836377600 (-39) (by decide) := rfl
  rw [lengthIn, hunpack, amountIn, UnpackedFloat.Sign.apply]
  norm_num

variable {x y : Float}

theorem lengthIn_lt (hunit : 0 < unit) (h : level x < level y) :
    lengthIn unit x < lengthIn unit y :=
  amountIn_lt hunit (fun _ _ _ _ => isNormal_unpack) (fun _ _ _ _ => isNormal_unpack) h

theorem lengthIn_eq (h : level x = level y) : lengthIn unit x = lengthIn unit y := amountIn_eq h

end Values

/-! ### Sorting by one key and reading by another -/

section Sorting

variable {α κ κ' : Type} [LinearOrder κ] [LinearOrder κ'] (key : α → κ) (place : α → κ')

/-- What is sorted by a key is in the order of the places if the places are in the order of the
keys, and where the keys are the same in the order of the list. -/
theorem pairwise_mergeSort_iff (as : List α) :
    ((as.mergeSort fun a b => decide (key a ≤ key b)).Pairwise fun a b => place a ≤ place b) ↔
      (∀ a ∈ as, ∀ b ∈ as, key a < key b → place a ≤ place b) ∧
        as.Pairwise fun a b => key a = key b → place a ≤ place b := by
  have hsorted := pairwise_mergeSort_key key as
  constructor
  · intro hplaces
    constructor
    · intro a ha b hb hlt
      have hmem : ∀ c ∈ as, c ∈ as.mergeSort fun a b => decide (key a ≤ key b) :=
        fun _ => List.mem_mergeSort.mpr
      obtain ⟨i, hi, rfl⟩ := List.getElem_of_mem (hmem a ha)
      obtain ⟨j, hj, rfl⟩ := List.getElem_of_mem (hmem b hb)
      rcases lt_trichotomy i j with hij | rfl | hij
      · exact List.pairwise_iff_getElem.mp hplaces i j hi hj hij
      · exact absurd hlt (lt_irrefl _)
      · exact absurd hlt (List.pairwise_iff_getElem.mp hsorted j i hj hi hij).not_gt
    · refine List.pairwise_iff_forall_sublist.mpr fun {a b} hsub heq => ?_
      have hkept := List.pair_sublist_mergeSort (decide_key_trans key) (decide_key_total key)
        (decide_eq_true heq.le) hsub
      exact List.pairwise_iff_forall_sublist.mp hplaces hkept
  · rintro ⟨hstrict, hties⟩
    refine List.pairwise_iff_forall_sublist.mpr fun {a b} hsub => ?_
    have ha : a ∈ as := List.mem_mergeSort.mp (hsub.subset (by simp))
    have hb : b ∈ as := List.mem_mergeSort.mp (hsub.subset (by simp))
    rcases (List.pairwise_iff_forall_sublist.mp hsorted hsub).lt_or_eq with hlt | heq
    · exact hstrict a ha b hb hlt
    · -- Elements with the same key are in the order in which they were.
      have hkept := hsub.filter fun c => decide (key a = key c)
      rw [filter_mergeSort_key, List.filter_cons_of_pos (by simp),
        List.filter_cons_of_pos (by simpa using heq), List.filter_nil] at hkept
      exact List.pairwise_iff_forall_sublist.mp hties (hkept.trans List.filter_sublist) heq

end Sorting

/-! ### Places on the page -/

namespace PageElement

/-- How many English metric units the unit has that the coordinates of an element are counted in. -/
def unit (e : PageElement) : ℚ :=
  match e.transform.bind (·.unit) with
  | some .pt => 12700
  | _ => 1

/-- Where an element stands on its page, from top to bottom and then from left to right, in English
metric units. -/
def spot (e : PageElement) : (ℤ ×ₗ ℚ) ×ₗ (ℤ ×ₗ ℚ) :=
  toLex (lengthIn e.unit e.translateY, lengthIn e.unit e.translateX)

/-- Elements are listed in the order of their places on the page. -/
def OnPage (found : List PageElement) : Prop := found.Pairwise fun a b => a.spot ≤ b.spot

/-- The coordinates of some elements put them into the order in which they stand on the page, and
those that have the same coordinates are in that order. -/
structure Agree (elements : List PageElement) : Prop where
  strict : ∀ a ∈ elements, ∀ b ∈ elements, a.StandsBefore b → a.spot ≤ b.spot
  ties : elements.Pairwise fun a b => samePlace a b = true → a.spot ≤ b.spot

theorem unit_pos (e : PageElement) : 0 < e.unit := by
  unfold unit
  split <;> norm_num

/-- Elements that count in the same unit stand on the page as their coordinates say. -/
theorem spot_le_of_place_le {a b : PageElement} (hunit : a.unit = b.unit) (h : a.place ≤ b.place) :
    a.spot ≤ b.spot := by
  rw [place, place, Prod.Lex.toLex_le_toLex] at h
  rw [spot, spot, hunit, Prod.Lex.toLex_le_toLex]
  rcases h with hy | ⟨hy, hx⟩
  · exact .inl (lengthIn_lt b.unit_pos hy)
  · refine .inr ⟨lengthIn_eq hy, ?_⟩
    rcases hx.lt_or_eq with hx | hx
    · exact (lengthIn_lt b.unit_pos hx).le
    · exact (lengthIn_eq hx).le

/-- Elements that all count in the same unit agree with their page. -/
theorem Agree.of_unit {es : List PageElement} (hplaced : ∀ e ∈ es, e.isPlaced = true)
    (hunit : ∀ a ∈ es, ∀ b ∈ es, a.unit = b.unit) : Agree es where
  strict a ha b hb hbefore := by
    have hlt := (standsBefore_iff (hplaced a ha) (hplaced b hb)).mp hbefore
    exact spot_le_of_place_le (hunit a ha b hb) hlt.le
  ties := by
    refine List.pairwise_of_forall_mem_list fun a ha b hb hsame => ?_
    have heq := (samePlace_iff (hplaced a ha) (hplaced b hb)).mp hsame
    exact spot_le_of_place_le (hunit a ha b hb) heq.le

/-- Elements that were sorted stand on the page as they are listed if their coordinates agree with
it. -/
theorem onPage_mergeSort {es : List PageElement} (hplaced : ∀ e ∈ es, e.isPlaced = true) :
    OnPage (es.mergeSort Presentation.placedBefore) ↔ Agree es := by
  have hstrict : (∀ a ∈ es, ∀ b ∈ es, a.StandsBefore b → a.spot ≤ b.spot) ↔
      ∀ a ∈ es, ∀ b ∈ es, a.place < b.place → a.spot ≤ b.spot := by
    refine forall₂_congr fun a ha => forall₂_congr fun b hb => ?_
    rw [standsBefore_iff (hplaced a ha) (hplaced b hb)]
  have hties : (es.Pairwise fun a b => samePlace a b = true → a.spot ≤ b.spot) ↔
      es.Pairwise fun a b => a.place = b.place → a.spot ≤ b.spot := by
    refine List.Pairwise.iff_of_mem fun {a b} ha hb => ?_
    rw [samePlace_iff (hplaced a ha) (hplaced b hb)]
  rw [OnPage, mergeSort_placedBefore hplaced, pairwise_mergeSort_iff, ← hstrict, ← hties]
  exact ⟨fun h => ⟨h.1, h.2⟩, fun h => ⟨h.strict, h.ties⟩⟩

end PageElement

/-- The elements of a page that have a role. -/
def Page.withRole (page : Page) (role : PlaceholderRole) : List PageElement :=
  page.elements.filter fun e => e.role? == some role

/-- **Placeholders are found in the order of their places on the page**, whichever units their
coordinates are counted in, exactly if their bare coordinates agree with it.  They do where all
coordinates are counted in the same unit. -/
theorem Presentation.onPage_findPlaceholders {p : Presentation} {slideId : String} {page : Page}
    (h : p.findSlide? slideId = some page) (role : PlaceholderRole)
    (hplaced : ∀ e ∈ page.withRole role, e.isPlaced = true) :
    (p.findPlaceholders slideId role).Perm (page.withRole role) ∧
      (PageElement.OnPage (p.findPlaceholders slideId role) ↔
        PageElement.Agree (page.withRole role)) ∧
      ((∀ a ∈ page.withRole role, ∀ b ∈ page.withRole role, a.unit = b.unit) →
        PageElement.OnPage (p.findPlaceholders slideId role)) := by
  have hfound : p.findPlaceholders slideId role = (page.withRole role).mergeSort placedBefore := by
    rw [findPlaceholders, h]
    rfl
  have hiff := PageElement.onPage_mergeSort hplaced
  rw [hfound]
  exact ⟨List.mergeSort_perm _ _, hiff, fun hunit => hiff.mpr (.of_unit hplaced hunit)⟩

/-- A placeholder for text at some height. -/
def bodyAt (objectId : String) (y : Float) (unit : LengthUnit) : PageElement :=
  ⟨objectId, none, some ⟨none, none, some 0, some y, some unit⟩,
    some ⟨none, some ⟨some .body, none, none⟩⟩, none⟩

/-- A slide with some elements. -/
def slideWith (elements : List PageElement) : Page := ⟨"s", none, some elements, none, none, none⟩

/-- A presentation of one slide. -/
def deckWith (elements : List PageElement) : Presentation :=
  ⟨"deck", none, some [slideWith elements], none, none, none⟩

/-- Two placeholders that both count in points. -/
def inPoints : List PageElement := [bodyAt "low" 100 .pt, bodyAt "high" 72 .pt]

theorem onPage_findPlaceholders_inPoints :
    PageElement.OnPage ((deckWith inPoints).findPlaceholders "s" .body) := by
  have hplaced : ∀ e ∈ (slideWith inPoints).withRole .body, e.isPlaced = true := by decide +kernel
  have hunit : ∀ e ∈ (slideWith inPoints).withRole .body, e.unit = 12700 := by
    have hlist : (slideWith inPoints).withRole .body = inPoints := by decide +kernel
    rw [hlist]
    simp [inPoints, bodyAt, PageElement.unit]
  refine (Presentation.onPage_findPlaceholders rfl .body hplaced).2.2 fun a ha b hb => ?_
  rw [hunit a ha, hunit b hb]

/-- A placeholder that counts in points, and one above it that counts in English metric units. -/
def inBothUnits : List PageElement := [bodyAt "low" 100 .pt, bodyAt "high" 914400 .emu]

theorem spot_bodyAt (objectId : String) (unit : LengthUnit) {y : Float} {m : ℕ} {e : ℤ} {hm : 0 < m}
    (hy : y.toModel.unpack = .finite .positive m e hm) :
    (bodyAt objectId y unit).spot =
      toLex (toLex (0, m * 2 ^ e * (bodyAt objectId y unit).unit), toLex (0, 0)) := by
  have hdown : (bodyAt objectId y unit).translateY = y := rfl
  have hright : (bodyAt objectId y unit).translateX = 0 := rfl
  have hzero : (0 : Float).toModel.unpack = .zero .positive := rfl
  rw [PageElement.spot, lengthIn, lengthIn, hdown, hright, hy, hzero]
  rfl

/-- The placeholder that counts in points stands lower and is found first. -/
theorem inBothUnits_not_onPage :
    (deckWith inBothUnits).findPlaceholders "s" .body = inBothUnits ∧
      ¬PageElement.OnPage ((deckWith inBothUnits).findPlaceholders "s" .body) := by
  have hlist : (slideWith inBothUnits).withRole .body = inBothUnits := by decide +kernel
  have hsorted : inBothUnits.Pairwise fun a b => Presentation.placedBefore a b = true := by
    decide +kernel
  have hfound : (deckWith inBothUnits).findPlaceholders "s" .body = inBothUnits := by
    show ((slideWith inBothUnits).withRole .body).mergeSort Presentation.placedBefore = _
    rw [hlist]
    exact List.mergeSort_of_pairwise hsorted
  have hhigher : (bodyAt "high" 914400 .emu).spot < (bodyAt "low" 100 .pt).spot := by
    have hlow : (100 : Float).toModel.unpack =
        .finite .positive 7036874417766400 (-46) (by decide) := rfl
    have hhigh : (914400 : Float).toModel.unpack =
        .finite .positive 7854636190924800 (-33) (by decide) := rfl
    rw [spot_bodyAt _ _ hlow, spot_bodyAt _ _ hhigh]
    norm_num [Prod.Lex.toLex_lt_toLex, bodyAt, PageElement.unit]
  refine ⟨hfound, fun honPage => ?_⟩
  rw [hfound, PageElement.OnPage, inBothUnits, List.pairwise_pair] at honPage
  exact absurd hhigher honPage.not_gt

end SlideDeck

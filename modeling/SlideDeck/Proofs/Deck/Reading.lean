/-
The places that are read from a presentation.

JSON has no way to write what is no number.  A numeral without a fraction and an exponent is
converted, which gives a number, and of the others those that are no finite number are refused.  So
the elements of a page that was read stand at places that compare with each other.
-/
import SlideDeck.Proofs.Deck.Order

namespace SlideDeck

/-! ### Numbers -/

section Numbers

open Float.Model (UnpackedFloat Format)

/-- A number is still one after it was rounded. -/
theorem isNaN_round (spec : Format) (s : UnpackedFloat.Sign) (m : ℕ) (e : ℤ) :
    (UnpackedFloat.round spec s m e).isNaN = false := by
  have hrounded (m : ℕ) (e : ℤ) (a : UnpackedFloat.Accuracy) :
      (UnpackedFloat.roundWithAccuracy spec s m e a).isNaN = false := by
    fun_cases UnpackedFloat.roundWithAccuracy spec s m e a <;> rfl
  exact hrounded _ _ _

theorem isNaN_ofNat (spec : Format) (n : ℕ) : (UnpackedFloat.ofNat spec n).isNaN = false := by
  unfold UnpackedFloat.ofNat UnpackedFloat.ofInt UnpackedFloat.normalize
  split
  · exact isNaN_round spec _ _ _
  · rfl
  · exact isNaN_round spec _ _ _

/-- Bits that have no mantissa beside the largest exponent are those of a number. -/
theorem isNaN_unpack {spec : Format} {b : BitVec spec.numBits}
    (h : UnpackedFloat.unpackExponent b = -1#_ → UnpackedFloat.unpackMantissa b = 0#_) :
    (UnpackedFloat.unpack spec b).isNaN = false := by
  by_cases hexponent : UnpackedFloat.unpackExponent b = -1#_
  · have hinfinity : UnpackedFloat.unpack spec b = .infinity _ :=
      (if_pos hexponent).trans (if_pos (h hexponent))
    rw [hinfinity]
    rfl
  · by_cases hsmall : UnpackedFloat.unpackExponent b = 0#_
    · by_cases hmantissa : UnpackedFloat.unpackMantissa b = 0#_
      · have hzero : UnpackedFloat.unpack spec b = .zero _ :=
          (if_neg hexponent).trans ((if_pos hsmall).trans (dif_pos hmantissa))
        rw [hzero]
        rfl
      · have hsubnormal : UnpackedFloat.unpack spec b = .finite _ _ _ _ :=
          (if_neg hexponent).trans ((if_pos hsmall).trans (dif_neg hmantissa))
        rw [hsubnormal]
        rfl
    · have hnormal : UnpackedFloat.unpack spec b = .finite _ _ _ _ :=
        (if_neg hexponent).trans (if_neg hsmall)
      rw [hnormal]
      rfl

theorem isNaN_unpack_packComponents {spec : Format} {s : UnpackedFloat.Sign}
    {e : BitVec spec.exponentBits} {m : BitVec spec.mantissaBitsWithoutImplicit}
    (h : e = -1#_ → m = 0#_) :
    (UnpackedFloat.unpack spec (UnpackedFloat.packComponents spec s e m)).isNaN = false := by
  refine isNaN_unpack fun hexponent => ?_
  rw [UnpackedFloat.unpackExponent_packComponents] at hexponent
  rw [UnpackedFloat.unpackMantissa_packComponents]
  exact h hexponent

/-- A number is still one after it was put into its bits. -/
theorem isNaN_unpack_pack {spec : Format} {f : UnpackedFloat} (h : f.isNaN = false) :
    (UnpackedFloat.unpack spec (UnpackedFloat.pack spec f)).isNaN = false := by
  have hexponent {n : ℕ} (hn : n + 1 < 2 ^ spec.exponentBits) :
      BitVec.ofNat spec.exponentBits n ≠ -1#_ := by
    intro heq
    have htoNat := congrArg BitVec.toNat heq
    rw [BitVec.neg_one_eq_allOnes, BitVec.toNat_allOnes, BitVec.toNat_ofNat,
      Nat.mod_eq_of_lt (by omega)] at htoNat
    omega
  cases f with
  | notANumber => cases h
  | infinity s => exact isNaN_unpack_packComponents fun _ => rfl
  | zero s => exact isNaN_unpack_packComponents fun _ => rfl
  | finite s m e hm =>
      unfold UnpackedFloat.pack
      dsimp only
      split
      · exact isNaN_unpack_packComponents fun _ => rfl
      · rename_i hfits
        split
        · exact isNaN_unpack_packComponents fun heq =>
            absurd heq (hexponent (not_le.mp hfits))
        · exact isNaN_unpack_packComponents fun heq =>
            absurd heq (hexponent (Nat.one_lt_two_pow spec.he.ne'))

theorem isNaN_ofModel_pack {f : UnpackedFloat} (h : f.isNaN = false) :
    (Float.ofModel (Float.Model.pack f)).isNaN = false := isNaN_unpack_pack h

/-- A finite number is a number. -/
theorem isNaN_of_isFinite {x : Float} (h : x.isFinite = true) : x.isNaN = false := by
  change x.toModel.unpack.isFinite = true at h
  show x.toModel.unpack.isNaN = false
  cases hx : x.toModel.unpack with
  | notANumber =>
      rw [hx] at h
      cases h
  | _ => rfl

theorem isNaN_neg {x : Float} (h : x.isNaN = false) : (-x).isNaN = false := by
  refine isNaN_ofModel_pack ?_
  change x.toModel.unpack.isNaN = false at h
  cases hx : x.toModel.unpack with
  | notANumber =>
      rw [hx] at h
      cases h
  | _ => rfl

end Numbers

/-! ### Values of JSON -/

namespace Json

theorem isNaN_wholeFloat (negative : Bool) (n : ℕ) : (wholeFloat negative n).isNaN = false := by
  have hwhole : (UInt64.ofNat n).toFloat.isNaN = false := isNaN_ofModel_pack (isNaN_ofNat _ _)
  cases negative with
  | false => exact hwhole
  | true => exact isNaN_neg hwhole

/-- What is read as a number is one. -/
theorem isNaN_of_toFloat? {j : Json} {x : Float} (h : j.toFloat? = some x) : x.isNaN = false := by
  have hfinite {y : Float} (hy : (if y.isFinite then some y else none) = some x) :
      x.isNaN = false := by
    split at hy
    · rename_i hy'
      rw [← Option.some.inj hy]
      exact isNaN_of_isFinite hy'
    · cases hy
  cases j with
  | number n =>
      cases n with
      | natural n =>
          rw [← Option.some.inj h]
          exact isNaN_wholeFloat false n
      | negative n =>
          rw [← Option.some.inj h]
          exact isNaN_wholeFloat true n
      | double y => exact hfinite h
      | single y => exact hfinite h
  | _ => cases h

variable {α : Type} {read : Json → Option α} {j : Json}

/-- An optional value that is set was read. -/
theorem exists_of_toOption? {a : α} (h : j.toOption? read = some (some a)) :
    ∃ j', read j' = some a := by
  unfold toOption? at h
  split at h
  · cases h
  · obtain ⟨a', ha, heq⟩ := Option.map_eq_some_iff.mp h
    cases heq
    exact ⟨_, ha⟩

theorem exists_of_mem_mapM {js : List Json} {as : List α} (h : js.mapM read = some as) :
    ∀ a ∈ as, ∃ j', read j' = some a := by
  induction js generalizing as with
  | nil =>
      cases h
      simp
  | cons j js ih =>
      simp only [List.mapM_cons, Option.bind_eq_bind, Option.bind_eq_some_iff, Option.pure_def,
        Option.some.injEq] at h
      obtain ⟨a, ha, as, has, rfl⟩ := h
      intro b hb
      rcases List.mem_cons.mp hb with rfl | hb
      · exact ⟨j, ha⟩
      · exact ih has b hb

/-- Each member of a list was read. -/
theorem exists_of_toList? {as : List α} (h : j.toList? read = some as) :
    ∀ a ∈ as, ∃ j', read j' = some a := by
  cases j with
  | array js => exact exists_of_mem_mapM h
  | _ => cases h

end Json

/-! ### Elements -/

theorem AffineTransform.isNaN_of_ofJson? {j : Json} {t : AffineTransform}
    (h : ofJson? j = some t) :
    (∀ x ∈ t.translateX, x.isNaN = false) ∧ ∀ y ∈ t.translateY, y.isNaN = false := by
  unfold ofJson? at h
  split at h
  · simp only [Option.bind_eq_bind, Option.bind_eq_some_iff, Option.some.injEq] at h
    obtain ⟨_, -, _, -, x?, hx, y?, hy, _, -, rfl⟩ := h
    constructor
    · rintro x rfl
      obtain ⟨_, hx⟩ := Json.exists_of_toOption? hx
      exact Json.isNaN_of_toFloat? hx
    · rintro y rfl
      obtain ⟨_, hy⟩ := Json.exists_of_toOption? hy
      exact Json.isNaN_of_toFloat? hy
  · cases h

/-- An element that was read stands at a place that compares with others. -/
theorem PageElement.isPlaced_of_ofJson? {j : Json} {e : PageElement} (h : ofJson? j = some e) :
    e.isPlaced = true := by
  unfold ofJson? at h
  split at h
  · simp only [Option.bind_eq_bind, Option.bind_eq_some_iff, Option.some.injEq] at h
    obtain ⟨_, -, _, -, t?, ht, _, -, _, -, rfl⟩ := h
    have hcoordinate {x? : Option Float} (hx : ∀ x ∈ x?, x.isNaN = false) :
        (x?.getD 0).isNaN = false := by
      cases x? with
      | none => decide +kernel
      | some x => exact hx x rfl
    refine isPlaced_iff.mpr ⟨hcoordinate ?_, hcoordinate ?_⟩
    · intro y hy
      obtain ⟨t, rfl, hy⟩ := Option.bind_eq_some_iff.mp hy
      obtain ⟨_, ht⟩ := Json.exists_of_toOption? ht
      exact (AffineTransform.isNaN_of_ofJson? ht).2 y hy
    · intro x hx
      obtain ⟨t, rfl, hx⟩ := Option.bind_eq_some_iff.mp hx
      obtain ⟨_, ht⟩ := Json.exists_of_toOption? ht
      exact (AffineTransform.isNaN_of_ofJson? ht).1 x hx
  · cases h

theorem Page.isPlaced_of_ofJson? {j : Json} {page : Page} (h : ofJson? j = some page) :
    ∀ e ∈ page.elements, e.isPlaced = true := by
  unfold ofJson? at h
  split at h
  · simp only [Option.bind_eq_bind, Option.bind_eq_some_iff] at h
    obtain ⟨_, -, _, -, es?, hes, h⟩ := h
    have hpage : page.pageElements = es? := by
      split at h <;> simp only [Option.bind_eq_some_iff, Option.some.injEq] at h <;>
        obtain ⟨_, -, _, -, _, -, rfl⟩ := h <;> rfl
    intro e he
    rw [elements, hpage] at he
    cases es? with
    | none => cases he
    | some es =>
        obtain ⟨_, hes⟩ := Json.exists_of_toOption? hes
        obtain ⟨_, he⟩ := Json.exists_of_toList? hes e he
        exact PageElement.isPlaced_of_ofJson? he
  · cases h

/-- All elements of a slide that was read do. -/
theorem Presentation.isPlaced_of_ofJson? {j : Json} {p : Presentation} (h : ofJson? j = some p)
    {page : Page} (hpage : page ∈ p.slidePages) : ∀ e ∈ page.elements, e.isPlaced = true := by
  unfold ofJson? at h
  split at h
  · simp only [Option.bind_eq_bind, Option.bind_eq_some_iff, Option.some.injEq] at h
    obtain ⟨_, -, _, -, pages?, hpages, _, -, _, -, _, -, rfl⟩ := h
    cases pages? with
    | none => cases hpage
    | some pages =>
        obtain ⟨_, hpages⟩ := Json.exists_of_toOption? hpages
        obtain ⟨_, hpage⟩ := Json.exists_of_toList? hpages page hpage
        exact Page.isPlaced_of_ofJson? hpage
  · cases h

end SlideDeck

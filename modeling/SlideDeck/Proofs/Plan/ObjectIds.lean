/-
Sequential ids are object ids for as long as they fit.

An id is a prefix, an underscore and a number, whose numeral has zeros in front of it up to three
digits, or to four if there is no prefix.  So an id is never too short.  It becomes too long when
the numeral outgrows what the prefix leaves of the greatest length, and as no numeral is shorter
than that of a smaller number, a source that fails once fails ever after.

Lengths are measured in bytes where an id is made.  That makes no difference for an id of the
characters that the server takes, each of which is a single byte.
-/
import Mathlib.Data.String.Basic
import SlideDeck.Proofs.Plan.Lifetime

namespace SlideDeck

/-! ### Object ids -/

/-- A character that an object id may begin with. -/
def isIdStart (c : Char) : Bool := c.isAlphanum || c == '_'

/-- A character of an object id. -/
def isIdChar (c : Char) : Bool := isIdStart c || c == '-' || c == ':'

/-- A text that the server takes for an object id. -/
structure IsObjectId (id : String) : Prop where
  length : 5 ≤ id.length ∧ id.length ≤ 50
  chars : ∀ c ∈ id.toList, isIdChar c = true
  start : ∃ c, id.toList.head? = some c ∧ isIdStart c = true

theorem utf8Size_of_isIdChar {c : Char} (h : isIdChar c = true) : c.utf8Size = 1 := by
  rw [Char.utf8Size_eq_one_iff]
  simp only [isIdChar, isIdStart, Bool.or_eq_true, beq_iff_eq] at h
  rcases h with ((halphanum | rfl) | rfl) | rfl
  · rcases Bool.or_eq_true_iff.mp halphanum with halpha | hdigit
    · rcases Bool.or_eq_true_iff.mp halpha with hupper | hlower
      · exact UInt32.le_trans (of_decide_eq_true hupper).2 (by decide)
      · exact UInt32.le_trans (of_decide_eq_true (Bool.and_eq_true_iff.mp hlower).2) (by decide)
    · exact UInt32.le_trans (of_decide_eq_true (Bool.and_eq_true_iff.mp hdigit).2) (by decide)
  all_goals decide

/-- A text of the characters of ids has as many bytes as characters. -/
theorem utf8ByteSize_eq_length {id : String} (h : ∀ c ∈ id.toList, isIdChar c = true) :
    id.utf8ByteSize = id.length := by
  rw [← String.utf8Len_toList, ← String.length_toList]
  generalize id.toList = cs at h ⊢
  induction cs with
  | nil => rfl
  | cons c cs ih =>
      rw [List.forall_mem_cons] at h
      rw [String.utf8Len_cons, List.length_cons, utf8Size_of_isIdChar h.1, ih h.2]

namespace SequentialIds

/-! ### Numerals -/

/-- Whether a prefix is empty or the beginning of an object id. -/
def isStem (stem : String) : Bool := stem.toList.all isIdChar && stem.toList.head?.all isIdStart

/-- A text is a decimal numeral of a number, with zeros in front of it or without. -/
structure IsNumeral (digits : List Char) (n : Nat) : Prop where
  ne_nil : digits ≠ []
  isDigit : ∀ c ∈ digits, c.isDigit = true
  value : Nat.ofDigitChars 10 digits 0 = n

/-- How many digits the numeral of a number has behind a prefix. -/
def digitCount (stem : String) (n : Nat) : Nat :=
  max (Nat.toDigits 10 n).length (if stem = "" then 4 else 3)

/-- An id is a prefix, an underscore and a numeral of a number, which has as many digits as it has
to. -/
def Numbers (stem : String) (n : Nat) (id : String) : Prop :=
  ∃ digits, id = stem ++ "_" ++ String.ofList digits ∧ IsNumeral digits n ∧
    digits.length = digitCount stem n

theorem width_eq (stem : String) (n : Nat) :
    (⟨stem, n⟩ : SequentialIds).width = if stem = "" then 4 else 3 := by
  unfold width minIdLength
  split
  · rename_i hempty
    subst hempty
    rfl
  · rename_i hne
    have hpos : stem.utf8ByteSize ≠ 0 := fun hzero => hne (String.utf8ByteSize_eq_zero_iff.mp hzero)
    simp only
    omega

theorem isNumeral_paddedNumeral (width n : Nat) : IsNumeral (paddedNumeral width n).toList n := by
  unfold paddedNumeral
  refine ⟨?_, ?_, ?_⟩
  · simp [Nat.toDigits_ne_nil]
  · intro c hc
    rw [String.toList_ofList, List.mem_append] at hc
    rcases hc with hzero | hdigit
    · rw [List.eq_of_mem_replicate hzero]
      rfl
    · exact Nat.isDigit_of_mem_toDigits (by decide) (by decide) hdigit
  · rw [String.toList_ofList, Nat.ofDigitChars_append, Nat.ofDigitChars_replicate_zero,
      Nat.mul_zero]
    exact Nat.ofDigitChars_toDigits (by decide) (by decide)

theorem length_paddedNumeral (width n : Nat) :
    (paddedNumeral width n).toList.length = max (Nat.toDigits 10 n).length width := by
  simp only [paddedNumeral, String.toList_ofList, List.length_append, List.length_replicate]
  omega

/-- No numeral has fewer digits than that of a smaller number. -/
theorem digitCount_mono (stem : String) {m n : Nat} (h : m ≤ n) :
    digitCount stem m ≤ digitCount stem n := by
  have hfits := (Nat.length_toDigits_le_iff (by decide) Nat.length_toDigits_pos).mp
    (Nat.le_refl (Nat.toDigits 10 n).length)
  have hlength : (Nat.toDigits 10 m).length ≤ (Nat.toDigits 10 n).length :=
    (Nat.length_toDigits_le_iff (by decide) Nat.length_toDigits_pos).mpr (h.trans_lt hfits)
  exact max_le_max_right _ hlength

/-! ### Ids with a number -/

variable {stem id : String} {n : Nat}

theorem numbers_candidate (stem : String) (n : Nat) :
    Numbers stem n (⟨stem, n⟩ : SequentialIds).candidate := by
  refine ⟨(paddedNumeral (width ⟨stem, n⟩) n).toList, ?_, isNumeral_paddedNumeral _ n, ?_⟩
  · rw [String.ofList_toList]
    rfl
  · rw [length_paddedNumeral, width_eq, digitCount]

theorem Numbers.length_eq (h : Numbers stem n id) :
    id.length = stem.length + 1 + digitCount stem n := by
  obtain ⟨digits, rfl, -, hlength⟩ := h
  rw [String.length_append, String.length_append, ← hlength]
  exact congrArg _ String.length_ofList

theorem Numbers.isIdChar (h : Numbers stem n id) (hstem : isStem stem = true) :
    ∀ c ∈ id.toList, isIdChar c = true := by
  obtain ⟨digits, rfl, hnumeral, -⟩ := h
  have hchars := List.all_eq_true.mp (Bool.and_eq_true_iff.mp hstem).1
  intro c hc
  simp only [String.toList_append, String.toList_ofList, List.mem_append] at hc
  rcases hc with (hc | hc) | hc
  · exact hchars c hc
  · obtain rfl := List.mem_singleton.mp hc
    rfl
  · simp [SlideDeck.isIdChar, isIdStart, Char.isAlphanum, hnumeral.isDigit c hc]

/-- An id with a number is an object id if it is not too long. -/
theorem Numbers.isObjectId (h : Numbers stem n id) (hstem : isStem stem = true)
    (hfits : id.length ≤ 50) : IsObjectId id := by
  refine ⟨⟨?_, hfits⟩, h.isIdChar hstem, ?_⟩
  · rw [h.length_eq, digitCount]
    split
    · omega
    · rename_i hne
      have hpos : stem.length ≠ 0 := fun hzero => hne (String.length_eq_zero_iff.mp hzero)
      omega
  · obtain ⟨digits, rfl, -, -⟩ := h
    have hhead := (Bool.and_eq_true_iff.mp hstem).2
    simp only [String.toList_append, List.append_assoc]
    cases hlist : stem.toList with
    | nil => exact ⟨'_', rfl, rfl⟩
    | cons c rest =>
        rw [hlist] at hhead
        exact ⟨c, rfl, hhead⟩

/-- What a source answers after some requests: the id with their number, unless it is too long. -/
theorem nth_source (hstem : isStem stem = true) (n : Nat) :
    source.nth (ofStem stem) n =
      if 50 < (⟨stem, n⟩ : SequentialIds).candidate.length then
        .error (.idTooLong (⟨stem, n⟩ : SequentialIds).candidate 50)
      else .ok (⟨stem, n⟩ : SequentialIds).candidate := by
  have hbytes := utf8ByteSize_eq_length ((numbers_candidate stem n).isIdChar hstem)
  have hstate : source.after (ofStem stem) n = ⟨stem, n⟩ := by
    rw [after_source, ofStem, Nat.zero_add]
  rw [IdSource.nth, hstate, ← hbytes]
  rfl

/--
**A sequential id is an object id, or the source has failed for good.**  Behind a prefix that may
begin an object id, the answer to a request is an id with the number of the requests before it.  If
this has at most fifty characters it is an object id; otherwise there is no answer, neither to this
request nor to any later one.
-/
theorem isObjectId_or_fails {stem : String} (hstem : isStem stem = true) (n : Nat) :
    ∃ id, Numbers stem n id ∧
      (id.length ≤ 50 → source.nth (ofStem stem) n = .ok id ∧ IsObjectId id) ∧
      (50 < id.length → source.nth (ofStem stem) n = .error (.idTooLong id 50)) ∧
      ((∃ e, source.nth (ofStem stem) n = .error e) →
        ∀ m, n ≤ m → ∃ e, source.nth (ofStem stem) m = .error e ∧ e.kind = .idGeneration) := by
  have hnumbers := numbers_candidate stem n
  refine ⟨_, hnumbers, ?_, ?_, ?_⟩
  · intro hfits
    rw [nth_source hstem, if_neg (Nat.not_lt.mpr hfits)]
    exact ⟨rfl, hnumbers.isObjectId hstem hfits⟩
  · intro hlong
    rw [nth_source hstem, if_pos hlong]
  · rintro ⟨e, hfails⟩ m hm
    have hlong : 50 < (⟨stem, n⟩ : SequentialIds).candidate.length := by
      by_contra hfits
      rw [nth_source hstem, if_neg hfits] at hfails
      cases hfails
    have hlonger : 50 < (⟨stem, m⟩ : SequentialIds).candidate.length := by
      have hdigits := digitCount_mono stem hm
      rw [hnumbers.length_eq] at hlong
      rw [(numbers_candidate stem m).length_eq]
      omega
    exact ⟨_, by rw [nth_source hstem, if_pos hlonger], rfl⟩

/-- A prefix that leaves room for three digits. -/
def fullStem : String := "handout:chapter-12:figures_and_tables:revision"

/-- The last id with three digits fits exactly, and all requests after it fail. -/
theorem isObjectId_or_fails_fullStem :
    isStem fullStem = true ∧ IsObjectId (fullStem ++ "_999") ∧
      source.nth (ofStem fullStem) 999 = .ok (fullStem ++ "_999") ∧
      ∀ m, 1000 ≤ m → ∃ e, source.nth (ofStem fullStem) m = .error e ∧ e.kind = .idGeneration := by
  have hstem : isStem fullStem = true := by decide +kernel
  have hlast : source.nth (ofStem fullStem) 999 = .ok (fullStem ++ "_999") := by
    rw [nth_source hstem]
    rfl
  have hnext : ∃ e, source.nth (ofStem fullStem) 1000 = .error e := by
    rw [nth_source hstem]
    exact ⟨_, rfl⟩
  obtain ⟨id, hnumbers, hfits, -, -⟩ := isObjectId_or_fails hstem 999
  obtain ⟨-, -, -, -, hever⟩ := isObjectId_or_fails hstem 1000
  have hlength : id.length = 50 := by
    rw [hnumbers.length_eq]
    decide +kernel
  obtain ⟨hgiven, hobject⟩ := hfits hlength.le
  obtain rfl := Except.ok.inj (hlast.symm.trans hgiven)
  exact ⟨hstem, hobject, hlast, hever hnext⟩

end SequentialIds

end SlideDeck

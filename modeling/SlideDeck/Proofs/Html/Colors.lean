/-
Which texts are colours.

A colour has three documented forms: three hexadecimal digits behind a number sign, each of which is
taken twice, six of them, and three decimal numbers as the arguments of a function.  The reader
takes these and no other texts, but for one form of its own: as a number may have a plus sign in
front of it, it takes a plus sign and a digit where two digits should be.

The text is in lower case when it comes to the reader, so the upper-case digits, which the reader
would take too, do not come up.
-/
import SlideDeck.Html.Css
import SlideDeck.Proofs.Text.Search

namespace SlideDeck.Html

open SlideDeck.Text

/-! ### The forms of a colour -/

/-- The hexadecimal digits in the order of their values. -/
def hexDigits : List Char := "0123456789abcdef".toList

/-- A channel as two hexadecimal digits. -/
def IsHexPair (c d : Char) (n : Nat) : Prop :=
  c ∈ hexDigits ∧ d ∈ hexDigits ∧ n = 16 * hexDigits.idxOf c + hexDigits.idxOf d

/-- A channel as a plus sign and a hexadecimal digit. -/
def IsSignedPair (c d : Char) (n : Nat) : Prop :=
  c = '+' ∧ d ∈ hexDigits ∧ n = hexDigits.idxOf d

/-- A channel as a decimal number. -/
structure IsDecimalChannel (digits : List Char) (n : Nat) : Prop where
  isDigit : ∀ c ∈ digits, c.isDigit = true
  length : 1 ≤ digits.length ∧ digits.length ≤ 3
  value : Nat.ofDigitChars 10 digits 0 = n
  byte : n ≤ 255

/-- A channel as an argument of a function, with white space around it or without. -/
def IsArgument (s : List Char) (n : Nat) : Prop :=
  ∃ lead digits trail, (∀ c ∈ lead, isBlank c = true) ∧ (∀ c ∈ trail, isBlank c = true) ∧
    IsDecimalChannel digits n ∧ s = lead ++ (digits ++ trail)

/-- A text is one of the documented forms of a colour with the given channels. -/
inductive WritesColor : List Char → Nat → Nat → Nat → Prop
  | short {c d e : Char} {r g b : Nat} (red : IsHexPair c c r) (green : IsHexPair d d g)
      (blue : IsHexPair e e b) : WritesColor ['#', c, d, e] r g b
  | long {c c' d d' e e' : Char} {r g b : Nat} (red : IsHexPair c c' r) (green : IsHexPair d d' g)
      (blue : IsHexPair e e' b) : WritesColor ['#', c, c', d, d', e, e'] r g b
  | function {red green blue : List Char} {r g b : Nat} (isRed : IsArgument red r)
      (isGreen : IsArgument green g) (isBlue : IsArgument blue b) :
      WritesColor ('r' :: 'g' :: 'b' :: '(' :: (red ++ ',' :: (green ++ ',' :: (blue ++ [')']))))
        r g b

/-- A text is the form of six digits with a plus sign in place of the first digit of some
channels. -/
def WritesSignedColor (s : List Char) (r g b : Nat) : Prop :=
  ∃ c c' d d' e e', s = ['#', c, c', d, d', e, e'] ∧ '+' ∈ s ∧
    (IsHexPair c c' r ∨ IsSignedPair c c' r) ∧ (IsHexPair d d' g ∨ IsSignedPair d d' g) ∧
    (IsHexPair e e' b ∨ IsSignedPair e e' b)

/-! ### Numbers -/

theorem numeral?_eq_some_iff {digit? : Char → Option Nat} {base n : Nat} {s : List Char} :
    numeral? digit? base s = some n ↔
      s ≠ [] ∧ (∀ c ∈ s, (digit? c).isSome = true) ∧ n = numeral digit? base s := by
  simp [numeral?, and_assoc, eq_comm (a := n)]

/-- The lower-case hexadecimal digits are those that have a value. -/
theorem hexDigit?_eq {c : Char} (hlower : c.isUpper = false) :
    hexDigit? c = if c ∈ hexDigits then some (hexDigits.idxOf c) else none := by
  have hsmall : ∀ k < 103, (Char.ofNat k).isUpper = false → hexDigit? (Char.ofNat k) =
      if Char.ofNat k ∈ hexDigits then some (hexDigits.idxOf (Char.ofNat k)) else none := by
    decide +kernel
  have hdigits : ∀ d ∈ hexDigits, d.toNat < 103 := by
    have hall : hexDigits.all (·.toNat < 103) = true := rfl
    simpa only [List.all_eq_true, decide_eq_true_eq] using hall
  rcases Nat.lt_or_ge c.toNat 103 with hlt | hge
  · have hc := hsmall c.toNat hlt
    rw [Char.ofNat_toNat] at hc
    exact hc hlower
  · have hmem : c ∉ hexDigits := fun hmem => absurd (hdigits c hmem) (Nat.not_lt.mpr hge)
    have hbeyond : ∀ d : Char, d.toNat < 103 → ¬c ≤ d := by
      intro d hd hle
      have hval : c.toNat ≤ d.toNat := hle
      omega
    rw [if_neg hmem, hexDigit?]
    simp [hbeyond]

theorem isSome_hexDigit?_iff {c : Char} (hlower : c.isUpper = false) :
    (hexDigit? c).isSome = true ↔ c ∈ hexDigits := by
  rw [hexDigit?_eq hlower]
  split <;> simp [*]

theorem getD_hexDigit? {c : Char} (hlower : c.isUpper = false) (hc : c ∈ hexDigits) :
    (hexDigit? c).getD 0 = hexDigits.idxOf c := by
  rw [hexDigit?_eq hlower, if_pos hc]
  rfl

theorem hexChannel?_plus (s : List Char) :
    hexChannel? ('+' :: s) = (numeral? hexDigit? 16 s).filter (· < 256) := rfl

theorem hexChannel?_cons {c : Char} (h : c ≠ '+') (s : List Char) :
    hexChannel? (c :: s) = (numeral? hexDigit? 16 (c :: s)).filter (· < 256) := by
  unfold hexChannel? boundedNumeral?
  split
  · rename_i heq
    exact absurd (List.cons.inj heq).1 h
  · rfl

/-- Two characters are a channel if they are two digits, or a plus sign and a digit. -/
theorem hexChannel?_pair {c d : Char} (hc : c.isUpper = false) (hd : d.isUpper = false) {n : Nat} :
    hexChannel? [c, d] = some n ↔ IsHexPair c d n ∨ IsSignedPair c d n := by
  have hbyte : ∀ x ∈ hexDigits, hexDigits.idxOf x < 16 := fun x hx =>
    List.idxOf_lt_length_iff.mpr hx
  by_cases hsign : c = '+'
  · subst hsign
    have hplus : '+' ∉ hexDigits := by decide
    have hread : numeral? hexDigit? 16 [d] = some n ↔ d ∈ hexDigits ∧ n = hexDigits.idxOf d := by
      simp only [numeral?_eq_some_iff, numeral, List.forall_mem_singleton, List.foldl_cons,
        List.foldl_nil, isSome_hexDigit?_iff hd]
      constructor
      · rintro ⟨-, hmem, rfl⟩
        simp [getD_hexDigit? hd hmem, hmem]
      · rintro ⟨hmem, rfl⟩
        simp [getD_hexDigit? hd hmem, hmem]
    simp only [hexChannel?_plus, Option.filter_eq_some_iff, hread, decide_eq_true_eq, IsHexPair,
      IsSignedPair, hplus, false_and, false_or, true_and]
    refine and_iff_left_of_imp ?_
    rintro ⟨hmem, rfl⟩
    have hlt := hbyte d hmem
    omega
  · have hread : numeral? hexDigit? 16 [c, d] = some n ↔ IsHexPair c d n := by
      simp only [numeral?_eq_some_iff, numeral, List.forall_mem_cons, List.foldl_cons,
        List.foldl_nil, isSome_hexDigit?_iff hc, isSome_hexDigit?_iff hd, IsHexPair]
      constructor
      · rintro ⟨-, ⟨hmem, hmem', -⟩, rfl⟩
        simp [getD_hexDigit? hc hmem, getD_hexDigit? hd hmem', hmem, hmem', Nat.mul_comm]
      · rintro ⟨hmem, hmem', rfl⟩
        simp [getD_hexDigit? hc hmem, getD_hexDigit? hd hmem', hmem, hmem', Nat.mul_comm]
    simp only [hexChannel?_cons hsign, Option.filter_eq_some_iff, hread, decide_eq_true_eq,
      IsSignedPair, hsign, false_and, or_false]
    refine and_iff_left_of_imp ?_
    rintro ⟨hmem, hmem', rfl⟩
    have hlt := hbyte c hmem
    have hlt' := hbyte d hmem'
    omega

/-- The decimal digits are those that have a value. -/
theorem decimalDigit?_eq (c : Char) :
    decimalDigit? c = if c.isDigit then some (c.toNat - '0'.toNat) else none := by
  unfold decimalDigit? Char.isDigit
  rfl

theorem numeral_decimalDigit? {digits : List Char} (h : ∀ c ∈ digits, c.isDigit = true) :
    numeral decimalDigit? 10 digits = Nat.ofDigitChars 10 digits 0 := by
  refine List.foldl_ext _ _ 0 fun n c hc => ?_
  rw [decimalDigit?_eq, if_pos (h c hc), Nat.mul_comm]
  rfl

/-! ### Arguments -/

/-- No digit is white space. -/
theorem isBlank_of_isDigit {c : Char} (h : c.isDigit = true) : isBlank c = false := by
  obtain ⟨hlow, hhigh⟩ := Bool.and_eq_true_iff.mp h
  have hrange : 48 ≤ c.toNat ∧ c.toNat ≤ 57 := ⟨of_decide_eq_true hlow, of_decide_eq_true hhigh⟩
  simp [isBlank]
  omega

theorem decimalChannel?_eq_some_iff {s : List Char} {n : Nat} :
    decimalChannel? s = some n ↔ IsArgument s n := by
  have hread : ∀ digits, numeral? decimalDigit? 10 digits = some n ↔
      digits ≠ [] ∧ (∀ c ∈ digits, c.isDigit = true) ∧ n = Nat.ofDigitChars 10 digits 0 := by
    intro digits
    rw [numeral?_eq_some_iff]
    have hdigit : ∀ c, (decimalDigit? c).isSome = true ↔ c.isDigit = true := by
      intro c
      rw [decimalDigit?_eq]
      split <;> simp [*]
    simp only [hdigit]
    refine and_congr_right fun _ => and_congr_right fun hall => ?_
    rw [numeral_decimalDigit? hall]
  unfold decimalChannel?
  simp only
  constructor
  · intro h
    split at h
    · rename_i hlength
      obtain ⟨hnumeral, hbyte⟩ := Option.filter_eq_some_iff.mp h
      obtain ⟨hne, hall, hvalue⟩ := (hread _).mp hnumeral
      obtain ⟨lead, trail, hlead, htrail, hs⟩ := exists_eq_append_trim s
      have hpos := List.length_pos_iff.mpr hne
      have hlt := of_decide_eq_true hbyte
      exact ⟨lead, trim s, trail, hlead, htrail, ⟨hall, ⟨hpos, hlength⟩, hvalue.symm, by omega⟩, hs⟩
    · cases h
  · rintro ⟨lead, digits, trail, hlead, htrail, hchannel, rfl⟩
    have hne : digits ≠ [] := List.length_pos_iff.mp hchannel.length.1
    have htrim := trim_append hlead htrail hne fun c hc =>
      isBlank_of_isDigit (hchannel.isDigit c hc)
    have hbyte := hchannel.byte
    rw [htrim, if_pos hchannel.length.2, (hread digits).mpr ⟨hne, hchannel.isDigit,
      hchannel.value.symm⟩]
    exact Option.filter_eq_some_iff.mpr ⟨rfl, decide_eq_true (by omega)⟩

/-- No mark of the function is part of an argument. -/
theorem IsArgument.mark_notMem {s : List Char} {n : Nat} (h : IsArgument s n) {mark : Char}
    (hblank : isBlank mark = false) (hdigit : mark.isDigit = false) : mark ∉ s := by
  obtain ⟨lead, digits, trail, hlead, htrail, hchannel, rfl⟩ := h
  simp only [List.mem_append, not_or]
  refine ⟨fun hmem => ?_, fun hmem => ?_, fun hmem => ?_⟩
  · rw [hlead _ hmem] at hblank
    cases hblank
  · rw [hchannel.isDigit _ hmem] at hdigit
    cases hdigit
  · rw [htrail _ hmem] at hblank
    cases hblank

theorem functionColor?_eq_some_iff {s : List Char} {color : RgbColor} :
    functionColor? s = some color ↔ ∃ red green blue r g b, IsArgument red r ∧
      IsArgument green g ∧ IsArgument blue b ∧
      s = red ++ ',' :: (green ++ ',' :: (blue ++ [')'])) ∧ color = RgbColor.ofBytes r g b := by
  unfold functionColor?
  constructor
  · intro h
    simp only [Option.bind_eq_bind, Option.bind_eq_some_iff, Prod.exists] at h
    obtain ⟨red, rest, hred, green, rest', hgreen, blue, rest'', hblue, h⟩ := h
    split at h
    · rename_i hempty
      simp only [Option.bind_eq_some_iff, Option.some.injEq] at h
      obtain ⟨r, hr, g, hg, b, hb, rfl⟩ := h
      refine ⟨red, green, blue, r, g, b, decimalChannel?_eq_some_iff.mp hr,
        decimalChannel?_eq_some_iff.mp hg, decimalChannel?_eq_some_iff.mp hb, ?_, rfl⟩
      rw [splitAt?_eq_some hred, splitAt?_eq_some hgreen, splitAt?_eq_some hblue,
        List.isEmpty_iff.mp hempty]
      rfl
    · cases h
  · rintro ⟨red, green, blue, r, g, b, hr, hg, hb, rfl, rfl⟩
    have hred : ',' ∉ red := hr.mark_notMem (by decide) (by decide)
    have hgreen : ',' ∉ green := hg.mark_notMem (by decide) (by decide)
    have hblue : ')' ∉ blue := hb.mark_notMem (by decide) (by decide)
    simp [splitAt?_mark hred, splitAt?_mark hgreen, splitAt?_mark hblue [],
      decimalChannel?_eq_some_iff.mpr hr, decimalChannel?_eq_some_iff.mpr hg,
      decimalChannel?_eq_some_iff.mpr hb]

/-! ### Colours -/

variable {s : List Char} {color : RgbColor} {r g b : Nat}

/-- No letter of a text in lower case is upper-case. -/
theorem isUpper_of_mem_asciiLower {c : Char} (h : c ∈ asciiLower s) : c.isUpper = false := by
  obtain ⟨d, -, rfl⟩ := List.mem_map.mp h
  by_cases hupper : d.isUpper = true
  · have hletters : ∀ k ≤ 90, (Char.ofNat k).toLower.isUpper = false := by decide +kernel
    have hd := hletters d.toNat (of_decide_eq_true hupper).2
    rwa [Char.ofNat_toNat] at hd
  · have hsame : d.toLower = d := dif_neg fun hrange => hupper (decide_eq_true hrange)
    rw [hsame]
    exact Bool.eq_false_iff.mpr hupper

/-- Without a plus sign two characters are a channel if they are two digits. -/
theorem isHexPair_of_ne {c d : Char} {n : Nat} (h : IsHexPair c d n ∨ IsSignedPair c d n)
    (hc : c ≠ '+') : IsHexPair c d n := h.resolve_right fun hsigned => hc hsigned.1

theorem hexColor?_eq_some_iff (hlower : ∀ c ∈ s, c.isUpper = false) :
    hexColor? s = some color ↔ ∃ r g b,
      (WritesColor ('#' :: s) r g b ∨ WritesSignedColor ('#' :: s) r g b) ∧
        color = RgbColor.ofBytes r g b := by
  have htwice : ∀ {c : Char} {n : Nat}, IsHexPair c c n ∨ IsSignedPair c c n ↔ IsHexPair c c n := by
    intro c n
    refine or_iff_left ?_
    rintro ⟨rfl, hdigit, -⟩
    exact absurd hdigit (by decide)
  constructor
  · intro h
    unfold hexColor? at h
    split at h
    · rename_i c d e
      simp only [List.forall_mem_cons] at hlower
      obtain ⟨hc, hd, he, -⟩ := hlower
      simp only [Option.bind_eq_bind, Option.bind_eq_some_iff, Option.some.injEq,
        hexChannel?_pair hc hc, hexChannel?_pair hd hd, hexChannel?_pair he he, htwice] at h
      obtain ⟨r, hr, g, hg, b, hb, rfl⟩ := h
      exact ⟨r, g, b, .inl (.short hr hg hb), rfl⟩
    · rename_i c c' d d' e e'
      simp only [List.forall_mem_cons] at hlower
      obtain ⟨hc, hc', hd, hd', he, he', -⟩ := hlower
      simp only [Option.bind_eq_bind, Option.bind_eq_some_iff, Option.some.injEq,
        hexChannel?_pair hc hc', hexChannel?_pair hd hd', hexChannel?_pair he he'] at h
      obtain ⟨r, hr, g, hg, b, hb, rfl⟩ := h
      refine ⟨r, g, b, ?_, rfl⟩
      by_cases hplus : '+' ∈ ['#', c, c', d, d', e, e']
      · exact .inr ⟨c, c', d, d', e, e', rfl, hplus, hr, hg, hb⟩
      · simp only [List.mem_cons, not_or] at hplus
        obtain ⟨-, hc, -, hd, -, he, -⟩ := hplus
        exact .inl (.long (isHexPair_of_ne hr (Ne.symm hc)) (isHexPair_of_ne hg (Ne.symm hd))
          (isHexPair_of_ne hb (Ne.symm he)))
    · cases h
  · rintro ⟨r, g, b, hwrites | ⟨c, c', d, d', e, e', heq, -, hr, hg, hb⟩, rfl⟩
    · cases hwrites with
      | short hr hg hb =>
          simp only [List.forall_mem_cons] at hlower
          obtain ⟨hc, hd, he, -⟩ := hlower
          simp [hexColor?, (hexChannel?_pair hc hc).mpr (.inl hr),
            (hexChannel?_pair hd hd).mpr (.inl hg), (hexChannel?_pair he he).mpr (.inl hb)]
      | long hr hg hb =>
          simp only [List.forall_mem_cons] at hlower
          obtain ⟨hc, hc', hd, hd', he, he', -⟩ := hlower
          simp [hexColor?, (hexChannel?_pair hc hc').mpr (.inl hr),
            (hexChannel?_pair hd hd').mpr (.inl hg), (hexChannel?_pair he he').mpr (.inl hb)]
    · obtain rfl := (List.cons.inj heq).2
      simp only [List.forall_mem_cons] at hlower
      obtain ⟨hc, hc', hd, hd', he, he', -⟩ := hlower
      simp [hexColor?, (hexChannel?_pair hc hc').mpr hr, (hexChannel?_pair hd hd').mpr hg,
        (hexChannel?_pair he he').mpr hb]

theorem color?_eq_some_iff (hlower : ∀ c ∈ s, c.isUpper = false) :
    color? s = some color ↔ ∃ r g b, (WritesColor s r g b ∨ WritesSignedColor s r g b) ∧
      color = RgbColor.ofBytes r g b := by
  unfold color?
  split
  · exact hexColor?_eq_some_iff fun c hc => hlower c (List.mem_cons_of_mem _ hc)
  · rename_i hsign
    simp only [Option.bind_eq_bind, Option.bind_eq_some_iff, functionColor?_eq_some_iff]
    constructor
    · rintro ⟨rest, hlead, red, green, blue, r, g, b, hr, hg, hb, rfl, rfl⟩
      rw [dropLead?_eq_some hlead]
      exact ⟨r, g, b, .inl (.function hr hg hb), rfl⟩
    · rintro ⟨r, g, b, hwrites | ⟨c, c', d, d', e, e', rfl, -⟩, rfl⟩
      · cases hwrites with
        | short => exact absurd rfl (hsign _)
        | long => exact absurd rfl (hsign _)
        | function hr hg hb =>
            exact ⟨_, dropLead?_append "rgb(".toList _, _, _, _, _, _, _, hr, hg, hb, rfl, rfl⟩
      · exact absurd rfl (hsign _)

/-- The form with plus signs is none of the documented forms. -/
theorem not_writesColor_of_signed (h : WritesSignedColor s r g b) (r' g' b' : Nat) :
    ¬WritesColor s r' g' b' := by
  have hplus : '+' ∉ hexDigits := by decide
  obtain ⟨c, c', d, d', e, e', rfl, hmem, -⟩ := h
  intro hwrites
  cases hwrites with
  | long red green blue =>
      simp only [List.mem_cons, List.not_mem_nil, or_false] at hmem
      rcases hmem with hmem | rfl | rfl | rfl | rfl | rfl | rfl
      · cases hmem
      · exact hplus red.1
      · exact hplus red.2.1
      · exact hplus green.1
      · exact hplus green.2.1
      · exact hplus blue.1
      · exact hplus blue.2.1

/--
**A text is a colour if it has a documented form, or that of six digits with plus signs.**  A text
in lower case is read as a colour exactly if it is three or six hexadecimal digits behind a number
sign, the function of three decimal numbers, or six characters behind a number sign where a plus
sign stands for the first digit of some channels; the colour has the channels that the form writes.
So the documented forms are all there is exactly for the texts that are not of the last kind.
-/
theorem color?_asciiLower (s : List Char) :
    (∀ color, color? (asciiLower s) = some color ↔
      ∃ r g b, (WritesColor (asciiLower s) r g b ∨ WritesSignedColor (asciiLower s) r g b) ∧
        color = RgbColor.ofBytes r g b) ∧
    ((∀ color, color? (asciiLower s) = some color ↔
      ∃ r g b, WritesColor (asciiLower s) r g b ∧ color = RgbColor.ofBytes r g b) ↔
        ∀ r g b, ¬WritesSignedColor (asciiLower s) r g b) := by
  have hread : ∀ color, color? (asciiLower s) = some color ↔
      ∃ r g b, (WritesColor (asciiLower s) r g b ∨ WritesSignedColor (asciiLower s) r g b) ∧
        color = RgbColor.ofBytes r g b := fun _ =>
    color?_eq_some_iff fun _ => isUpper_of_mem_asciiLower
  refine ⟨hread, fun hdocumented r g b hsigned => ?_, fun hunsigned color => ?_⟩
  · have hcolor := (hread _).mpr ⟨r, g, b, .inr hsigned, rfl⟩
    obtain ⟨r', g', b', hwrites, -⟩ := (hdocumented _).mp hcolor
    exact not_writesColor_of_signed hsigned r' g' b' hwrites
  · rw [hread]
    simp only [hunsigned, or_false]

/-- A plus sign is no hexadecimal digit, and yet it may stand for one. -/
theorem signedColor_not_refused :
    ¬∀ color, color? (asciiLower "#+1+2+3".toList) = some color ↔
      ∃ r g b, WritesColor (asciiLower "#+1+2+3".toList) r g b ∧
        color = RgbColor.ofBytes r g b := by
  have hlower : asciiLower "#+1+2+3".toList = ['#', '+', '1', '+', '2', '+', '3'] := by decide
  have hread : color? ['#', '+', '1', '+', '2', '+', '3'] = some (RgbColor.ofBytes 1 2 3) := rfl
  rw [hlower]
  intro hdocumented
  obtain ⟨r, g, b, hwrites, -⟩ := (hdocumented _).mp hread
  cases hwrites with
  | long red green blue => exact absurd red.1 (by decide)

end SlideDeck.Html

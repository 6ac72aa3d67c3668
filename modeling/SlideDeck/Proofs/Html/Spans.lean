/-
Which attribute of a span styles it.

A span is written with attributes, each of which is a name and a value in quotation marks.  The
reader does not read these one after the other; it looks for the first place, outside of words,
where a style attribute begins.  A hyphen ends a word and quotation marks mean nothing to it, so
there are two kinds of places that are no style attributes: an attribute whose name ends in `style`
behind a hyphen, and a value in which something like a style attribute stands.  An attribute in
front of the style attribute with such a place misleads the reader.

Only a word character begins the name, so the scan goes past all others without a look.  What it
does with one attribute is known from its name and its value, and with all of them by an induction
on their list.
-/
import Mathlib.Data.List.Forall2
import SlideDeck.Proofs.Html.Elements

namespace SlideDeck.InlineHtml

open SlideDeck.Text SlideDeck.Html

/-! ### Style attributes -/

/-- Whether a name is `style`, in whatever case its letters are.  The long `s` is a lower-case `S`
too. -/
def isStyleName : List Char → Bool
  | [s, t, y, l, e] =>
    ['s', 'S', 'ſ'].contains s && ['t', 'T'].contains t && ['y', 'Y'].contains y &&
      ['l', 'L'].contains l && ['e', 'E'].contains e
  | _ => false

/-- A name is another one that ends in `style` behind a hyphen. -/
def HasStyleSuffix (name : List Char) : Prop :=
  ∃ front part, name = front ++ '-' :: part ∧ isStyleName part = true

/-- A text begins like a style attribute with a given value. -/
def BeginsStyle (s css : List Char) : Prop :=
  ∃ name gap gap' quote behind, isStyleName name = true ∧ (∀ c ∈ gap, isBlank c = true) ∧
    (∀ c ∈ gap', isBlank c = true) ∧ isQuote quote = true ∧ quote ∉ css ∧
    s = name ++ (gap ++ '=' :: (gap' ++ quote :: (css ++ quote :: behind)))

/-- At the first place in a text where a style attribute seems to begin, outside of words, it has a
given value.  More text follows, and the flag says whether a word character stands in front. -/
inductive Seems (behind : List Char) : Bool → List Char → List Char → Prop
  | here {c : Char} {s css : List Char} (begins : BeginsStyle (c :: (s ++ behind)) css) :
      Seems behind false (c :: s) css
  | later {afterWord : Bool} {c : Char} {s css : List Char}
      (nothing : afterWord = true ∨ ∀ css', ¬BeginsStyle (c :: (s ++ behind)) css')
      (rest : Seems behind (isWord c) s css) : Seems behind afterWord (c :: s) css

/-! ### Spans -/

/-- An attribute of a tag: white space, a name, an equals sign and a value in quotation marks. -/
structure TagAttribute where
  gap : List Char
  name : List Char
  quote : Char
  value : List Char
  gap_ne_nil : gap ≠ []
  isBlank_gap : ∀ c ∈ gap, isBlank c = true
  isNameChar_name : ∀ c ∈ name, Attributes.isNameChar c = true
  isQuote_quote : isQuote quote = true
  quote_notMem_value : quote ∉ value
  bracket_notMem_value : '>' ∉ value

namespace TagAttribute

/-- The attribute as it is written. -/
def written (a : TagAttribute) : List Char :=
  a.gap ++ (a.name ++ '=' :: a.quote :: (a.value ++ [a.quote]))

/-- Whether the attribute is the style attribute. -/
def isStyle (a : TagAttribute) : Bool := isStyleName a.name

/-- An attribute that is not the style attribute misleads the reader to a value, given the text
behind it: to its own one by its name, or to what seems to be one in its value. -/
inductive Misleads (a : TagAttribute) (behind : List Char) : List Char → Prop
  | name (suffix : HasStyleSuffix a.name) : a.Misleads behind a.value
  | value {css : List Char} (plain : ¬HasStyleSuffix a.name)
      (seems : Seems (a.quote :: behind) false a.value css) : a.Misleads behind css

end TagAttribute

/-- The tag that opens a span. -/
structure SpanTag where
  attributes : List TagAttribute
  gap : List Char
  isBlank_gap : ∀ c ∈ gap, isBlank c = true

/-- What stands behind the name of a tag: some attributes and white space. -/
def writtenAll (as : List TagAttribute) (gap : List Char) : List Char :=
  as.flatMap TagAttribute.written ++ gap

/-- An attribute in front of the style attribute misleads the reader, and the first one that does so
misleads it to a given value. -/
inductive Misled (gap : List Char) : List TagAttribute → List Char → Prop
  | here {a : TagAttribute} {as : List TagAttribute} {css : List Char} (other : a.isStyle = false)
      (misleads : a.Misleads (writtenAll as gap) css) : Misled gap (a :: as) css
  | later {a : TagAttribute} {as : List TagAttribute} {css : List Char} (other : a.isStyle = false)
      (nothing : ∀ css', ¬a.Misleads (writtenAll as gap) css') (rest : Misled gap as css) :
      Misled gap (a :: as) css

namespace SpanTag

/-- The tag as it is written. -/
def written (t : SpanTag) : String :=
  String.ofList (['<', 's', 'p', 'a', 'n'] ++ (writtenAll t.attributes t.gap ++ ['>']))

/-- The style that the first style attribute gives. -/
def style (t : SpanTag) : TextStyle :=
  match t.attributes.find? TagAttribute.isStyle with
  | none => TextStyle.empty
  | some a => styleOfCss (String.ofList a.value)

/-- The tag is taken for the opening of a span with a given style. -/
def Opens (t : SpanTag) (style : TextStyle) : Prop :=
  (parse t.written).outcome = .ok (.opening "span" style)

end SpanTag

/-! ### Letters -/

/-- A lower-case letter is the lower case of itself and of its upper case alone. -/
theorem toLower_beq {letter : Char} (h : letter.isLower = true) (c : Char) :
    (c.toLower == letter) = [letter, letter.toUpper].contains c := by
  have hcodes : ∀ k < 128,
      (Char.ofNat k).toLower.toNat = (if 65 ≤ k ∧ k ≤ 90 then k + 32 else k) ∧
      (Char.ofNat k).toUpper.toNat = if 97 ≤ k ∧ k ≤ 122 then k - 32 else k := by decide +kernel
  have hletter : 97 ≤ letter.toNat ∧ letter.toNat ≤ 122 := by
    obtain ⟨hlow, hhigh⟩ := Bool.and_eq_true_iff.mp h
    exact ⟨of_decide_eq_true hlow, of_decide_eq_true hhigh⟩
  have hupper : letter.toUpper.toNat = letter.toNat - 32 := by
    obtain ⟨-, hcode⟩ := hcodes letter.toNat (by omega)
    rwa [Char.ofNat_toNat, if_pos hletter] at hcode
  have hlower : c.toLower.toNat =
      if 65 ≤ c.toNat ∧ c.toNat ≤ 90 then c.toNat + 32 else c.toNat := by
    rcases Nat.lt_or_ge c.toNat 128 with hlt | hge
    · obtain ⟨hcode, -⟩ := hcodes c.toNat hlt
      rwa [Char.ofNat_toNat] at hcode
    · have hsame : c.toLower = c := dif_neg fun hrange => by
        have hhigh : c.toNat ≤ 90 := hrange.2
        omega
      rw [hsame, if_neg (by omega)]
  rw [Bool.eq_iff_iff]
  simp only [beq_iff_eq, List.contains_iff_mem, List.mem_cons, List.not_mem_nil, or_false,
    ← Char.toNat_inj, hlower, hupper]
  split <;> omega

/-- A name is in front of the rest of a text if each of its letters is, in either case. -/
theorem afterName?_eq_some_iff {letters s rest : List Char} : afterName? letters s = some rest ↔
    ∃ name, List.Forall₂ (fun l c => isLetter l c = true) letters name ∧ s = name ++ rest := by
  induction letters generalizing s with
  | nil => simp [afterName?]
  | cons l letters ih =>
      cases s with
      | nil => simp [afterName?, List.forall₂_cons_left_iff]
      | cons c s =>
          rw [afterName?]
          constructor
          · intro h
            split at h
            · rename_i hletter
              obtain ⟨name, hname, rfl⟩ := ih.mp h
              exact ⟨c :: name, .cons hletter hname, rfl⟩
            · cases h
          · rintro ⟨_, _ | ⟨hletter, hname⟩, heq⟩
            obtain ⟨rfl, rfl⟩ := List.cons.inj heq
            rw [if_pos hletter]
            exact ih.mpr ⟨_, hname, rfl⟩

/-- The letters of `style` in either case. -/
theorem forall₂_isLetter_iff {name : List Char} :
    List.Forall₂ (fun l c => isLetter l c = true) "style".toList name ↔
      isStyleName name = true := by
  have hletter : ∀ {letter : Char}, letter.isLower = true → letter ≠ 's' → ∀ c,
      isLetter letter c = [letter, letter.toUpper].contains c := by
    intro letter hlower hs c
    rw [isLetter, toLower_beq hlower, beq_eq_false_iff_ne.mpr hs]
    simp
  have hs : ∀ c, isLetter 's' c = ['s', 'S', 'ſ'].contains c := by
    intro c
    rw [isLetter, toLower_beq (by decide), Bool.eq_iff_iff]
    simp [or_assoc]
  have ht : ∀ c, isLetter 't' c = ['t', 'T'].contains c := hletter (by decide) (by decide)
  have hy : ∀ c, isLetter 'y' c = ['y', 'Y'].contains c := hletter (by decide) (by decide)
  have hl : ∀ c, isLetter 'l' c = ['l', 'L'].contains c := hletter (by decide) (by decide)
  have he : ∀ c, isLetter 'e' c = ['e', 'E'].contains c := hletter (by decide) (by decide)
  have hletters : "style".toList = ['s', 't', 'y', 'l', 'e'] := by decide
  rw [hletters]
  constructor
  · rintro (_ | ⟨h₁, _ | ⟨h₂, _ | ⟨h₃, _ | ⟨h₄, _ | ⟨h₅, _ | _⟩⟩⟩⟩⟩)
    simp only [isStyleName, ← hs, ← ht, ← hy, ← hl, ← he, h₁, h₂, h₃, h₄, h₅, Bool.and_self]
  · intro h
    match name with
    | [_, _, _, _, _] =>
        simp only [isStyleName, ← hs, ← ht, ← hy, ← hl, ← he, Bool.and_eq_true] at h
        obtain ⟨⟨⟨⟨h₁, h₂⟩, h₃⟩, h₄⟩, h₅⟩ := h
        exact .cons h₁ (.cons h₂ (.cons h₃ (.cons h₄ (.cons h₅ .nil))))

/-- A name is made of word characters. -/
theorem isWord_of_isStyleName {name : List Char} (h : isStyleName name = true) :
    ∀ c ∈ name, isWord c = true := by
  have hletters : ∀ letters ∈ [['s', 'S', 'ſ'], ['t', 'T'], ['y', 'Y'], ['l', 'L'], ['e', 'E']],
      letters.all isWord = true := by decide +kernel
  match name with
  | [_, _, _, _, _] =>
      simp only [isStyleName, Bool.and_eq_true, List.contains_iff_mem] at h
      obtain ⟨⟨⟨⟨hs, ht⟩, hy⟩, hl⟩, he⟩ := h
      simp only [List.mem_cons, List.not_mem_nil, or_false]
      rintro c (rfl | rfl | rfl | rfl | rfl)
      · exact List.all_eq_true.mp (hletters ['s', 'S', 'ſ'] (by decide)) _ hs
      · exact List.all_eq_true.mp (hletters ['t', 'T'] (by decide)) _ ht
      · exact List.all_eq_true.mp (hletters ['y', 'Y'] (by decide)) _ hy
      · exact List.all_eq_true.mp (hletters ['l', 'L'] (by decide)) _ hl
      · exact List.all_eq_true.mp (hletters ['e', 'E'] (by decide)) _ he

/-! ### Where a style attribute begins -/

theorem eq_of_isQuote {c : Char} (h : isQuote c = true) : c = '"' ∨ c = '\'' := by
  simpa [isQuote] using h

/-- A quotation mark is neither white space nor a word character. -/
theorem isBlank_of_isQuote {c : Char} (h : isQuote c = true) : isBlank c = false := by
  rcases eq_of_isQuote h with rfl | rfl <;> decide

theorem isWord_of_isQuote {c : Char} (h : isQuote c = true) : isWord c = false := by
  rcases eq_of_isQuote h with rfl | rfl <;> decide

/-- The reader finds a value at the start of a text exactly if it begins like a style attribute with
that value. -/
theorem styleValueHere?_eq_some_iff {s css : List Char} :
    styleValueHere? s = some css ↔ BeginsStyle s css := by
  constructor
  · intro h
    obtain ⟨rest, hafter, hrest⟩ := Option.bind_eq_some_iff.mp h
    obtain ⟨name, hletters, rfl⟩ := afterName?_eq_some_iff.mp hafter
    have hname := forall₂_isLetter_iff.mp hletters
    obtain ⟨gap, hgap, hspace⟩ := exists_eq_append_trimStart rest
    have hquoted : ∀ quote rest' value, isQuote quote = true → trimStart rest = '=' :: rest' →
        trimStart rest' = quote :: value → (splitAt? [quote] value).map (·.1) = some css →
        BeginsStyle (name ++ rest) css := by
      intro quote rest' value hquote hequals hvalue hmap
      obtain ⟨⟨before, behind⟩, hsplit, rfl⟩ := Option.map_eq_some_iff.mp hmap
      obtain ⟨gap', hgap', hspace'⟩ := exists_eq_append_trimStart rest'
      have hnot : quote ∉ before := by
        rw [← List.singleton_infix_iff]
        exact not_isInfix_of_splitAt? (List.cons_ne_nil _ _) hsplit
      refine ⟨name, gap, gap', quote, behind, hname, hgap, hgap', hquote, hnot, ?_⟩
      rw [hspace, hequals, hspace', hvalue, splitAt?_eq_some hsplit]
      simp
    clear h
    split at hrest
    · rename_i rest' hequals
      split at hrest
      · exact hquoted _ rest' _ rfl hequals ‹_› hrest
      · exact hquoted _ rest' _ rfl hequals ‹_› hrest
      · cases hrest
    · cases hrest
  · rintro ⟨name, gap, gap', quote, behind, hname, hgap, hgap', hquote, hcss, rfl⟩
    have hletters := forall₂_isLetter_iff.mpr hname
    have hafter := afterName?_eq_some_iff.mpr ⟨name, hletters,
      Eq.refl (name ++ (gap ++ '=' :: (gap' ++ quote :: (css ++ quote :: behind))))⟩
    have hequals : trimStart (gap ++ '=' :: (gap' ++ quote :: (css ++ quote :: behind))) =
        '=' :: (gap' ++ quote :: (css ++ quote :: behind)) :=
      trimStart_append hgap (by simp [isBlank])
    have hvalue : trimStart (gap' ++ quote :: (css ++ quote :: behind)) =
        quote :: (css ++ quote :: behind) :=
      trimStart_append hgap' (by simp [isBlank_of_isQuote hquote])
    have hsplit := splitAt?_mark hcss behind
    rcases eq_of_isQuote hquote with rfl | rfl <;>
      simp only [styleValueHere?, hafter, hequals, hvalue, hsplit, Option.bind_eq_bind,
        Option.bind_some, Option.map_some]

theorem styleValue?_of_begins {c : Char} {s css : List Char} (h : BeginsStyle (c :: s) css) :
    styleValue? false (c :: s) = some css := by
  rw [styleValue?, if_neg Bool.false_ne_true, styleValueHere?_eq_some_iff.mpr h]

/-- Where no style attribute begins, or only within a word, the reader goes on. -/
theorem styleValue?_of_not_begins {afterWord : Bool} {c : Char} {s : List Char}
    (h : afterWord = true ∨ ∀ css, ¬BeginsStyle (c :: s) css) :
    styleValue? afterWord (c :: s) = styleValue? (isWord c) s := by
  have hnone : (if afterWord then none else styleValueHere? (c :: s)) = none := by
    rcases h with rfl | hnothing
    · rfl
    · rw [ite_eq_left_iff]
      intro _
      rw [Option.eq_none_iff_forall_ne_some]
      exact fun css hfound => hnothing css (styleValueHere?_eq_some_iff.mp hfound)
  rw [styleValue?, hnone]

/-- The name of a style attribute begins with a word character, so nothing else needs a look. -/
theorem styleValue?_of_not_isWord {c : Char} (h : isWord c = false) (afterWord : Bool)
    (s : List Char) : styleValue? afterWord (c :: s) = styleValue? false s := by
  have hnothing : ∀ css, ¬BeginsStyle (c :: s) css := by
    rintro css ⟨name, _, _, _, _, hname, -, -, -, -, heq⟩
    cases name with
    | nil => cases hname
    | cons d name =>
        obtain rfl : c = d := (List.cons.inj heq).1
        rw [isWord_of_isStyleName hname c (List.mem_cons_self ..)] at h
        cases h
  rw [styleValue?_of_not_begins (.inr hnothing), h]

theorem styleValue?_blanks {gap : List Char} (h : ∀ c ∈ gap, isBlank c = true) (s : List Char) :
    styleValue? false (gap ++ s) = styleValue? false s := by
  induction gap with
  | nil => rfl
  | cons c gap ih =>
      have hword := Tag.isWord_eq_false (.inl (h c (List.mem_cons_self ..)))
      rw [List.cons_append, styleValue?_of_not_isWord hword,
        ih fun d hd => h d (List.mem_cons_of_mem c hd)]

/-! ### Values -/

section Values

variable {behind s css : List Char} {afterWord : Bool}

/-- The reader takes the value of what seems to be a style attribute. -/
theorem Seems.styleValue?_append (h : Seems behind afterWord s css) :
    styleValue? afterWord (s ++ behind) = some css := by
  induction h with
  | here begins => exact styleValue?_of_begins begins
  | later nothing _ ih => exact (styleValue?_of_not_begins nothing).trans ih

/-- Where none seems to begin in a text, the reader comes to what is behind it. -/
theorem exists_styleValue?_append (h : ∀ css, ¬Seems behind afterWord s css) :
    ∃ afterWord', styleValue? afterWord (s ++ behind) = styleValue? afterWord' behind := by
  induction s generalizing afterWord with
  | nil => exact ⟨afterWord, rfl⟩
  | cons c s ih =>
      have hnothing : afterWord = true ∨ ∀ css, ¬BeginsStyle (c :: (s ++ behind)) css := by
        cases afterWord with
        | true => exact .inl rfl
        | false => exact .inr fun css begins => h css (.here begins)
      obtain ⟨afterWord', hs⟩ := ih fun css rest => h css (.later hnothing rest)
      exact ⟨afterWord', (styleValue?_of_not_begins hnothing).trans hs⟩

end Values

/-! ### Names -/

section Names

variable {name value : List Char} {quote : Char}

/-- A name with a value behind it begins like a style attribute exactly if it is the name of one. -/
theorem beginsStyle_name_iff (hname : ∀ c ∈ name, Attributes.isNameChar c = true)
    (hquote : isQuote quote = true) (hvalue : quote ∉ value) (behind css : List Char) :
    BeginsStyle (name ++ '=' :: quote :: (value ++ quote :: behind)) css ↔
      isStyleName name = true ∧ css = value := by
  constructor
  · rintro ⟨name', gap, gap', quote', behind', hname', hgap, hgap', hquote', hcss, heq⟩
    have hequals : '=' ∉ name := fun hmem => absurd (hname _ hmem) (by decide)
    have hequals' : '=' ∉ name' ++ gap := by
      rw [List.mem_append, not_or]
      exact ⟨fun hmem => absurd (isWord_of_isStyleName hname' _ hmem) (by decide),
        fun hmem => absurd (hgap _ hmem) (by decide)⟩
    rw [← List.append_assoc] at heq
    obtain ⟨rfl, hvalues⟩ := eq_of_append_mark hequals hequals' heq
    -- White space is neither part of a name nor a quotation mark.
    have hnone : gap = [] := by
      rw [List.eq_nil_iff_forall_not_mem]
      intro c hc
      have hblank := Attributes.isBlank_of_isNameChar (hname c (List.mem_append_right _ hc))
      rw [hgap c hc] at hblank
      cases hblank
    have hnone' : gap' = [] := by
      cases gap' with
      | nil => rfl
      | cons c gap' =>
          obtain rfl : quote = c := (List.cons.inj hvalues).1
          have hblank := isBlank_of_isQuote hquote
          rw [hgap' quote (List.mem_cons_self ..)] at hblank
          cases hblank
    subst hnone hnone'
    obtain ⟨rfl, hvalues⟩ := List.cons.inj hvalues
    obtain ⟨rfl, -⟩ := eq_of_append_mark hvalue hcss hvalues
    exact ⟨by rwa [List.append_nil], rfl⟩
  · rintro ⟨hstyle, rfl⟩
    exact ⟨name, [], [], quote, behind, hstyle, by simp, by simp, hquote, hvalue, rfl⟩

/-- A suffix begins at the first hyphen or behind it. -/
theorem hasStyleSuffix_cons_iff {c : Char} :
    HasStyleSuffix (c :: name) ↔ (c = '-' ∧ isStyleName name = true) ∨ HasStyleSuffix name := by
  constructor
  · rintro ⟨front, part, heq, hpart⟩
    cases front with
    | nil =>
        obtain ⟨rfl, rfl⟩ := List.cons.inj heq
        exact .inl ⟨rfl, hpart⟩
    | cons d front => exact .inr ⟨front, part, (List.cons.inj heq).2, hpart⟩
  · rintro (⟨rfl, hname⟩ | ⟨front, part, rfl, hpart⟩)
    · exact ⟨[], name, rfl, hname⟩
    · exact ⟨c :: front, part, rfl, hpart⟩

/-- The reader takes the value that stands behind a name if the name, or what stands behind a hyphen
in it, is that of a style attribute, and otherwise comes to the value.  A name that goes on with a
word begins nowhere. -/
theorem styleValue?_name (hname : ∀ c ∈ name, Attributes.isNameChar c = true)
    (hquote : isQuote quote = true) (hvalue : quote ∉ value) (behind : List Char)
    (afterWord : Bool) :
    ((afterWord = false ∧ isStyleName name = true) ∨ HasStyleSuffix name →
      styleValue? afterWord (name ++ '=' :: quote :: (value ++ quote :: behind)) = some value) ∧
    (¬((afterWord = false ∧ isStyleName name = true) ∨ HasStyleSuffix name) →
      styleValue? afterWord (name ++ '=' :: quote :: (value ++ quote :: behind)) =
        styleValue? false (value ++ quote :: behind)) := by
  induction name generalizing afterWord with
  | nil =>
      constructor
      · rintro (⟨-, hstyle⟩ | ⟨front, part, heq, -⟩)
        · cases hstyle
        · simp at heq
      · intro _
        rw [List.nil_append, styleValue?_of_not_isWord (by decide),
          styleValue?_of_not_isWord (isWord_of_isQuote hquote)]
  | cons c name ih =>
      have hbegins := beginsStyle_name_iff hname hquote hvalue behind
      by_cases hhere : afterWord = false ∧ isStyleName (c :: name) = true
      · obtain ⟨rfl, hstyle⟩ := hhere
        refine ⟨fun _ => ?_, fun hnot => absurd (.inl ⟨rfl, hstyle⟩) hnot⟩
        exact styleValue?_of_begins ((hbegins value).mpr ⟨hstyle, rfl⟩)
      · -- Within the name a word ends at a hyphen only.
        have hhyphen : isWord c = false ↔ c = '-' := by
          have hc := hname c (List.mem_cons_self ..)
          rw [Attributes.isNameChar, Bool.or_eq_true, beq_iff_eq] at hc
          refine ⟨fun hword => hc.resolve_left (by simp [hword]), ?_⟩
          rintro rfl
          decide
        have hnothing : afterWord = true ∨ ∀ css,
            ¬BeginsStyle (c :: (name ++ '=' :: quote :: (value ++ quote :: behind))) css := by
          rw [not_and_or, Bool.not_eq_false] at hhere
          exact hhere.imp_right fun hstyle css begins => hstyle ((hbegins css).mp begins).1
        have hstep := styleValue?_of_not_begins hnothing
        have hrest := ih (fun d hd => hname d (List.mem_cons_of_mem c hd)) (isWord c)
        rw [hhyphen, ← hasStyleSuffix_cons_iff] at hrest
        rw [or_iff_right hhere, List.cons_append, hstep]
        exact hrest

end Names

/-! ### Attributes -/

namespace TagAttribute

variable {a : TagAttribute} {behind css : List Char}

theorem written_append (a : TagAttribute) (behind : List Char) : a.written ++ behind =
    a.gap ++ (a.name ++ '=' :: a.quote :: (a.value ++ a.quote :: behind)) := by
  simp [written]

/-- The reader takes the value of a style attribute, and one of an attribute whose name only ends in
that of a style attribute. -/
theorem styleValue?_written_of_name (h : a.isStyle = true ∨ HasStyleSuffix a.name) :
    styleValue? false (a.written ++ behind) = some a.value := by
  obtain ⟨htaken, -⟩ := styleValue?_name a.isNameChar_name a.isQuote_quote a.quote_notMem_value
    behind false
  rw [written_append, styleValue?_blanks a.isBlank_gap]
  exact htaken (h.imp_left fun hstyle => ⟨rfl, hstyle⟩)

/-- The reader comes to the value of any other attribute. -/
theorem styleValue?_written_of_not_name (hother : a.isStyle = false)
    (hplain : ¬HasStyleSuffix a.name) : styleValue? false (a.written ++ behind) =
      styleValue? false (a.value ++ a.quote :: behind) := by
  obtain ⟨-, hleft⟩ := styleValue?_name a.isNameChar_name a.isQuote_quote a.quote_notMem_value
    behind false
  rw [written_append, styleValue?_blanks a.isBlank_gap]
  refine hleft ?_
  rintro (⟨-, hstyle⟩ | hsuffix)
  · rw [isStyle, hstyle] at hother
    cases hother
  · exact hplain hsuffix

/-- The reader takes the value to which an attribute misleads it. -/
theorem Misleads.styleValue?_written (h : a.Misleads behind css) (hother : a.isStyle = false) :
    styleValue? false (a.written ++ behind) = some css := by
  cases h with
  | name suffix => exact styleValue?_written_of_name (.inr suffix)
  | value plain seems =>
      rw [styleValue?_written_of_not_name hother plain]
      exact seems.styleValue?_append

/-- The reader goes past an attribute that does not mislead it. -/
theorem styleValue?_written_of_not_misleads (hother : a.isStyle = false)
    (h : ∀ css, ¬a.Misleads behind css) :
    styleValue? false (a.written ++ behind) = styleValue? false behind := by
  have hplain : ¬HasStyleSuffix a.name := fun suffix => h a.value (.name suffix)
  have hnothing : ∀ css, ¬Seems (a.quote :: behind) false a.value css :=
    fun css seems => h css (.value hplain seems)
  obtain ⟨afterWord, hvalue⟩ := exists_styleValue?_append hnothing
  rw [styleValue?_written_of_not_name hother hplain, hvalue,
    styleValue?_of_not_isWord (isWord_of_isQuote a.isQuote_quote)]

end TagAttribute

/-! ### Lists of attributes -/

section Lists

variable {gap css : List Char} {as : List TagAttribute}

theorem writtenAll_cons (a : TagAttribute) (as : List TagAttribute) (gap : List Char) :
    writtenAll (a :: as) gap = a.written ++ writtenAll as gap := by
  simp [writtenAll]

/-- The reader takes the value to which the first attribute that misleads it does. -/
theorem Misled.styleValue?_writtenAll (h : Misled gap as css) :
    styleValue? false (writtenAll as gap) = some css := by
  induction h with
  | here other misleads =>
      rw [writtenAll_cons]
      exact misleads.styleValue?_written other
  | later other nothing _ ih =>
      rw [writtenAll_cons, TagAttribute.styleValue?_written_of_not_misleads other nothing, ih]

/-- If none misleads it, the reader takes the value of the first style attribute. -/
theorem styleValue?_writtenAll (hgap : ∀ c ∈ gap, isBlank c = true)
    (h : ∀ css, ¬Misled gap as css) : styleValue? false (writtenAll as gap) =
      (as.find? TagAttribute.isStyle).map TagAttribute.value := by
  induction as with
  | nil =>
      have hblanks := styleValue?_blanks hgap []
      rw [List.append_nil] at hblanks
      exact hblanks
  | cons a as ih =>
      rw [writtenAll_cons]
      cases hstyle : a.isStyle with
      | true =>
          rw [TagAttribute.styleValue?_written_of_name (.inl hstyle), List.find?_cons_of_pos hstyle]
          rfl
      | false =>
          have hnothing : ∀ css, ¬a.Misleads (writtenAll as gap) css :=
            fun css misleads => h css (.here hstyle misleads)
          rw [TagAttribute.styleValue?_written_of_not_misleads hstyle hnothing,
            List.find?_cons_of_neg (by simp [hstyle])]
          exact ih fun css rest => h css (.later hstyle hnothing rest)

end Lists

/-! ### Tags -/

/-- No bracket closes a tag within an attribute. -/
theorem TagAttribute.bracket_notMem_written (a : TagAttribute) : '>' ∉ a.written := by
  intro hmem
  simp only [written, List.mem_append, List.mem_cons, List.not_mem_nil, or_false] at hmem
  rcases hmem with hmem | hmem | hmem | hmem | hmem | hmem
  · exact absurd (a.isBlank_gap _ hmem) (by decide)
  · exact absurd (a.isNameChar_name _ hmem) (by decide)
  · cases hmem
  · exact absurd a.isQuote_quote (by rw [← hmem]; decide)
  · exact a.bracket_notMem_value hmem
  · exact absurd a.isQuote_quote (by rw [← hmem]; decide)

namespace SpanTag

variable (t : SpanTag)

/-- The attributes are set off from the name, and no bracket closes the tag in them. -/
theorem isTagRest_writtenAll : isTagRest (writtenAll t.attributes t.gap) = true := by
  have hhead : ∀ c ∈ (writtenAll t.attributes t.gap).head?, isBlank c = true := by
    intro c hc
    cases has : t.attributes with
    | nil =>
        rw [has] at hc
        exact t.isBlank_gap c (List.mem_of_head? hc)
    | cons a as =>
        rw [has, writtenAll_cons, TagAttribute.written_append,
          List.head?_append_of_ne_nil _ a.gap_ne_nil] at hc
        exact a.isBlank_gap c (List.mem_of_head? hc)
  have hbracket : '>' ∉ writtenAll t.attributes t.gap := by
    rw [writtenAll, List.mem_append, List.mem_flatMap, not_or]
    refine ⟨?_, fun hmem => absurd (t.isBlank_gap _ hmem) (by decide)⟩
    rintro ⟨a, -, hmem⟩
    exact a.bracket_notMem_written hmem
  simp only [isTagRest, Bool.and_eq_true, Option.all_eq_true, Bool.or_eq_true, List.all_eq_true,
    bne_iff_ne]
  refine ⟨fun c hc => .inl (hhead c hc), ?_⟩
  rintro c hc rfl
  exact hbracket hc

/-- The tag as one of the element of its name. -/
def tag : Tag :=
  ⟨false, ['s', 'p', 'a', 'n'], writtenAll t.attributes t.gap, by decide, t.isTagRest_writtenAll⟩

/-- The tag opens a span with the style of the value that the reader takes. -/
theorem outcome_parse_written : (parse t.written).outcome =
    .ok (.opening "span" (((styleValue? false (writtenAll t.attributes t.gap)).map fun css =>
      styleOfCss (String.ofList css)).getD TextStyle.empty)) := by
  have hstyle : style? (String.ofList (asciiLower ['s', 'p', 'a', 'n']))
      (writtenAll t.attributes t.gap) =
      some (((styleValue? false (writtenAll t.attributes t.gap)).map fun css =>
        styleOfCss (String.ofList css)).getD TextStyle.empty) := by
    have hname : String.ofList (asciiLower ['s', 'p', 'a', 'n']) = "span" := by decide
    rw [hname, style?]
    cases styleValue? false (writtenAll t.attributes t.gap) <;> rfl
  have helement := element_eq_ok t.tag.writtenTag?_written hstyle
  rw [← Tag.outcome_parse_written] at helement
  exact helement

/-- The style of the tag from the value of its style attribute. -/
theorem style_eq : t.style =
    (((t.attributes.find? TagAttribute.isStyle).map TagAttribute.value).map fun css =>
      styleOfCss (String.ofList css)).getD TextStyle.empty := by
  unfold style
  cases t.attributes.find? TagAttribute.isStyle <;> rfl

/-- An attribute that misleads the reader gives the tag the style of the value that it leads to. -/
theorem opens_of_misled {css : List Char} (h : Misled t.gap t.attributes css) :
    t.Opens (styleOfCss (String.ofList css)) := by
  rw [Opens, outcome_parse_written, h.styleValue?_writtenAll]
  rfl

/-- If no attribute misleads the reader, the tag has its own style. -/
theorem opens_style (h : ∀ css, ¬Misled t.gap t.attributes css) : t.Opens t.style := by
  rw [Opens, outcome_parse_written, styleValue?_writtenAll t.isBlank_gap h, style_eq]

/-- A tag has one style only. -/
theorem Opens.unique {t : SpanTag} {style style' : TextStyle} (h : t.Opens style)
    (h' : t.Opens style') : style = style' := by
  rw [Opens, h] at h'
  exact (InlineHtml.opening.inj (Except.ok.inj h')).2

end SpanTag

/-- The tag that opens a span is styled by the first attribute in front of the style attribute that
misleads the reader, and by the style attribute if there is none.  So it has its own style exactly
if whatever misleads the reader gives that style as well. -/
theorem styled_or_misled (t : SpanTag) :
    (∀ css, Misled t.gap t.attributes css → t.Opens (styleOfCss (String.ofList css))) ∧
    ((∀ css, ¬Misled t.gap t.attributes css) → t.Opens t.style) ∧
    (t.Opens t.style ↔
      ∀ css, Misled t.gap t.attributes css → styleOfCss (String.ofList css) = t.style) := by
  refine ⟨fun css => t.opens_of_misled, t.opens_style, ?_, fun hsame => ?_⟩
  · intro hopens css hmisled
    exact (t.opens_of_misled hmisled).unique hopens
  · by_cases hmisled : ∃ css, Misled t.gap t.attributes css
    · obtain ⟨css, hmisled⟩ := hmisled
      rw [← hsame css hmisled]
      exact t.opens_of_misled hmisled
    · exact t.opens_style (not_exists.mp hmisled)

/-- The attribute `data-style="color: #f00"`. -/
def dataStyle : TagAttribute where
  gap := [' ']
  name := "data-style".toList
  quote := '"'
  value := "color: #f00".toList
  gap_ne_nil := by decide
  isBlank_gap := List.all_eq_true.mp (by decide)
  isNameChar_name := List.all_eq_true.mp (by decide)
  isQuote_quote := by decide
  quote_notMem_value := by decide
  bracket_notMem_value := by decide

/-- The attribute `Style='color: #00f'` on another line. -/
def blueStyle : TagAttribute where
  gap := ['\n', ' ']
  name := "Style".toList
  quote := '\''
  value := "color: #00f".toList
  gap_ne_nil := by decide
  isBlank_gap := List.all_eq_true.mp (by decide)
  isNameChar_name := List.all_eq_true.mp (by decide)
  isQuote_quote := by decide
  quote_notMem_value := by decide
  bracket_notMem_value := by decide

/-- The tag of a span with `dataStyle` alone. -/
def dataTag : SpanTag := ⟨[dataStyle], [], by simp⟩

/-- The tag of a span with `dataStyle` behind `blueStyle`. -/
def blueTag : SpanTag := ⟨[blueStyle, dataStyle], [' '], List.all_eq_true.mp (by decide)⟩

theorem misled_dataTag : Misled dataTag.gap dataTag.attributes dataStyle.value :=
  .here (by decide) (.name ⟨"data".toList, "style".toList, by decide, by decide⟩)

/-- An attribute misleads the reader in front of the style attribute and not behind it. -/
theorem styled_or_misled_dataStyle :
    (Misled dataTag.gap dataTag.attributes dataStyle.value ∧
      dataTag.Opens (styleOfCss (String.ofList dataStyle.value))) ∧
    (∀ css, ¬Misled blueTag.gap blueTag.attributes css) ∧ blueTag.Opens blueTag.style := by
  have hblue : blueStyle.isStyle = true := by decide
  have hnone : ∀ css, ¬Misled blueTag.gap blueTag.attributes css := by
    rintro css (⟨hother, -⟩ | ⟨hother, -, -⟩)
    all_goals
      rw [hblue] at hother
      cases hother
  obtain ⟨hdata, -, -⟩ := styled_or_misled dataTag
  obtain ⟨-, hplain, -⟩ := styled_or_misled blueTag
  exact ⟨⟨misled_dataTag, hdata _ misled_dataTag⟩, hnone, hplain hnone⟩

/-- A span without a style attribute is coloured. -/
theorem dataStyle_not_ignored : dataTag.written = "<span data-style=\"color: #f00\">" ∧
    dataTag.style = TextStyle.empty ∧ ¬dataTag.Opens dataTag.style := by
  have hstyle : dataTag.style = TextStyle.empty := rfl
  have hcolor : (styleOfCss (String.ofList dataStyle.value)).foregroundColor ≠ none := by
    decide +kernel
  refine ⟨by decide +kernel, hstyle, fun hopens => hcolor ?_⟩
  rw [(dataTag.opens_of_misled misled_dataTag).unique hopens, hstyle]
  rfl

end SlideDeck.InlineHtml

/-
Tags without attributes are read as they are written.

Such a tag is a name between angle brackets, with a slash in front of the name if it closes its
element.  Nothing in it is white space and its first bracket does not open a comment, so the
reader comes to the name and takes it in whatever case its letters are.
-/
import SlideDeck.Html.Inline
import SlideDeck.Proofs.Html.Comments

namespace SlideDeck.InlineHtml

open SlideDeck.Text SlideDeck.Html

/-- The tag that opens an element. -/
def openingTag (name : String) : String := "<" ++ name ++ ">"

/-- The tag that closes an element. -/
def closingTag (name : String) : String := "</" ++ name ++ ">"

/-- A text whose letters are those of a name in any case. -/
def Spells (s name : String) : Prop := String.ofList (asciiLower s.toList) = name

instance (s name : String) : Decidable (Spells s name) := decEq _ _

/-- Whether a name is made of lower-case letters. -/
def isPlainName (name : String) : Bool := !name.toList.isEmpty && name.toList.all Char.isLower

/-- The element that a fragment opens or closes, if it is a tag of one that styles text. -/
def tagName? (html : String) : Option String :=
  match (parse html).outcome with
  | .ok (.opening tag _) | .ok (.closing tag) => some tag
  | _ => none

/-! ### Letters -/

theorem isAlpha_of_isLower_toLower {c : Char} (h : c.toLower.isLower = true) :
    c.isAlpha = true := by
  by_cases hupper : c.isUpper = true
  · exact Bool.or_eq_true_iff.mpr (.inl hupper)
  · have hsame : c.toLower = c := dif_neg fun hrange => hupper (decide_eq_true hrange)
    rw [hsame] at h
    exact Bool.or_eq_true_iff.mpr (.inr h)

/-- The codes of letters. -/
theorem toNat_of_isAlpha {c : Char} (h : c.isAlpha = true) :
    (65 ≤ c.toNat ∧ c.toNat ≤ 90) ∨ (97 ≤ c.toNat ∧ c.toNat ≤ 122) := by
  rcases Bool.or_eq_true_iff.mp h with hupper | hlower
  · exact .inl (of_decide_eq_true hupper)
  · obtain ⟨hlow, hhigh⟩ := Bool.and_eq_true_iff.mp hlower
    exact .inr ⟨of_decide_eq_true hlow, of_decide_eq_true hhigh⟩

theorem isBlank_of_isAlpha {c : Char} (h : c.isAlpha = true) : isBlank c = false := by
  have hrange := toNat_of_isAlpha h
  simp [isBlank]
  omega

/-- A plain name in any case begins with a letter and has nothing but letters. -/
theorem Spells.letters {s name : String} (h : Spells s name) (hname : isPlainName name = true) :
    s.toList ≠ [] ∧ ∀ c ∈ s.toList, c.isAlpha = true := by
  subst h
  simp only [isPlainName, asciiLower, String.toList_ofList, Bool.and_eq_true, Bool.not_eq_true',
    List.isEmpty_eq_false_iff, ne_eq, List.map_eq_nil_iff, List.all_map, List.all_eq_true,
    Function.comp_apply] at hname
  exact ⟨hname.1, fun c hc => isAlpha_of_isLower_toLower (hname.2 c hc)⟩

/-! ### Reading a tag -/

variable {letters after : List Char}

/-- A letter or digit is a word character. -/
theorem isWord_of_isAlphanum {c : Char} (h : c.isAlphanum = true) : isWord c = true := by
  have hrange : c.toNat < 0x80 := by
    rcases Bool.or_eq_true_iff.mp h with halpha | hdigit
    · have hletter := toNat_of_isAlpha halpha
      omega
    · obtain ⟨-, hhigh⟩ := Bool.and_eq_true_iff.mp hdigit
      have hdigits : c.toNat ≤ 57 := of_decide_eq_true hhigh
      omega
  simp [isWord, hrange, h]

/-- A name ends where its letters and digits do. -/
theorem span_name (hletters : ∀ c ∈ letters, c.isAlphanum = true)
    (hafter : ∀ c ∈ after.head?, isWord c = false) :
    (letters ++ after).takeWhile Char.isAlphanum = letters ∧
      (letters ++ after).dropWhile Char.isAlphanum = after := by
  rw [List.takeWhile_append_of_pos hletters, List.dropWhile_append_of_pos hletters]
  cases after with
  | nil => simp
  | cons c after =>
      have hword : isWord c = false := hafter c rfl
      have hc : ¬c.isAlphanum = true := by
        intro hc
        rw [isWord_of_isAlphanum hc] at hword
        cases hword
      rw [List.takeWhile_cons_of_neg hc, List.dropWhile_cons_of_neg hc, List.append_nil]
      exact ⟨rfl, rfl⟩

/-- What stands between the name and the closing bracket are the attributes, as long as it neither
goes on with the word nor holds a bracket. -/
theorem writtenTag?_append {c : Char} (hc : c.isAlpha = true)
    (hletters : ∀ d ∈ letters, d.isAlphanum = true) (hafter : ∀ d ∈ after.head?, isWord d = false)
    (hbracket : '>' ∉ after) :
    writtenTag? ('<' :: c :: (letters ++ (after ++ ['>']))) = some ⟨false, c :: letters, after⟩ ∧
      writtenTag? ('<' :: '/' :: c :: (letters ++ (after ++ ['>']))) =
        some ⟨true, c :: letters, after⟩ := by
  have hname : ∀ d ∈ c :: letters, d.isAlphanum = true := by
    simpa [Char.isAlphanum, hc] using hletters
  have hend : ∀ d ∈ (after ++ ['>']).head?, isWord d = false := by
    cases after with
    | nil =>
        rintro d ⟨⟩
        decide
    | cons d after => exact hafter
  obtain ⟨htake, hdrop⟩ := span_name hname hend
  rw [List.cons_append] at htake hdrop
  have hsplit : splitAt? ['>'] (after ++ ['>']) = some (after, []) := splitAt?_mark hbracket []
  have htrim : ∀ s, trimStart (c :: s) = c :: s := fun s =>
    @trimStart_append (c :: s) [] (by simp) (by simp [isBlank_of_isAlpha hc])
  have hslash : c ≠ '/' := by
    rintro rfl
    simp at hc
  have hstart : ∀ s, trimStart ('/' :: s) = '/' :: s := fun _ => rfl
  have hstop : after.head?.any isWord = false := by
    cases after with
    | nil => rfl
    | cons d after => exact hafter d rfl
  constructor
  · simp [writtenTag?, htrim, htake, hdrop, hsplit, hslash, hc, hstop]
  · simp [writtenTag?, hstart, htrim, htake, hdrop, hsplit, hc, hstop]

theorem writtenTag?_tag (hne : letters ≠ []) (h : ∀ c ∈ letters, c.isAlpha = true) :
    writtenTag? ('<' :: (letters ++ ['>'])) = some ⟨false, letters, []⟩ ∧
      writtenTag? ('<' :: '/' :: (letters ++ ['>'])) = some ⟨true, letters, []⟩ := by
  obtain ⟨c, letters, rfl⟩ := List.exists_cons_of_ne_nil hne
  have hletters : ∀ d ∈ letters, d.isAlphanum = true := by
    intro d hd
    simp [Char.isAlphanum, h d (List.mem_cons_of_mem c hd)]
  exact @writtenTag?_append letters [] c (h c (List.mem_cons_self ..)) hletters (by simp) (by simp)

theorem trim_tag (opening : List Char) (hopening : opening.head? = some '<') :
    trim (opening ++ ['>']) = opening ++ ['>'] := by
  have hstart : trimStart (opening ++ ['>']) = opening ++ ['>'] :=
    @trimStart_append _ [] (by simp) (by simp [hopening, isBlank])
  rw [trim, hstart]
  exact trimEnd_append rfl opening []

/-! ### Reading an element -/

/-- What is not a comment is read as a tag. -/
theorem parse_of_not_startsWith {html : String}
    (h : startsWith commentOpening (trim html.toList) = false) :
    parse html = ⟨element (trim html.toList), []⟩ := by
  have hnone : commentBodies html = pure none := by simp [commentBodies, h]
  rw [parse, hnone, pure_bind]

/-- The reader gives no notices of what is not a comment. -/
theorem parse_eq_pure {html : String} {fragment : InlineHtml}
    (h : (parse html).outcome = .ok fragment) (hcomment : ∀ body, fragment ≠ .comment body) :
    parse html = pure fragment := by
  have hnot : ¬commentOpening <+: trim html.toList := by
    obtain ⟨bodies, hbodies, hread⟩ := Logged.bind_ok_iff.mp h
    cases bodies with
    | none => exact (outcome_commentBodies_eq_none_iff html).mp hbodies
    | some bodies => exact absurd (Logged.pure_ok_iff.mp hread).symm (hcomment _)
  rw [← startsWith_iff, Bool.not_eq_true] at hnot
  rw [parse_of_not_startsWith hnot] at h ⊢
  exact Logged.ext h rfl

section Elements

variable {html name attributes : List Char} {closes : Bool} {style : TextStyle}

theorem element_eq_ok (htag : writtenTag? html = some ⟨closes, name, attributes⟩)
    (hstyle : style? (String.ofList (asciiLower name)) attributes = some style) :
    element html = .ok (if closes then .closing (String.ofList (asciiLower name))
      else .opening (String.ofList (asciiLower name)) style) := by
  simp only [element, htag, hstyle]

theorem element_eq_error (htag : writtenTag? html = some ⟨closes, name, attributes⟩)
    (hstyle : style? (String.ofList (asciiLower name)) attributes = none) :
    element html = .error (.unsupportedHtml (String.ofList (asciiLower name))) := by
  simp only [element, htag, hstyle]

end Elements

variable {s name : String} {style : TextStyle}

theorem element_of_writtenTag? {html : List Char} {closes : Bool}
    (htag : writtenTag? html = some ⟨closes, s.toList, []⟩) (hspells : Spells s name)
    (hstyle : style? name [] = some style) :
    element html = .ok (if closes then .closing name else .opening name style) := by
  obtain rfl := hspells
  exact element_eq_ok htag hstyle

/-- A tag without attributes opens the element of its name, in whatever case it is written. -/
theorem parse_openingTag (hname : isPlainName name = true) (hspells : Spells s name)
    (hstyle : style? name [] = some style) :
    parse (openingTag s) = pure (.opening name style) := by
  obtain ⟨hne, hletters⟩ := hspells.letters hname
  have hlist : (openingTag s).toList = '<' :: s.toList ++ ['>'] := by simp [openingTag]
  have htrim := trim_tag ('<' :: s.toList) rfl
  have hcomment : startsWith commentOpening ('<' :: s.toList ++ ['>']) = false := by
    obtain ⟨c, rest, hs⟩ := List.exists_cons_of_ne_nil hne
    have hmark : c ≠ '!' := by
      rintro rfl
      simpa using hletters '!' (by simp [hs])
    simp [startsWith, commentOpening, dropLead?, hs, hmark.symm]
  rw [parse_of_not_startsWith (by rwa [hlist, htrim]), hlist, htrim]
  have helement := element_of_writtenTag? (writtenTag?_tag hne hletters).1 hspells hstyle
  exact Logged.ext helement rfl

/-- A tag with a slash closes the element of its name. -/
theorem parse_closingTag (hname : isPlainName name = true) (hspells : Spells s name)
    (hstyle : style? name [] = some style) :
    parse (closingTag s) = pure (.closing name) := by
  obtain ⟨hne, hletters⟩ := hspells.letters hname
  have hlist : (closingTag s).toList = '<' :: '/' :: s.toList ++ ['>'] := by simp [closingTag]
  have htrim := trim_tag ('<' :: '/' :: s.toList) rfl
  have hcomment : startsWith commentOpening ('<' :: '/' :: s.toList ++ ['>']) = false := rfl
  rw [parse_of_not_startsWith (by rwa [hlist, htrim]), hlist, htrim]
  have helement := element_of_writtenTag? (writtenTag?_tag hne hletters).2 hspells hstyle
  exact Logged.ext helement rfl

end SlideDeck.InlineHtml

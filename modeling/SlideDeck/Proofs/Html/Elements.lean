/-
The elements that tags are taken for.

The name of a tag is a letter with letters, digits and hyphens behind it.  A hyphen is no word
character, so the reader ends the name in front of the first one and takes what follows for
attributes.  A tag is therefore read as one of the element that is named up to the first hyphen.
Without a hyphen that is the whole name; with one it is not, and a name that only begins like that
of an element that styles text is read as that element.
-/
import SlideDeck.Proofs.Attributes.Written
import SlideDeck.Proofs.Html.Tags

namespace SlideDeck.InlineHtml

open SlideDeck.Text SlideDeck.Html

/-! ### Tags -/

/-- The elements that style text. -/
def stylingElements : List String := ["strong", "b", "em", "i", "code", "sub", "sup", "span"]

/-- The name of a tag: a letter, and then letters, digits and hyphens. -/
def isTagName : List Char → Bool
  | [] => false
  | c :: rest => c.isAlpha && rest.all fun d => d.isAlphanum || d == '-'

/-- What may stand behind the name of a tag: nothing, or a text that begins with white space or a
slash and holds no closing bracket. -/
def isTagRest (s : List Char) : Bool :=
  s.head?.all (fun c => isBlank c || c == '/') && s.all (· != '>')

/-- A tag, which opens or closes an element. -/
structure Tag where
  closes : Bool
  name : List Char
  rest : List Char
  isTagName_name : isTagName name = true
  isTagRest_rest : isTagRest rest = true

namespace Tag

/-- The tag as it is written. -/
def written (t : Tag) : String :=
  String.ofList ('<' :: ((if t.closes then ['/'] else []) ++ (t.name ++ (t.rest ++ ['>']))))

/-- The whole name in lower case. -/
def lowerName (t : Tag) : String := String.ofList (asciiLower t.name)

/-- The name up to its first hyphen, in lower case. -/
def stem (t : Tag) : String := String.ofList (asciiLower (t.name.takeWhile (· != '-')))

/-- What stands behind the stem. -/
def behindStem (t : Tag) : List Char := t.name.dropWhile (· != '-') ++ t.rest

end Tag

/-- A tag of an element is taken for what it is: it opens or closes the element if that styles text,
and is refused if it does not. -/
def TakenFor (closes : Bool) (element : String) (outcome : Except Failure InlineHtml) : Prop :=
  if element ∈ stylingElements then
    if closes then outcome = .ok (.closing element)
    else ∃ style, outcome = .ok (.opening element style)
  else ∃ unsupported, outcome = .error (.unsupportedHtml unsupported)

theorem isSome_style?_iff {name : String} {attributes : List Char} :
    (style? name attributes).isSome = true ↔ name ∈ stylingElements := by
  unfold style? stylingElements
  split <;> simp_all
  split <;> rfl

theorem takenFor_ok {closes : Bool} {element : String} (h : element ∈ stylingElements)
    (style : TextStyle) :
    TakenFor closes element (.ok (if closes then .closing element else .opening element style)) := by
  rw [TakenFor, if_pos h]
  cases closes with
  | false => exact ⟨style, rfl⟩
  | true => rfl

theorem takenFor_error {closes : Bool} {element : String} (h : element ∉ stylingElements)
    (unsupported : String) : TakenFor closes element (.error (.unsupportedHtml unsupported)) := by
  rw [TakenFor, if_neg h]
  exact ⟨unsupported, rfl⟩

theorem not_takenFor_ok {closes : Bool} {element : String} (h : element ∉ stylingElements)
    (fragment : InlineHtml) : ¬TakenFor closes element (.ok fragment) := by
  rw [TakenFor, if_neg h]
  rintro ⟨_, ⟨⟩⟩

/-! ### What the reader sees of a tag -/

namespace Tag

variable (t : Tag)

/-- White space, slashes and hyphens end a word. -/
theorem isWord_eq_false {c : Char} (h : isBlank c = true ∨ c = '/' ∨ c = '-') :
    isWord c = false := by
  rcases h with hblank | rfl | rfl
  · by_contra hc
    have hword : isWord c = true := by simpa using hc
    have hname : Attributes.isNameChar c = true := by simp [Attributes.isNameChar, hword]
    rw [Attributes.isBlank_of_isNameChar hname] at hblank
    cases hblank
  · decide
  · decide

/-- A name begins with a letter, which is no hyphen. -/
theorem exists_name : ∃ c rest, t.name = c :: rest ∧ c.isAlpha = true ∧ (c != '-') = true ∧
    ∀ d ∈ rest, d.isAlphanum = true ∨ d = '-' := by
  have hname := t.isTagName_name
  cases h : t.name with
  | nil =>
      rw [h] at hname
      cases hname
  | cons c rest =>
      simp only [h, isTagName, Bool.and_eq_true, List.all_eq_true, Bool.or_eq_true,
        beq_iff_eq] at hname
      obtain ⟨halpha, hall⟩ := hname
      have hhyphen : c ≠ '-' := by
        rintro rfl
        cases halpha
      exact ⟨c, rest, rfl, halpha, bne_iff_ne.mpr hhyphen, hall⟩

/-- The stem is a letter with letters and digits behind it. -/
theorem exists_stem : ∃ c letters, t.name.takeWhile (· != '-') = c :: letters ∧
    c.isAlpha = true ∧ ∀ d ∈ letters, d.isAlphanum = true := by
  obtain ⟨c, rest, hname, halpha, hhyphen, hall⟩ := t.exists_name
  refine ⟨c, rest.takeWhile (· != '-'), ?_, halpha, fun d hd => ?_⟩
  · rw [hname]
    exact List.takeWhile_cons_of_pos hhyphen
  · obtain h | rfl := hall d ((List.takeWhile_prefix _).mem hd)
    · exact h
    · simpa using List.mem_takeWhile_imp hd

/-- The word ends where the stem does: at a hyphen, or else where the name does. -/
theorem head_behindStem : ∀ d ∈ t.behindStem.head?, isWord d = false := by
  have hrest := t.isTagRest_rest
  simp only [isTagRest, Bool.and_eq_true, Option.all_eq_true, Bool.or_eq_true, beq_iff_eq] at hrest
  intro d hd
  rw [behindStem, List.head?_append, Option.mem_def, Option.or_eq_some_iff] at hd
  rcases hd with hd | ⟨-, hd⟩
  · have hhead := List.head?_dropWhile_not (· != '-') t.name
    rw [hd] at hhead
    exact isWord_eq_false (.inr (.inr (by simpa using hhead)))
  · exact isWord_eq_false ((hrest.1 d hd).imp_right .inl)

/-- No bracket closes the tag before its end. -/
theorem bracket_notMem_behindStem : '>' ∉ t.behindStem := by
  obtain ⟨c, rest, hname, halpha, -, hall⟩ := t.exists_name
  have hrest := t.isTagRest_rest
  simp only [isTagRest, Bool.and_eq_true, List.all_eq_true, bne_iff_ne] at hrest
  rw [behindStem, List.mem_append, not_or]
  refine ⟨fun hmem => ?_, fun hmem => hrest.2 _ hmem rfl⟩
  have hbracket := (List.dropWhile_suffix _).mem hmem
  rw [hname, List.mem_cons] at hbracket
  rcases hbracket with rfl | hbracket
  · cases halpha
  · cases hall _ hbracket <;> contradiction

/-- The reader finds the stem for a name and takes what is behind it for attributes. -/
theorem writtenTag?_written : writtenTag? t.written.toList =
    some ⟨t.closes, t.name.takeWhile (· != '-'), t.behindStem⟩ := by
  obtain ⟨c, letters, hstem, halpha, hletters⟩ := t.exists_stem
  obtain ⟨hopens, hcloses⟩ :=
    writtenTag?_append halpha hletters t.head_behindStem t.bracket_notMem_behindStem
  have hname : t.name ++ (t.rest ++ ['>']) = c :: (letters ++ (t.behindStem ++ ['>'])) := by
    rw [← List.cons_append, ← hstem, behindStem, List.append_assoc,
      ← List.append_assoc (List.takeWhile _ _), List.takeWhile_append_dropWhile]
  rw [written, String.toList_ofList, hname, hstem]
  cases t.closes with
  | false => exact hopens
  | true => exact hcloses

/-- A tag is no comment, and nothing stands around it. -/
theorem outcome_parse_written : (parse t.written).outcome = element t.written.toList := by
  obtain ⟨c, rest, hname, halpha, -⟩ := t.exists_name
  have htrim : trim t.written.toList = t.written.toList := by
    have h := trim_tag ('<' :: ((if t.closes then ['/'] else []) ++ (t.name ++ t.rest))) rfl
    simpa [written] using h
  have hmark : '!' ≠ c := by
    rintro rfl
    cases halpha
  have hcomment : startsWith commentOpening t.written.toList = false := by
    rw [written, String.toList_ofList, hname]
    cases t.closes with
    | false => simp [startsWith, commentOpening, dropLead?, hmark]
    | true => rfl
  rw [parse_of_not_startsWith (by rwa [htrim]), htrim]

end Tag

/-- A tag whose name has no hyphen has that name for its stem. -/
theorem Tag.stem_eq {t : Tag} (h : '-' ∉ t.name) : t.stem = t.lowerName := by
  rw [Tag.stem, Tag.lowerName, List.takeWhile_eq_self_iff.mpr]
  intro d hd
  rw [bne_iff_ne]
  rintro rfl
  exact h hd

/-- No element that styles text has a hyphen in its name. -/
theorem Tag.lowerName_notMem {t : Tag} (h : '-' ∈ t.name) : t.lowerName ∉ stylingElements := by
  have hnone : ∀ name ∈ stylingElements, '-' ∉ name.toList := by decide
  have hhyphen : '-' ∈ t.lowerName.toList := by
    rw [Tag.lowerName, String.toList_ofList]
    exact List.mem_map.mpr ⟨'-', h, rfl⟩
  exact fun hmem => hnone _ hmem hhyphen

/-- A tag is taken for one of its stem.  So it is taken for what it is exactly if it has no hyphen
in its name, or an element that styles no text is named up to the hyphen. -/
theorem takenFor_stem (t : Tag) :
    TakenFor t.closes t.stem (parse t.written).outcome ∧
    (TakenFor t.closes t.lowerName (parse t.written).outcome ↔
      '-' ∉ t.name ∨ t.stem ∉ stylingElements) := by
  have hstyling := @isSome_style?_iff t.stem t.behindStem
  rw [t.outcome_parse_written]
  cases hstyle : style? t.stem t.behindStem with
  | none =>
      rw [hstyle] at hstyling
      have hstem : t.stem ∉ stylingElements := hstyling.not.mp Bool.false_ne_true
      have hname : t.lowerName ∉ stylingElements := by
        by_cases hhyphen : '-' ∈ t.name
        · exact Tag.lowerName_notMem hhyphen
        · rwa [← Tag.stem_eq hhyphen]
      rw [element_eq_error t.writtenTag?_written hstyle]
      exact ⟨takenFor_error hstem _, iff_of_true (takenFor_error hname _) (.inr hstem)⟩
  | some style =>
      rw [hstyle] at hstyling
      have hstem : t.stem ∈ stylingElements := hstyling.mp rfl
      rw [element_eq_ok t.writtenTag?_written hstyle]
      refine ⟨takenFor_ok hstem style, ?_⟩
      by_cases hhyphen : '-' ∈ t.name
      · exact iff_of_false (not_takenFor_ok (Tag.lowerName_notMem hhyphen) _) (by simp [*])
      · rw [← Tag.stem_eq hhyphen]
        exact iff_of_true (takenFor_ok hstem style) (.inl hhyphen)

/-- The tag `<b-x>`. -/
def customTag : Tag := ⟨false, ['b', '-', 'x'], [], by decide, by decide⟩

/-- A tag of a custom element opens bold text. -/
theorem customTag_not_refused :
    ¬TakenFor customTag.closes customTag.lowerName (parse customTag.written).outcome := by
  have hread : (parse customTag.written).outcome = .ok (.opening "b" { bold := some true }) := by
    decide +kernel
  have hcustom : customTag.lowerName ∉ stylingElements := by decide +kernel
  rw [hread]
  exact not_takenFor_ok hcustom _

end SlideDeck.InlineHtml

/-
Declarations one after the other.

A declaration sets an attribute or leaves it as it is; only one of a colour or of the font size may
also take back what is set.  In each case the outcome for an attribute is either what the
declaration makes of the empty style, or what was there before.  So what a list of declarations
does to a style is known from what it does to the empty style and from which properties it declares,
and two lists in a row compose: the second one lies on the first, except for an attribute that it
takes back.
-/
import SlideDeck.Html.Css
import SlideDeck.Proofs.Server.TextContent

namespace SlideDeck

/-! ### Declared attributes -/

namespace TextStyle

/-- A style laid over another one.  The colours and the font size are those of the upper style
where it declares them, whether it sets them or not. -/
def declaredOnto (declared : String → Bool) (upper lower : TextStyle) : TextStyle :=
  { upper.onto lower with
    backgroundColor :=
      if declared "background-color" then upper.backgroundColor else lower.backgroundColor
    fontSize := if declared "font-size" then upper.fontSize else lower.fontSize
    foregroundColor := if declared "color" then upper.foregroundColor else lower.foregroundColor }

/-- An upper style takes an attribute back that a lower one sets: it declares the attribute and does
not set it. -/
def TakesBack (declared : String → Bool) (upper lower : TextStyle) : Prop :=
  (declared "background-color" = true ∧ upper.backgroundColor = none ∧
    lower.backgroundColor ≠ none) ∨
  (declared "font-size" = true ∧ upper.fontSize = none ∧ lower.fontSize ≠ none) ∨
  (declared "color" = true ∧ upper.foregroundColor = none ∧ lower.foregroundColor ≠ none)

variable {declared declared' : String → Bool} {upper middle lower : TextStyle}

/-- Three styles may be laid on each other in either order. -/
theorem declaredOnto_assoc :
    upper.declaredOnto declared (middle.declaredOnto declared' lower) =
      (upper.declaredOnto declared middle).declaredOnto (fun p => declared p || declared' p)
        lower := by
  have hor {α : Type} (d d' : Bool) (u m l : Option α) :
      (if d = true then u else if d' = true then m else l) =
        if (d || d') = true then (if d = true then u else m) else l := by
    cases d <;> rfl
  simp only [declaredOnto, onto, Option.or_assoc, hor]

/-- What an upper style sets where it declares nothing it has from nowhere. -/
theorem eq_onto_iff (h : upper = upper.declaredOnto declared empty) :
    upper.declaredOnto declared lower = upper.onto lower ↔ ¬TakesBack declared upper lower := by
  have hattribute {α : Type} {d : Bool} {u l : Option α} (hu : u = if d = true then u else none) :
      (if d = true then u else l) = u.or l ↔ ¬(d = true ∧ u = none ∧ l ≠ none) := by
    cases d <;> cases u <;> cases l <;> simp_all
  have hbackground := congrArg backgroundColor h
  have hsize := congrArg fontSize h
  have hforeground := congrArg foregroundColor h
  rw [TakesBack, not_or, not_or, ← hattribute hbackground, ← hattribute hsize,
    ← hattribute hforeground]
  simp [declaredOnto, onto]

end TextStyle

namespace Html

open SlideDeck.Text

/-- The property that the text of a declaration is about. -/
def property? (text : List Char) : Option String :=
  (splitAt? [':'] text).map fun d => String.ofList (asciiLower (trim d.1))

/-- Whether a list of declarations has one of a property. -/
def declares (css property : String) : Bool :=
  (css.toList.splitOn ';').any fun text => property? text == some property

/-! ### One declaration -/

/-- A declaration does the same whatever was set before. -/
theorem declare_eq (style : TextStyle) (property : String) (value : List Char) :
    declare style property value =
      (declare TextStyle.empty property value).declaredOnto (property == ·) style := by
  unfold declare
  split
  case h_1 | h_2 | h_4 | h_5 | h_6 | h_7 =>
    simp [TextStyle.declaredOnto, TextStyle.onto, TextStyle.empty]
  case h_3 =>
    split <;> simp [TextStyle.declaredOnto, TextStyle.onto, TextStyle.empty]
  case h_8 | h_9 =>
    dsimp only
    split <;> split <;> simp [TextStyle.declaredOnto, TextStyle.onto, TextStyle.empty]
  case h_10 hcolor hbackground _ hsize _ _ _ _ _ =>
    have hnone : property ≠ "background-color" ∧ property ≠ "font-size" ∧ property ≠ "color" :=
      ⟨hbackground, hsize, hcolor⟩
    simp [TextStyle.declaredOnto, TextStyle.onto, TextStyle.empty, hnone]

theorem declareText_eq (style : TextStyle) (text : List Char) :
    declareText style text =
      (declareText TextStyle.empty text).declaredOnto (fun p => property? text == some p)
        style := by
  unfold declareText property?
  cases splitAt? [':'] text with
  | none => simp [TextStyle.declaredOnto, TextStyle.onto, TextStyle.empty]
  | some d => simpa using declare_eq style (String.ofList (asciiLower (trim d.1))) (trim d.2)

/-! ### Lists of declarations -/

/-- Some declarations do the same whatever was set before. -/
theorem foldl_declareText (style : TextStyle) (texts : List (List Char)) :
    texts.foldl declareText style =
      (texts.foldl declareText TextStyle.empty).declaredOnto
        (fun p => texts.any fun text => property? text == some p) style := by
  induction texts generalizing style with
  | nil => simp [TextStyle.declaredOnto, TextStyle.onto, TextStyle.empty]
  | cons text texts ih =>
      rw [List.foldl_cons, List.foldl_cons, ih, declareText_eq style, TextStyle.declaredOnto_assoc,
        ← ih]
      simp only [List.any_cons, Bool.or_comm]

theorem styleOfCss_eq_declaredOnto (css : String) :
    styleOfCss css = (styleOfCss css).declaredOnto (declares css) TextStyle.empty :=
  foldl_declareText TextStyle.empty _

/--
**Declarations compose unless one takes something back.**  After two lists of declarations the style
is that of the second list laid on that of the first, but a colour or a font size that the second
list declares is what the second list makes of it, even if that is nothing.  So the second list
overrides the first exactly if it does not take back a colour or a font size that the first one
sets.
-/
theorem styleOfCss_append (x y : String) :
    styleOfCss (x ++ ";" ++ y) = (styleOfCss y).declaredOnto (declares y) (styleOfCss x) ∧
    (styleOfCss (x ++ ";" ++ y) = (styleOfCss y).onto (styleOfCss x) ↔
      ¬TextStyle.TakesBack (declares y) (styleOfCss y) (styleOfCss x)) := by
  have hsplit : (x ++ ";" ++ y).toList.splitOn ';' =
      x.toList.splitOn ';' ++ y.toList.splitOn ';' := by
    simp [List.splitOn_append_cons_self]
  have hcompose : styleOfCss (x ++ ";" ++ y) =
      (styleOfCss y).declaredOnto (declares y) (styleOfCss x) := by
    unfold styleOfCss
    rw [hsplit, List.foldl_append, foldl_declareText]
    rfl
  refine ⟨hcompose, ?_⟩
  rw [hcompose]
  exact TextStyle.eq_onto_iff (styleOfCss_eq_declaredOnto y)

/-- A colour without a number sign is none, and yet it takes a colour back. -/
theorem namedColor_not_skipped :
    styleOfCss ("color: #f00" ++ ";" ++ "color: red") ≠
      (styleOfCss "color: red").onto (styleOfCss "color: #f00") := by
  have hset : (styleOfCss "color: #f00").foregroundColor ≠ none := by decide +kernel
  have hunset : (styleOfCss ("color: #f00" ++ ";" ++ "color: red")).foregroundColor = none := by
    decide +kernel
  intro heq
  have hboth : (styleOfCss "color: red").foregroundColor.or
      (styleOfCss "color: #f00").foregroundColor = none := by
    rw [← hunset, heq]
    rfl
  exact hset (Option.or_eq_none_iff.mp hboth).2

end Html

end SlideDeck

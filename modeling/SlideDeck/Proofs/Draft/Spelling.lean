/-
The spelling of a style does not matter.

Emphasis, strong text and code can be written in Markdown or as elements of HTML.  The two go
through different rules, since the end of a Markdown style closes the innermost style that no
element opened and a closing tag closes the innermost one of its own name.  But where styles are
properly nested, both find their own style on top of those that are open and take it away again.
So properly nested text does to a draft what can be said without the styles that are open around
it, and what it does is the same in both spellings.
-/
import SlideDeck.Proofs.Draft.Break
import SlideDeck.Proofs.Draft.Piece
import SlideDeck.Proofs.Html.Tags

namespace SlideDeck

/-- Whether a token of running text opens or closes a style. -/
def Token.isStyle : Token → Bool
  | .emphasisOpen | .emphasisClose | .strongOpen | .strongClose | .strikethroughOpen
  | .strikethroughClose | .linkOpen _ | .linkClose => true
  | .htmlInline html => (InlineHtml.tagName? html).isSome
  | _ => false

/-! ### Spellings -/

/-- Tokens that open and close a style. -/
inductive Spelling : TextStyle → Token → Token → Prop where
  | emphasis : Spelling { italic := some true } .emphasisOpen .emphasisClose
  | strong : Spelling { bold := some true } .strongOpen .strongClose
  | strikethrough :
    Spelling { strikethrough := some true } .strikethroughOpen .strikethroughClose
  | link (href : String) : Spelling { link := some ⟨href⟩ } (.linkOpen href) .linkClose
  | element {style : TextStyle} {tag opening closing : String}
    (hopening : (InlineHtml.parse opening).outcome = .ok (.opening tag style))
    (hclosing : (InlineHtml.parse closing).outcome = .ok (.closing tag)) :
    Spelling style (.htmlInline opening) (.htmlInline closing)

/-- The elements whose styles Markdown has too. -/
def markdownElements : List (String × TextStyle) :=
  [("strong", { bold := some true }), ("b", { bold := some true }),
    ("em", { italic := some true }), ("i", { italic := some true }), ("code", Draft.codeStyle)]

/-- Two properly nested texts that are the same but for the spelling of their styles. -/
inductive Respelled : List Token → List Token → Prop where
  | nil : Respelled [] []
  | token {t : Token} {rest rest' : List Token} (hinline : t.isInline = true)
    (hstyle : t.isStyle = false) (hrest : Respelled rest rest') :
    Respelled (t :: rest) (t :: rest')
  | styled {style : TextStyle} {opening closing opening' closing' : Token}
    {inner inner' rest rest' : List Token} (hspelling : Spelling style opening closing)
    (hspelling' : Spelling style opening' closing') (hinner : Respelled inner inner')
    (hrest : Respelled rest rest') :
    Respelled (opening :: (inner ++ closing :: rest)) (opening' :: (inner' ++ closing' :: rest'))
  | code {s : String} {opening closing : Token} {rest rest' : List Token}
    (hspelling : Spelling Draft.codeStyle opening closing) (hrest : Respelled rest rest') :
    Respelled (.inlineCode s :: rest) (opening :: .text s :: closing :: rest')

/-- Two documents that are the same but for the spelling of the styles in their texts. -/
inductive RespelledDocument : List Token → List Token → Prop where
  | nil : RespelledDocument [] []
  | text {content content' rest rest' : List Token} (hcontent : Respelled content content')
    (hrest : RespelledDocument rest rest') :
    RespelledDocument (content ++ rest) (content' ++ rest')
  | block {t : Token} {rest rest' : List Token} (hblock : t.isInline = false)
    (hrest : RespelledDocument rest rest') :
    RespelledDocument (t :: rest) (t :: rest')

theorem markdownElements_known :
    ∀ e ∈ markdownElements, InlineHtml.isPlainName e.1 = true ∧
      InlineHtml.style? e.1 [] = some e.2 := by
  decide

/-- The tags of an element in any case spell its style. -/
theorem spelling_element {name s s' : String} {style : TextStyle}
    (hname : (name, style) ∈ markdownElements) (hs : InlineHtml.Spells s name)
    (hs' : InlineHtml.Spells s' name) :
    Spelling style (.htmlInline (InlineHtml.openingTag s))
      (.htmlInline (InlineHtml.closingTag s')) := by
  obtain ⟨hplain, hstyle⟩ := markdownElements_known _ hname
  apply Spelling.element
  · rw [InlineHtml.parse_openingTag hplain hs hstyle, Logged.outcome_pure]
  · rw [InlineHtml.parse_closingTag hplain hs' hstyle, Logged.outcome_pure]

/-- The tokens of a style open it with some element, or none, and close it again. -/
theorem Spelling.take {style : TextStyle} {opening closing : Token}
    (h : Spelling style opening closing) :
    ∃ element,
      (∀ d : Draft, d.take Draft.addNotes opening = pure (d.openStyle style element)) ∧
      ∀ d : Draft, d.take Draft.addNotes closing = d.closeStyle element := by
  cases h with
  | @element style tag opening closing hopening hclosing =>
      have hread := InlineHtml.parse_eq_pure hopening (by simp)
      have hread' := InlineHtml.parse_eq_pure hclosing (by simp)
      refine ⟨some tag, ?_, ?_⟩
      · intro d
        show d.takeInlineHtml Draft.addNotes opening = _
        rw [Draft.takeInlineHtml, hread, pure_bind]
      · intro d
        show d.takeInlineHtml Draft.addNotes closing = _
        rw [Draft.takeInlineHtml, hread', pure_bind]
  | _ => exact ⟨none, fun _ => rfl, fun _ => rfl⟩

namespace Draft

/-! ### The styles that are open around a text -/

/-- The draft with other styles open. -/
def withStyles (styles : List OpenStyle) (d : Draft) : Draft :=
  d.onBlock fun b => { b with styles := styles }

@[simp] theorem withStyles_withStyles (styles styles' : List OpenStyle) (d : Draft) :
    (d.withStyles styles').withStyles styles = d.withStyles styles := rfl

/-- What some tokens do to a draft, whatever styles are open; those stay as they are. -/
def HasEffect (tokens : List Token) (effect : Draft → Logged Draft) : Prop :=
  ∀ d styles, (d.withStyles styles).run addNotes tokens = withStyles styles <$> effect d

/-- What the end of a style does, if the style was opened at a place. -/
def endAt (start : Nat) (style : TextStyle) (d : Draft) : Draft :=
  { d.onBlock (·.addRun ⟨start, style, none⟩) with started := true }

/-- What a text in a style does, by what the text does. -/
def styledEffect (style : TextStyle) (effect : Draft → Logged Draft) (d : Draft) : Logged Draft :=
  endAt d.block.text.length style <$> effect { d with started := true }

theorem hasEffect_nil : HasEffect [] pure := by
  intro d styles
  exact (map_pure _ _).symm

theorem HasEffect.append {first rest : List Token} {effect effect' : Draft → Logged Draft}
    (h : HasEffect first effect) (h' : HasEffect rest effect') :
    HasEffect (first ++ rest) fun d => effect d >>= effect' := by
  intro d styles
  rw [run_append, h, bind_map_left, map_bind]
  congr 1
  funext c
  exact h' c styles

/-! ### Styles -/

theorem addRun_styles (b : OpenBlock) (styles : List OpenStyle) (s : OpenStyle) :
    OpenBlock.addRun { b with styles := styles } s =
      { b.addRun ⟨s.start, s.style, none⟩ with styles := styles } := by
  unfold OpenBlock.addRun
  split <;> rfl

/-- The end of a style takes it away, if it is the innermost one. -/
theorem closeStyle_innermost (d : Draft) (styles : List OpenStyle) (s : OpenStyle) :
    (d.withStyles (s :: styles)).closeStyle s.element =
      pure ((d.onBlock (·.addRun ⟨s.start, s.style, none⟩)).withStyles styles) := by
  have hof : OpenBlock.isOf s.element s = true := by simp [OpenBlock.isOf]
  have hblock : OpenBlock.closeStyle { d.block with styles := s :: styles } s.element =
      pure { d.block.addRun ⟨s.start, s.style, none⟩ with styles := styles } := by
    simp only [OpenBlock.closeStyle, List.find?_cons_of_pos hof, List.eraseP_cons_of_pos hof]
    rw [addRun_styles { d.block with styles := s :: styles }, addRun_styles d.block]
  show OpenBlock.closeStyle { d.block with styles := s :: styles } s.element >>= _ = _
  rw [hblock, pure_bind]
  rfl

/-- A text in a style does what the text does and styles what it writes. -/
theorem HasEffect.styled {style : TextStyle} {opening closing : Token} {inner : List Token}
    {effect : Draft → Logged Draft} (hspelling : Spelling style opening closing)
    (h : HasEffect inner effect) :
    HasEffect (opening :: (inner ++ [closing])) (styledEffect style effect) := by
  obtain ⟨element, hopening, hclosing⟩ := hspelling.take
  intro d styles
  have hopened : (d.withStyles styles).step addNotes opening =
      pure (withStyles (⟨d.block.text.length, style, element⟩ :: styles)
        { d with started := true }) := by
    rw [step, hopening, pure_bind]
    rfl
  rw [run_cons, hopened, pure_bind, run_append, h, bind_map_left, styledEffect, Functor.map_map,
    map_eq_pure_bind]
  congr 1
  funext c
  show step addNotes _ closing >>= pure = _
  rw [bind_pure, step, hclosing, closeStyle_innermost _ styles ⟨_, style, element⟩, pure_bind]
  rfl

/-! ### Tokens without styles -/

theorem take_inlineCode (d : Draft) (styles : List OpenStyle) (s : String) :
    (d.withStyles styles).take addNotes (.inlineCode s) =
      pure (((d.append s).onBlock (·.addRun ⟨d.block.text.length, codeStyle, none⟩)).withStyles
        styles) :=
  closeStyle_innermost (d.append s) styles ⟨d.block.text.length, codeStyle, none⟩

theorem addNotes_withStyles (d : Draft) (styles : List OpenStyle) (body : String) :
    (d.withStyles styles).addNotes body = withStyles styles <$> d.addNotes body := by
  unfold addNotes
  simp only [apply_ite (fun x : Logged Draft => withStyles styles <$> x), map_bind]
  rfl

/-- A token that is no style does not look at the styles that are open. -/
theorem take_withStyles (d : Draft) (styles : List OpenStyle) {t : Token}
    (hinline : t.isInline = true) (hstyle : t.isStyle = false) :
    (d.withStyles styles).take addNotes t = withStyles styles <$> d.take addNotes t := by
  cases t with
  | text s => rfl
  | emoji shortcode glyph => rfl
  | softBreak => rfl
  | hardBreak => rfl
  | image src alt =>
      obtain ⟨mode, -⟩ := d
      cases mode <;> rfl
  | inlineCode s =>
      rw [take_inlineCode]
      have hown := take_inlineCode d d.block.styles s
      change d.take addNotes (.inlineCode s) = _ at hown
      rw [hown, map_pure, withStyles_withStyles]
  | htmlInline html =>
      show takeInlineHtml addNotes _ html = withStyles styles <$> takeInlineHtml addNotes _ html
      unfold takeInlineHtml
      rw [map_bind]
      refine Logged.bind_congr_of_ok fun fragment hfragment => ?_
      cases fragment with
      | opening tag style => simp [Token.isStyle, InlineHtml.tagName?, hfragment] at hstyle
      | closing tag => simp [Token.isStyle, InlineHtml.tagName?, hfragment] at hstyle
      | comment body => exact addNotes_withStyles d styles body
  | _ => simp [Token.isInline, Token.isStyle] at hinline hstyle

theorem hasEffect_token {t : Token} (hinline : t.isInline = true) (hstyle : t.isStyle = false) :
    HasEffect [t] fun d => d.step addNotes t := by
  intro d styles
  show step addNotes _ t >>= pure = withStyles styles <$> step addNotes d t
  unfold step
  rw [bind_pure, take_withStyles d styles hinline hstyle, bind_map_left, map_bind]
  rfl

/-- Code in running text is text in the style of code. -/
theorem hasEffect_inlineCode (s : String) :
    HasEffect [.inlineCode s] (styledEffect codeStyle fun d => d.step addNotes (.text s)) := by
  intro d styles
  show step addNotes _ (.inlineCode s) >>= pure = _
  rw [bind_pure, step, take_inlineCode]
  rfl

/-! ### Texts and documents -/

/-- A text does the same in both spellings. -/
theorem exists_hasEffect {content content' : List Token} (h : Respelled content content') :
    ∃ effect, HasEffect content effect ∧ HasEffect content' effect := by
  induction h with
  | nil => exact ⟨pure, hasEffect_nil, hasEffect_nil⟩
  | token hinline hstyle _ ih =>
      obtain ⟨effect, hrest, hrest'⟩ := ih
      have htoken := hasEffect_token hinline hstyle
      exact ⟨_, htoken.append hrest, htoken.append hrest'⟩
  | @styled style opening closing opening' closing' inner inner' rest rest'
      hspelling hspelling' _ _ ihinner ihrest =>
      obtain ⟨effect, hinner, hinner'⟩ := ihinner
      obtain ⟨effect', hrest, hrest'⟩ := ihrest
      have hfirst := (HasEffect.styled hspelling hinner).append hrest
      have hsecond := (HasEffect.styled hspelling' hinner').append hrest'
      rw [List.cons_append, List.append_assoc, List.singleton_append] at hfirst hsecond
      exact ⟨_, hfirst, hsecond⟩
  | @code s opening closing rest rest' hspelling _ ih =>
      obtain ⟨effect, hrest, hrest'⟩ := ih
      have htext : HasEffect [.text s] fun d => d.step addNotes (.text s) := hasEffect_token rfl rfl
      have hsecond := (HasEffect.styled hspelling htext).append hrest'
      exact ⟨_, (hasEffect_inlineCode s).append hrest, hsecond⟩

theorem run_respelled {tokens tokens' : List Token} (h : RespelledDocument tokens tokens')
    (d : Draft) : d.run addNotes tokens = d.run addNotes tokens' := by
  induction h generalizing d with
  | nil => rfl
  | text hcontent _ ih =>
      obtain ⟨effect, hfirst, hsecond⟩ := exists_hasEffect hcontent
      have heq := (hfirst d d.block.styles).trans (hsecond d d.block.styles).symm
      change d.run addNotes _ = d.run addNotes _ at heq
      rw [run_append, run_append, heq]
      congr 1
      funext c
      exact ih c
  | block _ _ ih =>
      rw [run_cons, run_cons]
      congr 1
      funext c
      exact ih c

end Draft

/-! ### The theorem -/

/--
**The spelling of a style does not matter.**  The tags `strong` and `b`, `em` and `i`, and `code`,
in whatever case they are written, are spellings of the styles that Markdown has for strong text,
emphasis and code.  Documents that are the same but for the spelling of styles, where the styles of
each text are properly nested in it, have the same slides, with the same runs in the same order, or
fail in the same way; they even give the same notices.
-/
theorem compileTokens_respelled :
    (∀ name style, (name, style) ∈ markdownElements → ∀ s s' : String,
      InlineHtml.Spells s name → InlineHtml.Spells s' name →
        Spelling style (.htmlInline (InlineHtml.openingTag s))
          (.htmlInline (InlineHtml.closingTag s'))) ∧
    ∀ tokens tokens', RespelledDocument tokens tokens' →
      compileTokens tokens = compileTokens tokens' := by
  constructor
  · intro name style hname s s' hs hs'
    exact spelling_element hname hs hs'
  · intro tokens tokens' h
    rw [compileTokens, compileTokens, Draft.run_respelled h]

/-- Strong code in emphasis, in Markdown. -/
def marked : List Token :=
  [.paragraphOpen .empty, .emphasisOpen, .text "a", .strongOpen, .inlineCode "b", .strongClose,
    .emphasisClose, .paragraphClose]

/-- Strong code in emphasis, with tags. -/
def tagged : List Token :=
  [.paragraphOpen .empty, .htmlInline "<EM>", .text "a", .htmlInline "<b>", .htmlInline "<Code>",
    .text "b", .htmlInline "</code>", .htmlInline "</B>", .htmlInline "</em>", .paragraphClose]

theorem respelled_tagged : RespelledDocument marked tagged := by
  have hemphasis : Spelling { italic := some true } (.htmlInline "<EM>") (.htmlInline "</em>") :=
    @spelling_element "em" "EM" "em" _ (by decide) (by decide) (by decide)
  have hstrong : Spelling { bold := some true } (.htmlInline "<b>") (.htmlInline "</B>") :=
    @spelling_element "b" "b" "B" _ (by decide) (by decide) (by decide)
  have hcode : Spelling Draft.codeStyle (.htmlInline "<Code>") (.htmlInline "</code>") :=
    @spelling_element "code" "Code" "code" _ (by decide) (by decide) (by decide)
  have hstrongCode : Respelled [.strongOpen, .inlineCode "b", .strongClose]
      [.htmlInline "<b>", .htmlInline "<Code>", .text "b", .htmlInline "</code>",
        .htmlInline "</B>"] := .styled .strong hstrong (.code hcode .nil) .nil
  have htext : Respelled [.text "a", .strongOpen, .inlineCode "b", .strongClose]
      [.text "a", .htmlInline "<b>", .htmlInline "<Code>", .text "b", .htmlInline "</code>",
        .htmlInline "</B>"] := .token rfl rfl hstrongCode
  have hcontent := Respelled.styled .emphasis hemphasis htext .nil
  exact .block rfl (.text hcontent (.block rfl .nil))

theorem compileTokens_tagged :
    ("strong", ({ bold := some true } : TextStyle)) ∈ markdownElements ∧
      InlineHtml.Spells "StronG" "strong" ∧ InlineHtml.Spells "STRONG" "strong" ∧
      Spelling { bold := some true } (.htmlInline "<StronG>") (.htmlInline "</STRONG>") ∧
      RespelledDocument marked tagged ∧ compileTokens marked = compileTokens tagged ∧
      ∃ slides, (compileTokens tagged).outcome = .ok slides ∧
        slides.map (fun s => s.bodies.map fun b => b.text.runs) =
          [[[⟨1, 2, Draft.codeStyle⟩, ⟨1, 2, { bold := some true }⟩,
            ⟨0, 2, { italic := some true }⟩]]] := by
  have hmem : ("strong", ({ bold := some true } : TextStyle)) ∈ markdownElements := by decide
  have hopening : InlineHtml.Spells "StronG" "strong" := by decide
  have hclosing : InlineHtml.Spells "STRONG" "strong" := by decide
  have hspelling := compileTokens_respelled.1 _ _ hmem _ _ hopening hclosing
  have hsame := compileTokens_respelled.2 _ _ respelled_tagged
  exact ⟨hmem, hopening, hclosing, hspelling, respelled_tagged, hsame, _, rfl, rfl⟩

end SlideDeck

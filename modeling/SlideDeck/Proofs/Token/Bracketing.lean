/-
The tokens of well-nested events are properly bracketed.

Most things that begin and end give an opening and a closing token, some give none, and a block of
code, a block of HTML or an image gives one that stands alone.  A heading that is underlined with
hyphens gives the tokens of a paragraph and a rule.  Which one it was the lexer only knows when the
heading ends, from a single flag, and this is enough because no two headings are open at a time.

When a paragraph closes the lexer changes tokens that it has put out already, at the place of the
opening token.  Text and line breaks are no brackets and attributes do not change what a token
opens, so this never touches the bracketing.  That it touches nothing but the text of the paragraph
needs that the place is right: an opening token stands there, and the paragraph was not closed
since.  Everything that is written between goes behind it or is joined to text behind it.
-/
import Mathlib.Data.List.DropRight
import SlideDeck.Proofs.Markdown.Nesting
import SlideDeck.Token.Lexer

namespace SlideDeck

open SlideDeck.Markdown (Event Tag TagEnd openTags? WellNested ProseApart)

/-! ### Brackets -/

/-- What stands between an opening and a closing token. -/
inductive Enclosure where
  | heading (level : Nat)
  | paragraph
  | emphasis
  | strong
  | strikethrough
  | link
  | list (kind : ListKind)
  | item
  | table
  | row
  | cell
deriving Repr, DecidableEq

/-- What a token says about the shape of a document. -/
inductive Mark where
  | opening (b : Enclosure)
  | closing (b : Enclosure)
  | rule
deriving Repr, DecidableEq

/-- The mark of a token. -/
def Token.mark? : Token → Option Mark
  | .headingOpen level _ => some (.opening (.heading level))
  | .headingClose level => some (.closing (.heading level))
  | .paragraphOpen _ => some (.opening .paragraph)
  | .paragraphClose => some (.closing .paragraph)
  | .emphasisOpen => some (.opening .emphasis)
  | .emphasisClose => some (.closing .emphasis)
  | .strongOpen => some (.opening .strong)
  | .strongClose => some (.closing .strong)
  | .strikethroughOpen => some (.opening .strikethrough)
  | .strikethroughClose => some (.closing .strikethrough)
  | .linkOpen _ => some (.opening .link)
  | .linkClose => some (.closing .link)
  | .listOpen kind => some (.opening (.list kind))
  | .listClose kind => some (.closing (.list kind))
  | .listItemOpen => some (.opening .item)
  | .listItemClose => some (.closing .item)
  | .tableOpen => some (.opening .table)
  | .tableClose => some (.closing .table)
  | .tableRowOpen => some (.opening .row)
  | .tableRowClose => some (.closing .row)
  | .tableCellOpen => some (.opening .cell)
  | .tableCellClose => some (.closing .cell)
  | .horizontalRule => some .rule
  | .text _ | .image _ _ | .fencedCode _ _ | .inlineCode _ | .htmlBlock _ | .htmlInline _
  | .softBreak | .hardBreak | .emoji _ _ => none

/-- The marks of some tokens. -/
def marks (tokens : List Token) : List Mark := tokens.filterMap Token.mark?

/-- The brackets that are open after a mark, innermost first, or nothing if it closes another one
than the innermost. -/
def Mark.open? (brackets : List Enclosure) : Mark → Option (List Enclosure)
  | opening b => some (b :: brackets)
  | closing b =>
    match brackets with
    | [] => none
    | c :: outer => if c = b then some outer else none
  | rule => some brackets

/-- Every closing token belongs to the innermost opening token that is not closed yet, and in the
end all are closed. -/
def Bracketed (tokens : List Token) : Prop := (marks tokens).foldlM Mark.open? [] = some []

instance : DecidablePred Bracketed := fun _ => inferInstanceAs (Decidable (_ = _))

theorem marks_append (first rest : List Token) :
    marks (first ++ rest) = marks first ++ marks rest :=
  List.filterMap_append

theorem marks_singleton (t : Token) : marks [t] = t.mark?.toList := by
  rw [marks, List.filterMap_cons]
  cases t.mark? <;> rfl

/-! ### What the lexer never changes -/

/-- A view of the tokens that sees nothing of what the lexer changes in tokens that it has put out:
it sees neither text and emoji nor line breaks, and it does not see the attributes of paragraphs. -/
structure Lasting {α : Type} (f : Token → Option α) : Prop where
  text : ∀ s, f (.text s) = none
  emoji : ∀ shortcode glyph, f (.emoji shortcode glyph) = none
  softBreak : f .softBreak = none
  hardBreak : f .hardBreak = none
  paragraphOpen : ∀ a a', f (.paragraphOpen a) = f (.paragraphOpen a')

theorem lasting_mark : Lasting Token.mark? where
  text := fun _ => rfl
  emoji := fun _ _ => rfl
  softBreak := rfl
  hardBreak := rfl
  paragraphOpen := fun _ _ => rfl

/-- What is dropped at the end is line breaks. -/
theorem Lexer.exists_eq_dropBreaks_append (tokens : Array Token) :
    ∃ breaks, tokens.toList = (dropBreaks tokens).toList ++ breaks ∧
      ∀ t ∈ breaks, t = .softBreak ∨ t = .hardBreak := by
  cases tokens with
  | mk tokens =>
      refine ⟨tokens.rtakeWhile fun t => t == .softBreak || t == .hardBreak, ?_, fun t ht => ?_⟩
      · unfold dropBreaks
        rw [List.popWhile_toArray]
        exact List.rdropWhile_append_rtakeWhile.symm
      · have hbreak := List.mem_rtakeWhile_imp ht
        simpa using hbreak

namespace Lasting

variable {α : Type} {f : Token → Option α}

theorem filterMap_concat_text (hf : Lasting f) (tokens : List Token) (s : String) :
    (tokens ++ [Token.text s]).filterMap f = tokens.filterMap f := by
  simp [hf.text]

theorem filterMap_expandEmoji (hf : Lasting f) (tokens : List Token) :
    (tokens.flatMap Token.expandEmoji).filterMap f = tokens.filterMap f := by
  induction tokens with
  | nil => rfl
  | cons t tokens ih =>
      have hexpand : t.expandEmoji.filterMap f = [t].filterMap f := by
        cases t with
        | text s =>
            have hsegments : (Token.text s).expandEmoji.filterMap f = [] := by
              rw [List.filterMap_eq_nil_iff]
              intro t ht
              obtain ⟨segment, -, rfl⟩ := List.mem_map.mp ht
              cases segment with
              | text s => exact hf.text s
              | emoji shortcode glyph => exact hf.emoji shortcode glyph
            simp [hsegments, hf.text]
        | _ => rfl
      rw [List.flatMap_cons, List.filterMap_append, hexpand, ih, ← List.filterMap_append,
        List.singleton_append]

theorem filterMap_pushText (hf : Lasting f) (l : Lexer) (s : String) :
    (l.pushText s).tokens.toList.filterMap f = l.tokens.toList.filterMap f := by
  unfold Lexer.pushText
  split
  · rename_i before hlast
    rw [← Array.getLast?_toList, List.getLast?_eq_some_iff] at hlast
    obtain ⟨front, hfront⟩ := hlast
    rw [Array.toList_push, Array.toList_pop, hfront, List.dropLast_concat,
      hf.filterMap_concat_text, hf.filterMap_concat_text]
  · show (l.tokens.push (.text s)).toList.filterMap f = _
    rw [Array.toList_push, hf.filterMap_concat_text]

theorem filterMap_setAttributes (hf : Lasting f) (tokens : Array Token) (i : Nat)
    (a : Attributes) :
    (Lexer.setAttributes tokens i a).toList.filterMap f = tokens.toList.filterMap f := by
  unfold Lexer.setAttributes
  rw [Array.toList_modify]
  generalize tokens.toList = tokens
  induction tokens generalizing i with
  | nil => rw [List.modify_nil]
  | cons t tokens ih =>
      cases i with
      | zero =>
          rw [List.modify_zero_cons]
          cases t with
          | paragraphOpen a' => rw [List.filterMap_cons, List.filterMap_cons, hf.paragraphOpen a a']
          | _ => rfl
      | succ i => rw [List.modify_succ_cons, List.filterMap_cons, List.filterMap_cons, ih]

theorem filterMap_dropBreaks (hf : Lasting f) (tokens : Array Token) :
    (Lexer.dropBreaks tokens).toList.filterMap f = tokens.toList.filterMap f := by
  obtain ⟨breaks, htokens, hbreaks⟩ := Lexer.exists_eq_dropBreaks_append tokens
  have hnone : breaks.filterMap f = [] := by
    rw [List.filterMap_eq_nil_iff]
    intro t ht
    rcases hbreaks t ht with rfl | rfl
    · exact hf.softBreak
    · exact hf.hardBreak
  rw [htokens, List.filterMap_append, hnone, List.append_nil]

theorem filterMap_liftAttributes (hf : Lasting f) (l : Lexer) :
    l.liftAttributes.tokens.toList.filterMap f = l.tokens.toList.filterMap f := by
  unfold Lexer.liftAttributes
  split
  · rfl
  · simp only
    split
    · rename_i s hlast
      split
      · rfl
      · rename_i rest a hsplit
        rw [← Array.getLast?_toList, List.getLast?_eq_some_iff] at hlast
        obtain ⟨front, hfront⟩ := hlast
        have hpop : l.tokens.pop.toList = front := by
          rw [Array.toList_pop, hfront, List.dropLast_concat]
        rw [hf.filterMap_setAttributes, hfront, hf.filterMap_concat_text]
        split
        · rw [hf.filterMap_dropBreaks, hpop]
        · rw [Array.toList_push, hf.filterMap_concat_text, hpop]
    · rfl

end Lasting

/-! ### The outline of some events -/

namespace Markdown

/-- Whether a tag is that of a heading that is underlined with hyphens. -/
def Tag.isRuled : Tag → Bool
  | .heading level _ source => level == 2 && Lexer.hasRuleUnderline source
  | _ => false

/-- What the tokens of a tag enclose. -/
def Tag.bracket? : Tag → Option Enclosure
  | .paragraph => some .paragraph
  | .heading level _ source =>
    some (if level == 2 && Lexer.hasRuleUnderline source then .paragraph else .heading level)
  | .list kind => some (.list kind)
  | .item => some .item
  | .table => some .table
  | .row => some .row
  | .cell => some .cell
  | .emphasis => some .emphasis
  | .strong => some .strong
  | .strikethrough => some .strikethrough
  | .link _ => some .link
  | .quote | .codeBlock _ | .htmlBlock | .image _ => none

/-- The marks with which something begins. -/
def Tag.opening (tag : Tag) : List Mark := (tag.bracket?.map .opening).toList

/-- The marks with which something ends: a rule follows a heading that is underlined with
hyphens. -/
def Tag.closing (tag : Tag) : List Mark :=
  (tag.bracket?.map .closing).toList ++ if tag.isRuled then [.rule] else []

/-- The marks of an event where some tags are open. -/
def Event.marks (tags : List Tag) : Event → List Mark
  | .start tag => tag.opening
  | .stop _ => (tags.head?.map Tag.closing).getD []
  | .rule => [.rule]
  | _ => []

/-- The marks of some events. -/
def outline (tags : List Tag) : List Event → List Mark
  | [] => []
  | e :: events => e.marks tags ++ outline ((e.tags? tags).getD tags) events

/-- The brackets of what is open. -/
def brackets (tags : List Tag) : List Enclosure := tags.filterMap Tag.bracket?

/-- A heading that is underlined with hyphens is lexed as a paragraph, and any other one is not. -/
theorem bracket?_of_isRuled {tag : Tag} (h : tag.isRuled = true) :
    tag.bracket? = some .paragraph := by
  cases tag with
  | heading level attributes source => exact congrArg some (if_pos h)
  | _ => cases h

theorem bracket?_heading {level : Nat} {attributes : Attributes} {source : String}
    (h : ¬(Tag.heading level attributes source).isRuled = true) :
    (Tag.heading level attributes source).bracket? = some (.heading level) :=
  congrArg some (if_neg h)

theorem brackets_cons {tag : Tag} {b : Enclosure} (h : tag.bracket? = some b) (tags : List Tag) :
    brackets (tag :: tags) = b :: brackets tags :=
  List.filterMap_cons_some h

/-- The marks of an event open and close the brackets of what begins and ends. -/
theorem open?_marks {tags tags' : List Tag} {e : Event} (h : e.tags? tags = some tags') :
    (e.marks tags).foldlM Mark.open? (brackets tags) = some (brackets tags') := by
  cases e with
  | start tag =>
      obtain rfl := Option.some.inj h
      simp only [Event.marks, Tag.opening, brackets, List.filterMap_cons]
      cases tag.bracket? <;> rfl
  | stop e =>
      obtain ⟨tag, rfl, -⟩ := tags?_stop_eq_some h
      have hrule : ∀ open' : List Enclosure,
          (if tag.isRuled then [Mark.rule] else []).foldlM Mark.open? open' = some open' := by
        intro open'
        split <;> rfl
      simp only [Event.marks, Tag.closing, brackets, List.head?_cons, Option.map_some,
        Option.getD_some, List.foldlM_append, List.filterMap_cons]
      cases tag.bracket? with
      | none => exact hrule _
      | some b =>
          simp only [Option.map_some, Option.toList_some, List.foldlM_cons, Mark.open?, if_true]
          exact hrule _
  | _ =>
      obtain rfl := Option.some.inj h
      rfl

/-- The outline of well-nested events is properly bracketed. -/
theorem open?_outline {tags tags' : List Tag} {events : List Event}
    (h : openTags? tags events = some tags') :
    (outline tags events).foldlM Mark.open? (brackets tags) = some (brackets tags') := by
  induction events generalizing tags with
  | nil =>
      obtain rfl := Option.some.inj h
      rfl
  | cons e events ih =>
      rw [openTags?_cons] at h
      obtain ⟨next, he, hrest⟩ := Option.bind_eq_some_iff.mp h
      rw [outline, List.foldlM_append, open?_marks he, he]
      exact ih hrest

end Markdown

/-! ### Lifting -/

theorem Text.dropEndWhile_begins (p : Char → Bool) (s : List Char) : dropEndWhile p s <+: s := by
  have hsuffix : (s.reverse.dropWhile p).reverse.reverse <:+ s.reverse := by
    rw [List.reverse_reverse]
    exact List.dropWhile_suffix p
  exact List.reverse_suffix.mp hsuffix

namespace Attributes

theorem splitGroup?_begins {s before body : List Char} (h : splitGroup? s = some (before, body)) :
    before <+: s := by
  unfold splitGroup? at h
  split at h
  · rename_i back hback
    split at h
    · rename_i rest hrest
      obtain rfl := (Prod.mk.inj (Option.some.inj h)).1
      have hsuffix : rest <:+ (Text.trimEnd s).reverse := by
        rw [hback]
        refine List.IsSuffix.trans ?_ (List.suffix_cons _ back)
        refine List.IsSuffix.trans ?_ (List.dropWhile_suffix fun c => !isBrace c)
        rw [hrest]
        exact List.suffix_cons _ rest
      have hprefix : rest.reverse <+: Text.trimEnd s := by
        rwa [← List.reverse_suffix, List.reverse_reverse]
      exact hprefix.trans (Text.dropEndWhile_begins _ s)
    · cases h
  · cases h

/-- What is left of a text in front of its attributes is the beginning of it. -/
theorem splitTrailing_begins {s rest : String} {a : Attributes}
    (h : splitTrailing s = some (rest, a)) : ∃ more, s = rest ++ more := by
  unfold splitTrailing at h
  split at h
  · cases h
  · rename_i before body hgroup
    obtain ⟨a', -, hsplit⟩ := Option.map_eq_some_iff.mp h
    obtain rfl := (Prod.mk.inj hsplit).1
    obtain ⟨more, hmore⟩ :=
      (Text.dropEndWhile_begins _ before).trans (splitGroup?_begins hgroup)
    refine ⟨String.ofList more, ?_⟩
    rw [← String.ofList_append, Text.trimEnd, hmore, String.ofList_toList]

end Attributes

/-- A paragraph opens at a place and was not closed since. -/
def OpensParagraph (tokens : List Token) (i : Nat) : Prop :=
  ∃ front attributes rest, tokens = front ++ .paragraphOpen attributes :: rest ∧
    front.length = i ∧ .paragraphClose ∉ rest

/-- What lifting does at the end of a paragraph: nothing, or it shortens the text there, or it
removes the text with the line breaks in front of it. -/
inductive Shortened : List Token → List Token → Prop where
  | nothing : Shortened [] []
  | text (rest more : String) : Shortened [.text (rest ++ more)] [.text rest]
  | removed {breaks : List Token} (s : String)
    (hbreaks : ∀ t ∈ breaks, t = .softBreak ∨ t = .hardBreak) : Shortened (breaks ++ [.text s]) []

/-- What lifting does to the tokens: it changes the attributes of the paragraph that opens at a
place, and shortens its end. -/
def Lifted (i : Nat) (tokens tokens' : List Token) : Prop :=
  ∃ front attributes attributes' kept cut cut', front.length = i ∧
    tokens = front ++ .paragraphOpen attributes :: (kept ++ cut) ∧
    tokens' = front ++ .paragraphOpen attributes' :: (kept ++ cut') ∧
    .paragraphClose ∉ kept ++ cut ∧ Shortened cut cut'

/-! ### Writing -/

/-- What most events do to the tokens: they write none, or one that closes no paragraph, or join
text to text. -/
inductive Writes (tokens : List Token) : List Token → Prop where
  | nothing : Writes tokens tokens
  | token (t : Token) (ht : t ≠ .paragraphClose) : Writes tokens (tokens ++ [t])
  | joined {before : List Token} {s : String} (more : String)
    (htokens : tokens = before ++ [.text s]) : Writes tokens (before ++ [.text (s ++ more)])

theorem opensParagraph_push (tokens : List Token) (attributes : Attributes) :
    OpensParagraph (tokens ++ [.paragraphOpen attributes]) tokens.length :=
  ⟨tokens, attributes, [], rfl, rfl, List.not_mem_nil⟩

/-- Text that is last of all is last in the open paragraph. -/
theorem exists_eq_concat_text {front rest before : List Token} {a : Attributes} {s : String}
    (h : front ++ .paragraphOpen a :: rest = before ++ [.text s]) :
    ∃ inner, rest = inner ++ [.text s] ∧ before = front ++ .paragraphOpen a :: inner := by
  rcases List.eq_nil_or_concat' rest with rfl | ⟨inner, last, rfl⟩
  · have hlast := List.append_inj_right' h rfl
    simp at hlast
  · rw [← List.cons_append, ← List.append_assoc] at h
    obtain rfl := List.singleton_inj.mp (List.append_inj_right' h rfl)
    exact ⟨inner, rfl, (List.append_inj_left' h rfl).symm⟩

/-- A paragraph that is open stays so until a paragraph is closed. -/
theorem OpensParagraph.writes {tokens tokens' : List Token} {i : Nat}
    (h : OpensParagraph tokens i) (hwrites : Writes tokens tokens') :
    OpensParagraph tokens' i := by
  obtain ⟨front, attributes, rest, rfl, hlength, hclose⟩ := h
  cases hwrites with
  | nothing => exact ⟨front, attributes, rest, rfl, hlength, hclose⟩
  | token t ht =>
      refine ⟨front, attributes, rest ++ [t], by simp, hlength, fun hmem => ?_⟩
      rcases List.mem_append.mp hmem with hmem | hmem
      · exact hclose hmem
      · exact ht (List.mem_singleton.mp hmem).symm
  | @joined before s more htokens =>
      obtain ⟨inner, rfl, rfl⟩ := exists_eq_concat_text htokens
      refine ⟨front, attributes, inner ++ [.text (s ++ more)], by simp, hlength, fun hmem => ?_⟩
      rcases List.mem_append.mp hmem with hmem | hmem
      · exact hclose (List.mem_append_left _ hmem)
      · simp at hmem

namespace Lexer

open SlideDeck.Markdown (brackets outline)

/-- The lexer after some events. -/
def lexed (events : List Event) : Lexer := events.foldl step empty

/-- One lexer comes from another by an event that neither begins nor ends prose. -/
structure Appends (l l' : Lexer) (added : List Mark) : Prop where
  paragraphs : l'.paragraphs = l.paragraphs
  ruleHeading : l'.ruleHeading = l.ruleHeading
  writes : Writes l.tokens.toList l'.tokens.toList
  marks : marks l'.tokens.toList = marks l.tokens.toList ++ added

variable (l : Lexer) (code image : Option (String × String)) (html : Option String)

theorem toList_push (t : Token) : (l.push t).tokens.toList = l.tokens.toList ++ [t] :=
  Array.toList_push

/-- What is being gathered may change without any token. -/
theorem appends_nothing :
    Appends l { l with codeBlock := code, htmlBlock := html, image := image } [] where
  paragraphs := rfl
  ruleHeading := rfl
  writes := .nothing
  marks := (List.append_nil _).symm

theorem appends_push {t : Token} (ht : t ≠ .paragraphClose) :
    Appends l ({ l with codeBlock := code, htmlBlock := html, image := image }.push t)
      t.mark?.toList where
  paragraphs := rfl
  ruleHeading := rfl
  writes := by
    rw [toList_push]
    exact .token t ht
  marks := by
    rw [toList_push, marks_append, marks_singleton]

theorem writes_pushText (s : String) :
    Writes l.tokens.toList (l.pushText s).tokens.toList := by
  unfold pushText
  split
  · rename_i before hlast
    rw [← Array.getLast?_toList, List.getLast?_eq_some_iff] at hlast
    obtain ⟨front, hfront⟩ := hlast
    rw [Array.toList_push, Array.toList_pop, hfront, List.dropLast_concat]
    exact .joined s rfl
  · rw [toList_push]
    exact .token _ (by simp)

theorem appends_pushText (s : String) : Appends l (l.pushText s) [] where
  paragraphs := by
    unfold pushText
    split <;> rfl
  ruleHeading := by
    unfold pushText
    split <;> rfl
  writes := l.writes_pushText s
  marks := (lasting_mark.filterMap_pushText l s).trans (List.append_nil _).symm

theorem appends_start {tag : Tag} (h : tag.isProse = false) :
    Appends l (l.start tag) tag.opening := by
  cases tag with
  | paragraph | heading level attributes source => cases h
  | quote | codeBlock info | htmlBlock | image destination => exact l.appends_nothing _ _ _
  | _ => exact l.appends_push _ _ _ (by simp)

theorem appends_stop {tag : Tag} (h : tag.isProse = false) :
    Appends l (l.stop tag.toEnd) tag.closing := by
  cases tag with
  | paragraph | heading level attributes source => cases h
  | quote => exact l.appends_nothing _ _ _
  | codeBlock info | htmlBlock | image destination =>
      simp only [Tag.toEnd, stop]
      split
      · exact l.appends_nothing _ _ _
      · exact l.appends_push _ _ _ (by simp)
  | _ => exact l.appends_push _ _ _ (by simp)

/-- Events that stand alone. -/
theorem appends_step {e : Event} (hstart : ∀ tag, e ≠ .start tag) (hstop : ∀ tag, e ≠ .stop tag)
    (tags : List Tag) : Appends l (l.step e) (e.marks tags) := by
  cases e with
  | start tag => exact absurd rfl (hstart tag)
  | stop tag => exact absurd rfl (hstop tag)
  | text s =>
      simp only [step, text]
      split
      · exact l.appends_nothing _ _ _
      · exact l.appends_nothing _ _ _
      · exact l.appends_pushText s
  | html s =>
      simp only [step]
      split
      · exact l.appends_push _ _ _ (by simp)
      · exact l.appends_nothing _ _ _
  | _ => exact l.appends_push _ _ _ (by simp)

/-! ### Closing a paragraph -/

/-- Lifting has no effect beyond the tokens and the open paragraphs. -/
theorem liftAttributes_eq {i : Nat} {outer : List Nat} (h : l.paragraphs = i :: outer) :
    l.liftAttributes.paragraphs = outer ∧ l.liftAttributes.ruleHeading = l.ruleHeading := by
  unfold liftAttributes
  rw [h]
  simp only
  split
  · split <;> exact ⟨rfl, rfl⟩
  · exact ⟨rfl, rfl⟩

theorem toList_setAttributes {tokens : Array Token} {front rest : List Token} {a : Attributes}
    (h : tokens.toList = front ++ .paragraphOpen a :: rest) (a' : Attributes) :
    (setAttributes tokens front.length a').toList = front ++ .paragraphOpen a' :: rest := by
  unfold setAttributes
  rw [Array.toList_modify, h, List.modify_eq_take_cons_drop (by simp)]
  simp

/-- The breaks that are dropped stand behind the opening token. -/
theorem toList_dropBreaks {tokens : Array Token} {front inner : List Token} {a : Attributes}
    (h : tokens.toList = front ++ .paragraphOpen a :: inner) :
    ∃ kept breaks, inner = kept ++ breaks ∧ (∀ t ∈ breaks, t = .softBreak ∨ t = .hardBreak) ∧
      (dropBreaks tokens).toList = front ++ .paragraphOpen a :: kept := by
  obtain ⟨breaks, htokens, hbreaks⟩ := exists_eq_dropBreaks_append tokens
  have hopen : .paragraphOpen a ∉ breaks := fun hmem => by simpa using hbreaks _ hmem
  rw [htokens, List.append_eq_append_iff] at h
  rcases h with ⟨between, -, rfl⟩ | ⟨kept, hkept, hinner⟩
  · exact absurd (by simp) hopen
  · cases kept with
    | nil =>
        rw [List.nil_append] at hinner
        exact absurd (by simp [← hinner]) hopen
    | cons t kept =>
        obtain ⟨rfl, rfl⟩ := List.cons.inj hinner
        exact ⟨kept, breaks, rfl, hbreaks, hkept⟩

/-- Lifting changes the attributes of the innermost paragraph and shortens its end. -/
theorem lifted_liftAttributes {i : Nat} {outer : List Nat} (h : l.paragraphs = i :: outer)
    (hopens : OpensParagraph l.tokens.toList i) :
    Lifted i l.tokens.toList l.liftAttributes.tokens.toList := by
  obtain ⟨front, a, rest, htokens, rfl, hclose⟩ := hopens
  have hnothing : Lifted front.length l.tokens.toList l.tokens.toList := by
    refine ⟨front, a, a, rest, [], [], rfl, ?_, ?_, ?_, .nothing⟩ <;> rwa [List.append_nil]
  unfold liftAttributes
  rw [h]
  simp only
  split
  · rename_i s hlast
    split
    · exact hnothing
    · rename_i left a' hsplit
      rw [← Array.getLast?_toList, List.getLast?_eq_some_iff] at hlast
      obtain ⟨before, hbefore⟩ := hlast
      obtain ⟨inner, rfl, rfl⟩ := exists_eq_concat_text (htokens.symm.trans hbefore)
      have hpop : l.tokens.pop.toList = front ++ .paragraphOpen a :: inner := by
        rw [Array.toList_pop, hbefore, List.dropLast_concat]
      by_cases hleft : left.isEmpty = true
      · rw [if_pos hleft]
        obtain ⟨kept, breaks, rfl, hbreaks, hdrop⟩ := toList_dropBreaks hpop
        rw [List.append_assoc] at htokens hclose
        refine ⟨front, a, a', kept, breaks ++ [.text s], [], rfl, htokens, ?_, hclose,
          .removed s hbreaks⟩
        rw [List.append_nil]
        exact toList_setAttributes hdrop a'
      · rw [if_neg hleft]
        obtain ⟨more, rfl⟩ := Attributes.splitTrailing_begins hsplit
        refine ⟨front, a, a', inner, [.text (left ++ more)], [.text left], rfl, htokens, ?_, hclose,
          .text left more⟩
        refine toList_setAttributes (a := a) ?_ a'
        rw [Array.toList_push, hpop]
        simp
  · exact hnothing

/-! ### At every moment -/

/-- The lexer where some tags are open: it has written some marks, it knows whether it is in a
heading that is underlined with hyphens, and it has the places of the open paragraphs. -/
structure Within (tags : List Tag) (written : List Mark) (l : Lexer) : Prop where
  marks : marks l.tokens.toList = written
  ruleHeading : l.ruleHeading = tags.any Tag.isRuled
  paragraphs : l.paragraphs.length = (brackets tags).count .paragraph
  opens : ∀ i ∈ l.paragraphs, OpensParagraph l.tokens.toList i

variable {l} {tags tags' : List Tag} {written : List Mark}

theorem within_empty : Within [] [] empty where
  marks := rfl
  ruleHeading := rfl
  paragraphs := rfl
  opens := fun _ hi => absurd hi List.not_mem_nil

/-- Only prose is lexed as a paragraph. -/
theorem isProse_of_paragraph {tag : Tag} (h : tag.bracket? = some .paragraph) :
    tag.isProse = true := by
  cases tag with
  | paragraph | heading level attributes source => rfl
  | _ => cases h

theorem isProse_of_isRuled {tag : Tag} (h : tag.isRuled = true) : tag.isProse = true := by
  cases tag with
  | heading level attributes source => rfl
  | _ => cases h

theorem count_brackets_cons {tag : Tag} (h : tag.bracket? ≠ some .paragraph) (tags : List Tag) :
    (brackets (tag :: tags)).count .paragraph = (brackets tags).count .paragraph := by
  cases hbracket : tag.bracket? with
  | none => rw [brackets, List.filterMap_cons_none hbracket, brackets]
  | some b =>
      rw [Markdown.brackets_cons hbracket, List.count_cons_of_ne]
      rintro rfl
      exact h hbracket

/-- Where no prose is open there is no paragraph. -/
theorem count_brackets_eq_zero (h : tags.countP Tag.isProse = 0) :
    tags.any Tag.isRuled = false ∧ (brackets tags).count .paragraph = 0 := by
  have hprose : ∀ tag ∈ tags, ¬tag.isProse = true := List.countP_eq_zero.mp h
  constructor
  · rw [List.any_eq_false]
    intro tag htag hruled
    exact hprose tag htag (isProse_of_isRuled hruled)
  · rw [List.count_eq_zero]
    intro hmem
    obtain ⟨tag, htag, hbracket⟩ := List.mem_filterMap.mp hmem
    exact hprose tag htag (isProse_of_paragraph hbracket)

theorem Within.appends {l' : Lexer} {added : List Mark} (h : Within tags written l)
    (happends : Appends l l' added) (hruled : tags'.any Tag.isRuled = tags.any Tag.isRuled)
    (hcount : (brackets tags').count .paragraph = (brackets tags).count .paragraph) :
    Within tags' (written ++ added) l' where
  marks := by rw [happends.marks, h.marks]
  ruleHeading := by rw [happends.ruleHeading, h.ruleHeading, hruled]
  paragraphs := by rw [happends.paragraphs, h.paragraphs, hcount]
  opens := by
    intro i hi
    rw [happends.paragraphs] at hi
    exact (h.opens i hi).writes happends.writes

theorem Within.openParagraph (h : Within tags written l) (attributes : Attributes) {tag : Tag}
    (hbracket : tag.bracket? = some .paragraph) {ruled : Bool}
    (hruled : (l.ruleHeading || tag.isRuled) = ruled) :
    Within (tag :: tags) (written ++ tag.opening)
      ({ l with ruleHeading := ruled }.openParagraph attributes) where
  marks := by
    show SlideDeck.marks (l.push (.paragraphOpen attributes)).tokens.toList = _
    rw [toList_push, marks_append, h.marks, Tag.opening, hbracket]
    rfl
  ruleHeading := by
    show ruled = _
    rw [← hruled, h.ruleHeading, List.any_cons, Bool.or_comm]
  paragraphs := by
    show l.paragraphs.length + 1 = _
    rw [h.paragraphs, Markdown.brackets_cons hbracket, List.count_cons_self]
  opens := by
    intro i hi
    show OpensParagraph (l.push (.paragraphOpen attributes)).tokens.toList i
    rw [toList_push]
    rcases List.mem_cons.mp hi with rfl | hi
    · exact opensParagraph_push _ attributes
    · exact (h.opens i hi).writes (.token _ (by simp))

/-- Prose that is lexed as a paragraph is the only one that is open when it ends. -/
theorem Within.paragraphs_eq {tag : Tag} (h : Within (tag :: tags) written l)
    (hbracket : tag.bracket? = some .paragraph) (houter : tags.countP Tag.isProse = 0) :
    ∃ i, l.paragraphs = [i] := by
  have hlength := h.paragraphs
  rw [Markdown.brackets_cons hbracket, List.count_cons_self,
    (count_brackets_eq_zero houter).2] at hlength
  exact List.length_eq_one_iff.mp hlength

/-- When the paragraph ends its tokens are lifted, and no paragraph is open any more. -/
theorem Within.liftAttributes {tag : Tag} (h : Within (tag :: tags) written l)
    (hbracket : tag.bracket? = some .paragraph) (houter : tags.countP Tag.isProse = 0)
    (ruled : Bool) :
    ({ l with ruleHeading := ruled } : Lexer).liftAttributes.paragraphs = [] ∧
      ({ l with ruleHeading := ruled } : Lexer).liftAttributes.ruleHeading = ruled ∧
      SlideDeck.marks ({ l with ruleHeading := ruled } : Lexer).liftAttributes.tokens.toList =
        written := by
  obtain ⟨i, hparagraphs⟩ := h.paragraphs_eq hbracket houter
  obtain ⟨hnone, hruled⟩ := liftAttributes_eq { l with ruleHeading := ruled } hparagraphs
  refine ⟨hnone, hruled, ?_⟩
  exact (lasting_mark.filterMap_liftAttributes { l with ruleHeading := ruled }).trans h.marks

/-- No prose is open any more. -/
theorem within_closed (hmarks : SlideDeck.marks l.tokens.toList = written)
    (hnone : l.paragraphs = []) (hheading : l.ruleHeading = false)
    (houter : tags.countP Tag.isProse = 0) : Within tags written l where
  marks := hmarks
  ruleHeading := by rw [hheading, (count_brackets_eq_zero houter).1]
  paragraphs := by rw [hnone, (count_brackets_eq_zero houter).2, List.length_nil]
  opens := by
    intro i hi
    rw [hnone] at hi
    exact absurd hi List.not_mem_nil

theorem Within.stopParagraph (h : Within (.paragraph :: tags) written l)
    (houter : tags.countP Tag.isProse = 0) :
    Within tags (written ++ Tag.paragraph.closing) (l.stop .paragraph) := by
  obtain ⟨hnone, hheading, hmarks⟩ := h.liftAttributes rfl houter l.ruleHeading
  refine within_closed ?_ hnone (hheading.trans ?_) houter
  · show SlideDeck.marks (l.liftAttributes.push .paragraphClose).tokens.toList = _
    rw [toList_push, marks_append]
    exact congrArg (· ++ [_]) hmarks
  · rw [h.ruleHeading, List.any_cons, (count_brackets_eq_zero houter).1]
    rfl

/-- A heading that is underlined with hyphens ends in the tokens of a paragraph and a rule. -/
theorem Within.stop_ruled {tag : Tag} (h : Within (tag :: tags) written l)
    (hruled : tag.isRuled = true) : l.stop tag.toEnd =
      (({ l with ruleHeading := false } : Lexer).liftAttributes.push .paragraphClose).push
        .horizontalRule := by
  have hheading : l.ruleHeading = true := by rw [h.ruleHeading, List.any_cons, hruled]; rfl
  cases tag with
  | heading level attributes source =>
      show (if l.ruleHeading = true then _ else _) = _
      rw [if_pos hheading]
  | _ => cases hruled

/-- A heading that is none of those ends in the token of a heading. -/
theorem Within.stop_unruled {level : Nat} {attributes : Attributes} {source : String}
    (h : Within (.heading level attributes source :: tags) written l)
    (hruled : ¬(Tag.heading level attributes source).isRuled = true)
    (houter : tags.countP Tag.isProse = 0) :
    l.stop (.heading level) = l.push (.headingClose level) := by
  have hheading : l.ruleHeading = false := by
    rw [h.ruleHeading, List.any_cons, (count_brackets_eq_zero houter).1, Bool.or_false]
    exact Bool.eq_false_iff.mpr hruled
  show (if l.ruleHeading = true then _ else _) = _
  rw [if_neg (by simp [hheading])]

theorem Within.stopRuled {tag : Tag} (h : Within (tag :: tags) written l)
    (hruled : tag.isRuled = true) (houter : tags.countP Tag.isProse = 0) :
    Within tags (written ++ tag.closing) (l.stop tag.toEnd) := by
  have hbracket := Markdown.bracket?_of_isRuled hruled
  obtain ⟨hnone, hheading, hmarks⟩ := h.liftAttributes hbracket houter false
  rw [h.stop_ruled hruled]
  refine within_closed ?_ hnone hheading houter
  rw [toList_push, toList_push, marks_append, marks_append, hmarks, Tag.closing, hbracket,
    if_pos hruled, List.append_assoc]
  rfl

/-- A heading that is none of those gives the tokens of a heading. -/
theorem Within.stopHeading {level : Nat} {attributes : Attributes} {source : String}
    (h : Within (.heading level attributes source :: tags) written l)
    (hruled : ¬(Tag.heading level attributes source).isRuled = true)
    (houter : tags.countP Tag.isProse = 0) :
    Within tags (written ++ (Tag.heading level attributes source).closing)
      (l.stop (.heading level)) := by
  have hbracket := Markdown.bracket?_heading hruled
  rw [h.stop_unruled hruled houter, Tag.closing, hbracket, if_neg hruled]
  refine h.appends (l.appends_push _ _ _ (by simp)) ?_ ?_
  · rw [List.any_cons, Bool.eq_false_iff.mpr hruled, Bool.false_or]
  · rw [count_brackets_cons (by simp [hbracket])]

theorem Within.start {tag : Tag} (h : Within tags written l) :
    Within (tag :: tags) (written ++ tag.opening) (l.start tag) := by
  by_cases hprose : tag.isProse = true
  · cases tag with
    | paragraph => exact h.openParagraph Attributes.empty rfl (Bool.or_false _)
    | heading level attributes source =>
        by_cases hruled : (Tag.heading level attributes source).isRuled = true
        · have hstart : l.start (.heading level attributes source) =
              { l with ruleHeading := true }.openParagraph attributes := if_pos hruled
          rw [hstart]
          refine h.openParagraph attributes (Markdown.bracket?_of_isRuled hruled) ?_
          rw [hruled, Bool.or_true]
        · have hstart : l.start (.heading level attributes source) =
              l.push (.headingOpen level attributes) := if_neg hruled
          have hbracket := Markdown.bracket?_heading hruled
          rw [hstart, Tag.opening, hbracket]
          refine h.appends (l.appends_push _ _ _ (by simp)) ?_ ?_
          · rw [List.any_cons, Bool.eq_false_iff.mpr hruled, Bool.false_or]
          · rw [count_brackets_cons (by simp [hbracket])]
    | _ => cases hprose
  · refine h.appends (l.appends_start (Bool.eq_false_iff.mpr hprose)) ?_ ?_
    · have hruled : tag.isRuled = false :=
        Bool.eq_false_iff.mpr fun hruled => hprose (isProse_of_isRuled hruled)
      rw [List.any_cons, hruled, Bool.false_or]
    · exact count_brackets_cons (fun hbracket => hprose (isProse_of_paragraph hbracket)) tags

theorem Within.stop {tag : Tag} (h : Within (tag :: tags) written l)
    (hprose : (tag :: tags).countP Tag.isProse ≤ 1) :
    Within tags (written ++ tag.closing) (l.stop tag.toEnd) := by
  by_cases htag : tag.isProse = true
  · have houter : tags.countP Tag.isProse = 0 := by
      rw [List.countP_cons_of_pos htag] at hprose
      omega
    by_cases hruled : tag.isRuled = true
    · exact h.stopRuled hruled houter
    · cases tag with
      | paragraph => exact h.stopParagraph houter
      | heading level attributes source => exact h.stopHeading hruled houter
      | _ => cases htag
  · refine h.appends (l.appends_stop (Bool.eq_false_iff.mpr htag)) ?_ ?_
    · have hruled : tag.isRuled = false :=
        Bool.eq_false_iff.mpr fun hruled => htag (isProse_of_isRuled hruled)
      rw [List.any_cons, hruled, Bool.false_or]
    · exact (count_brackets_cons (fun hbracket => htag (isProse_of_paragraph hbracket)) tags).symm

/-- The invariant is kept by every event that may come where no two paragraphs or headings are
open. -/
theorem Within.step {e : Event} (h : Within tags written l) (he : e.tags? tags = some tags')
    (hprose : tags.countP Tag.isProse ≤ 1) :
    Within tags' (written ++ e.marks tags) (l.step e) := by
  cases e with
  | start tag =>
      obtain rfl := Option.some.inj he
      exact h.start
  | stop e =>
      obtain ⟨tag, rfl, rfl⟩ := Markdown.tags?_stop_eq_some he
      exact h.stop hprose
  | _ =>
      obtain rfl := Option.some.inj he
      exact h.appends (l.appends_step (by simp) (by simp) tags) rfl rfl

theorem Within.run {events : List Event} (h : Within tags written l)
    (hevents : openTags? tags events = some tags')
    (hprose : ∀ before, before <+: events → ∀ tags' ∈ openTags? tags before,
      tags'.countP Tag.isProse ≤ 1) :
    Within tags' (written ++ outline tags events) (events.foldl Lexer.step l) := by
  induction events generalizing tags written l with
  | nil =>
      obtain rfl := Option.some.inj hevents
      rwa [outline, List.append_nil]
  | cons e events ih =>
      rw [Markdown.openTags?_cons] at hevents
      obtain ⟨next, he, hrest⟩ := Option.bind_eq_some_iff.mp hevents
      have hstep := h.step he (hprose [] List.nil_prefix tags rfl)
      have hnext := ih hstep hrest fun before hbefore tags' htags => by
        refine hprose (e :: before) (List.cons_prefix_cons.mpr ⟨rfl, hbefore⟩) tags' ?_
        rw [Markdown.openTags?_cons, he]
        exact htags
      rwa [outline, he, ← List.append_assoc]

/-- What holds of the lexer where some tags are open.  Every place among the paragraphs is that of
an opening token that was not closed since, what is lifted there is at the end of this paragraph,
and a heading that is underlined with hyphens would end in the end of a paragraph and a rule. -/
structure Settled (tags : List Tag) (l : Lexer) : Prop where
  opens : ∀ i ∈ l.paragraphs, OpensParagraph l.tokens.toList i
  unlifted : l.paragraphs = [] → l.liftAttributes = l
  lifted : ∀ i ∈ l.paragraphs.head?, Lifted i l.tokens.toList l.liftAttributes.tokens.toList
  ruled : ∀ tag ∈ tags.head?, tag.isRuled = true →
    ∃ tokens, (l.step (.stop tag.toEnd)).tokens.toList =
      tokens ++ [.paragraphClose, .horizontalRule]

theorem Within.settled (h : Within tags written l) : l.Settled tags where
  opens := h.opens
  unlifted := by
    intro hnone
    unfold Lexer.liftAttributes
    rw [hnone]
  lifted := by
    intro i hi
    obtain ⟨outer, hparagraphs⟩ := List.head?_eq_some_iff.mp hi
    exact lifted_liftAttributes l hparagraphs (h.opens i (by simp [hparagraphs]))
  ruled := by
    intro tag htag hruled
    obtain ⟨outer, rfl⟩ := List.head?_eq_some_iff.mp htag
    refine ⟨({ l with ruleHeading := false } : Lexer).liftAttributes.tokens.toList, ?_⟩
    show (l.stop tag.toEnd).tokens.toList = _
    rw [h.stop_ruled hruled, toList_push, toList_push, List.append_assoc]
    rfl

/-- After some of the events of a document the lexer is where the invariant says. -/
theorem within_lexed {events before : List Event} (h : WellNested events)
    (hprose : ProseApart events) (hbefore : before <+: events) :
    ∃ tags, openTags? [] before = some tags ∧ Within tags (outline [] before) (lexed before) := by
  obtain ⟨rest, rfl⟩ := hbefore
  have hopen : openTags? [] (before ++ rest) = some [] := h
  rw [Markdown.openTags?_append] at hopen
  obtain ⟨tags, htags, -⟩ := Option.bind_eq_some_iff.mp hopen
  refine ⟨tags, htags, within_empty.run htags fun first hfirst tags' htags' => ?_⟩
  refine hprose first ?_ tags' htags'
  rw [List.mem_inits]
  exact hfirst.trans (List.prefix_append before rest)

end Lexer

/-- **The tokens of well-nested events are properly bracketed.**  Their brackets are those that the
events open and close, in the order of the events.  At every moment on the way the places of open
paragraphs are right, and what is lifted there belongs to the open paragraph. -/
theorem bracketed_tokensOfEvents {events : List Event} (h : WellNested events)
    (hprose : ProseApart events) :
    Bracketed (tokensOfEvents events) ∧
      marks (tokensOfEvents events) = Markdown.outline [] events ∧
      ∀ before, before <+: events → ∃ tags, openTags? [] before = some tags ∧
        (Lexer.lexed before).Settled tags := by
  have hmarks : marks (tokensOfEvents events) = Markdown.outline [] events := by
    obtain ⟨tags, -, hwithin⟩ := Lexer.within_lexed h hprose (List.prefix_refl events)
    exact (lasting_mark.filterMap_expandEmoji _).trans hwithin.marks
  refine ⟨?_, hmarks, fun before hbefore => ?_⟩
  · rw [Bracketed, hmarks]
    exact Markdown.open?_outline h
  · obtain ⟨tags, htags, hwithin⟩ := Lexer.within_lexed h hprose hbefore
    exact ⟨tags, htags, hwithin.settled⟩

/-- An item with attributes under its text, and a heading that is underlined with hyphens. -/
def underlinedEvents : List Event :=
  Event.within (.list .unordered) (Event.within .item (Event.within .paragraph
    [.text "a", .softBreak, .text "\x7b.big\x7d"])) ++
  Event.within (.heading 2 .empty "b \x7b.big\x7d\n---") [.text "b \x7b.big\x7d"]

theorem bracketed_underlinedEvents :
    WellNested underlinedEvents ∧ ProseApart underlinedEvents ∧
      Bracketed (tokensOfEvents underlinedEvents) ∧
      marks (tokensOfEvents underlinedEvents) =
        [.opening (.list .unordered), .opening .item, .opening .paragraph, .closing .paragraph,
          .closing .item, .closing (.list .unordered), .opening .paragraph, .closing .paragraph,
          .rule] := by
  have hnested : WellNested underlinedEvents := by decide +kernel
  have hprose : ProseApart underlinedEvents := by decide +kernel
  obtain ⟨hbracketed, hmarks, -⟩ := bracketed_tokensOfEvents hnested hprose
  refine ⟨hnested, hprose, hbracketed, ?_⟩
  rw [hmarks]
  decide +kernel

end SlideDeck

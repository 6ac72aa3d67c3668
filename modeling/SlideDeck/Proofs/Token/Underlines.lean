/-
When a line of hyphens under a paragraph is a slide break.

A parser of documents takes such a line for the underline of a heading.  The lexer makes it a slide
break again, and decides which headings these are by the last line of their source.  Lines of a
source hold what stands at their start in the document, so an indentation is left out of account,
but the mark of a quote in front of the hyphens is not: a heading in a quote stays one.  And they
end in a line feed only: where a carriage return stands alone, the hyphens are on one line with the
text above them.

All this is about the events of any parser.  What it says the source of a heading is, is taken as it
is documented: from its first text to the end of the hyphens under it.

When the heading ends all that came since its opening token is running text, which is put out behind
this token or joined to text behind it, and what follows changes neither these tokens nor those in
front of them.
-/
import SlideDeck.Proofs.Draft.Piece
import SlideDeck.Proofs.Markdown.Headings
import SlideDeck.Proofs.Text.Search
import SlideDeck.Proofs.Token.Images

namespace SlideDeck

open SlideDeck.Markdown (Event Tag TagEnd openTags? WellNested ProseApart NumberSigned Underlined)
open SlideDeck.Text (isBlank)

/-! ### The last line of a source -/

namespace Lexer

theorem lastLine_append {front back : List Char} (h : '\n' ∉ back) :
    lastLine (front ++ back) = lastLine front ++ back := by
  have hback : ∀ c ∈ back.reverse, (c != '\n') = true := by
    intro c hc
    rw [List.mem_reverse] at hc
    exact bne_iff_ne.mpr fun heq => h (heq ▸ hc)
  unfold lastLine
  rw [List.reverse_append, List.takeWhile_append_of_pos hback, List.reverse_append,
    List.reverse_reverse]

theorem lastLine_lineFeed (front : List Char) : lastLine (front ++ ['\n']) = [] := by
  simp [lastLine]

theorem trimEnd_hyphens (front : List Char) {hyphens : Nat} (hpos : 0 < hyphens)
    {trail : List Char} (htrail : ∀ c ∈ trail, isBlank c = true) :
    Text.trimEnd (front ++ List.replicate hyphens '-' ++ trail) =
      front ++ List.replicate hyphens '-' := by
  obtain ⟨n, rfl⟩ := Nat.exists_eq_succ_of_ne_zero (Nat.ne_of_gt hpos)
  rw [Text.trimEnd_append_blanks htrail, List.replicate_succ', ← List.append_assoc]
  exact Text.trimEnd_append (by decide) _ []

/-- Hyphens at the end of a source are a rule if there are three on its last line and nothing else
but white space. -/
theorem hasRuleUnderline_iff {source : String} {front trail : List Char} {hyphens : Nat}
    (hsource : source.toList = front ++ List.replicate hyphens '-' ++ trail) (hpos : 0 < hyphens)
    (htrail : ∀ c ∈ trail, isBlank c = true) :
    hasRuleUnderline source = true ↔
      3 ≤ ((lastLine front).dropWhile isBlank).length + hyphens ∧
        ∀ c ∈ (lastLine front).dropWhile isBlank, c = '-' := by
  have hstart : Text.trimStart (lastLine front ++ List.replicate hyphens '-') =
      (lastLine front).dropWhile isBlank ++ List.replicate hyphens '-' := by
    obtain ⟨n, rfl⟩ := Nat.exists_eq_succ_of_ne_zero (Nat.ne_of_gt hpos)
    unfold Text.trimStart
    rw [List.dropWhile_append]
    split
    · rename_i hnil
      rw [List.isEmpty_iff.mp hnil, List.nil_append, List.replicate_succ]
      exact List.dropWhile_cons_of_neg (by decide)
    · rfl
  have hend := trimEnd_hyphens ((lastLine front).dropWhile isBlank) hpos (List.forall_mem_nil _)
  rw [List.append_nil] at hend
  unfold hasRuleUnderline
  simp only
  rw [hsource, trimEnd_hyphens front hpos htrail, lastLine_append (by simp), Text.trim, hstart,
    hend]
  simp only [Bool.and_eq_true, decide_eq_true_iff, List.length_append, List.length_replicate,
    List.all_eq_true, beq_iff_eq, List.forall_mem_append]
  exact and_congr_right fun _ => and_iff_left fun c hc => List.eq_of_mem_replicate hc

/-- There are no hyphens under a heading that is one line with number signs. -/
theorem hasRuleUnderline_numberSigned {n : NumberSigned} {source : String}
    (h : n.source = source.toList) : hasRuleUnderline source = false := by
  have hblank : ∀ c ∈ n.lineEnd, isBlank c = true := by
    rcases List.mem_cons.mp n.lineEnd_mem with hnone | hend
    · rw [hnone]
      exact List.forall_mem_nil _
    · exact Markdown.isBlank_of_mem_lineEnds hend
  have htrimmed : Text.trimEnd source.toList = Text.trimEnd n.line := by
    rw [← h, NumberSigned.source, Text.trimEnd_append_blanks hblank]
  have hwhole : lastLine (Text.trimEnd n.line) = Text.trimEnd n.line :=
    @lastLine_append [] _ fun hmem => n.one_line ((Text.trimEnd_isPrefix n.line).subset hmem)
  have hsign : '#' ∈ Text.trim (Text.trimEnd n.line) :=
    Text.mem_trimEnd (Text.mem_trimStart (Text.mem_trimEnd n.sign rfl) rfl) rfl
  unfold hasRuleUnderline
  simp only
  rw [htrimmed, hwhole, Bool.and_eq_false_iff]
  exact .inr (List.all_eq_false.mpr ⟨'#', hsign, by decide⟩)

end Lexer

namespace Markdown.Underlined

open SlideDeck.Lexer (lastLine)

variable {tags : List Tag} (u : Underlined tags)

theorem lastLine_front : lastLine (u.body ++ u.lineEnd ++ u.lead) =
    (if u.lineEnd = ['\r'] then lastLine u.body ++ ['\r'] else []) ++ u.lead := by
  have hlead : '\n' ∉ u.lead := fun hmem => absurd (u.led.chars _ hmem) (by decide)
  rw [Lexer.lastLine_append hlead]
  have hend := u.lineEnd_mem
  simp only [lineEnds, List.mem_cons, List.not_mem_nil, or_false] at hend
  rcases hend with h | h | h
  · rw [h, if_neg (by decide), Lexer.lastLine_lineFeed]
  · rw [h, if_neg (by decide), List.append_cons, Lexer.lastLine_lineFeed]
  · rw [h, if_pos rfl, Lexer.lastLine_append (by decide)]

theorem isBlank_lead (h : .quote ∉ tags) : ∀ c ∈ u.lead, isBlank c = true := by
  intro c hc
  have hchar := u.led.chars c hc
  simp only [List.mem_cons, List.not_mem_nil, or_false] at hchar
  rcases hchar with rfl | rfl | rfl
  · rfl
  · rfl
  · exact absurd (u.led.mem_iff.mp hc) h

/-- The text behind the last line feed is the last line. -/
theorem standsAlone_iff : u.StandsAlone ↔
    .quote ∉ tags ∧ (u.lineEnd = ['\r'] → ∀ c ∈ lastLine u.body, isBlank c = true) := by
  refine and_congr_right fun _ => imp_congr_right fun _ => ⟨fun h => h _ ?_ ?_, ?_⟩
  · rw [lastLine, ← List.reverse_reverse u.body, List.reverse_suffix, List.reverse_reverse]
    exact List.takeWhile_prefix _
  · intro hmem
    rw [lastLine, List.mem_reverse] at hmem
    exact absurd (List.mem_takeWhile_imp hmem) (by decide)
  · rintro h line ⟨front, hfront⟩ hline c hc
    refine h c ?_
    rw [← hfront, Lexer.lastLine_append hline]
    exact List.mem_append_right _ hc

/-- Something that is no hyphen stands in front of hyphens that do not stand alone. -/
theorem exists_of_not_standsAlone (h : ¬u.StandsAlone) :
    ∃ c ∈ (lastLine (u.body ++ u.lineEnd ++ u.lead)).dropWhile isBlank, c ≠ '-' := by
  rw [lastLine_front]
  by_cases hquote : .quote ∈ tags
  · exact ⟨'>', Text.mem_trimStart (List.mem_append_right _ (u.led.mem_iff.mpr hquote)) rfl,
      by decide⟩
  · obtain ⟨hend, c, hc, hblank⟩ : u.lineEnd = ['\r'] ∧
        ∃ c ∈ lastLine u.body, isBlank c = false := by
      simpa [standsAlone_iff, hquote] using h
    -- the carriage return is white space, but it stands behind text
    have hne : (lastLine u.body).dropWhile isBlank ≠ [] :=
      List.ne_nil_of_mem (Text.mem_trimStart hc hblank)
    refine ⟨'\r', ?_, by decide⟩
    rw [if_pos hend, List.append_assoc, List.dropWhile_append, if_neg (by simpa using hne)]
    simp

/-- The lexer sees a rule in three hyphens that stand alone. -/
theorem hasRuleUnderline_iff {source : String} (h : u.source = source.toList) :
    Lexer.hasRuleUnderline source = true ↔ 3 ≤ u.hyphens ∧ u.StandsAlone := by
  have htrail : ∀ c ∈ u.trail, isBlank c = true := by
    intro c hc
    have hchar := u.trail_blank c hc
    simp only [List.mem_cons, List.not_mem_nil, or_false] at hchar
    rcases hchar with rfl | rfl | rfl | rfl <;> rfl
  rw [Lexer.hasRuleUnderline_iff h.symm u.hyphens_pos htrail]
  by_cases halone : u.StandsAlone
  · have hnone : (lastLine (u.body ++ u.lineEnd ++ u.lead)).dropWhile isBlank = [] := by
      rw [lastLine_front, List.dropWhile_eq_nil_iff, List.forall_mem_append]
      refine ⟨?_, u.isBlank_lead halone.1⟩
      split
      · rename_i hend
        rw [List.forall_mem_append]
        exact ⟨(u.standsAlone_iff.mp halone).2 hend, List.forall_mem_singleton.mpr rfl⟩
      · exact List.forall_mem_nil _
    rw [hnone]
    simp [halone]
  · obtain ⟨c, hc, hne⟩ := u.exists_of_not_standsAlone halone
    exact iff_of_false (fun hrule => hne (hrule.2 c hc)) fun hrule => halone hrule.2

end Markdown.Underlined

/-! ### Running text -/

/-- Only in running text emoji are looked for. -/
theorem expandEmoji_eq {t : Token} (h : t.isInline = false) : t.expandEmoji = [t] := by
  cases t with
  | text s => cases h
  | _ => rfl

theorem flatMap_expandEmoji {tokens : List Token} (h : ∀ t ∈ tokens, t.isInline = false) :
    tokens.flatMap Token.expandEmoji = tokens := by
  induction tokens with
  | nil => rfl
  | cons t tokens ih =>
      rw [List.forall_mem_cons] at h
      rw [List.flatMap_cons, expandEmoji_eq h.1, ih h.2, List.singleton_append]

/-- Emoji in running text are running text. -/
theorem isInline_expandEmoji {tokens : List Token} (h : ∀ t ∈ tokens, t.isInline = true) :
    ∀ t ∈ tokens.flatMap Token.expandEmoji, t.isInline = true := by
  rw [List.forall_mem_flatMap]
  intro t ht t' ht'
  have hinline := h t ht
  cases t with
  | text s =>
      obtain ⟨segment, -, rfl⟩ := List.mem_map.mp ht'
      cases segment <;> rfl
  | _ =>
      obtain rfl := List.mem_singleton.mp ht'
      exact hinline

namespace Lexer

variable {l : Lexer} {front : List Token} {opening : Token} {paragraphs : List Nat} {ruled : Bool}

/-- The lexer where a token was put out behind some others and nothing but running text came
since. -/
structure Running (front : List Token) (opening : Token) (paragraphs : List Nat) (ruled : Bool)
    (l : Lexer) : Prop where
  tokens : ∃ back, l.tokens.toList = front ++ opening :: back ∧ ∀ t ∈ back, t.isInline = true
  paragraphs : l.paragraphs = paragraphs
  ruleHeading : l.ruleHeading = ruled

theorem Running.push (h : Running front opening paragraphs ruled l)
    (code image : Option (String × String)) {t : Token} (ht : t.isInline = true) :
    Running front opening paragraphs ruled
      ({ l with codeBlock := code, image := image }.push t) where
  tokens := by
    obtain ⟨back, htokens, hback⟩ := h.tokens
    refine ⟨back ++ [t], ?_, ?_⟩
    · rw [toList_push, htokens, List.append_assoc, List.cons_append]
    · rw [List.forall_mem_append, List.forall_mem_singleton]
      exact ⟨hback, ht⟩
  paragraphs := h.paragraphs
  ruleHeading := h.ruleHeading

theorem Running.gather (h : Running front opening paragraphs ruled l)
    (code image : Option (String × String)) :
    Running front opening paragraphs ruled { l with codeBlock := code, image := image } :=
  ⟨h.tokens, h.paragraphs, h.ruleHeading⟩

theorem Running.pushText (h : Running front opening paragraphs ruled l)
    (hopening : opening.isInline = false) (s : String) :
    Running front opening paragraphs ruled (l.pushText s) := by
  unfold Lexer.pushText
  split
  · rename_i before hlast
    obtain ⟨back, htokens, hback⟩ := h.tokens
    refine ⟨?_, h.paragraphs, h.ruleHeading⟩
    rw [← Array.getLast?_toList, htokens] at hlast
    -- the text that is joined to is no opening token
    rcases List.eq_nil_or_concat' back with rfl | ⟨back, last, rfl⟩
    · rw [List.getLast?_concat] at hlast
      obtain rfl := Option.some.inj hlast
      cases hopening
    · refine ⟨back ++ [Token.text (before ++ s)], ?_, ?_⟩
      · rw [Array.toList_push, Array.toList_pop, htokens, ← List.cons_append, ← List.append_assoc,
          List.dropLast_concat]
        simp
      · rw [List.forall_mem_append] at hback ⊢
        exact ⟨hback.1, by simp [Token.isInline]⟩
  · exact h.push l.codeBlock l.image rfl

theorem Running.step (h : Running front opening paragraphs ruled l)
    (hopening : opening.isInline = false) {e : Event} (he : e.isRunning = true) :
    Running front opening paragraphs ruled (l.step e) := by
  cases e with
  | text s =>
      simp only [Lexer.step, Lexer.text]
      split
      · exact h.gather _ l.image
      · exact h.gather l.codeBlock _
      · exact h.pushText hopening s
  | code s | inlineHtml s | softBreak | hardBreak => exact h.push l.codeBlock l.image rfl
  | start tag =>
      cases tag with
      | emphasis | strong | strikethrough | link destination =>
          exact h.push l.codeBlock l.image rfl
      | image destination => exact h.gather l.codeBlock _
      | _ => cases he
  | stop e =>
      cases e with
      | emphasis | strong | strikethrough | link => exact h.push l.codeBlock l.image rfl
      | image =>
          simp only [Lexer.step, Lexer.stop]
          split
          · exact h
          · exact h.push l.codeBlock none rfl
      | _ => cases he
  | _ => cases he

theorem Running.run (h : Running front opening paragraphs ruled l)
    (hopening : opening.isInline = false) {events : List Event}
    (hevents : ∀ e ∈ events, e.isRunning = true) :
    Running front opening paragraphs ruled (events.foldl Lexer.step l) := by
  induction events generalizing l with
  | nil => exact h
  | cons e events ih =>
      rw [List.forall_mem_cons] at hevents
      exact ih (h.step hopening hevents.1) hevents.2

/-- What is lifted at the end of a paragraph of running text leaves running text. -/
theorem Running.liftAttributes {a : Attributes}
    (h : Running front (.paragraphOpen a) [front.length] ruled l) :
    ∃ a' back, l.liftAttributes.tokens.toList = front ++ Token.paragraphOpen a' :: back ∧
      ∀ t ∈ back, t.isInline = true := by
  obtain ⟨back, htokens, hback⟩ := h.tokens
  have hclose : .paragraphClose ∉ back := fun hmem => by simpa [Token.isInline] using hback _ hmem
  obtain ⟨front', a₁, a₂, kept, cut, cut', hlength, hbefore, hafter, -, hcut⟩ :=
    lifted_liftAttributes l h.paragraphs ⟨front, a, back, htokens, rfl, hclose⟩
  obtain ⟨rfl, hrest⟩ := List.append_inj (htokens.symm.trans hbefore) hlength.symm
  obtain ⟨-, rfl⟩ := List.cons.inj hrest
  rw [List.forall_mem_append] at hback
  refine ⟨a₂, kept ++ cut', hafter, ?_⟩
  rw [List.forall_mem_append]
  refine ⟨hback.1, ?_⟩
  cases hcut with
  | nothing | removed => exact List.forall_mem_nil _
  | text rest more => simp [Token.isInline]

/-! ### Tokens that stay -/

/-- Some tokens stand in front of all others, and no paragraph that is open was opened in them. -/
structure Kept (tokens : List Token) (l : Lexer) : Prop where
  begins : tokens <+: l.tokens.toList
  paragraphs : ∀ i ∈ l.paragraphs, tokens.length ≤ i

variable {tokens : List Token} {tags tags' : List Tag} {written : List Mark}

theorem Kept.push (h : Kept tokens l) (t : Token) : Kept tokens (l.push t) where
  begins := by
    rw [toList_push]
    exact h.begins.trans (List.prefix_append _ _)
  paragraphs := h.paragraphs

theorem Kept.openParagraph (h : Kept tokens l) (ruled : Bool) (attributes : Attributes) :
    Kept tokens ({ l with ruleHeading := ruled }.openParagraph attributes) where
  begins := (h.push (.paragraphOpen attributes)).begins
  paragraphs := by
    intro i hi
    rcases List.mem_cons.mp hi with rfl | hi
    · exact h.begins.length_le
    · exact h.paragraphs i hi

/-- Text is joined only to text. -/
theorem Kept.appends (h : Kept tokens l) (hlast : ∀ s, tokens.getLast? ≠ some (.text s))
    {l' : Lexer} {added : List Mark} (happends : Appends l l' added) : Kept tokens l' where
  begins := by
    have hbegins := h.begins
    have hwrites := happends.writes
    generalize l'.tokens.toList = tokens' at hwrites
    cases hwrites with
    | nothing => exact hbegins
    | token t ht => exact hbegins.trans (List.prefix_append _ _)
    | @joined before s more htokens =>
        rw [htokens, List.prefix_concat_iff] at hbegins
        rcases hbegins with rfl | hbefore
        · exact absurd List.getLast?_concat (hlast s)
        · exact hbefore.trans (List.prefix_append _ _)
  paragraphs := by
    rw [happends.paragraphs]
    exact h.paragraphs

/-- Lifting changes nothing in front of the paragraph. -/
theorem Kept.liftAttributes {tag : Tag} (h : Kept tokens l)
    (hwithin : Within (tag :: tags) written l) (hbracket : tag.bracket? = some .paragraph)
    (houter : tags.countP Tag.isProse = 0) (ruled : Bool) :
    Kept tokens ({ l with ruleHeading := ruled } : Lexer).liftAttributes where
  begins := by
    obtain ⟨i, hparagraphs⟩ := hwithin.paragraphs_eq hbracket houter
    have hi : i ∈ l.paragraphs := by simp [hparagraphs]
    obtain ⟨front, a, a', kept, cut, cut', rfl, hbefore, hafter, -, -⟩ :=
      lifted_liftAttributes { l with ruleHeading := ruled } hparagraphs (hwithin.opens i hi)
    have hbegins := h.begins
    rw [show l.tokens.toList = _ from hbefore] at hbegins
    rw [hafter]
    exact (List.prefix_of_prefix_length_le hbegins (List.prefix_append front _)
      (h.paragraphs _ hi)).trans (List.prefix_append front _)
  paragraphs := by
    rw [(hwithin.liftAttributes hbracket houter ruled).1]
    exact List.forall_mem_nil _

theorem Kept.start (h : Kept tokens l) (hlast : ∀ s, tokens.getLast? ≠ some (.text s)) (tag : Tag) :
    Kept tokens (l.start tag) := by
  by_cases hprose : tag.isProse = true
  · cases tag with
    | paragraph => exact h.openParagraph l.ruleHeading Attributes.empty
    | heading level attributes source =>
        simp only [Lexer.start]
        split
        · exact h.openParagraph true attributes
        · exact h.push _
    | _ => cases hprose
  · exact h.appends hlast (l.appends_start (Bool.eq_false_iff.mpr hprose))

theorem Kept.stop {tag : Tag} (h : Kept tokens l) (hlast : ∀ s, tokens.getLast? ≠ some (.text s))
    (hwithin : Within (tag :: tags) written l) (hprose : (tag :: tags).countP Tag.isProse ≤ 1) :
    Kept tokens (l.stop tag.toEnd) := by
  by_cases htag : tag.isProse = true
  · have houter : tags.countP Tag.isProse = 0 := by
      rw [List.countP_cons_of_pos htag] at hprose
      omega
    by_cases hruled : tag.isRuled = true
    · rw [hwithin.stop_ruled hruled]
      have hbracket := Markdown.bracket?_of_isRuled hruled
      exact ((h.liftAttributes hwithin hbracket houter false).push _).push _
    · cases tag with
      | paragraph => exact (h.liftAttributes hwithin rfl houter l.ruleHeading).push _
      | heading level attributes source =>
          show Kept tokens (l.stop (.heading level))
          rw [hwithin.stop_unruled hruled houter]
          exact h.push _
      | _ => cases htag
  · exact h.appends hlast (l.appends_stop (Bool.eq_false_iff.mpr htag))

theorem Kept.step {e : Event} (h : Kept tokens l) (hlast : ∀ s, tokens.getLast? ≠ some (.text s))
    (hwithin : Within tags written l) (hprose : tags.countP Tag.isProse ≤ 1)
    (he : e.tags? tags = some tags') : Kept tokens (l.step e) := by
  cases e with
  | start tag => exact h.start hlast tag
  | stop e =>
      obtain ⟨tag, rfl, rfl⟩ := Markdown.tags?_stop_eq_some he
      exact h.stop hlast hwithin hprose
  | _ => exact h.appends hlast (l.appends_step (by simp) (by simp) tags)

/-- Tokens that do not end in text, with no paragraph open behind them, stay to the end. -/
theorem Kept.lexed {events before after : List Event} (hnested : WellNested events)
    (hprose : ProseApart events) (hevents : events = before ++ after)
    (hlast : ∀ s, tokens.getLast? ≠ some (.text s)) (h : Kept tokens (lexed before)) :
    Kept tokens (lexed events) := by
  induction after generalizing before with
  | nil =>
      rw [hevents, List.append_nil]
      exact h
  | cons e after ih =>
      have hbefore : before <+: events := hevents ▸ List.prefix_append before _
      obtain ⟨tags, htags, hwithin⟩ := within_lexed hnested hprose hbefore
      have hcount := hprose before ((List.mem_inits before events).mpr hbefore) tags htags
      obtain ⟨next, he⟩ : ∃ next, e.tags? tags = some next := by
        have hopen : openTags? [] events = some [] := hnested
        rw [hevents, Markdown.openTags?_append, htags, Option.bind_some, Markdown.openTags?_cons]
          at hopen
        obtain ⟨next, he, -⟩ := Option.bind_eq_some_iff.mp hopen
        exact ⟨next, he⟩
      have hsplit : events = before ++ [e] ++ after := by rw [hevents, List.append_cons]
      refine ih hsplit ?_
      rw [lexed_append]
      exact h.step hlast hwithin hcount he

/-! ### Behind a heading -/

variable {closing : List Token}

/-- The lexer behind something with running text in it: an opening token, running text and closing
tokens were put out behind some others, and no paragraph is open. -/
structure Behind (front : List Token) (opening : Token) (closing : List Token) (l : Lexer) :
    Prop where
  tokens : ∃ middle, l.tokens.toList = front ++ opening :: middle ++ closing ∧
    ∀ t ∈ middle, t.isInline = true
  paragraphs : l.paragraphs = []

variable {events before inner after : List Event} {level : Nat} {attributes : Attributes}
  {source : String}

/-- What follows changes none of these tokens. -/
theorem Behind.tokensOfEvents_eq (h : Behind front opening closing (lexed before))
    (hblock : ∀ t ∈ opening :: closing, t.isInline = false) (hne : closing ≠ [])
    (hnested : WellNested events) (hprose : ProseApart events)
    (hevents : events = before ++ after) :
    ∃ middle back, tokensOfEvents events =
        front.flatMap Token.expandEmoji ++ opening :: (middle ++ closing ++ back) ∧
      ∀ t ∈ middle, t.isInline = true := by
  rw [List.forall_mem_cons] at hblock
  obtain ⟨middle, htokens, hmiddle⟩ := h.tokens
  have hkept : Kept (front ++ opening :: middle ++ closing) (lexed before) :=
    ⟨htokens ▸ List.prefix_refl _, by simp [h.paragraphs]⟩
  have hlast : ∀ s, (front ++ opening :: middle ++ closing).getLast? ≠ some (.text s) := by
    intro s hs
    rw [List.getLast?_append_of_ne_nil _ hne] at hs
    cases hblock.2 _ (List.mem_of_getLast? hs)
  obtain ⟨back, hback⟩ := (hkept.lexed hnested hprose hevents hlast).begins
  refine ⟨middle.flatMap Token.expandEmoji, back.flatMap Token.expandEmoji, ?_,
    isInline_expandEmoji hmiddle⟩
  have hall : tokensOfEvents events = (lexed events).tokens.toList.flatMap Token.expandEmoji := rfl
  rw [hall, ← hback]
  simp only [List.flatMap_append, List.flatMap_cons, expandEmoji_eq hblock.1,
    flatMap_expandEmoji hblock.2, List.append_assoc, List.cons_append, List.nil_append]

/-- Where no prose is open the lexer has no open paragraph. -/
theorem Within.no_prose (h : Within tags written l) (hnone : tags.countP Tag.isProse = 0) :
    l.paragraphs = [] ∧ l.ruleHeading = false := by
  obtain ⟨hruled, hcount⟩ := count_brackets_eq_zero hnone
  refine ⟨List.eq_nil_of_length_eq_zero ?_, ?_⟩
  · rw [h.paragraphs, hcount]
  · rw [h.ruleHeading, hruled]

/-- A heading that is underlined with hyphens gives a paragraph of running text and a rule. -/
theorem behind_ruled (h : Within tags written (lexed before))
    (hnone : tags.countP Tag.isProse = 0) (hinner : ∀ e ∈ inner, e.isRunning = true)
    (hruled : (Tag.heading level attributes source).isRuled = true) :
    ∃ attributes', Behind (lexed before).tokens.toList (.paragraphOpen attributes')
      [.paragraphClose, .horizontalRule]
      (lexed (before ++ Event.within (.heading level attributes source) inner)) := by
  have hstart : (lexed before).start (.heading level attributes source) =
      { lexed before with ruleHeading := true }.openParagraph attributes := if_pos hruled
  have hopened : Running (lexed before).tokens.toList (.paragraphOpen attributes)
      [(lexed before).tokens.toList.length] true
      ({ lexed before with ruleHeading := true }.openParagraph attributes) := by
    refine ⟨⟨[], toList_push _ _, List.forall_mem_nil _⟩, ?_, rfl⟩
    show (lexed before).tokens.size :: (lexed before).paragraphs = _
    rw [(h.no_prose hnone).1]
    rfl
  have hrun := hopened.run rfl hinner
  rw [lexed_within, Tag.toEnd, hstart]
  generalize inner.foldl Lexer.step _ = l at hrun ⊢
  have hstop : l.stop (.heading level) =
      (({ l with ruleHeading := false } : Lexer).liftAttributes.push .paragraphClose).push
        .horizontalRule := if_pos hrun.ruleHeading
  have hclosing : Running (lexed before).tokens.toList (.paragraphOpen attributes)
      [(lexed before).tokens.toList.length] false { l with ruleHeading := false } :=
    ⟨hrun.tokens, hrun.paragraphs, rfl⟩
  obtain ⟨attributes', middle, htokens, hmiddle⟩ := hclosing.liftAttributes
  rw [hstop]
  refine ⟨attributes', ⟨middle, ?_, hmiddle⟩, (liftAttributes_eq _ hclosing.paragraphs).1⟩
  rw [toList_push, toList_push, htokens, List.append_assoc]
  rfl

/-- Any other heading gives the tokens of a heading. -/
theorem behind_unruled (h : Within tags written (lexed before))
    (hnone : tags.countP Tag.isProse = 0) (hinner : ∀ e ∈ inner, e.isRunning = true)
    (hruled : ¬(Tag.heading level attributes source).isRuled = true) :
    Behind (lexed before).tokens.toList (.headingOpen level attributes) [.headingClose level]
      (lexed (before ++ Event.within (.heading level attributes source) inner)) := by
  obtain ⟨hparagraphs, hheading⟩ := h.no_prose hnone
  have hstart : (lexed before).start (.heading level attributes source) =
      (lexed before).push (.headingOpen level attributes) := if_neg hruled
  have hopened : Running (lexed before).tokens.toList (.headingOpen level attributes) [] false
      ((lexed before).push (.headingOpen level attributes)) :=
    ⟨⟨[], toList_push _ _, List.forall_mem_nil _⟩, hparagraphs, hheading⟩
  have hrun := hopened.run rfl hinner
  rw [lexed_within, Tag.toEnd, hstart]
  generalize inner.foldl Lexer.step _ = l at hrun ⊢
  have hstop : l.stop (.heading level) = l.push (.headingClose level) :=
    if_neg (by simp [hrun.ruleHeading])
  obtain ⟨middle, htokens, hmiddle⟩ := hrun.tokens
  rw [hstop]
  refine ⟨⟨middle, ?_, hmiddle⟩, hrun.paragraphs⟩
  rw [toList_push, htokens]

end Lexer

/-! ### The tokens of a heading -/

/-- Behind the tokens of some events stand a paragraph of running text and a slide break. -/
def BreaksSlide (before : List Event) (tokens : List Token) : Prop :=
  ∃ attributes middle back, tokens = tokensOfEvents before ++ Token.paragraphOpen attributes ::
      (middle ++ [Token.paragraphClose, Token.horizontalRule] ++ back) ∧
    ∀ t ∈ middle, t.isInline = true

/-- Behind the tokens of some events stands a heading of running text. -/
def StaysHeading (before : List Event) (level : Nat) (attributes : Attributes)
    (tokens : List Token) : Prop :=
  ∃ middle back, tokens = tokensOfEvents before ++ Token.headingOpen level attributes ::
      (middle ++ [Token.headingClose level] ++ back) ∧
    ∀ t ∈ middle, t.isInline = true

/-- Whether a heading stays one is decided by its source alone. -/
theorem tokensOfEvents_heading {events before inner after : List Event} {level : Nat}
    {attributes : Attributes} {source : String} (hnested : WellNested events)
    (hprose : ProseApart events)
    (hevents : events = before ++ Event.within (.heading level attributes source) inner ++ after)
    (hinner : ∀ e ∈ inner, e.isRunning = true) :
    ((Tag.heading level attributes source).isRuled = true →
      BreaksSlide before (tokensOfEvents events)) ∧
    (¬(Tag.heading level attributes source).isRuled = true →
      StaysHeading before level attributes (tokensOfEvents events)) := by
  have hbefore : before ++ [Event.start (.heading level attributes source)] <+: events := by
    rw [hevents, Event.within]
    exact ⟨inner ++ Event.stop (.heading level) :: after, by simp [Tag.toEnd]⟩
  obtain ⟨tags, htags, hwithin⟩ :=
    Lexer.within_lexed hnested hprose ((List.prefix_append before _).trans hbefore)
  have hnone : tags.countP Tag.isProse = 0 := by
    have hone := hprose _ ((List.mem_inits _ events).mpr hbefore)
      (.heading level attributes source :: tags)
      (by rw [Markdown.openTags?_append, htags]; rfl)
    rw [List.countP_cons_of_pos (by rfl)] at hone
    omega
  constructor
  · intro hruled
    obtain ⟨attributes', hbehind⟩ := Lexer.behind_ruled hwithin hnone hinner hruled
    exact ⟨attributes',
      hbehind.tokensOfEvents_eq (by simp [Token.isInline]) (by simp) hnested hprose hevents⟩
  · intro hruled
    have hbehind := Lexer.behind_unruled hwithin hnone hinner hruled
    exact hbehind.tokensOfEvents_eq (by simp [Token.isInline]) (by simp) hnested hprose hevents

/-- **A line of three or more hyphens under a paragraph is a slide break if the hyphens stand alone
on it.**  Whichever parser gives the events, a heading of the second level with number signs stays a
heading.  One with hyphens under it becomes a paragraph and a slide break if there are at least
three of them, no quote is open, and no text stands in front of them that only a carriage return
parts from them.  Otherwise it stays a heading. -/
theorem headings_tokensOfEvents {events before inner after : List Event} {attributes : Attributes}
    {source : String} (hnested : WellNested events) (hprose : ProseApart events)
    (hevents : events = before ++ Event.within (.heading 2 attributes source) inner ++ after)
    (hinner : ∀ e ∈ inner, e.isRunning = true) :
    ∃ tags, openTags? [] before = some tags ∧
      (∀ n : NumberSigned, n.source = source.toList →
        StaysHeading before 2 attributes (tokensOfEvents events)) ∧
      ∀ u : Underlined tags, u.source = source.toList →
        (3 ≤ u.hyphens ∧ u.StandsAlone → BreaksSlide before (tokensOfEvents events)) ∧
        (¬(3 ≤ u.hyphens ∧ u.StandsAlone) →
          StaysHeading before 2 attributes (tokensOfEvents events)) := by
  have hbefore : before <+: events := by
    rw [hevents, List.append_assoc]
    exact List.prefix_append before _
  obtain ⟨tags, htags, -⟩ := Lexer.within_lexed hnested hprose hbefore
  obtain ⟨hbreaks, hstays⟩ := tokensOfEvents_heading hnested hprose hevents hinner
  have hruled : (Tag.heading 2 attributes source).isRuled = Lexer.hasRuleUnderline source := by
    simp [Tag.isRuled]
  rw [hruled] at hbreaks hstays
  refine ⟨tags, htags, fun n hn => hstays ?_, fun u hu => ?_⟩
  · simp [Lexer.hasRuleUnderline_numberSigned hn]
  · rw [← u.hasRuleUnderline_iff hu]
    exact ⟨hbreaks, hstays⟩

/-- A heading in a list. -/
def listedEvents : List Event :=
  Event.within (.list .unordered)
    (Event.within .item (Event.within (.heading 2 .empty "a\n  ---\n") [.text "a"]))

theorem led_listed : Markdown.Led [.item, .list .unordered] [' ', ' '] := by
  have hindent : ∀ c ∈ [' ', ' '], c ∈ [' ', '\t'] := by simp
  have hnone : ∀ c ∈ ([] : List Char), c ∈ [' ', '\t'] := List.forall_mem_nil _
  have hlist : Markdown.Led [.list .unordered] [] := .other Tag.noConfusion (.indent hnone) hnone
  exact .other Tag.noConfusion hlist hindent

theorem mem_blanks_of_mem_lineFeed : ∀ c ∈ ['\n'], c ∈ [' ', '\t', '\r', '\n'] := by simp

/-- Its source. -/
def listedHyphens : Underlined [.item, .list .unordered] where
  body := ['a']
  lineEnd := ['\n']
  lead := [' ', ' ']
  hyphens := 3
  trail := ['\n']
  lineEnd_mem := List.mem_cons_self ..
  led := led_listed
  hyphens_pos := Nat.succ_pos 2
  trail_blank := mem_blanks_of_mem_lineFeed

theorem headings_listedHyphens :
    BreaksSlide [.start (.list .unordered), .start .item] (tokensOfEvents listedEvents) ∧
      tokensOfEvents listedEvents =
        [.listOpen .unordered, .listItemOpen, .paragraphOpen .empty, .text "a", .paragraphClose,
          .horizontalRule, .listItemClose, .listClose .unordered] := by
  have hevents : listedEvents = [Event.start (.list .unordered), Event.start .item] ++
      Event.within (.heading 2 .empty "a\n  ---\n") [.text "a"] ++
        [Event.stop .item, Event.stop (.list .unordered)] := rfl
  refine ⟨?_, by decide +kernel⟩
  obtain ⟨tags, htags, -, hhyphens⟩ :=
    headings_tokensOfEvents (by decide) (by decide) hevents (by decide)
  obtain rfl := Option.some.inj htags
  refine (hhyphens listedHyphens (by decide)).1 ⟨by decide, by decide, fun hend => ?_⟩
  cases hend

/-- All lines of three or more hyphens under the paragraphs of a document are slide breaks. -/
def HyphensBreak (events : List Event) : Prop :=
  ∀ before attributes source inner after tags,
    events = before ++ Event.within (.heading 2 attributes source) inner ++ after →
      openTags? [] before = some tags →
        ∀ u : Underlined tags, u.source = source.toList → 3 ≤ u.hyphens →
          BreaksSlide before (tokensOfEvents events)

/-- A heading in a quote. -/
def quotedEvents : List Event :=
  Event.within .quote (Event.within (.heading 2 .empty "a\n> ---\n") [.text "a"])

theorem led_quoted : Markdown.Led [.quote] ['>', ' '] := by
  have hspace : ∀ c ∈ [' '], c ∈ [' ', '\t'] := by simp
  exact .quote (.indent (List.forall_mem_nil _)) hspace

/-- Its source. -/
def quotedHyphens : Underlined [.quote] where
  body := ['a']
  lineEnd := ['\n']
  lead := ['>', ' ']
  hyphens := 3
  trail := ['\n']
  lineEnd_mem := List.mem_cons_self ..
  led := led_quoted
  hyphens_pos := Nat.succ_pos 2
  trail_blank := mem_blanks_of_mem_lineFeed

theorem quotedHyphens_not_break :
    WellNested quotedEvents ∧ ProseApart quotedEvents ∧
      tokensOfEvents quotedEvents = [.headingOpen 2 .empty, .text "a", .headingClose 2] ∧
      ¬HyphensBreak quotedEvents := by
  have htokens : tokensOfEvents quotedEvents =
      [.headingOpen 2 .empty, .text "a", .headingClose 2] := by decide +kernel
  refine ⟨by decide, by decide, htokens, fun hbreak => ?_⟩
  have hevents : quotedEvents = [Event.start .quote] ++
      Event.within (.heading 2 .empty "a\n> ---\n") [.text "a"] ++ [Event.stop .quote] := rfl
  obtain ⟨attributes, middle, back, heq, -⟩ :=
    hbreak _ _ _ _ _ _ hevents rfl quotedHyphens (by decide) (by decide)
  have hrule : Token.horizontalRule ∈ tokensOfEvents quotedEvents := by
    rw [heq]
    simp
  rw [htokens] at hrule
  simp at hrule

end SlideDeck

/-
Every word is where it was written.

White space apart, the words of a document are on its slides, each once and in order: those of
a slide heading in the title or subtitle, those of a table in its cells, and all others in the
body of the column they stand in.  What is written between words, such as the end of a
paragraph or the tabs of an item, is white space, so a sheet has exactly the words of the tokens
that it took, and the cuts between sheets are the cuts between columns and slides.
-/
import SlideDeck.Proofs.Draft.Script

namespace SlideDeck

/-! ### Words -/

/-- A text without its white space. -/
def Text.squeeze (cs : List Char) : List Char := cs.filter (!Text.isBlank ·)

/-- The words of a token. -/
def Token.words : Token → List Char
  | .text s | .emoji _ s | .inlineCode s | .fencedCode _ s => Text.squeeze s.toList
  | _ => []

/-- Whether a token begins a column. -/
def Token.turns : Token → Bool
  | .paragraphOpen attributes => attributes.hasClass "column"
  | _ => false

/-- The words of a block. -/
def TextBlock.words (b : TextBlock) : List Char := Text.squeeze b.rawText.toList

/-- The words on a sheet. -/
def Sheet.words (s : Sheet) : List Char := Text.squeeze (s.letters.map (·.char))

namespace Piece

/-- Whether a piece is a rule. -/
def isRule : Piece → Bool
  | rule => true
  | _ => false

/-- Whether the words of a piece belong to a body. -/
def inBody : Piece → Bool
  | heading level _ _ _ => 2 < level
  | table _ => false
  | _ => true

/-- The words of a heading of some level. -/
def headingWords? (level : Nat) : Piece → Option (List Char)
  | heading l _ _ content =>
    if l = level then some ((inlineTokens content).flatMap Token.words) else none
  | _ => none

/-- The pieces of each slide.  A rule at the very start parts nothing. -/
def slides : List Piece → List (List Piece)
  | rule :: ps => ps.splitOnP isRule
  | ps => ps.splitOnP isRule

/-- The words of some tokens, column by column. -/
def columnWords (tokens : List Token) : List (List Char) :=
  (tokens.splitOnP Token.turns).map (·.flatMap Token.words)

/-- The words of each column of a slide. -/
def bodyWords (ps : List Piece) : List (List Char) :=
  columnWords ((ps.filter inBody).flatMap tokens)

end Piece

/-- A slide has the words of its pieces.  Every column makes a body, but the last one does only
if it has words. -/
structure Slide.HasWords (slide : Slide) (ps : List Piece) : Prop where
  bodies : slide.bodies.map (·.text.words) =
    (Piece.bodyWords ps).dropLast ++ (Piece.bodyWords ps).getLast?.toList.filter (· ≠ [])
  title : slide.title.map (·.words) = (ps.filterMap (Piece.headingWords? 1)).getLast?
  subtitle : slide.subtitle.map (·.words) = (ps.filterMap (Piece.headingWords? 2)).getLast?

/-! ### White space between words -/

theorem Text.squeeze_append (cs cs' : List Char) :
    squeeze (cs ++ cs') = squeeze cs ++ squeeze cs' :=
  List.filter_append ..

theorem Text.squeeze_of_blank {cs : List Char} (h : ∀ c ∈ cs, isBlank c = true) : squeeze cs = [] :=
  List.filter_eq_nil_iff.mpr fun c hc => by simp [h c hc]

theorem Text.squeeze_dropEndWhile {p : Char → Bool} (hp : ∀ c, p c = true → isBlank c = true)
    (cs : List Char) : squeeze (dropEndWhile p cs) = squeeze cs := by
  obtain ⟨rest, hrest, hclass⟩ := exists_eq_dropEndWhile_append p cs
  conv_rhs => rw [hrest]
  rw [squeeze_append, squeeze_of_blank fun c hc => hp c (hclass c hc), List.append_nil]

theorem isBlank_of_eq_newline {c : Char} (h : (c == '\n') = true) : Text.isBlank c = true := by
  rw [eq_of_beq h]
  rfl

theorem Text.squeeze_joinLines (cs : List Char) : squeeze (Draft.joinLines cs) = squeeze cs := by
  induction cs using Draft.joinLines.induct with
  | case1 => rfl
  | case2 cs ih => exact ih
  | case3 cs ih => exact ih
  | case4 c cs hcrlf hlf ih =>
      rw [Draft.joinLines]
      · show List.filter _ (c :: _) = List.filter _ (c :: _)
        rw [List.filter_cons, List.filter_cons]
        exact congrArg (fun cs => if !isBlank c then c :: cs else cs) ih
      · exact hcrlf
      · exact hlf

theorem words_codeText (content : String) :
    Text.squeeze (Draft.codeText content).toList = Text.squeeze content.toList := by
  rw [Draft.codeText, String.toList_ofList, Text.squeeze_joinLines,
    Text.squeeze_dropEndWhile fun _ => isBlank_of_eq_newline]

theorem TextBlock.Renders.words_eq {b : TextBlock} {s : Sheet} (h : b.Renders s) :
    b.words = s.words := by
  rw [TextBlock.words, h.spelled, Text.squeeze_dropEndWhile fun _ => isBlank_of_eq_newline]
  rfl

namespace Sheet

variable (s : Sheet)

@[simp] theorem words_write (cs : List Char) : (s.write cs).words = s.words ++ Text.squeeze cs := by
  unfold words write
  rw [List.map_append, Text.squeeze_append, List.map_map]
  exact congrArg (s.words ++ ·) (congrArg Text.squeeze (List.map_id' cs))

@[simp] theorem words_openStyle (style : TextStyle) (element : Option String) :
    (s.openStyle style element).words = s.words := rfl

@[simp] theorem words_closeStyle (element : Option String) :
    (s.closeStyle element).words = s.words := rfl

@[simp] theorem words_breakParagraph : s.breakParagraph.words = s.words := by
  unfold breakParagraph
  split
  · rfl
  · exact (words_write s ['\n']).trans (List.append_nil _)

@[simp] theorem words_writeCode (code : String) :
    (s.writeCode code).words = s.words ++ Text.squeeze code.toList := by
  simp [writeCode]

theorem words_takeInline {t : Token} (ht : t.isInline = true) :
    (s.takeInline t).words = s.words ++ t.words := by
  cases t with
  | text t | emoji shortcode t => exact words_write s t.toList
  | inlineCode code => exact words_writeCode s code
  | softBreak => exact words_write s [' ']
  | hardBreak => exact words_write s [Draft.lineBreak]
  | htmlInline html =>
      unfold takeInline
      simp only
      split <;> exact (List.append_nil _).symm
  | image src alt | emphasisOpen | emphasisClose | strongOpen | strongClose | strikethroughOpen
  | strikethroughClose | linkOpen href | linkClose => exact (List.append_nil _).symm
  | _ => cases ht

theorem words_takeText (content : List InlineToken) :
    (s.takeText content).words = s.words ++ (Piece.inlineTokens content).flatMap Token.words := by
  induction content generalizing s with
  | nil => exact (List.append_nil _).symm
  | cons t content ih =>
      show ((s.takeInline t.val).takeText content).words = s.words ++ (t.val.words ++ _)
      rw [ih, words_takeInline s t.property, List.append_assoc]
      rfl

theorem words_takeHeading (content : List InlineToken) :
    (s.takeHeading content).words =
      s.words ++ (Piece.inlineTokens content).flatMap Token.words := by
  simp [takeHeading, words_takeText]

theorem words_takeCode (content : String) :
    (s.takeCode content).words = s.words ++ Text.squeeze content.toList := by
  simp [takeCode, words_codeText]

theorem words_openList (kind : ListKind) : (s.openList kind).words = s.words := by
  unfold openList
  split
  · exact words_breakParagraph s
  · rfl

theorem words_openItem : s.openItem.words = s.words := by
  unfold openItem
  rw [words_write, words_breakParagraph, Text.squeeze_of_blank, List.append_nil]
  intro c hc
  rw [(List.mem_replicate.mp hc).2]
  rfl

theorem words_closeItem : s.closeItem.words = s.words := by
  unfold closeItem
  split
  · rfl
  · exact (words_write s ['\n']).trans (List.append_nil _)

end Sheet

/-! ### Columns -/

namespace Piece

/-- Whether a piece begins a column. -/
def turns : Piece → Bool
  | paragraph attributes _ => attributes.hasClass "column"
  | _ => false

theorem turns_inlineTokens {content : List InlineToken} {t : Token}
    (ht : t ∈ inlineTokens content) : t.turns = false := by
  obtain ⟨t, -, rfl⟩ := List.mem_map.mp ht
  have hinline := t.property
  revert hinline
  cases t.val with
  | paragraphOpen attributes => exact fun hinline => nomatch hinline
  | _ => exact fun _ => rfl

theorem columnWords_turn {t : Token} (ht : t.turns = true) (rest : List Token) :
    columnWords (t :: rest) = [] :: columnWords rest := by
  unfold columnWords
  rw [List.splitOnP_cons_eq_if_modifyHead, if_pos ht]
  rfl

/-- Tokens that begin no column have their words in the column that is begun. -/
theorem columnWords_append {tokens : List Token} (hturn : ∀ t ∈ tokens, t.turns = false)
    (rest : List Token) :
    columnWords (tokens ++ rest) =
      (columnWords rest).modifyHead (tokens.flatMap Token.words ++ ·) := by
  induction tokens with
  | nil =>
      rw [List.nil_append]
      cases columnWords rest <;> rfl
  | cons t tokens ih =>
      have ht : ¬t.turns = true := by simp [hturn t (List.mem_cons_self ..)]
      have ih := ih fun t ht => hturn t (List.mem_cons_of_mem _ ht)
      unfold columnWords at ih ⊢
      rw [List.cons_append, List.splitOnP_cons_eq_if_modifyHead, if_neg ht]
      obtain ⟨part, parts, hparts⟩ :=
        List.exists_cons_of_ne_nil (List.splitOnP_ne_nil Token.turns (tokens ++ rest))
      obtain ⟨part', parts', hparts'⟩ :=
        List.exists_cons_of_ne_nil (List.splitOnP_ne_nil Token.turns rest)
      rw [hparts, hparts'] at ih
      rw [hparts, hparts']
      simp only [List.modifyHead_cons, List.map_cons, List.cons.injEq, List.flatMap_cons] at ih ⊢
      exact ⟨by rw [ih.1, List.append_assoc], ih.2⟩

theorem turns_tokens {p : Piece} (hbody : p.inBody = true) (hturn : p.turns = false) {t : Token}
    (ht : t ∈ p.tokens) : t.turns = false := by
  have hgroup : ∀ {first last : Token} {content : List InlineToken}, first.turns = false →
      last.turns = false → t ∈ first :: (inlineTokens content ++ [last]) → t.turns = false := by
    intro first last content hfirst hlast ht
    rcases List.mem_cons.mp ht with rfl | ht
    · exact hfirst
    · rcases List.mem_append.mp ht with ht | ht
      · exact turns_inlineTokens ht
      · rw [List.mem_singleton.mp ht]
        exact hlast
  cases p with
  | inline t' =>
      have hsingle : t ∈ inlineTokens [t'] := ht
      exact turns_inlineTokens hsingle
  | paragraph attributes content =>
      have hopen : (Token.paragraphOpen attributes).turns = false := hturn
      exact hgroup hopen rfl ht
  | heading level positive attributes content => exact hgroup rfl rfl ht
  | table rows => cases hbody
  | _ =>
      rw [List.mem_singleton.mp ht]
      rfl

end Piece

namespace Manuscript

/-- The words of the columns of a manuscript, with those of some tokens that come after them. -/
def flow (m : Manuscript) (tokens : List Token) : List (List Char) :=
  m.columns.map Sheet.words ++ (Piece.columnWords tokens).modifyHead (m.sheet.words ++ ·)

theorem flatMap_words_group {first last : Token} (hfirst : first.words = [])
    (hlast : last.words = []) (content : List InlineToken) :
    (first :: (Piece.inlineTokens content ++ [last])).flatMap Token.words =
      (Piece.inlineTokens content).flatMap Token.words := by
  simp [hfirst, hlast]

/-- A piece of the body that begins no column adds its words to the last one. -/
theorem take_words {p : Piece} (hbody : p.inBody = true) (hturn : p.turns = false)
    (m : Manuscript) : (m.take p).columns = m.columns ∧
      (m.take p).sheet.words = m.sheet.words ++ p.tokens.flatMap Token.words := by
  cases p with
  | inline t => exact ⟨rfl, m.sheet.words_takeText [t]⟩
  | paragraph attributes content =>
      have hcolumn : attributes.hasClass "column" = false := hturn
      rw [take, hcolumn, if_neg Bool.false_ne_true, Piece.tokens, flatMap_words_group rfl rfl]
      exact ⟨rfl, (Sheet.words_breakParagraph _).trans (m.sheet.words_takeText content)⟩
  | heading level positive attributes content =>
      have hlevel : 2 < level := of_decide_eq_true hbody
      rw [take, if_neg (by omega), if_neg (by omega), Piece.tokens, flatMap_words_group rfl rfl]
      exact ⟨rfl, m.sheet.words_takeHeading content⟩
  | table rows => cases hbody
  | code info content =>
      refine ⟨rfl, (m.sheet.words_takeCode content).trans ?_⟩
      simp [Piece.tokens, Token.words]
  | listOpen kind => exact ⟨rfl, (m.sheet.words_openList kind).trans (List.append_nil _).symm⟩
  | itemOpen => exact ⟨rfl, m.sheet.words_openItem.trans (List.append_nil _).symm⟩
  | itemClose => exact ⟨rfl, m.sheet.words_closeItem.trans (List.append_nil _).symm⟩
  | html s | rule | listClose kind => exact ⟨rfl, (List.append_nil _).symm⟩

/-- A column paragraph ends a column and begins one with its words. -/
theorem flow_turn {attributes : Attributes} (hcolumn : attributes.hasClass "column" = true)
    (content : List InlineToken) (m : Manuscript) (rest : List Token) :
    (m.take (.paragraph attributes content)).flow rest =
      m.flow ((Piece.paragraph attributes content).tokens ++ rest) := by
  have hturn : (Token.paragraphOpen attributes).turns = true := hcolumn
  have hclose : ∀ t ∈ Piece.inlineTokens content ++ [.paragraphClose], t.turns = false := by
    intro t ht
    rcases List.mem_append.mp ht with ht | ht
    · exact Piece.turns_inlineTokens ht
    · rw [List.mem_singleton.mp ht]
      rfl
  have htake : m.take (.paragraph attributes content) =
      m.turn.onSheet fun s => (s.takeText content).breakParagraph := by
    rw [take, if_pos hcolumn]
  have hwords : ((m.sheet.next.takeText content).breakParagraph).words =
      (Piece.inlineTokens content ++ [Token.paragraphClose]).flatMap Token.words := by
    rw [Sheet.words_breakParagraph, Sheet.words_takeText, List.flatMap_append]
    exact (List.append_nil _).symm
  rw [htake, flow, flow, Piece.tokens, List.cons_append, Piece.columnWords_turn hturn,
    Piece.columnWords_append hclose, ← hwords, List.modifyHead_cons, List.append_nil]
  show (m.columns ++ [m.sheet]).map Sheet.words ++ _ = _
  rw [List.map_append, List.append_assoc]
  rfl

theorem flow_take (p : Piece) (m : Manuscript) (rest : List Token) :
    (m.take p).flow rest = m.flow ((if p.inBody then p.tokens else []) ++ rest) := by
  cases hbody : p.inBody with
  | false =>
      cases p with
      | heading level positive attributes content =>
          have hlevel : level ≤ 2 := Nat.not_lt.mp (of_decide_eq_false hbody)
          rw [take]
          split
          · rfl
          · split
            · rfl
            · omega
      | table rows => rfl
      | _ => cases hbody
  | true =>
      cases hturn : p.turns with
      | false =>
          obtain ⟨hcolumns, hsheet⟩ := take_words hbody hturn m
          rw [if_pos rfl, flow, flow, hcolumns, hsheet,
            Piece.columnWords_append fun _ => Piece.turns_tokens hbody hturn,
            List.modifyHead_modifyHead]
          congr 2
          funext words
          exact List.append_assoc ..
      | true =>
          cases p with
          | paragraph attributes content => exact flow_turn hturn content m rest
          | _ => cases hturn

/-- The columns of a slide have the words of its body. -/
theorem flow_foldl (ps : List Piece) (m : Manuscript) :
    (ps.foldl take m).flow [] = m.flow ((ps.filter Piece.inBody).flatMap Piece.tokens) := by
  induction ps generalizing m with
  | nil => rfl
  | cons p ps ih =>
      rw [List.foldl_cons, ih, flow_take, List.filter_cons]
      cases p.inBody <;> rfl

/-- The last heading of a level counts. -/
theorem heading_foldl {level : Nat} {field : Manuscript → Option Sheet}
    (htake : ∀ m p, (field (m.take p)).map Sheet.words =
      (Piece.headingWords? level p).or ((field m).map Sheet.words))
    (ps : List Piece) (m : Manuscript) :
    (field (ps.foldl take m)).map Sheet.words =
      (ps.filterMap (Piece.headingWords? level)).getLast?.or ((field m).map Sheet.words) := by
  induction ps generalizing m with
  | nil => rfl
  | cons p ps ih =>
      rw [List.foldl_cons, ih, htake, List.filterMap_cons]
      cases Piece.headingWords? level p with
      | none => rfl
      | some words =>
          simp only [Option.some_or, List.getLast?_cons]
          cases (ps.filterMap (Piece.headingWords? level)).getLast? <;> rfl

theorem title_take (m : Manuscript) (p : Piece) :
    (m.take p).title.map Sheet.words =
      (Piece.headingWords? 1 p).or (m.title.map Sheet.words) := by
  cases p with
  | paragraph attributes content =>
      rw [take]
      split <;> rfl
  | heading level positive attributes content =>
      rw [take, Piece.headingWords?]
      split
      · exact congrArg some (Sheet.words_takeText {} content)
      · split <;> rfl
  | _ => rfl

theorem subtitle_take (m : Manuscript) (p : Piece) :
    (m.take p).subtitle.map Sheet.words =
      (Piece.headingWords? 2 p).or (m.subtitle.map Sheet.words) := by
  cases p with
  | paragraph attributes content =>
      rw [take]
      split <;> rfl
  | heading level positive attributes content =>
      rw [take, Piece.headingWords?]
      by_cases hone : level = 1
      · subst hone
        rfl
      · rw [if_neg hone]
        split
        · exact congrArg some (Sheet.words_takeText {} content)
        · rfl
  | _ => rfl

/-! ### Slides -/

/-- A manuscript is that of some pieces, with lists from earlier slides. -/
def IsOf (m : Manuscript) (ps : List Piece) : Prop :=
  ∃ lists, m = ps.foldl take { sheet := { lists := lists } }

theorem splitOnP_rule (ps : List Piece) :
    (Piece.rule :: ps).splitOnP Piece.isRule = [] :: ps.splitOnP Piece.isRule := by
  have hrule : Piece.rule.isRule = true := rfl
  rw [List.splitOnP_cons_eq_if_modifyHead, if_pos hrule]

theorem splitOnP_cons {p : Piece} (hp : p ≠ .rule) (ps : List Piece) :
    (p :: ps).splitOnP Piece.isRule = (ps.splitOnP Piece.isRule).modifyHead (p :: ·) := by
  have hrule : ¬p.isRule = true := by
    cases p with
    | rule => exact absurd rfl hp
    | _ => exact Bool.false_ne_true
  rw [List.splitOnP_cons_eq_if_modifyHead, if_neg hrule]

/-- The induction is on the pieces that are left, with those of the slide that is begun as what
its manuscript is of. -/
theorem isOf_written {m : Manuscript} {first : List Piece} (hm : m.IsOf first) (ps : List Piece) :
    List.Forall₂ IsOf (m.written ps) ((ps.splitOnP Piece.isRule).modifyHead (first ++ ·)) := by
  induction ps generalizing m first with
  | nil =>
      rw [List.splitOnP_nil, List.modifyHead_cons, List.append_nil]
      exact .cons hm .nil
  | cons p ps ih =>
      by_cases hp : p = .rule
      · subst hp
        have hnext : m.next.IsOf [] := ⟨_, rfl⟩
        have hrest := ih hnext
        rw [show (([] : List Piece) ++ ·) = id from rfl, List.modifyHead_id] at hrest
        rw [splitOnP_rule, List.modifyHead_cons, List.append_nil]
        exact .cons hm hrest
      · obtain ⟨lists, rfl⟩ := hm
        have htaken : Manuscript.IsOf (take (first.foldl take { sheet := { lists := lists } }) p)
            (first ++ [p]) := ⟨lists, (List.foldl_concat ..).symm⟩
        have hrest := ih htaken
        have hcons : (fun words => first ++ [p] ++ words) = (first ++ ·) ∘ (p :: ·) :=
          funext fun words => List.append_assoc first [p] words
        rw [hcons] at hrest
        rwa [written_cons hp, splitOnP_cons hp, List.modifyHead_modifyHead]

theorem isOf_manuscripts (ps : List Piece) :
    List.Forall₂ IsOf (manuscripts ps) (Piece.slides ps) := by
  have hall : ∀ ps, List.Forall₂ IsOf (written {} ps) (ps.splitOnP Piece.isRule) := by
    intro ps
    have hnone : IsOf {} [] := ⟨_, rfl⟩
    have hwritten := isOf_written hnone ps
    rwa [show (([] : List Piece) ++ ·) = id from rfl, List.modifyHead_id] at hwritten
  cases ps with
  | nil => exact hall []
  | cons p ps =>
      cases p with
      | rule => exact hall ps
      | _ => exact hall (_ :: ps)

/-- The bodies of a manuscript have the words of the columns. -/
theorem IsOf.bodies {m : Manuscript} {ps : List Piece} (h : m.IsOf ps) :
    m.bodies.map Sheet.words =
      (Piece.bodyWords ps).dropLast ++ (Piece.bodyWords ps).getLast?.toList.filter (· ≠ []) := by
  have hwords : Piece.bodyWords ps = m.columns.map Sheet.words ++ [m.sheet.words] := by
    have hend : m.flow [] = m.columns.map Sheet.words ++ [m.sheet.words] := by
      rw [flow, show Piece.columnWords [] = [[]] from rfl, List.modifyHead_cons, List.append_nil]
    obtain ⟨lists, rfl⟩ := h
    rw [← hend, flow_foldl]
    show _ = [] ++ (Piece.bodyWords ps).modifyHead (([] : List Char) ++ ·)
    cases Piece.bodyWords ps <;> rfl
  have hblank : m.sheet.isBlank = decide (m.sheet.words = []) := by
    rw [Bool.eq_iff_iff, decide_eq_true_iff, Sheet.isBlank, List.all_eq_true, Sheet.words,
      Text.squeeze, List.filter_eq_nil_iff, List.forall_mem_map]
    simp
  rw [hwords, List.dropLast_concat, List.getLast?_concat, Manuscript.bodies, hblank,
    List.map_append]
  by_cases hnone : m.sheet.words = [] <;> simp [hnone]

end Manuscript

theorem Slide.Shows.hasWords {slide : Slide} {m : Manuscript} {ps : List Piece}
    (h : slide.Shows TextBlock.Renders m m.bodies) (hm : m.IsOf ps) : slide.HasWords ps := by
  have hheading : ∀ {b : Option TextBlock} {s : Option Sheet}, Option.Rel TextBlock.Renders b s →
      b.map (·.words) = s.map Sheet.words := by
    intro b s hrel
    cases hrel with
    | none => rfl
    | some hrenders => exact congrArg some hrenders.words_eq
  refine ⟨?_, ?_, ?_⟩
  · rw [← hm.bodies, ← List.forall₂_eq_eq_eq, List.forall₂_map_left_iff,
      List.forall₂_map_right_iff]
    exact h.bodies.imp fun _ _ hrenders => hrenders.words_eq
  · obtain ⟨lists, rfl⟩ := hm
    rw [hheading h.title, Manuscript.heading_foldl Manuscript.title_take]
    exact Option.or_none
  · obtain ⟨lists, rfl⟩ := hm
    rw [hheading h.subtitle, Manuscript.heading_foldl Manuscript.subtitle_take]
    exact Option.or_none

/--
**Every word is where it was written.**  If a document with properly nested tokens compiles, it
has a slide for the pieces between each two rules, and that slide has their words: a body for
each column with the words of the column, in order, except that the last column makes no body
if it is blank, and the last heading of the first level as its title and the last one of the
second level as its subtitle, if there are any.
-/
theorem hasWords_compileTokens {ps : List Piece} {slides : List Slide}
    (h : (compileTokens (ps.flatMap Piece.tokens)).outcome = .ok slides) :
    List.Forall₂ Slide.HasWords slides (Piece.slides ps) := by
  have hshown := shown_compileTokens h
  have hof := Manuscript.isOf_manuscripts ps
  unfold Shown at hshown
  clear h
  generalize manuscripts ps = ms at hshown hof
  generalize Piece.slides ps = parts at hof
  induction hshown generalizing parts with
  | nil =>
      cases hof
      exact .nil
  | cons hslide _ ih =>
      cases hof with
      | cons hm hof => exact .cons (hslide.hasWords hm) (ih _ hof)

/-- A heading that is replaced, two columns and a blank slide. -/
def twoColumns : List Piece :=
  [.heading 1 Nat.one_pos .empty (runningText [.text "Old"]),
    .paragraph .empty (runningText [.text "a b", .softBreak, .emoji "tada" "🎉"]),
    .heading 1 Nat.one_pos .empty (runningText [.text "New"]),
    .paragraph ⟨none, ["column"], []⟩ (runningText [.inlineCode "x = 1"]), .rule,
    .paragraph .empty (runningText [.text " "])]

theorem hasWords_twoColumns :
    ∃ slides, (compileTokens (twoColumns.flatMap Piece.tokens)).outcome = .ok slides ∧
      List.Forall₂ Slide.HasWords slides (Piece.slides twoColumns) ∧
      slides.map (fun s => s.bodies.map (·.text.words)) =
        [[['a', 'b', '🎉'], ['x', '=', '1']], []] ∧
      slides.map (fun s => s.title.map (·.words)) = [some ['N', 'e', 'w'], none] :=
  ⟨_, rfl, hasWords_compileTokens rfl, rfl, rfl⟩

end SlideDeck

/-
A rule parts a document.

What is written before a rule and what is written after it do not know of each other: the
slides of a document are those of the tokens before a rule, followed by those of the rule and
the tokens after it.  Two things carry this.  The complete slides of a draft are never looked
at again, so a draft that has more of them goes on in the same way.  And a rule leaves nothing
open, except that images still cover the page if the paragraph they stand in is not closed.
-/
import SlideDeck.Proofs.Draft.Outcome

namespace SlideDeck

namespace Draft

/-! ### Complete slides are never looked at again -/

/-- The draft with some complete slides before its own. -/
def after (earlier : List Slide) (d : Draft) : Draft := { d with slides := earlier ++ d.slides }

variable (earlier : List Slide) (d : Draft)

@[simp] theorem mode_after : (d.after earlier).mode = d.mode := rfl

@[simp] theorem isSlideHeading_after (level : Nat) :
    (d.after earlier).isSlideHeading level = d.isSlideHeading level := rfl

@[simp] theorem onBlock_after (f : OpenBlock → OpenBlock) :
    (d.after earlier).onBlock f = (d.onBlock f).after earlier := rfl

@[simp] theorem park_after : (d.after earlier).park = d.park.after earlier := rfl

@[simp] theorem unpark_after : (d.after earlier).unpark = d.unpark.after earlier := rfl

@[simp] theorem breakParagraph_after :
    (d.after earlier).breakParagraph = d.breakParagraph.after earlier := rfl

@[simp] theorem openStyle_after (style : TextStyle) (element : Option String) :
    (d.after earlier).openStyle style element = (d.openStyle style element).after earlier := rfl

theorem onBlockLogged_after (f : OpenBlock → Logged OpenBlock) :
    (d.after earlier).onBlockLogged f = after earlier <$> d.onBlockLogged f := by
  unfold onBlockLogged
  rw [map_bind]
  rfl

theorem closeStyle_after (element : Option String) :
    (d.after earlier).closeStyle element = after earlier <$> d.closeStyle element :=
  onBlockLogged_after earlier d _

theorem closeSlide_after : (d.after earlier).closeSlide = after earlier <$> d.closeSlide := by
  unfold closeSlide
  rw [map_bind]
  congr 1
  funext body
  simp only [map_pure, after, List.append_assoc]

theorem closeColumn_after : (d.after earlier).closeColumn = after earlier <$> d.closeColumn := by
  unfold closeColumn
  rw [map_bind]
  rfl

@[simp] theorem chooseLayout_after (name : Option String) :
    (d.after earlier).chooseLayout name = (d.chooseLayout name).after earlier := by
  cases name with
  | none => rfl
  | some name =>
      unfold chooseLayout
      rw [apply_ite (after earlier)]
      rfl

theorem addImage_after (src alt : String) :
    (d.after earlier).addImage src alt = (d.addImage src alt).after earlier := by
  obtain ⟨mode, -⟩ := d
  cases mode <;> rfl

theorem openHeading_after (level : Nat) (attributes : Attributes) :
    (d.after earlier).openHeading level attributes =
      (d.openHeading level attributes).after earlier := by
  unfold openHeading
  rw [isSlideHeading_after]
  cases d.isSlideHeading level <;> cases attributes.hasClass "big" <;> simp

theorem setHeading_after (level : Nat) (heading : TextBlock) :
    (d.after earlier).setHeading level heading = after earlier <$> d.setHeading level heading := by
  unfold setHeading
  simp only [apply_ite (fun x : Logged Draft => after earlier <$> x), map_bind]
  rfl

theorem closeHeading_after (level : Nat) :
    (d.after earlier).closeHeading level = after earlier <$> d.closeHeading level := by
  unfold closeHeading
  rw [closeStyle_after, bind_map_left, map_bind]
  congr 1
  funext d
  rw [apply_ite (fun x : Logged Draft => after earlier <$> x), map_bind]
  simp only [← setHeading_after]
  rfl

theorem openParagraph_after (attributes : Attributes) :
    (d.after earlier).openParagraph attributes = after earlier <$> d.openParagraph attributes := by
  unfold openParagraph
  rw [apply_ite (fun x : Logged Draft => after earlier <$> x)]
  cases attributes.hasClass "column" with
  | false => cases attributes.hasClass "big" <;> simp <;> rfl
  | true => cases attributes.hasClass "big" <;> simp [closeColumn_after] <;> rfl

theorem openList_after (kind : ListKind) :
    (d.after earlier).openList kind = after earlier <$> d.openList kind := by
  obtain ⟨mode, slides, slide, block, parked, list, -⟩ := d
  cases list with
  | none => rfl
  | some l =>
      unfold openList
      rw [apply_ite (fun x : Logged Draft => after earlier <$> x)]
      rfl

theorem closeList_after : (d.after earlier).closeList = after earlier <$> d.closeList := by
  obtain ⟨mode, slides, slide, block, parked, list, -⟩ := d
  cases list with
  | none => rfl
  | some l =>
      unfold closeList
      rw [apply_ite (fun x : Logged Draft => after earlier <$> x)]
      rfl

theorem closeItem_after : (d.after earlier).closeItem = d.closeItem.after earlier := by
  unfold closeItem
  rw [apply_ite (after earlier)]
  rfl

theorem openTable_after : (d.after earlier).openTable = d.openTable.after earlier := by
  obtain ⟨mode, -⟩ := d
  cases mode <;> rfl

theorem openCell_after : (d.after earlier).openCell = d.openCell.after earlier := by
  obtain ⟨mode, -⟩ := d
  cases mode with
  | document => rfl
  | notes =>
      unfold openCell
      rw [apply_ite (after earlier)]
      rfl

theorem closeCell_after : (d.after earlier).closeCell = after earlier <$> d.closeCell := by
  obtain ⟨mode, slides, slide, block, parked, list, table, -⟩ := d
  cases table with
  | none => rfl
  | some t =>
      unfold closeCell
      rw [map_bind]
      rfl

theorem closeRow_after : (d.after earlier).closeRow = d.closeRow.after earlier := by
  obtain ⟨mode, slides, slide, block, parked, list, table, -⟩ := d
  cases table <;> rfl

theorem closeTable_after : (d.after earlier).closeTable = after earlier <$> d.closeTable := by
  obtain ⟨mode, slides, slide, block, parked, list, table, -⟩ := d
  cases table with
  | none => rfl
  | some t =>
      unfold closeTable
      simp only [apply_ite (fun x : Logged Draft => after earlier <$> x), map_bind]
      rfl

theorem addNotes_after (body : String) :
    (d.after earlier).addNotes body = after earlier <$> d.addNotes body := by
  unfold addNotes
  simp only [apply_ite (fun x : Logged Draft => after earlier <$> x), map_bind]
  rfl

theorem takeComments_after (bodies : List String) :
    (d.after earlier).takeComments addNotes bodies =
      after earlier <$> d.takeComments addNotes bodies := by
  unfold takeComments
  induction bodies generalizing d with
  | nil => rfl
  | cons body bodies ih =>
      rw [List.foldlM_cons, List.foldlM_cons, addNotes_after, bind_map_left, map_bind]
      congr 1
      funext d
      exact ih d

theorem takeHtmlBlock_after (html : String) :
    (d.after earlier).takeHtmlBlock addNotes html =
      after earlier <$> d.takeHtmlBlock addNotes html := by
  unfold takeHtmlBlock
  rw [map_bind]
  congr 1
  funext bodies
  cases bodies with
  | none => rfl
  | some bodies => exact takeComments_after earlier d bodies

theorem takeInlineHtml_after (html : String) :
    (d.after earlier).takeInlineHtml addNotes html =
      after earlier <$> d.takeInlineHtml addNotes html := by
  unfold takeInlineHtml
  rw [map_bind]
  congr 1
  funext fragment
  cases fragment with
  | opening tag style => rfl
  | closing tag => exact closeStyle_after earlier d _
  | comment body => exact addNotes_after earlier d body

theorem takeRule_after : (d.after earlier).takeRule = after earlier <$> d.takeRule := by
  obtain ⟨mode, slides, slide, block, parked, list, table, background, started⟩ := d
  cases mode with
  | notes => rfl
  | document =>
      cases started with
      | false => rfl
      | true =>
          show (after earlier _).closeSlide >>= (fun d => pure d.openSlide) = _ <$> (_ >>= _)
          rw [closeSlide_after, bind_map_left, map_bind]
          rfl

/-- A draft takes a token in the same way whatever slides are complete. -/
theorem take_after (t : Token) :
    (d.after earlier).take addNotes t = after earlier <$> d.take addNotes t := by
  cases t with
  | headingOpen level attributes =>
      exact congrArg pure (openHeading_after earlier d level attributes)
  | headingClose level => exact closeHeading_after earlier d level
  | paragraphOpen attributes => exact openParagraph_after earlier d attributes
  | image src alt => exact congrArg pure (addImage_after earlier d src alt)
  | emphasisClose | strongClose | strikethroughClose | linkClose =>
      exact closeStyle_after earlier d none
  | listOpen kind => exact openList_after earlier d kind
  | listClose kind => exact closeList_after earlier d
  | listItemClose => exact congrArg pure (closeItem_after earlier d)
  | tableOpen => exact congrArg pure (openTable_after earlier d)
  | tableCellOpen => exact congrArg pure (openCell_after earlier d)
  | tableCellClose => exact closeCell_after earlier d
  | tableRowClose => exact congrArg pure (closeRow_after earlier d)
  | tableClose => exact closeTable_after earlier d
  | fencedCode info content =>
      show (d.breakParagraph.after earlier).onBlockLogged _ >>= _ = _ <$> (_ >>= _)
      rw [onBlockLogged_after, bind_map_left, map_bind]
      rfl
  | inlineCode s => exact onBlockLogged_after earlier d (·.appendStyled s codeStyle)
  | htmlBlock html => exact takeHtmlBlock_after earlier d html
  | htmlInline html => exact takeInlineHtml_after earlier d html
  | horizontalRule => exact takeRule_after earlier d
  | _ => rfl

theorem run_after (tokens : List Token) :
    (d.after earlier).run addNotes tokens = after earlier <$> d.run addNotes tokens := by
  unfold run
  induction tokens generalizing d with
  | nil => rfl
  | cons t tokens ih =>
      have hstep : (d.after earlier).step addNotes t = after earlier <$> d.step addNotes t := by
        unfold step
        rw [take_after, bind_map_left, map_bind]
        rfl
      rw [List.foldlM_cons, List.foldlM_cons, hstep, bind_map_left, map_bind]
      congr 1
      funext d
      exact ih d

/-! ### What a rule leaves open -/

/-- What goes on over the end of a slide: the mode, the complete slides, and whether images
cover the page. -/
def course (d : Draft) : DraftMode × List Slide × Bool := (d.mode, d.slides, d.backgroundParagraph)

variable {d}

theorem course_onBlock (d : Draft) (f : OpenBlock → OpenBlock) : (d.onBlock f).course = d.course :=
  rfl

theorem course_chooseLayout (d : Draft) (name : Option String) :
    (d.chooseLayout name).course = d.course := by
  cases name with
  | none => rfl
  | some name =>
      unfold chooseLayout
      simp only
      split <;> rfl

theorem course_openHeading (d : Draft) (level : Nat) (attributes : Attributes) :
    (d.openHeading level attributes).course = d.course := by
  unfold openHeading
  show (Draft.chooseLayout _ _).course = d.course
  rw [course_chooseLayout]
  split
  · split <;> rfl
  · rfl

theorem course_addImage (hmode : d.mode = .document) (src alt : String) :
    (d.addImage src alt).course = d.course := by
  simp only [addImage, hmode, course]

theorem course_closeItem (d : Draft) : d.closeItem.course = d.course := by
  unfold closeItem
  split <;> rfl

theorem course_openTable (hmode : d.mode = .document) : d.openTable.course = d.course := by
  unfold openTable
  rw [hmode]
  rfl

theorem course_openCell (hmode : d.mode = .document) : d.openCell.course = d.course := by
  unfold openCell
  rw [hmode]
  rfl

theorem course_closeRow (d : Draft) : d.closeRow.course = d.course := by
  unfold closeRow
  split <;> rfl

theorem course_paragraphOpened (d : Draft) (attributes : Attributes) :
    (d.paragraphOpened attributes).course =
      (d.mode, d.slides, attributes.hasClass "background") := by
  unfold paragraphOpened
  cases attributes.hasClass "column" <;> cases attributes.hasClass "big"
  all_goals
    have hcourse := course_chooseLayout
    simp only [course, Prod.mk.injEq] at hcourse
    simp [course, hcourse, onBlock]

theorem course_closeHeading {d' : Draft} {level : Nat}
    (h : (d.closeHeading level).outcome = .ok d') : d'.course = d.course := by
  cases hslide : d.isSlideHeading level with
  | true =>
      rw [outcome_closeHeading_slide hslide] at h
      cases h
      rfl
  | false =>
      rw [outcome_closeHeading_text hslide] at h
      cases h
      rfl

theorem course_openList {d' : Draft} {kind : ListKind}
    (h : (d.openList kind).outcome = .ok d') : d'.course = d.course := by
  rcases openList_ok h with ⟨-, rfl⟩ | ⟨l, -, -, rfl⟩
  · rfl
  · rfl

theorem course_closeList {d' : Draft} (h : d.closeList.outcome = .ok d') :
    d'.course = d.course := by
  cases hlist : d.list with
  | none =>
      rw [outcome_closeList_none hlist] at h
      cases h
      rfl
  | some l =>
      rcases Nat.eq_zero_or_pos l.depth with hdepth | hdepth
      · rw [outcome_closeList_outer hlist hdepth] at h
        cases h
        rfl
      · rw [outcome_closeList_inner hlist hdepth] at h
        cases h
        rfl

theorem course_closeCell {d' : Draft} (h : d.closeCell.outcome = .ok d') :
    d'.course = d.course := by
  cases htable : d.table with
  | none =>
      simp only [closeCell, htable, Logged.outcome_pure, Except.ok.injEq] at h
      rw [h]
  | some t =>
      rw [outcome_closeCell htable] at h
      cases h
      rfl

theorem course_closeTable {d' : Draft} (h : d.closeTable.outcome = .ok d') :
    d'.course = d.course := by
  cases htable : d.table with
  | none =>
      obtain rfl := Except.ok.inj ((outcome_closeTable_none htable).symm.trans h)
      rfl
  | some t =>
      obtain ⟨-, rfl⟩ := closeTable_ok htable h
      rfl

theorem course_takeInlineHtml {d' : Draft} {html : String}
    (h : (d.takeInlineHtml addNotes html).outcome = .ok d') : d'.course = d.course := by
  rcases takeInlineHtml_ok h with ⟨_, _, -, rfl⟩ | ⟨_, -, rfl⟩ | ⟨_, _, -, rfl⟩ <;> rfl

/-- Whether images cover the page after a token, if they do so or not before it. -/
def coversAfter (covers : Bool) : Token → Bool
  | .paragraphOpen attributes => attributes.hasClass "background"
  | .paragraphClose => false
  | _ => covers

/-- No token but a rule completes a slide, and no token but those of paragraphs changes whether
images cover the page. -/
theorem course_take {d' : Draft} {t : Token} (hmode : d.mode = .document)
    (ht : t ≠ .horizontalRule) (h : (d.take addNotes t).outcome = .ok d') :
    d'.course = (d.mode, d.slides, coversAfter d.backgroundParagraph t) := by
  cases t with
  | headingOpen level attributes =>
      obtain rfl := Logged.pure_ok_iff.mp h
      exact course_openHeading d level attributes
  | headingClose level => exact course_closeHeading h
  | paragraphOpen attributes =>
      obtain rfl := Except.ok.inj ((outcome_openParagraph hmode attributes).symm.trans h)
      exact course_paragraphOpened d attributes
  | emphasisClose | strongClose | strikethroughClose | linkClose =>
      obtain rfl := Except.ok.inj ((outcome_closeStyle d none).symm.trans h)
      rfl
  | image src alt =>
      obtain rfl := Logged.pure_ok_iff.mp h
      exact course_addImage hmode src alt
  | listOpen kind => exact course_openList h
  | listClose kind => exact course_closeList h
  | listItemClose =>
      obtain rfl := Logged.pure_ok_iff.mp h
      exact course_closeItem d
  | tableOpen =>
      obtain rfl := Logged.pure_ok_iff.mp h
      exact course_openTable hmode
  | tableCellOpen =>
      obtain rfl := Logged.pure_ok_iff.mp h
      exact course_openCell hmode
  | tableCellClose => exact course_closeCell h
  | tableRowClose =>
      obtain rfl := Logged.pure_ok_iff.mp h
      exact course_closeRow d
  | tableClose => exact course_closeTable h
  | fencedCode info content =>
      obtain rfl := Except.ok.inj ((outcome_takeCode addNotes d info content).symm.trans h)
      exact course_onBlock _ _
  | inlineCode s =>
      obtain rfl := Except.ok.inj ((outcome_takeInlineCode addNotes d s).symm.trans h)
      exact course_onBlock _ _
  | htmlBlock html =>
      obtain ⟨_, rfl⟩ := takeHtmlBlock_ok h
      rfl
  | htmlInline html => exact course_takeInlineHtml h
  | horizontalRule => exact absurd rfl ht
  | _ =>
      obtain rfl := Logged.pure_ok_iff.mp h
      rfl

/-! ### Runs -/

/-- What a step leaves of the course of a draft, and how many slides it completes. -/
theorem course_step {d' : Draft} {t : Token} (hmode : d.mode = .document)
    (h : (d.step addNotes t).outcome = .ok d') :
    d'.mode = .document ∧ d'.started = true ∧
      d'.backgroundParagraph = coversAfter d.backgroundParagraph t ∧
      d'.slides.length = d.slides.length + if t = .horizontalRule ∧ d.started then 1 else 0 := by
  obtain ⟨d₁, htake, h⟩ := Logged.bind_ok_iff.mp h
  obtain rfl := Logged.pure_ok_iff.mp h
  by_cases ht : t = .horizontalRule
  · subst ht
    rcases takeRule_ok hmode htake with ⟨hstarted, rfl⟩ | ⟨hstarted, rfl⟩
    · exact ⟨hmode, rfl, rfl, by simp [hstarted]⟩
    · exact ⟨hmode, rfl, rfl, by simp [ruled, hstarted]⟩
  · have hcourse := course_take hmode ht htake
    simp only [course, Prod.mk.injEq] at hcourse
    obtain ⟨hmode₁, hslides, hcovers⟩ := hcourse
    exact ⟨hmode₁.trans hmode, rfl, hcovers, by simp [hslides, ht]⟩

theorem run_cons (d : Draft) (t : Token) (tokens : List Token) :
    d.run addNotes (t :: tokens) = d.step addNotes t >>= fun d => d.run addNotes tokens :=
  List.foldlM_cons

theorem run_append (d : Draft) (first rest : List Token) :
    d.run addNotes (first ++ rest) = d.run addNotes first >>= fun d => d.run addNotes rest :=
  List.foldlM_append

/-- A run succeeds if the first token is taken and the rest of the run succeeds. -/
theorem run_cons_ok_iff {comment : Draft → String → Logged Draft} {d' : Draft} {t : Token}
    {tokens : List Token} :
    (d.run comment (t :: tokens)).outcome = .ok d' ↔
      ∃ d₁, (d.take comment t).outcome = .ok d₁ ∧
        (({ d₁ with started := true } : Draft).run comment tokens).outcome = .ok d' := by
  rw [run, List.foldlM_cons, Logged.bind_ok_iff]
  constructor
  · rintro ⟨d₂, hstep, hrest⟩
    obtain ⟨d₁, htake, hstarted⟩ := Logged.bind_ok_iff.mp hstep
    obtain rfl := Logged.pure_ok_iff.mp hstarted
    exact ⟨d₁, htake, hrest⟩
  · rintro ⟨d₁, htake, hrest⟩
    exact ⟨_, Logged.bind_ok_iff.mpr ⟨d₁, htake, rfl⟩, hrest⟩

/-- What every token of a run keeps, the run keeps. -/
theorem run_keeps {P : Draft → Prop} {d' : Draft} {tokens : List Token}
    (htake : ∀ t ∈ tokens, ∀ c c', P c → (c.take addNotes t).outcome = .ok c' →
      P { c' with started := true })
    (h : P d) (hrun : (d.run addNotes tokens).outcome = .ok d') : P d' := by
  induction tokens generalizing d with
  | nil =>
      obtain rfl := Logged.pure_ok_iff.mp hrun
      exact h
  | cons t tokens ih =>
      obtain ⟨d₁, hfirst, hrest⟩ := run_cons_ok_iff.mp hrun
      have hkept := htake t (List.mem_cons_self ..) d d₁ h hfirst
      exact ih (fun t ht => htake t (List.mem_cons_of_mem _ ht)) hkept hrest

/-- After the first token every rule completes a slide. -/
theorem course_run {d' : Draft} {tokens : List Token} (hmode : d.mode = .document)
    (hstarted : d.started = true) (h : (d.run addNotes tokens).outcome = .ok d') :
    d'.mode = .document ∧ d'.started = true ∧
      d'.backgroundParagraph = tokens.foldl coversAfter d.backgroundParagraph ∧
      d'.slides.length = d.slides.length + tokens.count .horizontalRule := by
  induction tokens generalizing d with
  | nil =>
      obtain rfl := Logged.pure_ok_iff.mp h
      exact ⟨hmode, hstarted, rfl, rfl⟩
  | cons t tokens ih =>
      rw [run_cons] at h
      obtain ⟨d₁, hstep, hrest⟩ := Logged.bind_ok_iff.mp h
      obtain ⟨hmode₁, hstarted₁, hcovers₁, hslides₁⟩ := course_step hmode hstep
      obtain ⟨hmode', hstarted', hcovers', hslides'⟩ := ih hmode₁ hstarted₁ hrest
      refine ⟨hmode', hstarted', by rw [hcovers', hcovers₁, List.foldl_cons], ?_⟩
      rw [hslides', hslides₁, List.count_cons]
      simp only [hstarted, and_true, beq_iff_eq]
      omega

/-- What a whole document leaves: the first token completes no slide. -/
theorem course_run_empty {d' : Draft} {tokens : List Token} (hne : tokens ≠ [])
    (h : ((empty .document).run addNotes tokens).outcome = .ok d') :
    d'.mode = .document ∧ d'.started = true ∧
      d'.backgroundParagraph = tokens.foldl coversAfter false ∧
      d'.slides.length = tokens.tail.count .horizontalRule := by
  cases tokens with
  | nil => exact absurd rfl hne
  | cons t tokens =>
      rw [run_cons] at h
      obtain ⟨d₁, hstep, hrest⟩ := Logged.bind_ok_iff.mp h
      obtain ⟨hmode₁, hstarted₁, hcovers₁, hslides₁⟩ := course_step rfl hstep
      obtain ⟨hmode', hstarted', hcovers', hslides'⟩ := course_run hmode₁ hstarted₁ hrest
      refine ⟨hmode', hstarted', by rw [hcovers', hcovers₁]; rfl, ?_⟩
      rw [hslides', hslides₁]
      simp [empty]

/-- A draft with nothing written that has taken a token. -/
def fresh : Draft := { empty .document with started := true }

/-- A rule ends the slide and leaves nothing of it but the slide, once paragraphs are closed. -/
theorem step_rule (hmode : d.mode = .document) (hstarted : d.started = true)
    (hcovers : d.backgroundParagraph = false) :
    d.step addNotes .horizontalRule =
      d.closeSlide >>= fun c => pure (fresh.after c.slides) := by
  have hrule : d.takeRule = d.closeSlide >>= fun c => pure c.openSlide := by
    simp only [takeRule, hmode, hstarted, if_true]
  show d.takeRule >>= (fun d => pure { d with started := true }) = _
  rw [hrule, bind_assoc]
  refine Logged.bind_congr_of_ok fun c hc => ?_
  rw [outcome_closeSlide] at hc
  cases hc
  rw [pure_bind]
  simp [openSlide, after, fresh, empty, hmode, hcovers]

theorem step_leading_rule : (empty .document).step addNotes .horizontalRule = pure fresh := rfl

end Draft

/-! ### The theorem -/

/-- Whether every opening paragraph has a closing one after it. -/
def ParagraphsClose : List Token → Prop
  | [] => True
  | .paragraphOpen _ :: tokens => .paragraphClose ∈ tokens ∧ ParagraphsClose tokens
  | _ :: tokens => ParagraphsClose tokens

theorem foldl_coversAfter {tokens : List Token} (hclose : ParagraphsClose tokens) {covers : Bool}
    (h : covers = false ∨ .paragraphClose ∈ tokens) :
    tokens.foldl Draft.coversAfter covers = false := by
  induction tokens generalizing covers with
  | nil => simpa using h
  | cons t tokens ih =>
      cases t with
      | paragraphOpen attributes => exact ih hclose.2 (Or.inr hclose.1)
      | paragraphClose => exact ih hclose (Or.inl rfl)
      | _ => exact ih hclose (h.imp_right fun hmem => by simpa using hmem)

open Draft in
/-- What comes after a rule is compiled as if the rule began the document. -/
theorem compileTokens_rule (rest : List Token) :
    compileTokens (.horizontalRule :: rest) =
      fresh.run addNotes rest >>= fun d => d.closeSlide >>= fun d => pure d.slides := by
  unfold compileTokens
  rw [run_cons, step_leading_rule, pure_bind]

open Draft in
/--
**A rule parts a document.**  If every paragraph of the tokens before a rule is closed, the
slides of the whole are those of the tokens before it and then those of the rule and the tokens
after it, with the same notices, and the whole fails as the first of the two parts that fails.
So the slides are one more than the rules, where a rule at the very start does not count.
-/
theorem compileTokens_append_rule :
    (∀ first rest : List Token, first ≠ [] → ParagraphsClose first →
      compileTokens (first ++ [.horizontalRule] ++ rest) = do
        let slides ← compileTokens first
        let slides' ← compileTokens (.horizontalRule :: rest)
        return slides ++ slides') ∧
    (∀ (tokens : List Token) (slides : List Slide), (compileTokens tokens).outcome = .ok slides →
      slides.length = 1 + tokens.tail.count .horizontalRule) := by
  constructor
  · intro first rest hne hclose
    rw [compileTokens_rule]
    unfold compileTokens
    rw [List.append_assoc, List.singleton_append, run_append]
    simp only [bind_assoc, pure_bind]
    refine Logged.bind_congr_of_ok fun d hd => ?_
    obtain ⟨hmode, hstarted, hcovers, -⟩ := course_run_empty hne hd
    rw [foldl_coversAfter hclose (Or.inl rfl)] at hcovers
    rw [run_cons, step_rule hmode hstarted hcovers]
    simp only [bind_assoc, pure_bind]
    congr 1
    funext c
    rw [run_after, bind_map_left]
    congr 1
    funext d'
    rw [closeSlide_after, bind_map_left]
    rfl
  · intro tokens slides h
    obtain ⟨d, hd, h⟩ := Logged.bind_ok_iff.mp h
    obtain ⟨c, hc, h⟩ := Logged.bind_ok_iff.mp h
    obtain rfl := Logged.pure_ok_iff.mp h
    obtain rfl := Except.ok.inj ((outcome_closeSlide d).symm.trans hc)
    cases tokens with
    | nil =>
        obtain rfl := Logged.pure_ok_iff.mp hd
        rfl
    | cons t tokens =>
        obtain ⟨-, -, -, hslides⟩ := course_run_empty (List.cons_ne_nil t tokens) hd
        rw [List.length_append, hslides, Nat.add_comm]
        rfl

/-- A list, a table, a style and an element that are still open. -/
def unclosed : List Token :=
  [.paragraphOpen ⟨none, ["background"], []⟩, .htmlInline "<sup>", .text "a", .paragraphClose,
    .listOpen .ordered, .listItemOpen, .tableOpen, .tableRowOpen, .tableCellOpen, .strongOpen,
    .text "b"]

theorem compileTokens_unclosed_append_rule :
    unclosed ≠ [] ∧ ParagraphsClose unclosed ∧
      (compileTokens (unclosed ++ [.horizontalRule] ++ [.listClose .ordered, .text "c"]) = do
        let slides ← compileTokens unclosed
        let slides' ← compileTokens [.horizontalRule, .listClose .ordered, .text "c"]
        return slides ++ slides') ∧
      ∃ slides, (compileTokens (unclosed ++ [.horizontalRule] ++
          [.listClose .ordered, .text "c"])).outcome = .ok slides ∧ slides.length = 1 + 1 := by
  have hclose : ParagraphsClose unclosed := by simp [unclosed, ParagraphsClose]
  obtain ⟨slides, hslides⟩ : ∃ slides, (compileTokens (unclosed ++ [.horizontalRule] ++
      [.listClose .ordered, .text "c"])).outcome = .ok slides := ⟨_, rfl⟩
  have hlength := compileTokens_append_rule.2 _ slides hslides
  exact ⟨List.cons_ne_nil _ _, hclose,
    compileTokens_append_rule.1 _ _ (List.cons_ne_nil _ _) hclose, slides, hslides, hlength⟩

end SlideDeck

/-
When an image is one token.

The lexer has one place for the image that is open, and only text looks at it.  So an image whose
description is text gives one token with its destination and its description, which stays to the
end.  What else stands in a description is put out in front of the image as if there were no image.
An image within the description takes the place for itself and leaves it empty, and the image around
it gives no token at all.
-/
import SlideDeck.Proofs.Token.Bracketing

namespace SlideDeck

open SlideDeck.Markdown (Event Tag TagEnd openTags? WellNested)

/-! ### Descriptions -/

namespace Markdown

/-- Whether a tag is that of an image. -/
def Tag.isImage : Tag → Bool
  | .image _ => true
  | _ => false

/-- Whether a tag is that of a block of code. -/
def Tag.isCodeBlock : Tag → Bool
  | .codeBlock _ => true
  | _ => false

/-- Whether an image begins. -/
def Event.beginsImage : Event → Bool
  | .start tag => tag.isImage
  | _ => false

/-- Whether an image ends. -/
def Event.endsImage : Event → Bool
  | .stop .image => true
  | _ => false

/-- Whether an event is text. -/
def Event.isText : Event → Bool
  | .text _ => true
  | _ => false

/-- The text of an event. -/
def Event.content : Event → String
  | .text s => s
  | _ => ""

/-- Whether an event may stand in a description: text, code, HTML, line breaks, styles, links and
images. -/
def Event.isRunning : Event → Bool
  | .text _ | .code _ | .inlineHtml _ | .softBreak | .hardBreak => true
  | .start .emphasis | .start .strong | .start .strikethrough | .start (.link _)
  | .start (.image _) => true
  | .stop .emphasis | .stop .strong | .stop .strikethrough | .stop .link | .stop .image => true
  | _ => false

/-- The text of a description. -/
def description (inner : List Event) : String := String.join (inner.map Event.content)

/-- The tokens that an event within an image puts out. -/
def Event.spill : Event → List Token
  | .code s => [.inlineCode s]
  | .inlineHtml s => [.htmlInline s]
  | .softBreak => [.softBreak]
  | .hardBreak => [.hardBreak]
  | .start .emphasis => [.emphasisOpen]
  | .start .strong => [.strongOpen]
  | .start .strikethrough => [.strikethroughOpen]
  | .start (.link destination) => [.linkOpen destination]
  | .stop .emphasis => [.emphasisClose]
  | .stop .strong => [.strongClose]
  | .stop .strikethrough => [.strikethroughClose]
  | .stop .link => [.linkClose]
  | _ => []

/-- In well-nested events as many images end as begin. -/
theorem countP_beginsImage {tags tags' : List Tag} {events : List Event}
    (h : openTags? tags events = some tags') :
    tags.countP Tag.isImage + events.countP Event.beginsImage =
      tags'.countP Tag.isImage + events.countP Event.endsImage := by
  induction events generalizing tags with
  | nil =>
      obtain rfl := Option.some.inj h
      simp
  | cons e events ih =>
      rw [openTags?_cons] at h
      obtain ⟨next, he, hrest⟩ := Option.bind_eq_some_iff.mp h
      have ih := ih hrest
      cases e with
      | start tag =>
          obtain rfl := Option.some.inj he
          cases himage : tag.isImage <;>
            simp [Event.beginsImage, Event.endsImage, himage] at ih ⊢ <;> omega
      | stop e =>
          obtain ⟨tag, rfl, rfl⟩ := tags?_stop_eq_some he
          have hends : (Event.stop tag.toEnd).endsImage = tag.isImage := by cases tag <;> rfl
          cases himage : tag.isImage <;>
            simp [Event.beginsImage, hends, himage] at ih ⊢ <;> omega
      | _ =>
          obtain rfl := Option.some.inj he
          simpa [Event.beginsImage, Event.endsImage] using ih

end Markdown

/-! ### Image tokens -/

/-- The source and the description of an image. -/
def Token.image? : Token → Option (String × String)
  | .image src alt => some (src, alt)
  | _ => none

/-- The images among some tokens. -/
def images (tokens : List Token) : List (String × String) := tokens.filterMap Token.image?

theorem lasting_image : Lasting Token.image? where
  text := fun _ => rfl
  emoji := fun _ _ => rfl
  softBreak := rfl
  hardBreak := rfl
  paragraphOpen := fun _ _ => rfl

theorem images_append (first rest : List Token) :
    images (first ++ rest) = images first ++ images rest :=
  List.filterMap_append

theorem images_eq_lexed (events : List Event) :
    images (tokensOfEvents events) = images (Lexer.lexed events).tokens.toList :=
  lasting_image.filterMap_expandEmoji _

namespace Lexer

open SlideDeck.Markdown (description)

variable {l : Lexer} {tags tags' : List Tag} {events : List Event}

theorem lexed_append (before after : List Event) :
    lexed (before ++ after) = after.foldl step (lexed before) :=
  List.foldl_append

/-! ### What is being gathered -/

theorem gathered_liftAttributes (l : Lexer) :
    l.liftAttributes.image = l.image ∧ l.liftAttributes.codeBlock = l.codeBlock := by
  unfold liftAttributes
  split
  · exact ⟨rfl, rfl⟩
  · simp only
    split
    · split <;> exact ⟨rfl, rfl⟩
    · exact ⟨rfl, rfl⟩

theorem gathered_pushText (l : Lexer) (s : String) :
    (l.pushText s).image = l.image ∧ (l.pushText s).codeBlock = l.codeBlock := by
  unfold pushText
  split <;> exact ⟨rfl, rfl⟩

/-- Only the beginning of an image or of a block of code begins to gather text. -/
theorem gathered_step (l : Lexer) (e : Event) :
    ((l.step e).image ≠ none →
      l.image ≠ none ∨ ∃ destination, e = .start (.image destination)) ∧
    ((l.step e).codeBlock ≠ none →
      l.codeBlock ≠ none ∨ ∃ info, e = .start (.codeBlock info)) := by
  cases e with
  | start tag =>
      cases tag with
      | image destination => exact ⟨fun _ => .inr ⟨destination, rfl⟩, .inl⟩
      | codeBlock info => exact ⟨.inl, fun _ => .inr ⟨info, rfl⟩⟩
      | heading level attributes source =>
          simp only [step, start]
          split <;> exact ⟨.inl, .inl⟩
      | _ => exact ⟨.inl, .inl⟩
  | stop e =>
      cases e with
      | paragraph =>
          obtain ⟨himage, hcode⟩ := l.gathered_liftAttributes
          simp only [step, stop, push, himage, hcode]
          exact ⟨.inl, .inl⟩
      | heading level =>
          obtain ⟨himage, hcode⟩ := gathered_liftAttributes { l with ruleHeading := false }
          simp only [step, stop]
          split
          · simp only [push, himage, hcode]
            exact ⟨.inl, .inl⟩
          · exact ⟨.inl, .inl⟩
      | codeBlock | htmlBlock | image =>
          simp only [step, stop]
          split
          · exact ⟨.inl, .inl⟩
          · simp [push]
      | _ => exact ⟨.inl, .inl⟩
  | text s =>
      simp only [step, text]
      split
      · rename_i hcode
        exact ⟨.inl, fun _ => .inl (by simp [hcode])⟩
      · rename_i himage
        exact ⟨fun _ => .inl (by simp [himage]), .inl⟩
      · obtain ⟨himage, hcode⟩ := l.gathered_pushText s
        rw [himage, hcode]
        exact ⟨.inl, .inl⟩
  | html s =>
      simp only [step]
      split <;> exact ⟨.inl, .inl⟩
  | _ => exact ⟨.inl, .inl⟩

/-- A place of the lexer that is filled when something of some kind begins, and empty when it has
ended. -/
structure GatheredFor (slot : Lexer → Option (String × String)) (kind : Tag → Bool) : Prop where
  begun : ∀ (l : Lexer) (e : Event), slot (l.step e) ≠ none →
    slot l ≠ none ∨ ∃ tag : Tag, e = .start tag ∧ kind tag = true
  ended : ∀ (l : Lexer) (tag : Tag), kind tag = true → slot (l.step (.stop tag.toEnd)) = none

theorem gatheredFor_image : GatheredFor Lexer.image Tag.isImage where
  begun := by
    intro l e h
    rcases (l.gathered_step e).1 h with h | ⟨destination, rfl⟩
    · exact .inl h
    · exact .inr ⟨_, rfl, rfl⟩
  ended := by
    intro l tag htag
    cases tag with
    | image destination =>
        simp only [step, Tag.toEnd, stop]
        split
        · assumption
        · rfl
    | _ => cases htag

theorem gatheredFor_codeBlock : GatheredFor Lexer.codeBlock Tag.isCodeBlock where
  begun := by
    intro l e h
    rcases (l.gathered_step e).2 h with h | ⟨info, rfl⟩
    · exact .inl h
    · exact .inr ⟨_, rfl, rfl⟩
  ended := by
    intro l tag htag
    cases tag with
    | codeBlock info =>
        simp only [step, Tag.toEnd, stop]
        split
        · assumption
        · rfl
    | _ => cases htag

variable {slot : Lexer → Option (String × String)} {kind : Tag → Bool}

theorem GatheredFor.step (hslot : GatheredFor slot kind) {e : Event}
    (h : slot l ≠ none → tags.any kind = true) (he : e.tags? tags = some tags')
    (hstep : slot (l.step e) ≠ none) : tags'.any kind = true := by
  rcases hslot.begun l e hstep with hl | ⟨tag, rfl, htag⟩
  · have hany := h hl
    cases e with
    | start tag =>
        obtain rfl := Option.some.inj he
        rw [List.any_cons, hany, Bool.or_true]
    | stop e =>
        obtain ⟨tag, rfl, rfl⟩ := Markdown.tags?_stop_eq_some he
        by_cases htag : kind tag = true
        · exact absurd (hslot.ended l tag htag) hstep
        · simpa [htag] using hany
    | _ =>
        obtain rfl := Option.some.inj he
        exact hany
  · obtain rfl := Option.some.inj he
    simp [htag]

/-- What is gathered is gathered for something that is open. -/
theorem GatheredFor.run (hslot : GatheredFor slot kind)
    (h : slot l ≠ none → tags.any kind = true) (hevents : openTags? tags events = some tags')
    (hrun : slot (events.foldl Lexer.step l) ≠ none) : tags'.any kind = true := by
  induction events generalizing tags l with
  | nil =>
      obtain rfl := Option.some.inj hevents
      exact h hrun
  | cons e events ih =>
      rw [Markdown.openTags?_cons] at hevents
      obtain ⟨next, he, hrest⟩ := Option.bind_eq_some_iff.mp hevents
      exact ih (hslot.step h he) hrest hrun

/-- Where no block of code is open no code is gathered. -/
theorem codeBlock_lexed {before : List Event} (h : openTags? [] before = some tags)
    (hcode : tags.any Tag.isCodeBlock = false) : (lexed before).codeBlock = none := by
  have hempty : empty.codeBlock ≠ none → [].any Tag.isCodeBlock = true := fun h => absurd rfl h
  by_contra hgathers
  have hany := gatheredFor_codeBlock.run hempty h hgathers
  simp [hcode] at hany

/-- Behind well-nested events with an image among them no image is gathered, even if one was in
front of them. -/
theorem image_of_beginsImage (h : WellNested events) (hbegins : ∃ e ∈ events, e.beginsImage = true)
    (l : Lexer) : (events.foldl step l).image = none := by
  obtain ⟨e, he, hbegins⟩ := hbegins
  obtain ⟨first, rest, rfl⟩ := List.append_of_mem he
  cases e with
  | start tag =>
      have hopen : openTags? [] (first ++ .start tag :: rest) = some [] := h
      rw [Markdown.openTags?_append] at hopen
      obtain ⟨tags, -, hrest⟩ := Option.bind_eq_some_iff.mp hopen
      have htag : tag.isImage = true := hbegins
      have hnext : ((first.foldl step l).step (.start tag)).image ≠ none →
          (tag :: tags).any Tag.isImage = true := fun _ => by simp [htag]
      rw [List.foldl_append, List.foldl_cons]
      by_contra hgathers
      have hany := gatheredFor_image.run hnext hrest hgathers
      simp at hany
  | _ => cases hbegins

/-! ### The images of a run -/

theorem images_push (l : Lexer) (t : Token) :
    images (l.push t).tokens.toList = images l.tokens.toList ++ images [t] := by
  rw [toList_push, images_append]

/-- A token that is no image adds none. -/
theorem images_push_other (l : Lexer) {t : Token} (ht : t.image? = none) :
    images (l.push t).tokens.toList = images l.tokens.toList := by
  rw [images_push]
  simp [images, ht]

theorem images_liftAttributes (l : Lexer) :
    images l.liftAttributes.tokens.toList = images l.tokens.toList :=
  lasting_image.filterMap_liftAttributes l

/-- Only the end of an image adds one. -/
theorem images_step (l : Lexer) {e : Event} (h : e.endsImage = false) :
    images (l.step e).tokens.toList = images l.tokens.toList := by
  cases e with
  | start tag =>
      cases tag with
      | quote | codeBlock info | htmlBlock | image destination => rfl
      | heading level attributes source =>
          simp only [step, start]
          split
          · exact images_push_other l rfl
          · exact images_push_other l rfl
      | _ => exact images_push_other l rfl
  | stop e =>
      cases e with
      | quote => rfl
      | paragraph =>
          simp only [step, stop]
          rw [images_push_other _ rfl, images_liftAttributes]
      | heading level =>
          simp only [step, stop]
          split
          · rw [images_push_other _ rfl, images_push_other _ rfl, images_liftAttributes]
          · exact images_push_other l rfl
      | codeBlock | htmlBlock =>
          simp only [step, stop]
          split
          · rfl
          · exact images_push_other l rfl
      | image => cases h
      | _ => exact images_push_other l rfl
  | text s =>
      simp only [step, text]
      split
      · rfl
      · rfl
      · exact lasting_image.filterMap_pushText l s
  | html s =>
      simp only [step]
      split
      · exact images_push_other l rfl
      · rfl
  | _ => exact images_push_other l rfl

theorem stop_image_none (h : l.image = none) : l.stop .image = l := by
  simp only [stop]
  rw [h]

theorem stop_image_some {src alt : String} (h : l.image = some (src, alt)) :
    (l.stop .image).tokens.toList = l.tokens.toList ++ [.image src alt] := by
  simp only [stop]
  rw [h]
  exact l.toList_push (.image src alt)

theorem images_stop (l : Lexer) : images (l.stop .image).tokens.toList =
    images l.tokens.toList ++ l.image.toList := by
  cases himage : l.image with
  | none => rw [stop_image_none himage, Option.toList_none, List.append_nil]
  | some image =>
      rw [stop_image_some himage, images_append]
      rfl

/-- Images are never taken back, and there are no more new ones than images end. -/
theorem images_run (l : Lexer) (events : List Event) :
    ∃ more, images (events.foldl step l).tokens.toList = images l.tokens.toList ++ more ∧
      more.length ≤ events.countP Event.endsImage := by
  induction events generalizing l with
  | nil => exact ⟨[], by simp, by simp⟩
  | cons e events ih =>
      obtain ⟨rest, hrest, hle⟩ := ih (l.step e)
      by_cases hends : e.endsImage = true
      · obtain rfl : e = .stop .image := by
          cases e with
          | stop e =>
              cases e with
              | image => rfl
              | _ => cases hends
          | _ => cases hends
        have hone : l.image.toList.length ≤ 1 := by cases l.image <;> simp
        refine ⟨l.image.toList ++ rest, ?_, ?_⟩
        · rw [List.foldl_cons, hrest, ← List.append_assoc]
          exact congrArg (· ++ rest) (images_stop l)
        · rw [List.length_append, List.countP_cons_of_pos hends]
          omega
      · refine ⟨rest, ?_, ?_⟩
        · rw [List.foldl_cons, hrest, images_step l (Bool.eq_false_iff.mpr hends)]
        · rwa [List.countP_cons_of_neg hends]

/-! ### Within an image -/

/-- What is put out within an image is no image. -/
theorem images_spill (inner : List Event) : images (inner.flatMap Event.spill) = [] := by
  rw [images, List.filterMap_eq_nil_iff]
  intro t ht
  obtain ⟨e, -, ht⟩ := List.mem_flatMap.mp ht
  unfold Event.spill at ht
  split at ht <;> simp at ht <;> rw [ht] <;> rfl

/-- An event other than of an image in the description of one. -/
theorem step_described {src alt : String} (himage : l.image = some (src, alt))
    (hcode : l.codeBlock = none) {e : Event} (hrunning : e.isRunning = true)
    (hbegins : e.beginsImage = false) (hends : e.endsImage = false) :
    (l.step e).image = some (src, alt ++ e.content) ∧ (l.step e).codeBlock = none ∧
      (l.step e).tokens.toList = l.tokens.toList ++ e.spill := by
  have hpush : ∀ t, (l.push t).image = some (src, alt ++ "") ∧ (l.push t).codeBlock = none ∧
      (l.push t).tokens.toList = l.tokens.toList ++ [t] := by
    intro t
    refine ⟨?_, hcode, l.toList_push t⟩
    rw [String.append_empty]
    exact himage
  cases e with
  | text s =>
      have hstep : l.step (.text s) = { l with image := some (src, alt ++ s) } := by
        simp only [step, text, hcode, himage]
      rw [hstep]
      exact ⟨rfl, hcode, (List.append_nil _).symm⟩
  | code s | inlineHtml s | softBreak | hardBreak => exact hpush _
  | start tag =>
      cases tag with
      | emphasis | strong | strikethrough | link destination => exact hpush _
      | image destination => cases hbegins
      | _ => cases hrunning
  | stop e =>
      cases e with
      | emphasis | strong | strikethrough | link => exact hpush _
      | image => cases hends
      | _ => cases hrunning
  | _ => cases hrunning

/-- A description without images gives the text of the image, and the tokens of all that is not
text. -/
theorem run_described {inner : List Event} {src alt : String} (himage : l.image = some (src, alt))
    (hcode : l.codeBlock = none) (hrunning : ∀ e ∈ inner, e.isRunning = true)
    (hbegins : ∀ e ∈ inner, e.beginsImage = false) (hends : ∀ e ∈ inner, e.endsImage = false) :
    (inner.foldl step l).image = some (src, alt ++ description inner) ∧
      (inner.foldl step l).tokens.toList = l.tokens.toList ++ inner.flatMap Event.spill := by
  induction inner generalizing l alt with
  | nil =>
      refine ⟨?_, (List.append_nil _).symm⟩
      rw [List.foldl_nil, himage]
      simp [description]
  | cons e inner ih =>
      rw [List.forall_mem_cons] at hrunning hbegins hends
      obtain ⟨himage, hcode, htokens⟩ :=
        step_described himage hcode hrunning.1 hbegins.1 hends.1
      obtain ⟨hrest, hrestTokens⟩ := ih himage hcode hrunning.2 hbegins.2 hends.2
      refine ⟨?_, ?_⟩
      · rw [List.foldl_cons, hrest, String.append_assoc]
        simp [description, String.join_cons]
      · rw [List.foldl_cons, hrestTokens, htokens, List.append_assoc, List.flatMap_cons]

variable {before inner : List Event} {destination : String}

theorem lexed_within (before inner : List Event) (tag : Tag) :
    lexed (before ++ Event.within tag inner) =
      (inner.foldl step ((lexed before).start tag)).stop tag.toEnd := by
  rw [lexed_append, Event.within, List.cons_append, List.foldl_cons, List.foldl_append]
  rfl

/-- In well-nested events that begin no image none ends. -/
theorem endsImage_eq_false (hinner : WellNested inner)
    (hbegins : ∀ e ∈ inner, e.beginsImage = false) : ∀ e ∈ inner, e.endsImage = false := by
  have hnone : inner.countP Event.beginsImage = 0 := by
    rw [List.countP_eq_zero]
    intro e he
    simp [hbegins e he]
  have hcount := Markdown.countP_beginsImage hinner
  rw [hnone, List.countP_nil, Nat.zero_add, Nat.zero_add, eq_comm, List.countP_eq_zero] at hcount
  exact fun e he => Bool.eq_false_iff.mpr (hcount e he)

/-- An image without another one in it gives a token with its description, behind all that is not
text. -/
theorem lexed_described (destination : String) (hcode : (lexed before).codeBlock = none)
    (hinner : WellNested inner) (hrunning : ∀ e ∈ inner, e.isRunning = true)
    (hbegins : ∀ e ∈ inner, e.beginsImage = false) :
    (lexed (before ++ Event.within (.image destination) inner)).tokens.toList =
      (lexed before).tokens.toList ++ inner.flatMap Event.spill ++
        [.image destination (description inner)] := by
  have hstart : ((lexed before).start (.image destination)).image = some (destination, "") := rfl
  obtain ⟨himage, htokens⟩ :=
    run_described hstart hcode hrunning hbegins (endsImage_eq_false hinner hbegins)
  rw [String.empty_append] at himage
  rw [lexed_within, Tag.toEnd, stop_image_some himage, htokens]
  rfl

/-- The end of an image with another one in it gives no token. -/
theorem lexed_nested (hinner : WellNested inner) (hbegins : ∃ e ∈ inner, e.beginsImage = true) :
    lexed (before ++ Event.within (.image destination) inner) =
      lexed (before ++ .start (.image destination) :: inner) := by
  rw [lexed_within, Tag.toEnd, stop_image_none (image_of_beginsImage hinner hbegins _),
    lexed_append, List.foldl_cons]
  rfl

/-- An event of a description that puts out nothing and begins no image is text. -/
theorem isText_of_spill {e : Event} (hrunning : e.isRunning = true)
    (hbegins : e.beginsImage = false) (hends : e.endsImage = false) (hspill : e.spill = []) :
    e.isText = true := by
  cases e with
  | text s => rfl
  | start tag =>
      cases tag with
      | image destination => cases hbegins
      | emphasis | strong | strikethrough | link destination => simp [Event.spill] at hspill
      | _ => cases hrunning
  | stop e =>
      cases e with
      | image => cases hends
      | emphasis | strong | strikethrough | link => simp [Event.spill] at hspill
      | _ => cases hrunning
  | code s | inlineHtml s | softBreak | hardBreak => simp [Event.spill] at hspill
  | _ => cases hrunning

theorem of_isText {e : Event} (h : e.isText = true) :
    e.spill = [] ∧ e.beginsImage = false := by
  cases e with
  | text s => exact ⟨rfl, rfl⟩
  | _ => cases h

/-! ### One token -/

/-- An image gives one token, with its destination.  In front of it stand tokens for the images in
its description, one for each of them, and nothing else. -/
def OneToken (before : List Event) (destination : String) (inner : List Event) : Prop :=
  ∃ nested alt, nested.length = inner.countP Event.beginsImage ∧
    (∀ t ∈ nested, t.image?.isSome = true) ∧
    (lexed (before ++ Event.within (.image destination) inner)).tokens.toList =
      (lexed before).tokens.toList ++ nested ++ [.image destination alt]

/-- An image is one token exactly if its description is text. -/
theorem oneToken_iff (hcode : (lexed before).codeBlock = none) (hinner : WellNested inner)
    (hrunning : ∀ e ∈ inner, e.isRunning = true) :
    OneToken before destination inner ↔ ∀ e ∈ inner, e.isText = true := by
  constructor
  · rintro ⟨nested, alt, hlength, hnested, htokens⟩
    by_cases hbegins : ∃ e ∈ inner, e.beginsImage = true
    · -- the own end gives no token, so there are fewer ends than tokens
      exfalso
      rw [lexed_nested hinner hbegins, lexed_append, List.foldl_cons] at htokens
      obtain ⟨more, hmore, hle⟩ :=
        images_run ((lexed before).step (.start (.image destination))) inner
      have hcount := Markdown.countP_beginsImage hinner
      have hnestedLength : (images nested).length = nested.length :=
        List.filterMap_length_eq_length.mpr hnested
      rw [htokens, images_append, images_append, List.append_assoc] at hmore
      have hown := congrArg List.length (List.append_cancel_left hmore)
      have hone : (images [.image destination alt]).length = 1 := rfl
      rw [List.length_append, hnestedLength, hone] at hown
      rw [List.countP_nil] at hcount
      omega
    · have hbegins : ∀ e ∈ inner, e.beginsImage = false := by simpa using hbegins
      have hnone : inner.countP Event.beginsImage = 0 := by
        rw [List.countP_eq_zero]
        intro e he
        simp [hbegins e he]
      obtain rfl := List.length_eq_zero_iff.mp (hlength.trans hnone)
      rw [lexed_described destination hcode hinner hrunning hbegins, List.append_nil] at htokens
      have hspill : inner.flatMap Event.spill = [] := by
        simpa using List.append_inj_left' htokens rfl
      rw [List.flatMap_eq_nil_iff] at hspill
      intro e he
      exact isText_of_spill (hrunning e he) (hbegins e he)
        (endsImage_eq_false hinner hbegins e he) (hspill e he)
  · intro htext
    have hbegins : ∀ e ∈ inner, e.beginsImage = false := fun e he => (of_isText (htext e he)).2
    refine ⟨[], description inner, ?_, by simp, ?_⟩
    · rw [List.length_nil, eq_comm, List.countP_eq_zero]
      intro e he
      simp [hbegins e he]
    · rw [lexed_described destination hcode hinner hrunning hbegins]
      have hspill : inner.flatMap Event.spill = [] := by
        rw [List.flatMap_eq_nil_iff]
        exact fun e he => (of_isText (htext e he)).1
      rw [hspill]

end Lexer

open Lexer (OneToken lexed)

/-- Every image of some events gives one token. -/
def ImagesAreTokens (events : List Event) : Prop :=
  ∀ before destination inner after,
    events = before ++ Event.within (.image destination) inner ++ after → WellNested inner →
      OneToken before destination inner

/-- **An image is one token exactly if its description is text.**  Then its token has its
destination and its whole description, and it stays among the images of the document at its place.
If there is no other image in the description the image gives such a token all the same, but all in
the description that is not text is put out in front of it.  If there is one, the image gives no
token. -/
theorem images_tokensOfEvents {before inner after : List Event} {destination : String}
    (h : WellNested (before ++ Event.within (.image destination) inner ++ after))
    (hcode : ∀ tags ∈ openTags? [] before, tags.any Tag.isCodeBlock = false)
    (hinner : WellNested inner) (hrunning : ∀ e ∈ inner, e.isRunning = true) :
    (OneToken before destination inner ↔ ∀ e ∈ inner, e.isText = true) ∧
      ((∀ e ∈ inner, e.beginsImage = false) →
        (lexed (before ++ Event.within (.image destination) inner)).tokens.toList =
          (lexed before).tokens.toList ++ inner.flatMap Event.spill ++
            [.image destination (Markdown.description inner)] ∧
        ∃ more,
          images (tokensOfEvents (before ++ Event.within (.image destination) inner ++ after)) =
            images (tokensOfEvents before) ++
              (destination, Markdown.description inner) :: more) ∧
      ((∃ e ∈ inner, e.beginsImage = true) →
        lexed (before ++ Event.within (.image destination) inner) =
          lexed (before ++ .start (.image destination) :: inner)) := by
  have hopen : openTags? [] (before ++ Event.within (.image destination) inner ++ after) =
      some [] := h
  rw [List.append_assoc, Markdown.openTags?_append] at hopen
  obtain ⟨tags, htags, -⟩ := Option.bind_eq_some_iff.mp hopen
  have hnone := Lexer.codeBlock_lexed htags (hcode tags htags)
  refine ⟨Lexer.oneToken_iff hnone hinner hrunning, fun hbegins => ?_, Lexer.lexed_nested hinner⟩
  have htokens := Lexer.lexed_described destination hnone hinner hrunning hbegins
  refine ⟨htokens, ?_⟩
  obtain ⟨more, hmore, -⟩ :=
    Lexer.images_run (lexed (before ++ Event.within (.image destination) inner)) after
  refine ⟨more, ?_⟩
  rw [images_eq_lexed, images_eq_lexed, Lexer.lexed_append, hmore, htokens, images_append,
    images_append, Lexer.images_spill, List.append_nil, List.append_assoc]
  rfl

/-- A picture that is a link. -/
def linkedImage : List Event :=
  Event.within .paragraph (Event.within (.link "u") (Event.within (.image "x.png") [.text "a"]))

theorem images_linkedImage :
    WellNested linkedImage ∧ OneToken [.start .paragraph, .start (.link "u")] "x.png" [.text "a"] ∧
      ∃ more, images (tokensOfEvents linkedImage) = ("x.png", "a") :: more := by
  have hnested : WellNested ([.start .paragraph, .start (.link "u")] ++
      Event.within (.image "x.png") [.text "a"] ++ [.stop .link, .stop .paragraph]) := by
    decide +kernel
  obtain ⟨hone, hdescribed, -⟩ :=
    images_tokensOfEvents hnested (by decide) (by decide +kernel) (by decide)
  obtain ⟨-, more, hmore⟩ := hdescribed (by decide)
  exact ⟨hnested, hone.mpr (by decide), more, hmore⟩

/-- A picture with code in its description. -/
def codeInImage : List Event :=
  Event.within .paragraph (Event.within (.image "x.png") [.text "a ", .code "b", .text " c"])

/-- A picture with another picture in its description. -/
def imageInImage : List Event :=
  Event.within .paragraph
    (Event.within (.image "x.png") (.text "a " :: Event.within (.image "y.png") [.text "b"] ++
      [.text " c"]))

/-- The code stands in front of the first picture, and of the second one only what is behind the
picture in its description is left. -/
theorem not_imagesAreTokens :
    (WellNested codeInImage ∧ ¬ImagesAreTokens codeInImage ∧
      tokensOfEvents codeInImage = [.paragraphOpen .empty, .inlineCode "b",
        .image "x.png" "a  c", .paragraphClose]) ∧
    (WellNested imageInImage ∧ ¬ImagesAreTokens imageInImage ∧
      tokensOfEvents imageInImage = [.paragraphOpen .empty, .image "y.png" "b", .text " c",
        .paragraphClose]) := by
  refine ⟨⟨by decide +kernel, fun himages => ?_, by decide +kernel⟩,
    ⟨by decide +kernel, fun himages => ?_, by decide +kernel⟩⟩
  · have hone := himages [.start .paragraph] "x.png" [.text "a ", .code "b", .text " c"]
      [.stop .paragraph] rfl (by decide +kernel)
    rw [Lexer.oneToken_iff (by decide +kernel) (by decide +kernel) (by decide)] at hone
    exact absurd hone (by decide)
  · have hone := himages [.start .paragraph] "x.png"
      (.text "a " :: Event.within (.image "y.png") [.text "b"] ++ [.text " c"])
      [.stop .paragraph] rfl (by decide +kernel)
    rw [Lexer.oneToken_iff (by decide +kernel) (by decide +kernel) (by decide)] at hone
    exact absurd hone (by decide)

end SlideDeck

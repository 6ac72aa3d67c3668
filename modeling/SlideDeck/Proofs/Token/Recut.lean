/-
Tokens do not depend on how text is cut into events.

Text that a parser reports in several events goes to the same place as text in one: a block of code
and the description of an image gather it, and elsewhere it is joined to the text token before it.
Behind an event of text the lexer is in a state in which it joins the next one, so two texts in a
row have the effect of one.  Attributes and emoji are looked for in joined text only, and so nothing
that the lexer puts out tells where the cuts were.

Rows of events that differ in their cuts alone are those that are the same when all neighbouring
texts are merged, which can be checked.
-/
import Mathlib.Logic.Relation
import SlideDeck.Draft.Compile

namespace SlideDeck

open SlideDeck.Markdown (Event)

/-! ### Cuts -/

namespace Markdown.Event

/-- A row of events, and the same with one of its texts cut into some pieces. -/
inductive Cut : List Event → List Event → Prop where
  | pieces (before : List Event) (first : String) (rest : List String) (after : List Event) :
    Cut (before ++ .text (String.join (first :: rest)) :: after)
      (before ++ (first :: rest).map text ++ after)

/-- Two rows of events differ in nothing but the cuts of their texts: one comes from the other by
cutting texts and by merging neighbouring ones. -/
def Recut : List Event → List Event → Prop := Relation.EqvGen Cut

/-- Puts an event in front of some events.  A text is joined to a text that they begin with. -/
def consMerged : Event → List Event → List Event
  | .text s, .text s' :: events => .text (s ++ s') :: events
  | e, events => e :: events

/-- Some events with all neighbouring texts merged. -/
def merged (events : List Event) : List Event := events.foldr consMerged []

theorem merged_append (before after : List Event) :
    merged (before ++ after) = before.foldr consMerged (merged after) :=
  List.foldr_append

/-- Two texts in a row are merged as one. -/
theorem consMerged_text (s s' : String) (events : List Event) :
    consMerged (.text s) (consMerged (.text s') events) = consMerged (.text (s ++ s')) events := by
  cases events with
  | nil => rfl
  | cons e events =>
      cases e with
      | text s'' => simp only [consMerged, String.append_assoc]
      | _ => rfl

theorem foldr_consMerged_texts (first : String) (rest : List String) (events : List Event) :
    ((first :: rest).map text).foldr consMerged events =
      consMerged (.text (String.join (first :: rest))) events := by
  induction rest generalizing first with
  | nil => simp
  | cons second rest ih =>
      have hrest := ih second
      rw [List.map_cons, List.foldr_cons, hrest, consMerged_text, String.join_cons,
        String.join_cons, String.join_cons]

/-- Cutting changes nothing of what is left when the texts are merged. -/
theorem Cut.merged_eq {events events' : List Event} (h : Cut events events') :
    merged events = merged events' := by
  cases h with
  | pieces before first rest after =>
      rw [merged_append, List.append_assoc, merged_append, merged_append, foldr_consMerged_texts]
      rfl

theorem Cut.cons {events events' : List Event} (h : Cut events events') (e : Event) :
    Cut (e :: events) (e :: events') := by
  cases h with
  | pieces before first rest after => exact .pieces (e :: before) first rest after

theorem Recut.cons {events events' : List Event} (h : Recut events events') (e : Event) :
    Recut (e :: events) (e :: events') := by
  induction h with
  | rel events events' hcut => exact .rel _ _ (hcut.cons e)
  | refl events => exact .refl _
  | symm events events' _ ih => exact .symm _ _ ih
  | trans events middle events' _ _ ih ih' => exact .trans _ _ _ ih ih'

theorem recut_consMerged (e : Event) (events : List Event) :
    Recut (e :: events) (consMerged e events) := by
  cases e with
  | text s =>
      cases events with
      | nil => exact .refl _
      | cons e events =>
          cases e with
          | text s' =>
              have hcut := Cut.pieces [] s [s'] events
              rw [String.join_cons, String.join_cons, String.join_nil, String.append_empty] at hcut
              exact .symm _ _ (.rel _ _ hcut)
          | _ => exact .refl _
  | _ => exact .refl _

/-- Merging neighbouring texts is undone by cutting them again. -/
theorem recut_merged (events : List Event) : Recut events (merged events) := by
  induction events with
  | nil => exact .refl _
  | cons e events ih => exact .trans _ _ _ (ih.cons e) (recut_consMerged e (merged events))

/-- Rows of events differ in their cuts alone if they are the same with their texts merged. -/
theorem recut_iff {events events' : List Event} :
    Recut events events' ↔ merged events = merged events' := by
  constructor
  · intro h
    induction h with
    | rel events events' hcut => exact hcut.merged_eq
    | refl events => rfl
    | symm events events' _ ih => exact ih.symm
    | trans events middle events' _ _ ih ih' => exact ih.trans ih'
  · intro h
    have hback := (recut_merged events').symm
    rw [← h] at hback
    exact (recut_merged events).trans _ _ _ hback

instance (events events' : List Event) : Decidable (Recut events events') :=
  decidable_of_iff _ recut_iff.symm

end Markdown.Event

/-! ### Joined text -/

namespace Lexer

variable (l : Lexer)

/-- Behind a token of text, text is joined to it. -/
theorem pushText_push_text (before s : String) :
    (l.push (.text before)).pushText s = l.push (.text (before ++ s)) := by
  simp only [pushText, push, Array.back?_push, Array.pop_push]

theorem pushText_pushText (s s' : String) : (l.pushText s).pushText s' = l.pushText (s ++ s') := by
  by_cases hjoined : ∃ before, l.tokens.back? = some (.text before)
  · obtain ⟨before, hlast⟩ := hjoined
    have hpush : ∀ s,
        l.pushText s = { l with tokens := l.tokens.pop }.push (.text (before ++ s)) := by
      intro s
      simp only [pushText, hlast, push]
    rw [hpush, pushText_push_text, hpush, String.append_assoc]
  · have hpush : ∀ s, l.pushText s = l.push (.text s) := by
      intro s
      unfold pushText
      split
      · next before hlast => exact absurd ⟨before, hlast⟩ hjoined
      · rfl
    rw [hpush, pushText_push_text, hpush]

/-- Two texts in a row have the effect of one, wherever their text goes. -/
theorem text_text (s s' : String) : (l.text s).text s' = l.text (s ++ s') := by
  have hpush : ∀ s, (l.pushText s).codeBlock = l.codeBlock ∧ (l.pushText s).image = l.image := by
    intro s
    unfold pushText
    split <;> exact ⟨rfl, rfl⟩
  cases hcode : l.codeBlock with
  | some code => simp only [text, hcode, String.append_assoc]
  | none =>
      cases himage : l.image with
      | some image => simp only [text, hcode, himage, String.append_assoc]
      | none =>
          simp only [text, hcode, himage, hpush]
          exact l.pushText_pushText s s'

/-- So have any number of texts. -/
theorem foldl_texts (first : String) (rest : List String) :
    ((first :: rest).map Event.text).foldl step l = l.text (String.join (first :: rest)) := by
  induction rest generalizing first l with
  | nil => simp [step]
  | cons second rest ih =>
      have hrest := ih (l.text first) second
      rw [List.map_cons, List.foldl_cons, step, hrest, text_text, String.join_cons,
        String.join_cons, String.join_cons]

theorem foldl_cut {events events' : List Event} (h : Event.Cut events events') :
    events.foldl step l = events'.foldl step l := by
  cases h with
  | pieces before first rest after =>
      rw [List.foldl_append, List.foldl_cons, List.foldl_append, List.foldl_append, foldl_texts]
      rfl

/-- However the texts of some events are cut, the lexer is in the same state behind them. -/
theorem foldl_recut {events events' : List Event} (h : Event.Recut events events') :
    events.foldl step l = events'.foldl step l := by
  induction h with
  | rel events events' hcut => exact l.foldl_cut hcut
  | refl events => rfl
  | symm events events' _ ih => exact ih.symm
  | trans events middle events' _ _ ih ih' => exact ih.trans ih'

end Lexer

/-! ### Slides -/

/-- The tokens of a text, read by some parser. -/
def tokenizeBy (parse : String → List Event) (text : String) : List Token :=
  tokensOfEvents (parse text)

/-- Adds the text of a comment to the notes of the slide, where a parser reads the comment. -/
def Draft.addNotesBy (parse : String → List Event) (d : Draft) (body : String) : Logged Draft := do
  let notes := Text.trimString (← notesOfTokens (tokenizeBy parse body))
  if notes.isEmpty then return d
  else return { d with slide := d.slide.appendNotes notes }

/-- The slides of a document, where a parser reads the document and the comments in it. -/
def compileBy (parse : String → List Event) (markdown : String) : Logged (List Slide) := do
  let d ← (Draft.empty .document).run (Draft.addNotesBy parse) (tokenizeBy parse markdown)
  return (← d.closeSlide).slides

theorem compileBy_events : compileBy Markdown.events = compile := rfl

/-- **Tokens do not depend on how text is cut into events**, and neither do the slides of a
document, whichever two parsers read it that differ in their cuts. -/
theorem tokensOfEvents_recut :
    (∀ events events' : List Event, Event.Recut events events' →
      tokensOfEvents events = tokensOfEvents events') ∧
    ∀ parse parse' : String → List Event, (∀ text, Event.Recut (parse text) (parse' text)) →
      ∀ markdown, compileBy parse markdown = compileBy parse' markdown := by
  have htokens : ∀ events events' : List Event, Event.Recut events events' →
      tokensOfEvents events = tokensOfEvents events' := by
    intro events events' h
    unfold tokensOfEvents
    rw [Lexer.empty.foldl_recut h]
  refine ⟨htokens, fun parse parse' h markdown => ?_⟩
  have hlexers : tokenizeBy parse = tokenizeBy parse' := by
    funext text
    exact htokens _ _ (h text)
  unfold compileBy Draft.addNotesBy
  rw [hlexers]

/-- A heading, a paragraph with attributes under its text, code and an image, with a cut in an
emoji, in the attributes, in the code and in the description. -/
def cutEvents : List Event :=
  Event.within (.heading 1 .empty "# a") [.text "a"] ++
  Event.within .paragraph
    [.text "b :ta", .text "da:", .softBreak, .text "\x7b.b", .text "", .text "ig\x7d"] ++
  Event.within (.codeBlock "") [.text "c", .text "d\n"] ++
  Event.within .paragraph (Event.within (.image "u") [.text "e", .text "f"])

/-- The same without the cuts. -/
def uncutEvents : List Event :=
  Event.within (.heading 1 .empty "# a") [.text "a"] ++
  Event.within .paragraph [.text "b :tada:", .softBreak, .text "\x7b.big\x7d"] ++
  Event.within (.codeBlock "") [.text "cd\n"] ++
  Event.within .paragraph (Event.within (.image "u") [.text "ef"])

theorem tokensOfEvents_cutEvents :
    Event.Recut cutEvents uncutEvents ∧
      tokensOfEvents cutEvents = tokensOfEvents uncutEvents ∧
      tokensOfEvents uncutEvents =
        [.headingOpen 1 .empty, .text "a", .headingClose 1,
         .paragraphOpen ⟨none, ["big"], []⟩, .text "b ", .emoji "tada" "🎉", .paragraphClose,
         .fencedCode "" "cd\n", .paragraphOpen .empty, .image "u" "ef", .paragraphClose] ∧
      ∀ markdown, compileBy Markdown.events markdown =
        compileBy (fun text => Event.merged (Markdown.events text)) markdown := by
  have hcuts : Event.Recut cutEvents uncutEvents := by decide +kernel
  refine ⟨hcuts, tokensOfEvents_recut.1 _ _ hcuts, by decide +kernel, ?_⟩
  exact tokensOfEvents_recut.2 _ _ fun text => Event.recut_merged (Markdown.events text)

end SlideDeck

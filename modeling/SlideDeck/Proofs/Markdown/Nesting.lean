/-
Events that are well nested.

A parser of documents gives an event where something begins and one where it ends.  A thing that
begins is open until it ends, and what ends is always the innermost thing that is open.  Prose,
which is paragraphs and headings, never stands within prose, so at most one of them is open at a
time.  This is all that is asked of a parser here, and both can be decided.
-/
import Mathlib.Data.List.Infix
import SlideDeck.Markdown.Event

namespace SlideDeck.Markdown

/-- The tags that are open after an event, innermost first, or nothing if something ends that is not
the innermost one. -/
def Event.tags? (tags : List Tag) : Event → Option (List Tag)
  | .start tag => some (tag :: tags)
  | .stop e =>
    match tags with
    | [] => none
    | tag :: outer => if tag.toEnd = e then some outer else none
  | _ => some tags

/-- The tags that are open after some events. -/
def openTags? (tags : List Tag) (events : List Event) : Option (List Tag) :=
  events.foldlM Event.tags? tags

/-- Whatever ends is the innermost thing that is open, and nothing is left open. -/
def WellNested (events : List Event) : Prop := openTags? [] events = some []

instance : DecidablePred WellNested := fun _ => inferInstanceAs (Decidable (_ = _))

/-- Whether a tag is that of prose. -/
def Tag.isProse : Tag → Bool
  | .paragraph | .heading _ _ _ => true
  | _ => false

/-- At no moment two paragraphs or headings are open. -/
def ProseApart (events : List Event) : Prop :=
  ∀ before ∈ events.inits, ∀ tags ∈ openTags? [] before, tags.countP Tag.isProse ≤ 1

instance : DecidablePred ProseApart := fun _ => inferInstanceAs (Decidable (∀ _ ∈ _, _))

theorem openTags?_cons (tags : List Tag) (e : Event) (events : List Event) :
    openTags? tags (e :: events) = (e.tags? tags).bind fun tags => openTags? tags events :=
  List.foldlM_cons

theorem openTags?_append (tags : List Tag) (first rest : List Event) :
    openTags? tags (first ++ rest) =
      (openTags? tags first).bind fun tags => openTags? tags rest :=
  List.foldlM_append

/-- What ends is the innermost thing that is open. -/
theorem tags?_stop_eq_some {tags outer : List Tag} {e : TagEnd}
    (h : (Event.stop e).tags? tags = some outer) : ∃ tag, tags = tag :: outer ∧ tag.toEnd = e := by
  cases tags with
  | nil => cases h
  | cons tag tags =>
      simp only [Event.tags?] at h
      split at h
      · rename_i hend
        exact ⟨tag, by rw [Option.some.inj h], hend⟩
      · cases h

end SlideDeck.Markdown

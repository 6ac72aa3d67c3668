/-
Planning the creation of slides.

Every slide is given a layout of the deck and an id of its own.  If a slide cannot be planned
the whole plan fails; the slides before it keep their ids.
-/
import SlideDeck.Deck.Presentation
import SlideDeck.Layout
import SlideDeck.Plan.Basic
import SlideDeck.Request

namespace SlideDeck.Plan

/-- The id of the layout for a slide among the named layouts of a deck.  A layout that the
author asks for must be there. -/
def layoutId? (layouts : List (String × String)) (s : Slide) : Except Failure String :=
  let available := layouts.map (·.1)
  match s.customLayout.filter fun custom => !available.contains custom with
  | some custom => .error (.layoutNotFound custom available)
  | none =>
    let name := Layout.choose available s
    match layouts.find? (·.1 == name) with
    | some (_, id) => .ok id
    | none => .error (.layoutNotFound name available)

/-- Plans the creation of one slide: the request, and the slide with its id. -/
def createSlide (ids : IdSource σ) (layouts : List (String × String)) (s : Slide) :
    Plan σ (CreateSlide × Slide) :=
  match layoutId? layouts s with
  | .error e => fail e
  | .ok layoutId => do
    let objectId ← nextId ids
    return (⟨objectId, none, layoutId⟩, { s with objectId := some objectId })

/-- What the creation of some slides comes to: the requests, or why there are none, and the
slides with the ids that they were given. -/
structure Creation where
  requests : Except Failure (List CreateSlide)
  slides : List Slide

/-- Plans the creation of some slides one by one, up to the first failure. -/
def createSlides (ids : IdSource σ) (layouts : List (String × String)) :
    List Slide → σ → Creation × σ
  | [], state => (⟨.ok [], []⟩, state)
  | s :: rest, state =>
    match createSlide ids layouts s state with
    | (⟨.error e, _⟩, state) => (⟨.error e, s :: rest⟩, state)
    | (⟨.ok (request, s), _⟩, state) =>
      let (c, state) := createSlides ids layouts rest state
      (⟨c.requests.map (request :: ·), s :: c.slides⟩, state)

/-- The requests that delete the slides of a deck. -/
def eraseRequests (deck : Presentation) : List Request :=
  deck.slideIds.map fun id => .deleteObject ⟨id⟩

/-- Plans the creation of some slides in a deck, after the deletion of those that are there if
that is asked for.  Gives the batch and the slides with their ids, and the state of the
source of ids. -/
def planCreation (ids : IdSource σ) (erase : Bool) (deck : Presentation) (slides : List Slide)
    (state : σ) : Logged Batch × List Slide × σ :=
  let (c, state) := createSlides ids deck.layoutIds slides state
  let batch : Logged Batch :=
    match c.requests with
    | .error e => Logged.fail e
    | .ok requests => do
      Logged.notice (.creationPlanned slides.length deck.presentationId)
      return ⟨(if erase then eraseRequests deck else []) ++ requests.map .createSlide⟩
  (batch, c.slides, state)

end SlideDeck.Plan

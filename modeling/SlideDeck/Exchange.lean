/-
The whole work on JSON values.

A host that has its own way to the server hands in documents and decks and gets back slides
and batches, all as JSON.
-/
import SlideDeck.Draft.Compile
import SlideDeck.Plan.Creation
import SlideDeck.Plan.Population

namespace SlideDeck.Exchange

/-- What was read, or the failure that it could not be read. -/
def require : Option α → Logged α
  | some a => return a
  | none => Logged.fail .json

/-- The slides of a document. -/
def compile (markdown : String) : Logged Json := do
  return Slide.listToJson (← SlideDeck.compile markdown)

/-- Compiles a document and plans the creation of its slides in a deck.  The slides are given
back with their ids, for the population later on. -/
def planCreation (ids : IdSource σ) (state : σ) (erase : Bool) (markdown : String)
    (deck : Option Json) : Logged Json := do
  let deck ← require (deck.bind Presentation.ofJson?)
  let slides ← SlideDeck.compile markdown
  let (batch, slides, _) := Plan.planCreation ids erase deck slides state
  return .object [("slides", Slide.listToJson slides), ("batch", (← batch).toJson)]

/-- Plans what goes onto the slides that were created in a deck. -/
def planPopulation (ids : IdSource σ) (state : σ) (slides deck : Option Json) : Logged Json := do
  let deck ← require (deck.bind Presentation.ofJson?)
  let slides ← require (slides.bind Slide.listOfJson?)
  return (← (Plan.planPopulation ids deck slides state).1).toJson

end SlideDeck.Exchange

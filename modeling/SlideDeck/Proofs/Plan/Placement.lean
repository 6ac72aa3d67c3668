/-
What is put onto a slide, and where.

The title goes into the first placeholder for titles, the subtitle into the first one for subtitles,
and the bodies into those for bodies, one by one.  Blocks and elements are paired in their order, so
a body that makes no requests uses up its element all the same, and bodies without an element are
left out at the end.  Tables and images are made with the ids that the source hands out for them.
-/
import SlideDeck.Proofs.Deck.Reading
import SlideDeck.Proofs.Plan.Population

namespace SlideDeck.Plan

variable {σ : Type} {ids : IdSource σ} {deck : Presentation} {slideId : String} {state state' : σ}
  {rs : List Request}

/-! ### Requests for the parts of a slide -/

end SlideDeck.Plan

/-
Planning with a source of ids.

A plan asks a source for ids, gives notices and may fail.  The source goes on from where it
is even after a failure, so that no id is ever handed out twice.
-/
import SlideDeck.Logged
import SlideDeck.ObjectId

namespace SlideDeck

/-- A plan: from the state of the source of ids, the outcome with its notices and the state
after it. -/
def Plan (σ α : Type) : Type := σ → Logged α × σ

namespace Plan

/-- The plan that does nothing. -/
protected def pure (a : α) : Plan σ α := fun s => (pure a, s)

/-- One plan after another; a failure keeps the notices and the state of the source. -/
protected def bind (x : Plan σ α) (f : α → Plan σ β) : Plan σ β := fun s =>
  match x s with
  | (⟨.error e, notices⟩, s) => (⟨.error e, notices⟩, s)
  | (⟨.ok a, notices⟩, s) =>
    let (y, s) := f a s
    (⟨y.outcome, notices ++ y.notices⟩, s)

instance : Monad (Plan σ) where
  pure := Plan.pure
  bind := Plan.bind

/-- Stops the plan. -/
def fail (e : Failure) : Plan σ α := fun s => (Logged.fail e, s)

/-- Gives a notice. -/
def notice (n : Notice) : Plan σ Unit := fun s => (Logged.notice n, s)

/-- Asks a source for its next id. -/
def nextId (ids : IdSource σ) : Plan σ String := fun s =>
  let (id, s) := ids.next s
  (⟨id, []⟩, s)

/-- Joins the lists that a plan makes of the members of a list. -/
def collect (f : α → Plan σ (List β)) : List α → Plan σ (List β)
  | [] => pure []
  | a :: as => do
    let first ← f a
    let rest ← collect f as
    return first ++ rest

end Plan

end SlideDeck

/-
Work that may fail and gives notices.

A piece of work ends with a value or a failure, and in either case with the notices it gave
on the way.  The notices never influence the outcome, so the outcome of a sequence of steps
is the sequence of their outcomes, which the lemmas here say.
-/
import SlideDeck.Failure

namespace SlideDeck

/-- The outcome of some work and the notices it gave. -/
structure Logged (α : Type) where
  outcome : Except Failure α
  notices : List Notice

namespace Logged

/-- Work that does nothing. -/
protected def pure (a : α) : Logged α := ⟨.ok a, []⟩

/-- One piece of work after another; a failure keeps the notices given before it. -/
protected def bind (x : Logged α) (f : α → Logged β) : Logged β :=
  match x.outcome with
  | .error e => ⟨.error e, x.notices⟩
  | .ok a => ⟨(f a).outcome, x.notices ++ (f a).notices⟩

instance : Monad Logged where
  pure := Logged.pure
  bind := Logged.bind

/-- Stops the work. -/
def fail (e : Failure) : Logged α := ⟨.error e, []⟩

/-- Gives a notice. -/
def notice (n : Notice) : Logged Unit := ⟨.ok (), [n]⟩

@[simp] theorem outcome_pure (a : α) : (pure a : Logged α).outcome = .ok a := rfl

@[simp] theorem outcome_bind (x : Logged α) (f : α → Logged β) :
    (x >>= f).outcome = x.outcome.bind fun a => (f a).outcome := by
  show (Logged.bind x f).outcome = _
  unfold Logged.bind
  cases x.outcome <;> rfl

@[simp] theorem outcome_fail (e : Failure) : (fail e : Logged α).outcome = .error e := rfl

@[simp] theorem outcome_notice (n : Notice) : (notice n).outcome = .ok () := rfl

end Logged

end SlideDeck

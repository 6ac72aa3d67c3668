/-
Work in sequence.

Work that gives notices obeys the laws of a monad, notices included, so a run over a list may
be cut anywhere.  A sequence ends well exactly when its first part does and the rest does with
what the first part gave.
-/
import SlideDeck.Logged

namespace SlideDeck.Logged

variable {α β : Type}

/-- Two pieces of work are the same if they end the same and give the same notices. -/
theorem ext {x y : Logged α} (houtcome : x.outcome = y.outcome) (hnotices : x.notices = y.notices) :
    x = y := by
  cases x
  cases y
  simp_all

theorem bind_eq (x : Logged α) (f : α → Logged β) :
    x >>= f = match x.outcome with
      | .error e => ⟨.error e, x.notices⟩
      | .ok a => ⟨(f a).outcome, x.notices ++ (f a).notices⟩ := rfl

theorem bind_pure (x : Logged α) : x >>= pure = x := by
  obtain ⟨outcome, notices⟩ := x
  cases outcome with
  | error e => rfl
  | ok a => exact ext rfl (List.append_nil notices)

theorem pure_bind (a : α) (f : α → Logged β) : pure a >>= f = f a :=
  ext rfl (List.nil_append _)

theorem bind_assoc {γ : Type} (x : Logged α) (f : α → Logged β) (g : β → Logged γ) :
    x >>= f >>= g = x >>= fun a => f a >>= g := by
  obtain ⟨outcome, notices⟩ := x
  cases outcome with
  | error e => rfl
  | ok a =>
      simp only [bind_eq]
      cases (f a).outcome with
      | error e => rfl
      | ok b => exact ext rfl (List.append_assoc ..)

instance : LawfulMonad Logged := LawfulMonad.mk' Logged bind_pure pure_bind bind_assoc

/-- Only what a piece of work can give matters to what comes after it. -/
theorem bind_congr_of_ok {x : Logged α} {f g : α → Logged β}
    (h : ∀ a, x.outcome = .ok a → f a = g a) : x >>= f = x >>= g := by
  rw [bind_eq, bind_eq]
  split
  · rfl
  · rename_i a ha
    rw [h a ha]

/-- A sequence ends well exactly when both of its parts do. -/
theorem bind_ok_iff {x : Logged α} {f : α → Logged β} {b : β} :
    (x >>= f).outcome = .ok b ↔ ∃ a, x.outcome = .ok a ∧ (f a).outcome = .ok b := by
  rw [outcome_bind]
  cases x.outcome with
  | error e => simp [Except.bind]
  | ok a => simp [Except.bind]

theorem pure_ok_iff {a b : α} : (pure a : Logged α).outcome = .ok b ↔ a = b := by simp

end SlideDeck.Logged

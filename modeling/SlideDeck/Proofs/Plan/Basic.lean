/-
What a plan gives, and the ids that it is given.

A source goes on from state to state whether or not it can give an id, so the ids that a plan may
be given are numbered from the state in which it begins.  A plan gives a value exactly when its
parts do, one after the other from the state in which the one before it ends.
-/
import Std.Data.String.ToNat
import SlideDeck.Plan.Basic

namespace SlideDeck

/-! ### Ids -/

namespace IdSource

variable {σ : Type} (ids : IdSource σ)

/-- The state of a source after some requests for an id. -/
def after (state : σ) : Nat → σ
  | 0 => state
  | n + 1 => after (ids.next state).2 n

/-- What the source answers when it is asked for an id, from zero on. -/
def nth (state : σ) (n : Nat) : Except Failure String := (ids.next (ids.after state n)).1

/-- A source hands out some ids, one for each request, and is in a given state afterwards. -/
def Hands (state : σ) (handed : List String) (state' : σ) : Prop :=
  state' = ids.after state handed.length ∧
    ∀ (n : Nat) (id : String), handed[n]? = some id → ids.nth state n = .ok id

/-- No two requests for an id are answered by the same one. -/
def Distinct (state : σ) : Prop :=
  ∀ (m n : Nat) (id : String), ids.nth state m = .ok id → ids.nth state n = .ok id → m = n

variable {ids} {state state₁ state₂ : σ} {handed handed' : List String}

theorem after_succ (state : σ) (n : Nat) :
    ids.after state (n + 1) = ids.after (ids.next state).2 n := rfl

theorem nth_succ (state : σ) (n : Nat) :
    ids.nth state (n + 1) = ids.nth (ids.next state).2 n := rfl

theorem after_add (state : σ) (m n : Nat) :
    ids.after state (m + n) = ids.after (ids.after state m) n := by
  induction m generalizing state with
  | zero => rw [Nat.zero_add]; rfl
  | succ m ih => rw [Nat.succ_add]; exact ih _

theorem nth_add (state : σ) (m n : Nat) :
    ids.nth state (m + n) = ids.nth (ids.after state m) n := by
  rw [nth, after_add, nth]

theorem hands_nil (state : σ) : ids.Hands state [] state :=
  ⟨rfl, fun _ _ h => by cases h⟩

theorem Hands.append (h : ids.Hands state handed state₁) (h' : ids.Hands state₁ handed' state₂) :
    ids.Hands state (handed ++ handed') state₂ := by
  obtain ⟨rfl, hids⟩ := h
  obtain ⟨rfl, hids'⟩ := h'
  refine ⟨?_, fun n id hn => ?_⟩
  · rw [List.length_append, after_add]
  · rcases Nat.lt_or_ge n handed.length with hlt | hge
    · rw [List.getElem?_append_left hlt] at hn
      exact hids n id hn
    · obtain ⟨k, rfl⟩ := Nat.exists_eq_add_of_le hge
      rw [List.getElem?_append_right hge, Nat.add_sub_cancel_left] at hn
      rw [nth_add]
      exact hids' k id hn

/-- What was handed out was asked for. -/
theorem Hands.exists_nth (h : ids.Hands state handed state₁) {id : String} (hid : id ∈ handed) :
    ∃ n, ids.nth state n = .ok id := by
  obtain ⟨n, hn⟩ := List.mem_iff_getElem?.mp hid
  exact ⟨n, h.2 n id hn⟩

theorem Hands.nodup (h : ids.Hands state handed state₁) (hids : ids.Distinct state) :
    handed.Nodup := by
  refine List.pairwise_iff_getElem.mpr fun i j hi hj hlt heq => ?_
  have hij := hids i j handed[j] (heq ▸ h.2 i _ (List.getElem?_eq_getElem hi))
    (h.2 j _ (List.getElem?_eq_getElem hj))
  omega

/-- Numbered ids go on from their number. -/
theorem nth_numbered (stem : String) (first n : Nat) :
    (numbered stem).nth first n = .ok (stem ++ toString (first + n)) := by
  induction n generalizing first with
  | zero => rfl
  | succ n ih =>
      rw [nth_succ, Nat.add_comm n, ← Nat.add_assoc]
      exact ih (first + 1)

theorem distinct_numbered (stem : String) (first : Nat) : (numbered stem).Distinct first := by
  intro m n id hm hn
  rw [nth_numbered] at hm hn
  have heq : stem ++ toString (first + m) = stem ++ toString (first + n) :=
    Except.ok.inj (hm.trans hn.symm)
  have hnumber := Nat.repr_inj.mp ((String.append_right_inj stem).mp heq)
  omega

/-- A source has an id for each of the next requests. -/
def Serves (ids : IdSource σ) (state : σ) (n : Nat) : Prop := ∀ k < n, ∃ id, ids.nth state k = .ok id

/-- One of the next requests is the first to fail. -/
def FailsWithin (ids : IdSource σ) (state : σ) (n : Nat) (e : Failure) : Prop :=
  ∃ k < n, ids.Serves state k ∧ ids.nth state k = .error e

theorem serves_zero (state : σ) : ids.Serves state 0 := by
  intro k hk
  omega

theorem serves_add_iff {m n : Nat} :
    ids.Serves state (m + n) ↔ ids.Serves state m ∧ ids.Serves (ids.after state m) n := by
  constructor
  · intro h
    constructor
    · intro k hk
      exact h k (by omega)
    · intro k hk
      rw [← nth_add]
      exact h (m + k) (by omega)
  · rintro ⟨hm, hn⟩ k hk
    by_cases hlt : k < m
    · exact hm k hlt
    · obtain ⟨j, rfl⟩ := Nat.exists_eq_add_of_le (Nat.le_of_not_lt hlt)
      rw [nth_add]
      exact hn j (by omega)

/-- The next requests are served, or one of them is the first to fail. -/
theorem serves_or_failsWithin (ids : IdSource σ) (state : σ) (n : Nat) :
    ids.Serves state n ∨ ∃ e, ids.FailsWithin state n e := by
  induction n with
  | zero => exact .inl (serves_zero state)
  | succ n ih =>
      rcases ih with hserves | ⟨e, k, hk, hbefore, he⟩
      · cases hnext : ids.nth state n with
        | error e => exact .inr ⟨e, n, Nat.lt_succ_self n, hserves, hnext⟩
        | ok id =>
            left
            intro k hk
            by_cases hlt : k < n
            · exact hserves k hlt
            · obtain rfl : k = n := by omega
              exact ⟨id, hnext⟩
      · exact .inr ⟨e, k, Nat.lt_succ_of_lt hk, hbefore, he⟩

theorem Serves.ne_error {n k : Nat} {e : Failure} (h : ids.Serves state n) (hk : k < n) :
    ids.nth state k ≠ .error e := by
  intro he
  obtain ⟨id, hid⟩ := h k hk
  rw [he] at hid
  cases hid

/-- A failure comes from the first part of the requests, or the first part is served. -/
theorem FailsWithin.split {m n : Nat} {e : Failure} (h : ids.FailsWithin state (m + n) e) :
    ids.FailsWithin state m e ∨
      (ids.Serves state m ∧ ids.FailsWithin (ids.after state m) n e) := by
  obtain ⟨k, hk, hbefore, he⟩ := h
  by_cases hlt : k < m
  · exact .inl ⟨k, hlt, hbefore, he⟩
  · right
    obtain ⟨j, rfl⟩ := Nat.exists_eq_add_of_le (Nat.le_of_not_lt hlt)
    obtain ⟨hm, hj⟩ := serves_add_iff.mp hbefore
    rw [nth_add] at he
    exact ⟨hm, j, by omega, hj, he⟩

end IdSource

/-! ### Plans -/

namespace Plan

variable {σ α β : Type} {state state' : σ}

/-- A plan gives a value, and the source of ids is in a given state afterwards. -/
def Gives (x : Plan σ α) (state : σ) (a : α) (state' : σ) : Prop :=
  (x state).1.outcome = .ok a ∧ (x state).2 = state'

theorem gives_pure_iff {a b : α} :
    (pure a : Plan σ α).Gives state b state' ↔ a = b ∧ state = state' := by
  show Except.ok a = Except.ok b ∧ state = state' ↔ _
  rw [Except.ok.injEq]

theorem gives_bind_iff {x : Plan σ α} {f : α → Plan σ β} {b : β} :
    (x >>= f).Gives state b state' ↔
      ∃ a state₁, x.Gives state a state₁ ∧ (f a).Gives state₁ b state' := by
  show (Plan.bind x f state).1.outcome = .ok b ∧ (Plan.bind x f state).2 = state' ↔ _
  unfold Plan.bind Gives
  rcases x state with ⟨⟨e | a, notices⟩, state₁⟩
  · simp
  · simp only [Except.ok.injEq]
    constructor
    · exact fun h => ⟨a, state₁, ⟨rfl, rfl⟩, h⟩
    · rintro ⟨_, _, ⟨rfl, rfl⟩, h⟩
      exact h

theorem not_gives_fail {e : Failure} {a : α} : ¬(fail e : Plan σ α).Gives state a state' :=
  fun h => nomatch h.1

theorem gives_notice_iff {n : Notice} {u : Unit} :
    (notice n : Plan σ Unit).Gives state u state' ↔ state = state' :=
  ⟨fun h => h.2, fun h => ⟨rfl, h⟩⟩

/-- A notice makes no difference to what comes after it. -/
theorem gives_notice_bind_iff {n : Notice} {x : Plan σ α} {a : α} :
    (notice n >>= fun _ => x).Gives state a state' ↔ x.Gives state a state' := by
  rw [gives_bind_iff]
  constructor
  · rintro ⟨_, state₁, hnotice, h⟩
    rwa [gives_notice_iff.mp hnotice]
  · intro h
    exact ⟨(), state, gives_notice_iff.mpr rfl, h⟩

/-- A plan stops with a failure. -/
def Fails (x : Plan σ α) (state : σ) (e : Failure) : Prop := (x state).1.outcome = .error e

/-- A plan does not both give a value and fail, and fails in one way. -/
theorem Fails.not_gives {x : Plan σ α} {e : Failure} {a : α} (h : x.Fails state e) :
    ¬x.Gives state a state' := by
  intro hgives
  have heq := h.symm.trans hgives.1
  cases heq

theorem Fails.unique {x : Plan σ α} {e e' : Failure} (h : x.Fails state e) (h' : x.Fails state e') :
    e = e' := Except.error.inj (h.symm.trans h')

/-- A sequence fails with its first part, or with its second part after what the first gave. -/
theorem fails_bind_iff {x : Plan σ α} {f : α → Plan σ β} {e : Failure} :
    (x >>= f).Fails state e ↔
      x.Fails state e ∨ ∃ a state₁, x.Gives state a state₁ ∧ (f a).Fails state₁ e := by
  show (Plan.bind x f state).1.outcome = .error e ↔ _
  unfold Plan.bind Fails Gives
  rcases x state with ⟨⟨e' | a, notices⟩, state₁⟩
  · simp
  · constructor
    · intro h
      exact .inr ⟨a, state₁, ⟨rfl, rfl⟩, h⟩
    · rintro (h | ⟨_, _, ⟨ha, rfl⟩, h⟩)
      · cases h
      · cases ha
        exact h

theorem gives_nextId_iff {ids : IdSource σ} {id : String} :
    (nextId ids).Gives state id state' ↔ ids.next state = (.ok id, state') := by
  show (ids.next state).1 = .ok id ∧ (ids.next state).2 = state' ↔ _
  rw [Prod.ext_iff]

/-- The id that a plan is given is one that the source hands out. -/
theorem hands_of_gives_nextId {ids : IdSource σ} {id : String}
    (h : (nextId ids).Gives state id state') : ids.Hands state [id] state' := by
  have hnext := gives_nextId_iff.mp h
  refine ⟨(congrArg Prod.snd hnext).symm, fun n id' hn => ?_⟩
  cases n with
  | zero =>
      obtain rfl : id = id' := Option.some.inj hn
      exact congrArg Prod.fst hnext
  | succ n => cases hn

end Plan

end SlideDeck

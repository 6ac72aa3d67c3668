/-
Looking for one text in another.

The first place where a mark stands splits a text into what is before the mark and what is
after it.  Nothing is lost: the two parts with the mark between them are the text again.
-/

namespace SlideDeck.Text

/-- The rest of `s` after `lead`, when `s` begins with `lead`. -/
def dropLead? [BEq α] : (lead s : List α) → Option (List α)
  | [], s => some s
  | _ :: _, [] => none
  | a :: lead, b :: s => if a == b then dropLead? lead s else none

/-- Whether `s` begins with `lead`. -/
def startsWith (lead s : List Char) : Bool := (dropLead? lead s).isSome

/-- The text before the first place where `mark` stands, and the text after it. -/
def splitAt? (mark : List Char) : List Char → Option (List Char × List Char)
  | [] => if mark.isEmpty then some ([], []) else none
  | c :: s =>
    match dropLead? mark (c :: s) with
    | some rest => some ([], rest)
    | none => (splitAt? mark s).map fun (before, after) => (c :: before, after)

/-- Whether `mark` stands somewhere in the text. -/
def contains (mark s : List Char) : Bool := (splitAt? mark s).isSome

theorem dropLead?_eq_some {lead s rest : List Char} (h : dropLead? lead s = some rest) :
    s = lead ++ rest := by
  induction lead generalizing s with
  | nil => simpa [dropLead?] using h
  | cons a lead ih =>
    cases s with
    | nil => simp [dropLead?] at h
    | cons b s =>
      simp only [dropLead?] at h
      split at h
      · rename_i hab
        rw [eq_of_beq hab, ih h, List.cons_append]
      · cases h

theorem splitAt?_eq_some {mark s before after : List Char}
    (h : splitAt? mark s = some (before, after)) : s = before ++ (mark ++ after) := by
  induction s generalizing before with
  | nil =>
    simp only [splitAt?] at h
    split at h
    · rename_i hmark
      cases h
      simpa using hmark
    · cases h
  | cons c s ih =>
    simp only [splitAt?] at h
    split at h
    · rename_i rest hrest
      cases h
      rw [List.nil_append]
      exact dropLead?_eq_some hrest
    · obtain ⟨⟨b, a⟩, hsplit, heq⟩ := Option.map_eq_some_iff.mp h
      cases heq
      rw [ih hsplit, List.cons_append]

/-- What follows a mark is shorter than the text, unless the mark is empty. -/
theorem length_lt_of_splitAt? {mark s before after : List Char} (hmark : mark ≠ [])
    (h : splitAt? mark s = some (before, after)) : after.length < s.length := by
  rw [splitAt?_eq_some h]
  have := List.length_pos_iff.mpr hmark
  simp only [List.length_append]
  omega

end SlideDeck.Text

/-
Comments in raw HTML, which carry speaker notes.

A fragment that begins with a comment is read as a row of comments.  A comment ends at the
first closing mark after its opening mark, so comments do not nest.  What stands between
them is left out with a notice; an opening mark that is never closed is a failure.
-/
import SlideDeck.Logged
import SlideDeck.Text.Blank
import SlideDeck.Text.Search

namespace SlideDeck.Html

open SlideDeck.Text

/-- What opens a comment. -/
def commentOpening : List Char := "<!--".toList

/-- What closes a comment. -/
def commentClosing : List Char := "-->".toList

/-- A comment with the text that stands before it. -/
structure Comment where
  before : List Char
  body : List Char
deriving Repr, DecidableEq

/-- The first comment of a text, with what follows it. -/
def nextComment? (s : List Char) : Option (Comment × List Char) :=
  match splitAt? commentOpening s with
  | none => none
  | some (before, inside) =>
    (splitAt? commentClosing inside).map fun (body, after) => (⟨before, body⟩, after)

theorem length_lt_of_nextComment? {s after : List Char} {c : Comment}
    (h : nextComment? s = some (c, after)) : after.length < s.length := by
  unfold nextComment? at h
  split at h
  · cases h
  · rename_i before inside hopen
    obtain ⟨⟨body, rest⟩, hclose, heq⟩ := Option.map_eq_some_iff.mp h
    cases heq
    have h₁ := length_lt_of_splitAt? (by decide) hopen
    have h₂ := length_lt_of_splitAt? (by decide) hclose
    omega

/-- The comments of a text, with what follows the last one. -/
def splitComments (s : List Char) : List Comment × List Char :=
  match _h : nextComment? s with
  | none => ([], s)
  | some (c, after) =>
    let (cs, rest) := splitComments after
    (c :: cs, rest)
termination_by s.length
decreasing_by exact length_lt_of_nextComment? _h

/-- Gives a notice of text outside comments, unless it is blank. -/
def noticeText (about : String → Notice) (s : List Char) : Logged Unit :=
  if (trim s).isEmpty then pure () else Logged.notice (about (String.ofList (trim s)))

/-- The bodies of the comments that a fragment is a row of; none if it does not begin with a
comment. -/
def commentBodies (html : String) : Logged (Option (List String)) := do
  let s := trim html.toList
  if startsWith commentOpening s then
    let (comments, rest) := splitComments s
    comments.forM fun c => noticeText .htmlBetweenComments c.before
    if contains commentOpening rest then
      Logged.fail (.malformedComment (String.ofList s))
    noticeText .htmlAfterComment rest
    return some (comments.map fun c => String.ofList c.body)
  else
    return none

end SlideDeck.Html

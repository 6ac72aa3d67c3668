/-
The two kinds of list.
-/

namespace SlideDeck

/-- Whether the items of a list are numbered. -/
inductive ListKind where
  | ordered
  | unordered
deriving Repr, DecidableEq, Inhabited

end SlideDeck

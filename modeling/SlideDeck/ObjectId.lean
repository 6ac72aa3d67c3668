/-
Object ids for what a batch creates.

The server takes ids of five to fifty characters.  A source of ids hands them out one after
the other; it may fail, and it goes on from where it is even then.
-/
import SlideDeck.Failure

namespace SlideDeck

/-- A source of ids: its next id, or why there is none, and the source after that. -/
structure IdSource (σ : Type) where
  next : σ → Except Failure String × σ

/-- Ids whose text does not matter: a stem with a number after it, and no bound on the length. -/
def IdSource.numbered (stem : String) : IdSource Nat where
  next n := (.ok (stem ++ toString n), n + 1)

/-- The least length of an id. -/
def minIdLength : Nat := 5

/-- The greatest length of an id. -/
def maxIdLength : Nat := 50

/-- Ids that are a prefix with a number, counting up from zero. -/
structure SequentialIds where
  stem : String
  count : Nat
deriving Repr, DecidableEq

namespace SequentialIds

/-- The ids with a prefix from the first one on. -/
def ofStem (stem : String) : SequentialIds := ⟨stem, 0⟩

/-- The prefix of ids that are given none. -/
def defaultStem : String := "obj"

/-- A numeral with zeros in front of it up to a width. -/
def paddedNumeral (width n : Nat) : String :=
  let digits := Nat.toDigits 10 n
  String.ofList (List.replicate (width - digits.length) '0' ++ digits)

/-- How many digits the number has at least: three, or as many as the least length of an id
needs. -/
def width (ids : SequentialIds) : Nat := max (minIdLength - (ids.stem.utf8ByteSize + 1)) 3

/-- The id that comes next, whatever its length. -/
def candidate (ids : SequentialIds) : String :=
  ids.stem ++ "_" ++ paddedNumeral ids.width ids.count

/-- The next id, unless it is too long; the number is used up either way. -/
def next (ids : SequentialIds) : Except Failure String × SequentialIds :=
  let id := ids.candidate
  (if maxIdLength < id.utf8ByteSize then .error (.idTooLong id maxIdLength) else .ok id,
    { ids with count := ids.count + 1 })

/-- Sequential ids as a source. -/
def source : IdSource SequentialIds := ⟨next⟩

end SequentialIds

end SlideDeck

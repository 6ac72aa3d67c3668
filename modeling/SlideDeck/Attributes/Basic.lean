/-
Attributes that the author attaches to a heading or a paragraph.

They are written in braces: classes, an id, and keys with values.  The pairs keep the order
in which their keys first appeared, and a key that is written again takes the later value
where it stands.
-/

namespace SlideDeck

/-- The attributes of a block. -/
structure Attributes where
  id : Option String
  classes : List String
  pairs : List (String × String)
deriving Repr, DecidableEq

namespace Attributes

/-- No attributes. -/
def empty : Attributes := ⟨none, [], []⟩

instance : Inhabited Attributes := ⟨empty⟩

/-- Whether a class is among the attributes. -/
def hasClass (a : Attributes) (name : String) : Bool := a.classes.contains name

/-- The value of a key. -/
def get? (a : Attributes) (key : String) : Option String :=
  (a.pairs.find? (·.1 == key)).map (·.2)

/-- The pairs with a key set to a value: a new key goes to the end, one that is there keeps
its place. -/
def putPair (key value : String) : List (String × String) → List (String × String)
  | [] => [(key, value)]
  | p :: ps => if p.1 == key then (key, value) :: ps else p :: putPair key value ps

/-- Adds a class. -/
def addClass (a : Attributes) (name : String) : Attributes :=
  { a with classes := a.classes ++ [name] }

/-- Sets the id. -/
def setId (a : Attributes) (id : String) : Attributes := { a with id := some id }

/-- Sets a key to a value. -/
def put (a : Attributes) (key value : String) : Attributes :=
  { a with pairs := putPair key value a.pairs }

end Attributes

end SlideDeck

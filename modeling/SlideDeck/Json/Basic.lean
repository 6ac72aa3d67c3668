/-
JSON values.

Whole numbers are kept apart from those with a fraction or an exponent, since some fields
take only the former, and the two binary precisions are kept apart so that each is written
with its own shortest digits.  The fields of an object keep their order, and may repeat a
name as the text they were read from did.
-/

namespace SlideDeck

/-- A number in JSON. -/
inductive Json.Number where
  | natural (n : Nat)
  /-- The number `-n`, for a positive `n`. -/
  | negative (n : Nat)
  | double (x : Float)
  | single (x : Float32)
deriving DecidableEq

/-- A JSON value. -/
inductive Json where
  | null
  | bool (b : Bool)
  | number (n : Json.Number)
  | string (s : String)
  | array (xs : List Json)
  | object (fields : List (String × Json))

namespace Json

instance : Inhabited Json := ⟨null⟩

/-- The number of an integer. -/
def Number.ofInt : Int → Number
  | .ofNat n => natural n
  | .negSucc n => negative (n + 1)

/-- A number that JSON can write: an infinity or no number at all is written as null. -/
def ofFloat (x : Float) : Json := if x.isFinite then number (.double x) else null

/-- A number of single precision that JSON can write. -/
def ofFloat32 (x : Float32) : Json := if x.isFinite then number (.single x) else null

/-- A natural number. -/
def ofNat (n : Nat) : Json := number (.natural n)

/-- An optional value, null if it is not set. -/
def nullable (write : α → Json) : Option α → Json
  | none => null
  | some a => write a

/-- A list of values. -/
def ofList (write : α → Json) (xs : List α) : Json := array (xs.map write)

/-- A field that is left out if its value is not set. -/
def optionalField (name : String) (write : α → Json) : Option α → List (String × Json)
  | none => []
  | some a => [(name, write a)]

/-- The last of some fields with a name. -/
def lastOf (name : String) (fields : List (String × Json)) : Option Json :=
  (fields.reverse.find? (·.1 == name)).map (·.2)

mutual

/-- A value whose objects hold each name once, where it was first and with its last value. -/
def distinct : Json → Json
  | array xs => array (distinctList xs)
  | object fields =>
    let fields := distinctFields fields
    object ((fields.map (·.1)).eraseDups.filterMap fun name =>
      (lastOf name fields).map fun v => (name, v))
  | j => j

/-- The values of a list, each with distinct names. -/
def distinctList : List Json → List Json
  | [] => []
  | x :: xs => x.distinct :: distinctList xs

/-- The values of some fields, each with distinct names. -/
def distinctFields : List (String × Json) → List (String × Json)
  | [] => []
  | (name, x) :: xs => (name, x.distinct) :: distinctFields xs

end

end Json

end SlideDeck

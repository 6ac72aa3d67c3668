/-
Reading records, enumerations and plain values from JSON.

A record is an object, whose fields may come in any order and may be accompanied by others,
or an array of all its fields in order.  A field that is absent reads as null.  A field that
is there twice spoils the record.  Nothing is said about why a value cannot be read.
-/
import SlideDeck.Json.Basic

namespace SlideDeck.Json

/-! ### Plain values -/

/-- A text. -/
def toString? : Json → Option String
  | string s => some s
  | _ => none

/-- A truth value. -/
def toBool? : Json → Option Bool
  | bool b => some b
  | _ => none

/-- A natural number; a number with a point is none, even if its fraction is zero. -/
def toNat? : Json → Option Nat
  | number (.natural n) => some n
  | _ => none

/-- An integer of thirty-two bits. -/
def toInt32? : Json → Option Int32
  | number (.natural n) => if n < Nat.pow 2 31 then some (Int32.ofInt n) else none
  | number (.negative n) => if n ≤ Nat.pow 2 31 then some (Int32.ofInt (-n)) else none
  | _ => none

/-- An integer of thirty-two bits, written. -/
def ofInt32 (x : Int32) : Json := number (Number.ofInt x.toInt)

/-- A whole number of either sign in double precision. -/
def wholeFloat (negative : Bool) (n : Nat) : Float :=
  let x := (UInt64.ofNat n).toFloat
  if negative then -x else x

/-- A number of double precision; whole numbers are converted. -/
def toFloat? : Json → Option Float
  | number (.natural n) => some (wholeFloat false n)
  | number (.negative n) => some (wholeFloat true n)
  | number (.double x) => if x.isFinite then some x else none
  | number (.single x) => if x.toFloat.isFinite then some x.toFloat else none
  | _ => none

/-- A number of single precision; a number of double precision is rounded, and may become an
infinity. -/
def toFloat32? : Json → Option Float32
  | number (.single x) => some x
  | j => (toFloat? j).map Float.toFloat32

/-- A list of values. -/
def toList? (read : Json → Option α) : Json → Option (List α)
  | array xs => xs.mapM read
  | _ => none

/-- A value that may be null. -/
def toOption? (read : Json → Option α) : Json → Option (Option α)
  | null => some none
  | j => (read j).map some

/-- Whether a value is null. -/
def isNull : Json → Bool
  | null => true
  | _ => false

mutual

/-- A value taken as it is.  A numeral that was too large spoils it. -/
def toAny? : Json → Option Json
  | number (.double x) => if x.isFinite then some (number (.double x)) else none
  | array xs => (toAnyList? xs).map array
  | object fields => (toAnyFields? fields).map object
  | j => some j

/-- Some values taken as they are. -/
def toAnyList? : List Json → Option (List Json)
  | [] => some []
  | x :: xs =>
    match toAny? x, toAnyList? xs with
    | some x, some xs => some (x :: xs)
    | _, _ => none

/-- Some fields taken as they are. -/
def toAnyFields? : List (String × Json) → Option (List (String × Json))
  | [] => some []
  | (name, x) :: xs =>
    match toAny? x, toAnyFields? xs with
    | some x, some xs => some ((name, x) :: xs)
    | _, _ => none

end

/-! ### Records -/

/-- The field of a name, null if it is absent, nothing if it is there twice. -/
def field? (name : String) (fields : List (String × Json)) : Option Json :=
  match fields.filter (·.1 == name) with
  | [] => some null
  | [(_, x)] => some x
  | _ => none

/-- The fields of a record, in the order of their names. -/
def fields? (names : List String) : Json → Option (List Json)
  | object fields => names.mapM (field? · fields)
  | array xs => if xs.length == names.length then some xs else none
  | _ => none

theorem sizeOf_field?_lt {name : String} {fields : List (String × Json)} {x : Json}
    (h : field? name fields = some x) : sizeOf x < sizeOf (object fields) := by
  unfold field? at h
  split at h
  · cases h
    simp only [object.sizeOf_spec, null.sizeOf_spec]
    cases fields <;> simp +arith
  · rename_i y x heq
    cases h
    have hmem : (y, x) ∈ fields := (List.mem_filter.mp (heq ▸ List.mem_singleton_self _)).1
    have hlt := List.sizeOf_lt_of_mem hmem
    simp only [object.sizeOf_spec, Prod.mk.sizeOf_spec] at hlt ⊢
    omega
  · cases h

/-- The fields of a record are smaller than the record, so a record may hold its own kind. -/
theorem sizeOf_fields?_lt {names : List String} {j : Json} {xs : List Json} {x : Json}
    (h : j.fields? names = some xs) (hx : x ∈ xs) : sizeOf x < sizeOf j := by
  unfold fields? at h
  split at h
  · rename_i fields
    obtain ⟨name, _, hname⟩ := exists_of_mem_mapM names xs h x hx
    exact sizeOf_field?_lt hname
  · rename_i ys
    split at h
    · cases h
      have hlt := List.sizeOf_lt_of_mem hx
      simp only [array.sizeOf_spec]
      omega
    · cases h
  · cases h
where
  exists_of_mem_mapM {fields : List (String × Json)} :
      ∀ (names : List String) (xs : List Json), names.mapM (field? · fields) = some xs →
        ∀ x ∈ xs, ∃ name ∈ names, field? name fields = some x
    | [], xs, h, x, hx => by
      simp only [List.mapM_nil, Option.pure_def, Option.some.injEq] at h
      subst h
      cases hx
    | n :: names, xs, h, x, hx => by
      simp only [List.mapM_cons, Option.bind_eq_bind, Option.bind_eq_some_iff, Option.pure_def,
        Option.some.injEq] at h
      obtain ⟨y, hy, ys, hys, rfl⟩ := h
      rcases List.mem_cons.mp hx with rfl | hx
      · exact ⟨n, List.mem_cons_self, hy⟩
      · obtain ⟨m, hm, he⟩ := exists_of_mem_mapM names ys hys x hx
        exact ⟨m, List.mem_cons_of_mem _ hm, he⟩

/-- A record whose last field may be absent altogether, with that field filled in. -/
def withDefault (j : Json) (names : List String) (last : String) (default : Json) : Json :=
  match j with
  | object fields =>
    if fields.any (·.1 == last) then object fields else object (fields ++ [(last, default)])
  | array xs => if xs.length + 1 == names.length then array (xs ++ [default]) else array xs
  | j => j

/-! ### Enumerations -/

/-- The name of a variant and its content: a name alone has none, an object with one field
has that field's name and value. -/
def variant? : Json → Option (String × Option Json)
  | string name => some (name, none)
  | object [(name, x)] => some (name, some x)
  | _ => none

/-- A variant without content, given by the table of names.  It may be written with null for
its content. -/
def toUnitVariant? (table : List (String × α)) (j : Json) : Option α :=
  match variant? j with
  | some (name, none) | some (name, some null) => (table.find? (·.1 == name)).map (·.2)
  | _ => none

end SlideDeck.Json

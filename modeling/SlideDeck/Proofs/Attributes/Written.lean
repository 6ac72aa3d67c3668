/-
Attributes are read back as they are written.

A group is written item by item with one blank between two of them: the classes, the id, and the
keys with their values in quotes.  No name holds white space, a quote or an equals sign, so an
item ends where its name or its closing quote does, whatever text its value has, and the reader
takes off exactly the items that were written.

At the end of a text the group is what stands behind the last opening brace.  No brace stands in a
written group, so it does not matter which braces stand in the text before it.
-/
import Mathlib.Data.List.Basic
import SlideDeck.Attributes.Reading

namespace SlideDeck.Attributes

open SlideDeck.Text

/-! ### Writing -/

/-- A name that can be written. -/
def IsName (name : List Char) : Prop := name ≠ [] ∧ ∀ c ∈ name, isNameChar c = true

instance (name : List Char) : Decidable (IsName name) :=
  decidable_of_iff (name ≠ [] ∧ name.all isNameChar = true) (by rw [IsName, List.all_eq_true])

/-- The text of an item.  A value stands in quotes. -/
def Item.written : Item → List Char
  | .className name => '.' :: name
  | .id name => '#' :: name
  | .pair key value => key ++ '=' :: '"' :: (value ++ ['"'])

/-- An item that can be written. -/
def Item.Writable : Item → Prop
  | .className name | .id name => IsName name
  | .pair key value => IsName key ∧ ∀ c ∈ value, c ≠ '"' ∧ isBrace c = false

/-- The items of some attributes in the order in which they are written. -/
def items (a : Attributes) : List Item :=
  a.classes.map (fun name => .className name.toList) ++
    (a.id.toList.map (fun name => .id name.toList) ++
      a.pairs.map fun p => .pair p.1.toList p.2.toList)

/-- The inside of a group with some items. -/
def row (is : List Item) : List Char := [' '].intercalate (is.map Item.written)

/-- The inside of a group with some attributes. -/
def written (a : Attributes) : String := String.ofList (row a.items)

/-- Attributes that can be written: there are some, their names are names, and their values hold no
quote and no brace.  As in all attributes, no key stands twice. -/
structure Writable (a : Attributes) : Prop where
  nonempty : a ≠ empty
  classes : ∀ name ∈ a.classes, IsName name.toList
  id : ∀ name ∈ a.id, IsName name.toList
  keys : ∀ p ∈ a.pairs, IsName p.1.toList
  values : ∀ p ∈ a.pairs, ∀ c ∈ p.2.toList, c ≠ '"' ∧ isBrace c = false
  distinct : (a.pairs.map (·.1)).Nodup

/-! ### Characters -/

/-- The code points of white space. -/
def blankCodes : List Nat :=
  [0x9, 0xA, 0xB, 0xC, 0xD, 0x20, 0x85, 0xA0, 0x1680, 0x2000, 0x2001, 0x2002, 0x2003, 0x2004,
    0x2005, 0x2006, 0x2007, 0x2008, 0x2009, 0x200A, 0x2028, 0x2029, 0x202F, 0x205F, 0x3000]

theorem toNat_mem_blankCodes {c : Char} (h : isBlank c = true) : c.toNat ∈ blankCodes := by
  simp only [isBlank, Bool.or_eq_true, Bool.and_eq_true, decide_eq_true_eq, beq_iff_eq] at h
  simp only [blankCodes, List.mem_cons, List.not_mem_nil, or_false]
  omega

/-- No name holds white space. -/
theorem isBlank_of_isNameChar {c : Char} (h : isNameChar c = true) : isBlank c = false := by
  have hcodes : ∀ n ∈ blankCodes, isNameChar (Char.ofNat n) = false := by decide +kernel
  by_contra hblank
  have hcode := hcodes c.toNat (toNat_mem_blankCodes (by simpa using hblank))
  rw [Char.ofNat_toNat, h] at hcode
  cases hcode

theorem Writable.items {a : Attributes} (h : a.Writable) : ∀ i ∈ a.items, i.Writable := by
  intro i hi
  simp only [Attributes.items, List.mem_append, List.mem_map] at hi
  rcases hi with ⟨name, hname, rfl⟩ | ⟨name, hname, rfl⟩ | ⟨p, hp, rfl⟩
  · exact h.classes name hname
  · exact h.id name (Option.mem_toList.mp hname)
  · exact ⟨h.keys p hp, h.values p hp⟩

end SlideDeck.Attributes

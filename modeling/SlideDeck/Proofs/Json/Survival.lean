/-
Values that survive being written and read.

A value survives if what is read from its JSON is the value itself, and if this JSON is not null,
since null is how an unset value reads.  Records are the one hard case: their writers leave out
some of the unset fields and write null for others, and their readers look for each field by its
name.  Both ways to write come down to a list of slots, a name and perhaps a value for each field,
of which those without a value are not written.  From such a record the reader gets back exactly
its slots, with null for what was not written, as long as no name is used twice.

What cannot survive is an infinity or no number at all, which is written as null.
-/
import Mathlib.Data.List.Nodup
import SlideDeck.Json.Record

namespace SlideDeck.Json

variable {α β γ : Type}

/-- Reading undoes writing for a value, and the value is not written as null. -/
structure Survives (write : α → Json) (read : Json → Option α) (a : α) : Prop where
  read_write : read (write a) = some a
  isNull_write : (write a).isNull = false

/-! ### Plain values -/

theorem survives_string (s : String) : Survives string toString? s := ⟨rfl, rfl⟩

theorem survives_bool (b : Bool) : Survives bool toBool? b := ⟨rfl, rfl⟩

theorem survives_ofNat (n : Nat) : Survives ofNat toNat? n := ⟨rfl, rfl⟩

theorem survives_ofFloat {x : Float} (h : x.isFinite = true) : Survives ofFloat toFloat? x := by
  have hwrite : ofFloat x = number (.double x) := if_pos h
  refine ⟨?_, by rw [hwrite]; rfl⟩
  rw [hwrite]
  exact if_pos h

theorem survives_ofFloat32 {x : Float32} (h : x.isFinite = true) :
    Survives ofFloat32 toFloat32? x := by
  have hwrite : ofFloat32 x = number (.single x) := if_pos h
  exact ⟨by rw [hwrite]; rfl, by rw [hwrite]; rfl⟩

theorem survives_ofInt32 (x : Int32) : Survives ofInt32 toInt32? x := by
  have hlow := x.le_toInt
  have hhigh := x.toInt_lt
  refine ⟨?_, rfl⟩
  unfold ofInt32
  cases hx : x.toInt with
  | ofNat n =>
      have hn : n < Nat.pow 2 31 := by
        rw [hx] at hhigh
        exact Int.ofNat_lt.mp hhigh
      show (if n < Nat.pow 2 31 then some (Int32.ofInt n) else none) = some x
      have hcast : (n : Int) = x.toInt := hx.symm
      rw [if_pos hn, hcast, Int32.ofInt_toInt]
  | negSucc n =>
      have hn : n + 1 ≤ Nat.pow 2 31 := by
        rw [hx] at hlow
        have : (2 : Int) ^ 31 = 2147483648 := by decide
        have : Nat.pow 2 31 = 2147483648 := by decide
        omega
      show (if n + 1 ≤ Nat.pow 2 31 then some (Int32.ofInt (-(n + 1 : Nat))) else none) = some x
      have hneg : -((n + 1 : Nat) : Int) = x.toInt := hx.symm
      rw [if_pos hn, hneg, Int32.ofInt_toInt]

/-! ### Lists and unset values -/

/-- Reading a list reads its members. -/
theorem mapM_map_eq_some {write : α → β} {read : β → Option γ} (value : α → γ) {as : List α}
    (h : ∀ a ∈ as, read (write a) = some (value a)) :
    (as.map write).mapM read = some (as.map value) := by
  induction as with
  | nil => rfl
  | cons a as ih =>
      rw [List.map_cons, List.mapM_cons, h a (List.mem_cons_self ..),
        ih fun b hb => h b (List.mem_cons_of_mem _ hb)]
      rfl

theorem survives_ofList {write : α → Json} {read : Json → Option α} {as : List α}
    (h : ∀ a ∈ as, Survives write read a) : Survives (ofList write) (toList? read) as := by
  refine ⟨?_, rfl⟩
  have hread := mapM_map_eq_some id fun a ha => (h a ha).read_write
  rwa [List.map_id] at hread

theorem survives_ofList_of_all {write : α → Json} {read : Json → Option α} {p : α → Bool}
    {as : List α} (hall : as.all p = true) (h : ∀ a, p a = true → Survives write read a) :
    Survives (ofList write) (toList? read) as :=
  survives_ofList fun a ha => h a (List.all_eq_true.mp hall a ha)

/-- What is not null is read. -/
theorem toOption?_of_isNull {read : Json → Option α} {j : Json} (h : j.isNull = false) :
    j.toOption? read = (read j).map some := by
  cases j with
  | null => cases h
  | _ => rfl

theorem toOption?_nullable {write : α → Json} {read : Json → Option α} {a? : Option α}
    (h : ∀ a ∈ a?, Survives write read a) : (nullable write a?).toOption? read = some a? := by
  cases a? with
  | none => rfl
  | some a =>
      have ha := h a rfl
      show (write a).toOption? read = _
      rw [toOption?_of_isNull ha.isNull_write, ha.read_write]
      rfl

/-- An unset value may also be told apart by hand. -/
theorem ite_isNull_nullable {write : α → Json} {read : Json → Option α} {a? : Option α}
    (h : ∀ a ∈ a?, Survives write read a) {f : Option α → Option β} :
    (if (nullable write a?).isNull = true then some none >>= f
      else (read (nullable write a?)).map some >>= f) = f a? := by
  cases a? with
  | none => rfl
  | some a =>
      have ha := h a rfl
      show (if (write a).isNull = true then _ else (read (write a)).map some >>= f) = _
      rw [ha.isNull_write, ha.read_write]
      rfl

theorem toOption?_nullable_of_all {write : α → Json} {read : Json → Option α} {p : α → Bool}
    {a? : Option α} (hall : a?.all p = true) (h : ∀ a, p a = true → Survives write read a) :
    (nullable write a?).toOption? read = some a? :=
  toOption?_nullable fun a ha => h a ((Option.all_eq_true p a?).mp hall a ha)

/-! ### Enumerations -/

/-- The first entry with a name is the only one. -/
theorem find?_eq_some_of_mem {table : List (String × α)} (hnodup : (table.map (·.1)).Nodup)
    {name : String} {a : α} (h : (name, a) ∈ table) :
    table.find? (·.1 == name) = some (name, a) := by
  induction table with
  | nil => cases h
  | cons entry table ih =>
      rw [List.map_cons, List.nodup_cons] at hnodup
      rcases List.mem_cons.mp h with rfl | h
      · rw [List.find?_cons_of_pos (by simp)]
      · have hne : entry.1 ≠ name := by
          rintro rfl
          exact hnodup.1 (List.mem_map.mpr ⟨_, h, rfl⟩)
        rw [List.find?_cons_of_neg (by simpa using hne)]
        exact ih hnodup.2 h

/-- A variant of an enumeration survives if the table of its names says its name. -/
theorem survives_variant {name : α → String} {table : List (String × α)} {a : α}
    (hnodup : (table.map (·.1)).Nodup) (h : (name a, a) ∈ table) :
    Survives (fun a => string (name a)) (toUnitVariant? table) a := by
  refine ⟨?_, rfl⟩
  show (table.find? (·.1 == name a)).map (·.2) = some a
  rw [find?_eq_some_of_mem hnodup h]
  rfl

/-! ### Records -/

/-- The fields of some slots: those that have a value. -/
def present (slots : List (String × Option Json)) : List (String × Json) :=
  slots.filterMap fun slot => slot.2.map fun x => (slot.1, x)

theorem present_append (first rest : List (String × Option Json)) :
    present (first ++ rest) = present first ++ present rest := List.filterMap_append

theorem singleton_eq_present (name : String) (x : Json) :
    [(name, x)] = present [(name, some x)] := rfl

theorem cons_present (name : String) (x : Json) (slots : List (String × Option Json)) :
    (name, x) :: present slots = present ((name, some x) :: slots) := rfl

theorem optionalField_eq_present (name : String) (write : α → Json) (a? : Option α) :
    optionalField name write a? = present [(name, a?.map write)] := by
  cases a? <;> rfl

theorem nullable_eq_getD (write : α → Json) (a? : Option α) :
    nullable write a? = (a?.map write).getD null := by
  cases a? <;> rfl

/-- No field has a name that no slot has. -/
theorem filter_present_eq_nil {slots : List (String × Option Json)} {name : String}
    (h : name ∉ slots.map (·.1)) : (present slots).filter (·.1 == name) = [] := by
  rw [List.filter_eq_nil_iff]
  intro field hfield heq
  obtain ⟨slot, hslot, hvalue⟩ := List.mem_filterMap.mp hfield
  obtain ⟨x, -, rfl⟩ := Option.map_eq_some_iff.mp hvalue
  exact h (List.mem_map.mpr ⟨slot, hslot, eq_of_beq heq⟩)

/-- The field of a slot is its value, or null if it has none. -/
theorem field?_present {slots : List (String × Option Json)} (hnodup : (slots.map (·.1)).Nodup)
    {slot : String × Option Json} (h : slot ∈ slots) :
    field? slot.1 (present slots) = some (slot.2.getD null) := by
  have hfields : (present slots).filter (·.1 == slot.1) = present [slot] := by
    induction slots with
    | nil => cases h
    | cons first slots ih =>
        rw [List.map_cons, List.nodup_cons] at hnodup
        have hfirst : present (first :: slots) = present [first] ++ present slots :=
          present_append [first] slots
        rw [hfirst, List.filter_append]
        rcases List.mem_cons.mp h with rfl | h
        · rw [filter_present_eq_nil hnodup.1, List.append_nil, List.filter_eq_self]
          intro field hfield
          obtain ⟨slot', hslot, hvalue⟩ := List.mem_filterMap.mp hfield
          obtain rfl := List.mem_singleton.mp hslot
          obtain ⟨x, -, rfl⟩ := Option.map_eq_some_iff.mp hvalue
          exact beq_self_eq_true _
        · have hne : slot.1 ∉ [first].map (·.1) := by
            intro hmem
            have heq : slot.1 = first.1 := List.mem_singleton.mp hmem
            exact hnodup.1 (List.mem_map.mpr ⟨slot, h, heq⟩)
          rw [filter_present_eq_nil hne, List.nil_append]
          exact ih hnodup.2 h
  unfold field?
  rw [hfields]
  obtain ⟨name, x?⟩ := slot
  cases x? <;> rfl

/-- **A record is read slot by slot.**  The fields that are read by the names of the slots are their
values, in the same order. -/
theorem fields?_present {slots : List (String × Option Json)} {names : List String}
    (hnames : slots.map (·.1) = names) (hnodup : names.Nodup) :
    (object (present slots)).fields? names = some (slots.map fun slot => slot.2.getD null) := by
  subst hnames
  exact mapM_map_eq_some _ fun _ h => field?_present hnodup h

end SlideDeck.Json

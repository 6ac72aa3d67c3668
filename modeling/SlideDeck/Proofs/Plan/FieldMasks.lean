/-
Masks name what an update changes.

A style is written with a field for each attribute that it sets, and the mask of an update is the
list of the names of these fields.  The fields stand in the order of the table of all attributes,
whose names are in alphabetical order, so the names of a mask are too.  Whether a style sets nothing
is asked by comparing it with the style that does; that comes to the same as asking whether its mask
is empty, so no run of a sealed block, each of which sets something, is passed over.
-/
import SlideDeck.Proofs.Draft.Sealed
import SlideDeck.Proofs.Server.TextContent

namespace SlideDeck

/-! ### Names -/

namespace TextStyle

/-- The attributes of a style: the name of each, and whether a style sets it. -/
def attributes : List (String × (TextStyle → Bool)) := [
  ("backgroundColor", (·.backgroundColor.isSome)), ("baselineOffset", (·.baselineOffset.isSome)),
  ("bold", (·.bold.isSome)), ("fontFamily", (·.fontFamily.isSome)),
  ("fontSize", (·.fontSize.isSome)), ("foregroundColor", (·.foregroundColor.isSome)),
  ("italic", (·.italic.isSome)), ("link", (·.link.isSome)), ("smallCaps", (·.smallCaps.isSome)),
  ("strikethrough", (·.strikethrough.isSome)), ("underline", (·.underline.isSome))]

theorem names_optionalField {α : Type} (name : String) (f : α → Json) (o : Option α) :
    (Json.optionalField name f o).map (·.1) = if o.isSome then [name] else [] := by
  cases o <;> rfl

/-- A mask has the names of the attributes that are set, in the order of the table. -/
theorem fieldMask_eq_filter (s : TextStyle) :
    s.fieldMask = (attributes.filter (·.2 s)).map (·.1) := by
  have hcons : ∀ (a : String × (TextStyle → Bool)) as,
      ((a :: as).filter (·.2 s)).map (·.1) =
        (if a.2 s then [a.1] else []) ++ (as.filter (·.2 s)).map (·.1) := by
    intro a as
    rw [List.filter_cons]
    split <;> rfl
  simp only [fieldMask, fields, attributes, List.map_append, names_optionalField, hcons,
    List.filter_nil, List.map_nil, List.append_nil, List.append_assoc]

theorem pairwise_fieldMask (s : TextStyle) : s.fieldMask.Pairwise (· < ·) := by
  have htable : (attributes.map (·.1)).Pairwise (· < ·) := by decide
  rw [fieldMask_eq_filter]
  exact htable.sublist (List.filter_sublist.map _)

theorem fieldMask_eq_nil_iff {s : TextStyle} : s.fieldMask = [] ↔ s.isEmpty = true := by
  constructor
  · intro hnil
    by_contra hset
    exact fieldMask_ne_nil (Bool.eq_false_iff.mpr hset) hnil
  · intro hempty
    rw [eq_of_beq hempty]
    rfl

end TextStyle

/-! ### Updates -/

/-- The update of a style that a request is. -/
def Request.styleUpdate? : Request → Option UpdateTextStyle
  | .updateTextStyle r => some r
  | _ => none

namespace Server.TextContent

variable {target : Target}

theorem filterMap_styleRequests {runs : List StyleRun}
    (hruns : ∀ r ∈ runs, r.style.isEmpty = false) :
    (runs.filterMap (Plan.styleRequest? target.objectId target.cell)).filterMap
      Request.styleUpdate? = runs.map (styleUpdate target) := by
  induction runs with
  | nil => rfl
  | cons r runs ih =>
      rw [List.forall_mem_cons] at hruns
      rw [List.filterMap_cons, styleRequest?_eq hruns.1, List.map_cons, ← ih hruns.2]
      rfl

/-- The requests of a sealed block update the style of each of its runs once. -/
theorem filterMap_textRequests {b : TextBlock} (h : b.Sealed) :
    (Plan.textRequests target.objectId target.cell b).filterMap Request.styleUpdate? =
      b.runs.map (styleUpdate target) := by
  unfold Plan.textRequests
  split
  · -- Where there is no text there is no place for a run.
    rename_i hempty
    have hlength : b.length = 0 := by
      rw [TextBlock.length, String.isEmpty_iff.mp hempty]
      rfl
    have hnone : b.runs = [] := by
      refine List.eq_nil_iff_forall_not_mem.mpr fun r hr => ?_
      obtain ⟨hlt, hle, -⟩ := h.runs r hr
      omega
    rw [hnone]
    rfl
  · have hbullets : ((Plan.markersFromEnd b.listMarkers).map
        (Plan.bulletRequest target.objectId target.cell)).filterMap Request.styleUpdate? = [] := by
      rw [List.filterMap_map]
      exact List.filterMap_eq_nil_iff.mpr fun _ _ => rfl
    rw [List.cons_append, List.filterMap_cons, List.filterMap_append, hbullets, List.append_nil]
    exact filterMap_styleRequests fun r hr => (h.runs r hr).2.2

end Server.TextContent

/-! ### The theorem -/

open TextStyle Server Server.TextContent

/--
**A mask names exactly what its update changes.**  The names are in strictly alphabetical order and
are those of the attributes that the style sets; there is none exactly if the style is the empty
one.  Overwriting the named attributes of another style lays the style over it.  So the requests of
a block that was sealed update the style of each run once, in the order of the runs, and what an
update lists as its fields lays the style of the run over whatever is there.
-/
theorem fieldMask_names_changes (s t : TextStyle) (target : Target) (b : TextBlock) :
    s.fieldMask.Pairwise (· < ·) ∧
    (∀ name, name ∈ s.fieldMask ↔ ∃ isSet, (name, isSet) ∈ attributes ∧ isSet s = true) ∧
    (s.fieldMask = [] ↔ s.isEmpty = true) ∧
    overwrite s.fieldMask s t = s.onto t ∧
    (Plan.textRequests target.objectId target.cell b.finish).filterMap Request.styleUpdate? =
      b.finish.runs.map (styleUpdate target) ∧
    ∀ r ∈ b.finish.runs,
      overwrite (namesOf (styleUpdate target r).fields) r.style t = r.style.onto t := by
  have hsealed := TextBlock.sealed_finish b
  refine ⟨pairwise_fieldMask s, fun name => ?_, fieldMask_eq_nil_iff, overwrite_fieldMask s t,
    filterMap_textRequests hsealed, fun r hr => ?_⟩
  · rw [fieldMask_eq_filter]
    simp
  · have hset := (hsealed.runs r hr).2.2
    show overwrite (namesOf (Plan.maskText r.style.fieldMask)) r.style t = _
    rw [namesOf_maskText_fieldMask hset]
    exact overwrite_fieldMask r.style t

/-- False, an empty text and transparency are values like any others. -/
example :
    fieldMask { bold := some false, fontFamily := some "", foregroundColor := some ⟨none⟩ } =
      ["bold", "fontFamily", "foregroundColor"] :=
  rfl

/-- A block with a run that overlaps its end, one that sets nothing and one inside of the first. -/
def overlappingRuns : TextBlock where
  rawText := "ab\n"
  runs := [⟨0, 3, { bold := some true, italic := some false }⟩, ⟨0, 1, {}⟩,
    ⟨1, 2, { bold := some false }⟩]

/-- The update of a run that takes bold back leaves the italics that an earlier one gives. -/
theorem fieldMask_names_changes_overlappingRuns :
    ⟨1, 2, { bold := some false }⟩ ∈ overlappingRuns.finish.runs ∧
      overwrite (namesOf (styleUpdate ⟨"body", none⟩ ⟨1, 2, { bold := some false }⟩).fields)
        { bold := some false } { bold := some true, italic := some false } =
          { bold := some false, italic := some false } ∧
      (Plan.textRequests "body" none overlappingRuns.finish).filterMap Request.styleUpdate? =
        [styleUpdate ⟨"body", none⟩ ⟨0, 2, { bold := some true, italic := some false }⟩,
          styleUpdate ⟨"body", none⟩ ⟨1, 2, { bold := some false }⟩] := by
  have hruns : overlappingRuns.finish.runs =
      [⟨0, 2, { bold := some true, italic := some false }⟩, ⟨1, 2, { bold := some false }⟩] := by
    decide +kernel
  have hmem : ⟨1, 2, { bold := some false }⟩ ∈ overlappingRuns.finish.runs := by
    rw [hruns]
    exact List.mem_cons_of_mem _ (List.mem_singleton_self _)
  obtain ⟨-, -, -, -, hupdates, hchanges⟩ := fieldMask_names_changes { bold := some false }
    { bold := some true, italic := some false } ⟨"body", none⟩ overlappingRuns
  refine ⟨hmem, hchanges _ hmem, ?_⟩
  rw [hruns] at hupdates
  exact hupdates

end SlideDeck

/-
What a request needs of those before it.

The server rejects a whole batch if one of its requests names what is not there.  What a request
needs is said once, for every kind of request; more requests in front never take it away, so the
requests of each block find what they need among themselves, and those of a cell once its table
was created.
-/
import Mathlib.Data.List.Fold
import Mathlib.Data.List.MinMax
import Mathlib.Data.List.Nodup
import Mathlib.Order.Nat
import SlideDeck.Plan.Population
import SlideDeck.Proofs.Draft.Sealed
import SlideDeck.Proofs.Server.TextContent

namespace SlideDeck

open Server

/-! ### What requests name and need -/

namespace Request

/-- The ids that a request names. -/
def names : Request → List String
  | createSlide r => [r.objectId, r.layoutId]
  | insertText r => [r.objectId]
  | updateTextStyle r => [r.objectId]
  | createParagraphBullets r => [r.objectId]
  | createTable r => [r.objectId, r.elementProperties.pageObjectId]
  | createImage r => [r.objectId, r.elementProperties.pageObjectId]
  | deleteObject r => [r.objectId]
  | updateZOrder r => r.elementIds

/-- The id of what a request creates. -/
def created? : Request → Option String
  | createSlide r => some r.objectId
  | createTable r => some r.objectId
  | createImage r => some r.objectId
  | _ => none

/-- Where a request inserts text. -/
def inserted? : Request → Option Target
  | insertText r => some ⟨r.objectId, r.cellLocation⟩
  | _ => none

/-- Where text is inserted is named. -/
theorem objectId_mem_names {r : Request} {t : Target} (h : r.inserted? = some t) :
    t.objectId ∈ r.names := by
  cases r with
  | insertText r =>
      rw [← Option.some.inj h]
      exact List.mem_singleton_self r.objectId
  | createSlide r | updateTextStyle r | createParagraphBullets r | createTable r | createImage r
  | deleteObject r | updateZOrder r => cases h

/-- A cell lies in a table that was created before.  What is no cell needs no table. -/
def InTable (before : List Request) (objectId : String) (cell : Option CellLocation) : Prop :=
  ∀ l ∈ cell, ∃ t, createTable t ∈ before ∧ t.objectId = objectId ∧
    l.rowIndex < t.rows ∧ l.columnIndex < t.columns

/-- A range lies in a text that was inserted into a shape or cell before. -/
def InText (before : List Request) (objectId : String) (cell : Option CellLocation)
    (range : TextRange) : Prop :=
  ∃ text, insertText ⟨objectId, cell, text, 0⟩ ∈ before ∧ range.type = .fixedRange ∧
    range.startIndex < range.endIndex ∧ range.endIndex ≤ text.length

/-- A request finds what it needs among those before it. -/
def Ready (before : List Request) : Request → Prop
  | insertText r => r.text ≠ "" ∧ InTable before r.objectId r.cellLocation
  | updateTextStyle r => InText before r.objectId r.cellLocation r.textRange ∧
      InTable before r.objectId r.cellLocation
  | createParagraphBullets r => InText before r.objectId r.cellLocation r.textRange ∧
      InTable before r.objectId r.cellLocation
  | updateZOrder r => ∀ id ∈ r.elementIds, ∃ i, createImage i ∈ before ∧ i.objectId = id
  | _ => True

variable {before before' rs rs' : List Request} {objectId : String} {cell : Option CellLocation}

theorem InTable.mono (h : InTable before objectId cell) (hsub : before ⊆ before') :
    InTable before' objectId cell := by
  intro l hl
  obtain ⟨t, ht, hin⟩ := h l hl
  exact ⟨t, hsub ht, hin⟩

theorem InText.mono {range : TextRange} (h : InText before objectId cell range)
    (hsub : before ⊆ before') : InText before' objectId cell range := by
  obtain ⟨text, htext, hin⟩ := h
  exact ⟨text, hsub htext, hin⟩

theorem Ready.mono {r : Request} (h : r.Ready before) (hsub : before ⊆ before') :
    r.Ready before' := by
  cases r with
  | createSlide r | createTable r | createImage r | deleteObject r => trivial
  | insertText r => exact ⟨h.1, h.2.mono hsub⟩
  | updateTextStyle r | createParagraphBullets r => exact ⟨h.1.mono hsub, h.2.mono hsub⟩
  | updateZOrder r =>
      intro id hid
      obtain ⟨i, hi, heq⟩ := h id hid
      exact ⟨i, hsub hi, heq⟩

/-- Each of some requests finds what it needs among those before it and given earlier ones. -/
def ReadyFrom (before rs : List Request) : Prop :=
  ∀ (k : Nat) (r : Request), rs[k]? = some r → r.Ready (before ++ rs.take k)

theorem readyFrom_nil (before : List Request) : ReadyFrom before [] :=
  fun _ _ h => by cases h

theorem ReadyFrom.mono (h : ReadyFrom before rs) (hsub : before ⊆ before') :
    ReadyFrom before' rs := by
  intro k r hr
  exact (h k r hr).mono (List.append_subset.mpr
    ⟨List.subset_append_of_subset_left _ hsub, List.subset_append_right ..⟩)

theorem readyFrom_of_forall (h : ∀ r ∈ rs, r.Ready before) : ReadyFrom before rs := by
  intro k r hr
  exact (h r (List.mem_of_getElem? hr)).mono (List.subset_append_left ..)

theorem ReadyFrom.append (h : ReadyFrom before rs) (h' : ReadyFrom (before ++ rs) rs') :
    ReadyFrom before (rs ++ rs') := by
  intro k r hr
  rcases Nat.lt_or_ge k rs.length with hlt | hge
  · rw [List.getElem?_append_left hlt] at hr
    rw [List.take_append_of_le_length hlt.le]
    exact h k r hr
  · obtain ⟨n, rfl⟩ := Nat.exists_eq_add_of_le hge
    rw [List.getElem?_append_right hge, Nat.add_sub_cancel_left] at hr
    rw [List.take_length_add_append, ← List.append_assoc]
    exact h' n r hr

theorem readyFrom_flatMap {α : Type} {as : List α} {f : α → List Request}
    (h : ∀ a ∈ as, ReadyFrom before (f a)) : ReadyFrom before (as.flatMap f) := by
  induction as with
  | nil => exact readyFrom_nil before
  | cons a as ih =>
      have hrest := ih fun a ha => h a (List.mem_cons_of_mem _ ha)
      exact (h a (List.mem_cons_self ..)).append (hrest.mono (List.subset_append_left ..))

end Request

/-- The ids of what some requests create. -/
def createdIds (rs : List Request) : List String := rs.filterMap Request.created?

/-- Where some requests insert text. -/
def insertTargets (rs : List Request) : List Target := rs.filterMap Request.inserted?

theorem createdIds_append (rs rs' : List Request) :
    createdIds (rs ++ rs') = createdIds rs ++ createdIds rs' := List.filterMap_append

theorem insertTargets_append (rs rs' : List Request) :
    insertTargets (rs ++ rs') = insertTargets rs ++ insertTargets rs' := List.filterMap_append

/-- Requests that are carried out in order each find what they need, create no two things with the
same id and insert no two texts at the same place. -/
structure WellAddressed (rs : List Request) : Prop where
  ready : Request.ReadyFrom [] rs
  created : (createdIds rs).Nodup
  inserted : (insertTargets rs).Nodup

/-! ### The requests of a block -/

namespace Plan

section Block

variable {objectId : String} {cell : Option CellLocation} {b : TextBlock} {r : Request}

/-- A block is inserted, dressed and listed. -/
theorem mem_textRequests (h : r ∈ textRequests objectId cell b) :
    r = .insertText ⟨objectId, cell, b.rawText, 0⟩ ∧ b.isEmpty = false ∨
      (∃ run ∈ b.runs, styleRequest? objectId cell run = some r) ∨
      ∃ m ∈ b.listMarkers, bulletRequest objectId cell m = r := by
  unfold textRequests at h
  split at h
  · cases h
  · rename_i hempty
    rw [List.cons_append, List.mem_cons, List.mem_append, List.mem_filterMap, List.mem_map] at h
    rcases h with rfl | h | ⟨m, hm, rfl⟩
    · exact .inl ⟨rfl, Bool.eq_false_iff.mpr hempty⟩
    · exact .inr (.inl h)
    · exact .inr (.inr ⟨m, (List.mergeSort_perm _ _).subset hm, rfl⟩)

theorem eq_of_styleRequest? {run : StyleRun} (h : styleRequest? objectId cell run = some r) :
    r = .updateTextStyle ⟨objectId, cell, run.style, TextRange.fixed run.start run.stop,
      maskText run.style.fieldMask⟩ := by
  unfold styleRequest? at h
  split at h
  · cases h
  · exact (Option.some.inj h).symm

theorem names_of_mem_textRequests (h : r ∈ textRequests objectId cell b) :
    r.names = [objectId] := by
  rcases mem_textRequests h with ⟨rfl, -⟩ | ⟨run, -, hr⟩ | ⟨m, -, rfl⟩
  · rfl
  · rw [eq_of_styleRequest? hr]
    rfl
  · rfl

theorem created?_of_mem_textRequests (h : r ∈ textRequests objectId cell b) :
    r.created? = none := by
  rcases mem_textRequests h with ⟨rfl, -⟩ | ⟨run, -, hr⟩ | ⟨m, -, rfl⟩
  · rfl
  · rw [eq_of_styleRequest? hr]
    rfl
  · rfl

/-- A block is inserted at most once. -/
theorem insertTargets_textRequests (objectId : String) (cell : Option CellLocation)
    (b : TextBlock) :
    (insertTargets (textRequests objectId cell b)).Sublist [⟨objectId, cell⟩] := by
  unfold textRequests insertTargets
  split
  · exact List.nil_sublist _
  · have hstyles : (b.runs.filterMap (styleRequest? objectId cell)).filterMap Request.inserted? =
        [] := by
      refine List.filterMap_eq_nil_iff.mpr fun r hr => ?_
      obtain ⟨run, -, hr⟩ := List.mem_filterMap.mp hr
      rw [eq_of_styleRequest? hr]
      rfl
    have hbullets : ((markersFromEnd b.listMarkers).map (bulletRequest objectId cell)).filterMap
        Request.inserted? = [] := by
      refine List.filterMap_eq_nil_iff.mpr fun r hr => ?_
      obtain ⟨m, -, rfl⟩ := List.mem_map.mp hr
      rfl
    rw [List.cons_append, List.filterMap_cons, List.filterMap_append, hstyles, hbullets]
    exact List.Sublist.refl _

/-- What comes after the insertion of a sealed block lies within its text. -/
theorem readyFrom_textRequests {before : List Request} (hb : b.Sealed)
    (hcell : Request.InTable before objectId cell) :
    Request.ReadyFrom before (textRequests objectId cell b) := by
  by_cases hempty : b.isEmpty = true
  · rw [textRequests, if_pos hempty]
    exact Request.readyFrom_nil before
  · have hinsert : Request.ReadyFrom before [.insertText ⟨objectId, cell, b.rawText, 0⟩] := by
      refine Request.readyFrom_of_forall fun r hr => ?_
      rw [List.mem_singleton.mp hr]
      exact ⟨fun htext => hempty (String.isEmpty_iff.mpr htext), hcell⟩
    have hcell' := hcell.mono
      (List.subset_append_left before [.insertText ⟨objectId, cell, b.rawText, 0⟩])
    have hrange {start stop : Nat} (h : start < stop) (hstop : stop ≤ b.length) :
        Request.InText (before ++ [.insertText ⟨objectId, cell, b.rawText, 0⟩]) objectId cell
          (TextRange.fixed start stop) :=
      ⟨b.rawText, List.mem_append_right _ (List.mem_singleton_self _), rfl, h, hstop⟩
    rw [textRequests, if_neg hempty]
    refine hinsert.append (Request.readyFrom_of_forall fun r hr => ?_)
    rcases List.mem_append.mp hr with hr | hr
    · obtain ⟨run, hrun, hr⟩ := List.mem_filterMap.mp hr
      obtain ⟨hlt, hle, -⟩ := hb.runs run hrun
      rw [eq_of_styleRequest? hr]
      exact ⟨hrange hlt hle, hcell'⟩
    · obtain ⟨m, hm, rfl⟩ := List.mem_map.mp hr
      obtain ⟨hlt, hle⟩ := hb.markers m ((List.mergeSort_perm _ _).subset hm)
      exact ⟨hrange hlt hle, hcell'⟩

end Block

end Plan

/-! ### The requests of a table -/

namespace Table

/-- The cells of a table with their locations, row by row. -/
def located (cells : List (List TextBlock)) : List (CellLocation × TextBlock) :=
  cells.zipIdx.flatMap fun row => row.1.zipIdx.map fun cell => (⟨row.2, cell.2⟩, cell.1)

theorem nodup_locations (cells : List (List TextBlock)) :
    ((located cells).map (·.1)).Nodup := by
  have hindices {α : Type} (as : List α) : (as.zipIdx.map (·.2)).Nodup := by
    rw [List.zipIdx_map_snd]
    exact List.nodup_range'
  rw [located, List.map_flatMap]
  refine List.nodup_flatMap.mpr ⟨fun row _ => ?_, ?_⟩
  · rw [List.map_map]
    have hcolumns := hindices row.1
    refine List.Nodup.of_map CellLocation.columnIndex ?_
    rwa [List.map_map]
  · refine (List.pairwise_map.mp (hindices cells)).imp fun hne => ?_
    intro l hl hl'
    simp only [List.map_map, List.mem_map] at hl hl'
    obtain ⟨_, -, rfl⟩ := hl
    obtain ⟨_, -, heq⟩ := hl'
    exact hne (congrArg CellLocation.rowIndex heq).symm

/-- A table is as wide as each of its rows at least. -/
theorem length_le_columns {cells : List (List TextBlock)} {row : List TextBlock}
    (h : row ∈ cells) : row.length ≤ (ofCells cells).columns := by
  show row.length ≤ (cells.map List.length).foldl max 0
  rw [List.foldl_eq_foldr]
  exact List.le_max_of_le (List.mem_map_of_mem h) (Nat.le_refl _)

/-- Every cell lies within a table that is made of its cells. -/
theorem mem_located {cells : List (List TextBlock)} {l : CellLocation} {b : TextBlock}
    (h : (l, b) ∈ located cells) :
    l.rowIndex < (ofCells cells).rows ∧ l.columnIndex < (ofCells cells).columns ∧
      ∃ row ∈ cells, b ∈ row := by
  obtain ⟨⟨row, i⟩, hrow, hmem⟩ := List.mem_flatMap.mp h
  obtain ⟨⟨cell, j⟩, hcell, heq⟩ := List.mem_map.mp hmem
  obtain ⟨rfl, rfl⟩ := Prod.mk.inj heq
  have hrow' : row ∈ cells := List.fst_mem_of_mem_zipIdx hrow
  have hi := (List.mem_zipIdx hrow).2.1
  have hj := (List.mem_zipIdx hcell).2.1
  rw [Nat.zero_add] at hi hj
  exact ⟨hi, hj.trans_le (length_le_columns hrow'), row, hrow', List.fst_mem_of_mem_zipIdx hcell⟩

end Table

namespace Plan

theorem rowRequests_eq (tableId : String) (row column : Nat) (cells : List TextBlock) :
    rowRequests tableId row column cells =
      ((cells.zipIdx column).map fun cell => ((⟨row, cell.2⟩ : CellLocation), cell.1)).flatMap
        fun cell => textRequests tableId (some cell.1) cell.2 := by
  induction cells generalizing column with
  | nil => rfl
  | cons cell cells ih =>
      rw [rowRequests, ih, List.zipIdx_cons, List.map_cons, List.flatMap_cons]

theorem cellRequests_eq (tableId : String) (cells : List (List TextBlock)) :
    cellRequests tableId 0 cells =
      (Table.located cells).flatMap fun cell => textRequests tableId (some cell.1) cell.2 := by
  have hrows : ∀ row, cellRequests tableId row cells =
      ((cells.zipIdx row).flatMap fun row => row.1.zipIdx.map fun cell =>
        ((⟨row.2, cell.2⟩ : CellLocation), cell.1)).flatMap
          fun cell => textRequests tableId (some cell.1) cell.2 := by
    induction cells with
    | nil => exact fun _ => rfl
    | cons cells rows ih =>
        intro row
        rw [cellRequests, ih, rowRequests_eq, List.zipIdx_cons, List.flatMap_cons,
          List.flatMap_append]
  exact hrows 0

/-- Each cell of a table is inserted at most once. -/
theorem nodup_insertTargets_cellRequests (tableId : String) (cells : List (List TextBlock)) :
    (insertTargets (cellRequests tableId 0 cells)).Nodup := by
  have hlocations : ((Table.located cells).map fun cell =>
      (⟨tableId, some cell.1⟩ : Target)).Nodup := by
    refine List.Nodup.of_map Target.cell ?_
    have hsome := (Table.nodup_locations cells).map (Option.some_injective CellLocation)
    rw [List.map_map] at hsome ⊢
    exact hsome
  have htargets : ∀ located : List (CellLocation × TextBlock),
      (insertTargets (located.flatMap fun cell =>
        textRequests tableId (some cell.1) cell.2)).Sublist
          (located.map fun cell => ⟨tableId, some cell.1⟩) := by
    intro located
    induction located with
    | nil => exact List.nil_sublist _
    | cons cell located ih =>
        rw [List.flatMap_cons, insertTargets_append, List.map_cons]
        exact (insertTargets_textRequests tableId (some cell.1) cell.2).append ih
  rw [cellRequests_eq]
  exact (htargets _).nodup hlocations

theorem mem_cellRequests {tableId : String} {cells : List (List TextBlock)} {r : Request}
    (h : r ∈ cellRequests tableId 0 cells) : ∃ cell b, r ∈ textRequests tableId cell b := by
  rw [cellRequests_eq] at h
  obtain ⟨cell, -, hr⟩ := List.mem_flatMap.mp h
  exact ⟨some cell.1, cell.2, hr⟩

/-- The cells of a table find it, and their texts, if it was created before. -/
theorem readyFrom_cellRequests {before : List Request} {table : CreateTable}
    {cells : List (List TextBlock)} (htable : .createTable table ∈ before)
    (hrows : table.rows = (Table.ofCells cells).rows)
    (hcolumns : table.columns = (Table.ofCells cells).columns)
    (hcells : ∀ row ∈ cells, ∀ b ∈ row, b.Sealed) :
    Request.ReadyFrom before (cellRequests table.objectId 0 cells) := by
  rw [cellRequests_eq]
  refine Request.readyFrom_flatMap fun cell hcell => ?_
  obtain ⟨hrow, hcolumn, row, hmem, hb⟩ := Table.mem_located hcell
  refine readyFrom_textRequests (hcells row hmem cell.2 hb) ?_
  intro l hl
  obtain rfl : cell.1 = l := Option.some.inj hl
  exact ⟨table, htable, rfl, hrows ▸ hrow, hcolumns ▸ hcolumn⟩

end Plan

end SlideDeck

/-
The rows of tables in comments.

A comment has no tables: a row is a paragraph there, with tabs between the texts of its cells.  A
tab is written in front of a cell if there is something in front of it in the paragraph.  So the
tabs are all there if the first cell has text and no cell but the last one ends a paragraph by
itself; the tabs behind cells without text that a row begins with are left out.

What is written before and behind a table does not matter, since each row begins a paragraph and the
text of a comment only grows.
-/
import SlideDeck.Proofs.Draft.Noted

namespace SlideDeck

/-! ### Rows as they should be and as they are -/

namespace Text

/-- Whether text that is written next begins a paragraph. -/
def isParted (s : String) : Bool := s.isEmpty || s.toList.getLast? == some '\n'

/-- The text with its last paragraph ended. -/
def parted (s : String) : String := if isParted s then s else s ++ "\n"

end Text

/-- The text of a cell. -/
def cellText (cell : List InlineToken) : String := String.join (cell.map (·.val.noteText))

theorem cellText_cons (t : InlineToken) (cell : List InlineToken) :
    cellText (t :: cell) = t.val.noteText ++ cellText cell := String.join_cons

/-- Adds a cell to the text of a comment, with a tab between it and what stands in front of it in
the paragraph. -/
def addCell (s : String) (cell : List InlineToken) : String :=
  (if Text.isParted s then s else s ++ "\t") ++ cellText cell

/-- What is written of a row. -/
def rowText (row : List (List InlineToken)) : String := row.foldl addCell ""

/-- The texts of the cells of a row with a tab between any two. -/
def tabbed (row : List (List InlineToken)) : String := "\t".intercalate (row.map cellText)

namespace Piece

theorem forall_mem_group {P : Token → Prop} {first last : Token} {middle : List Token}
    (hfirst : P first) (hlast : P last) :
    (∀ t ∈ first :: (middle ++ [last]), P t) ↔ ∀ t ∈ middle, P t := by
  rw [List.forall_mem_cons, List.forall_mem_append, List.forall_mem_singleton]
  exact ⟨fun h => h.2.1, fun h => ⟨hfirst, h, hlast⟩⟩

/-- What holds of the tokens around its cells holds of all tokens of a table if it holds of those
in its cells. -/
theorem forall_mem_table {P : Token → Prop} (htable : P .tableOpen ∧ P .tableClose)
    (hrow : P .tableRowOpen ∧ P .tableRowClose) (hcell : P .tableCellOpen ∧ P .tableCellClose)
    (rows : List (List (List InlineToken))) :
    (∀ t ∈ (table rows).tokens, P t) ↔ ∀ row ∈ rows, ∀ cell ∈ row, ∀ t ∈ cell, P t.val := by
  simp only [tokens, rowTokens, cellTokens, inlineTokens, forall_mem_group htable.1 htable.2,
    forall_mem_group hrow.1 hrow.2, forall_mem_group hcell.1 hcell.2, List.forall_mem_flatMap,
    List.forall_mem_map]

end Piece

/-! ### What is written of a table -/

namespace Draft

variable {d : Draft} {text : String}

theorem continue_inlineTokens (content : List InlineToken) :
    Continue (Piece.inlineTokens content) fun s => s ++ cellText content := by
  induction content with
  | nil =>
      intro d d' text h hrun
      obtain rfl := Logged.pure_ok_iff.mp hrun
      show d.Noted (text ++ "")
      rwa [String.append_empty]
  | cons t content ih =>
      have hfirst : Continue [t.val] fun s => s ++ t.val.noteText :=
        continue_single fun _ _ _ h htake => h.take_inline t.2 htake
      intro d d' text h hrun
      have hall := hfirst.append ih h hrun
      rwa [Function.comp_apply, String.append_assoc, ← cellText_cons] at hall

theorem continue_cellTokens (cell : List InlineToken) :
    Continue (Piece.cellTokens cell) fun s => addCell s cell := by
  have hopen : Continue [.tableCellOpen] fun s => if Text.isParted s then s else s ++ "\t" := by
    refine continue_single fun d d' text h htake => ?_
    obtain rfl := Logged.pure_ok_iff.mp htake
    have hparted : d.block.atParagraphStart = Text.isParted text := by rw [← h.text]; rfl
    unfold openCell
    simp only [h.mode, hparted]
    split
    · exact h
    · exact ⟨h.mode, h.table, by rw [← h.text]; rfl⟩
  have hclose : Continue [.tableCellClose] id := by
    refine continue_single fun d d' text h htake => ?_
    obtain rfl := Except.ok.inj (h.outcome_closeCell.symm.trans htake)
    exact h
  exact hopen.append ((continue_inlineTokens cell).append hclose)

/-- The end of a paragraph in a comment. -/
theorem Noted.breakParagraph (h : d.Noted text) : d.breakParagraph.Noted (Text.parted text) := by
  refine ⟨h.mode, h.table, ?_⟩
  rw [← h.text]
  show d.block.breakParagraph.text.rawText = _
  unfold OpenBlock.breakParagraph Text.parted
  have hparted : d.block.atParagraphStart = Text.isParted d.block.text.rawText := rfl
  rw [hparted]
  split <;> rfl

theorem continue_rowTokens (row : List (List InlineToken)) :
    Continue (Piece.rowTokens row) fun s => Text.parted (row.foldl addCell s) := by
  have hopen : Continue [.tableRowOpen] id := by
    refine continue_single fun d d' text h htake => ?_
    obtain rfl := Logged.pure_ok_iff.mp htake
    exact ⟨h.mode, by rw [openRow, h.table, Option.map_none], h.text⟩
  have hclose : Continue [.tableRowClose] Text.parted := by
    refine continue_single fun d d' text h htake => ?_
    obtain rfl := Logged.pure_ok_iff.mp htake
    rw [h.closeRow_eq]
    exact h.breakParagraph
  exact hopen.append ((continue_flatMap continue_cellTokens row).append hclose)

theorem continue_table (rows : List (List (List InlineToken))) :
    Continue (Piece.table rows).tokens fun s =>
      rows.foldl (fun s row => Text.parted (row.foldl addCell s)) (Text.parted s) := by
  have hopen : Continue [.tableOpen] Text.parted := by
    refine continue_single fun d d' text h htake => ?_
    obtain rfl := Logged.pure_ok_iff.mp htake
    rw [h.openTable_eq]
    exact h.breakParagraph
  have hclose : Continue [.tableClose] id := by
    refine continue_single fun d d' text h htake => ?_
    obtain rfl := Except.ok.inj ((outcome_closeTable_none h.table).symm.trans htake)
    exact h
  exact hopen.append ((continue_flatMap continue_rowTokens rows).append hclose)

theorem Noted.exists_table_iff (h : d.Noted text) (rows : List (List (List InlineToken))) :
    (∃ d', (d.run skipComment (Piece.table rows).tokens).outcome = .ok d') ↔
      ∀ row ∈ rows, ∀ cell ∈ row, ∀ t ∈ cell, t.val.ParsableHtml := by
  have hinline (t : InlineToken) : t.val.opensList = false := by
    obtain ⟨t, ht⟩ := t
    cases t with
    | listOpen kind => cases ht
    | _ => rfl
  have hlists : ∀ t ∈ (Piece.table rows).tokens, t.opensList = false :=
    (Piece.forall_mem_table (P := (·.opensList = false)) ⟨rfl, rfl⟩ ⟨rfl, rfl⟩ ⟨rfl, rfl⟩ rows).mpr
      fun _ _ _ _ t _ => hinline t
  rw [h.exists_run_iff hlists]
  exact Piece.forall_mem_table ⟨trivial, trivial⟩ ⟨trivial, trivial⟩ ⟨trivial, trivial⟩ rows

end Draft

/-! ### Rows and tabs -/

namespace Text

theorem isParted_eq (s : String) : isParted s = s.toList.getLast?.all (· == '\n') := by
  cases hlast : s.toList.getLast? with
  | none =>
      obtain rfl := String.toList_eq_nil_iff.mp (List.getLast?_eq_none_iff.mp hlast)
      rfl
  | some c =>
      have hempty : s.isEmpty = false := by
        rw [Bool.eq_false_iff, ne_eq, String.isEmpty_iff]
        rintro rfl
        cases hlast
      rw [isParted, hempty, hlast]
      rfl

variable {s : String} (r : String)

theorem isParted_append (h : isParted s = true) : isParted (s ++ r) = isParted r := by
  rw [isParted_eq] at h
  rw [isParted_eq, isParted_eq, String.toList_append, List.getLast?_append]
  cases r.toList.getLast? with
  | none => exact h
  | some c => rfl

/-- Behind a tab there is something in the paragraph. -/
theorem isParted_tab (s r : String) :
    isParted (s ++ "\t" ++ r) = false ↔ r.toList.getLast? ≠ some '\n' := by
  have htab : (s ++ "\t").toList.getLast? = some '\t' := by simp
  rw [isParted_eq, String.toList_append, List.getLast?_append, htab]
  cases r.toList.getLast? <;> simp

theorem isParted_eq_false (s : String) :
    isParted s = false ↔ s ≠ "" ∧ s.toList.getLast? ≠ some '\n' := by
  simp [isParted]

theorem parted_append (h : isParted s = true) : parted (s ++ r) = s ++ parted r := by
  unfold parted
  rw [isParted_append r h]
  split
  · rfl
  · rw [String.append_assoc]

theorem isParted_parted (s : String) : isParted (parted s) = true := by
  unfold parted
  split
  · assumption
  · simp [isParted]

theorem count_tab_parted (s : String) : (parted s).toList.count '\t' = s.toList.count '\t' := by
  unfold parted
  split
  · rfl
  · simp

end Text

variable (row : List (List InlineToken))

theorem foldl_addCell {s : String} (h : Text.isParted s = true) (r : String) :
    row.foldl addCell (s ++ r) = s ++ row.foldl addCell r := by
  induction row generalizing r with
  | nil => rfl
  | cons cell row ih =>
      have hcell : addCell (s ++ r) cell = s ++ addCell r cell := by
        unfold addCell
        rw [Text.isParted_append r h]
        split <;> simp only [String.append_assoc]
      rw [List.foldl_cons, List.foldl_cons, hcell, ih]

/-- Each row of a table is written by itself. -/
theorem foldl_rows {s : String} (h : Text.isParted s = true)
    (rows : List (List (List InlineToken))) :
    rows.foldl (fun s row => Text.parted (row.foldl addCell s)) s =
      s ++ String.join (rows.map fun row => Text.parted (rowText row)) := by
  induction rows generalizing s with
  | nil => simp
  | cons row rows ih =>
      have hrow : Text.parted (row.foldl addCell s) = s ++ Text.parted (rowText row) := by
        have hfold := foldl_addCell row h ""
        rw [String.append_empty] at hfold
        rw [hfold, Text.parted_append _ h]
        rfl
      rw [List.foldl_cons, ih (Text.isParted_parted _), hrow, List.map_cons, String.join_cons,
        String.append_assoc]

/-- The cells behind the first one, each with a tab in front of it. -/
def tabsAndCells (row : List (List InlineToken)) : String :=
  String.join (row.map fun cell => "\t" ++ cellText cell)

theorem tabbed_cons (cell : List InlineToken) :
    tabbed (cell :: row) = cellText cell ++ tabsAndCells row := by
  induction row generalizing cell with
  | nil => simp [tabbed, tabsAndCells]
  | cons next row ih =>
      have hrest : tabbed (cell :: next :: row) =
          cellText cell ++ ("\t" ++ tabbed (next :: row)) := by
        unfold tabbed
        rw [List.map_cons, List.map_cons, String.intercalate_cons_cons, String.append_assoc]
      rw [hrest, ih, tabsAndCells, tabsAndCells, List.map_cons, String.join_cons,
        String.append_assoc]

/-- Each of some cells has something in front of it in the paragraph that it stands in. -/
def AllBehind (s : String) : List (List InlineToken) → Prop
  | [] => True
  | cell :: row => Text.isParted s = false ∧ AllBehind (s ++ "\t" ++ cellText cell) row

/-- Cells that have something in front of them are all written with their tabs. -/
theorem foldl_addCell_eq {s : String} (h : AllBehind s row) :
    row.foldl addCell s = s ++ tabsAndCells row := by
  induction row generalizing s with
  | nil => simp [tabsAndCells]
  | cons cell row ih =>
      obtain ⟨hs, hrest⟩ := h
      have hcell : addCell s cell = s ++ "\t" ++ cellText cell := by simp [addCell, hs]
      rw [List.foldl_cons, hcell, ih hrest, tabsAndCells, tabsAndCells, List.map_cons,
        String.join_cons]
      simp only [String.append_assoc]

theorem count_addCell_le (s : String) (cell : List InlineToken) :
    (addCell s cell).toList.count '\t' ≤ (s ++ "\t" ++ cellText cell).toList.count '\t' := by
  unfold addCell
  split
  · simp
  · exact le_rfl

/-- At most the tabs are written that part the cells. -/
theorem count_foldl_addCell_le (s : String) :
    (row.foldl addCell s).toList.count '\t' ≤ (s ++ tabsAndCells row).toList.count '\t' := by
  induction row generalizing s with
  | nil => simp [tabsAndCells]
  | cons cell row ih =>
      have hcell := count_addCell_le s cell
      have hrest := ih (addCell s cell)
      rw [List.foldl_cons, tabsAndCells, List.map_cons, String.join_cons]
      simp only [String.toList_append, List.count_append, tabsAndCells] at hcell hrest ⊢
      omega

/-- One is missing if there is nothing in front of a cell. -/
theorem count_foldl_addCell_lt {s : String} (h : ¬AllBehind s row) :
    (row.foldl addCell s).toList.count '\t' < (s ++ tabsAndCells row).toList.count '\t' := by
  induction row generalizing s with
  | nil => exact absurd trivial h
  | cons cell row ih =>
      rw [List.foldl_cons, tabsAndCells, List.map_cons, String.join_cons]
      by_cases hs : Text.isParted s = true
      · have hcell : addCell s cell = s ++ cellText cell := by simp [addCell, hs]
        have hrest := count_foldl_addCell_le row (addCell s cell)
        simp only [hcell, String.toList_append, List.count_append, tabsAndCells] at hrest ⊢
        have htab : "\t".toList.count '\t' = 1 := rfl
        omega
      · have hs := Bool.eq_false_iff.mpr hs
        have hcell : addCell s cell = s ++ "\t" ++ cellText cell := by simp [addCell, hs]
        have hrest := ih (s := addCell s cell) fun hbehind => h ⟨hs, by rwa [← hcell]⟩
        simp only [hcell, String.toList_append, List.count_append, tabsAndCells] at hrest ⊢
        omega

theorem allBehind_cons_iff (s : String) (cell : List InlineToken) :
    AllBehind s (cell :: row) ↔ Text.isParted s = false ∧
      ∀ c ∈ (cell :: row).dropLast, (cellText c).toList.getLast? ≠ some '\n' := by
  induction row generalizing s cell with
  | nil => simp [AllBehind]
  | cons next row ih =>
      rw [AllBehind, ih, Text.isParted_tab, List.dropLast_cons_cons, List.forall_mem_cons]

/-- Each tab of a row is written: the first cell has text, and no cell but the last one ends a
paragraph. -/
def KeepsTabs : List (List InlineToken) → Prop
  | [] => True
  | first :: rest =>
    rest = [] ∨ cellText first ≠ "" ∧
      ∀ cell ∈ (first :: rest).dropLast, (cellText cell).toList.getLast? ≠ some '\n'

theorem allBehind_iff (first : List InlineToken) :
    AllBehind (cellText first) row ↔ KeepsTabs (first :: row) := by
  cases row with
  | nil => simp [AllBehind, KeepsTabs]
  | cons next row =>
      rw [allBehind_cons_iff, Text.isParted_eq_false, KeepsTabs, List.dropLast_cons_cons,
        List.forall_mem_cons, and_assoc]
      simp

theorem rowText_cons (first : List InlineToken) :
    rowText (first :: row) = row.foldl addCell (cellText first) := by
  have hfirst : addCell "" first = cellText first := String.empty_append
  rw [rowText, List.foldl_cons, hfirst]

/-- A row is written as it should be if none of its tabs is missing. -/
theorem rowText_eq (h : KeepsTabs row) : rowText row = tabbed row := by
  cases row with
  | nil => rfl
  | cons first row =>
      rw [rowText_cons, foldl_addCell_eq row ((allBehind_iff row first).mpr h), tabbed_cons]

theorem parted_rowText_eq_iff :
    Text.parted (rowText row) = Text.parted (tabbed row) ↔ KeepsTabs row := by
  refine ⟨fun heq => ?_, fun h => by rw [rowText_eq row h]⟩
  cases row with
  | nil => trivial
  | cons first row =>
      by_contra hlost
      rw [← allBehind_iff] at hlost
      have hlt := count_foldl_addCell_lt row hlost
      rw [← rowText_cons, ← tabbed_cons, ← Text.count_tab_parted, heq, Text.count_tab_parted] at hlt
      exact lt_irrefl _ hlt

/-- The cells without text that a row begins with are left out. -/
theorem rowText_eq_tabbed_dropWhile
    (h : ∀ cell ∈ row, (cellText cell).toList.getLast? ≠ some '\n') :
    rowText row = tabbed (row.dropWhile fun cell => cellText cell == "") := by
  induction row with
  | nil => rfl
  | cons first row ih =>
      by_cases hfirst : cellText first = ""
      · have hrest := ih fun cell hcell => h cell (List.mem_cons_of_mem _ hcell)
        rw [List.dropWhile_cons_of_pos (by simpa using hfirst), ← hrest, rowText_cons, hfirst]
        rfl
      · rw [List.dropWhile_cons_of_neg (by simpa using hfirst)]
        exact rowText_eq _ (.inr ⟨hfirst, fun cell hcell => h cell (List.dropLast_subset _ hcell)⟩)

/-- **A row of a table in a comment is a paragraph** in which the texts of its cells stand with a
tab between any two exactly if each of its tabs has something in front of it.  Where no cell ends a
paragraph, the cells without text that the row begins with are left out.  A table is refused only if
the inline HTML in a cell cannot be parsed. -/
theorem rows_notesOfTokens {before : List Token} {d : Draft}
    (hbefore : ((Draft.empty .notes).run Draft.skipComment before).outcome = .ok d)
    (rows : List (List (List InlineToken))) :
    ((∃ d', (d.run Draft.skipComment (Piece.table rows).tokens).outcome = .ok d') ↔
      ∀ row ∈ rows, ∀ cell ∈ row, ∀ t ∈ cell, t.val.ParsableHtml) ∧
    (∀ after text,
      (Draft.notesOfTokens (before ++ (Piece.table rows).tokens ++ after)).outcome = .ok text →
      ∃ back, text = TextBlock.trimNewlines (Text.parted d.block.text.rawText ++
        String.join (rows.map fun row => Text.parted (rowText row)) ++ back)) ∧
    ∀ row ∈ rows, (Text.parted (rowText row) = Text.parted (tabbed row) ↔ KeepsTabs row) ∧
      ((∀ cell ∈ row, (cellText cell).toList.getLast? ≠ some '\n') →
        rowText row = tabbed (row.dropWhile fun cell => cellText cell == "")) := by
  obtain ⟨more, hd⟩ := Draft.noted_empty.run hbefore
  have hd : d.Noted d.block.text.rawText := ⟨hd.mode, hd.table, rfl⟩
  refine ⟨hd.exists_table_iff rows, fun after text hnotes => ?_, fun row _ =>
    ⟨parted_rowText_eq_iff row, rowText_eq_tabbed_dropWhile row⟩⟩
  obtain ⟨d', hrun, hfinish⟩ := Logged.bind_ok_iff.mp hnotes
  obtain rfl := Logged.pure_ok_iff.mp hfinish
  rw [Draft.run, List.foldlM_append] at hrun
  obtain ⟨d₂, hrun, hafter⟩ := Logged.bind_ok_iff.mp hrun
  rw [List.foldlM_append] at hrun
  obtain ⟨d₁, hfirst, htable⟩ := Logged.bind_ok_iff.mp hrun
  obtain rfl := Except.ok.inj (hbefore.symm.trans hfirst)
  have hrows := Draft.continue_table rows hd htable
  simp only [foldl_rows (Text.isParted_parted _)] at hrows
  obtain ⟨back, hback⟩ := hrows.run hafter
  refine ⟨back, ?_⟩
  rw [← hback.text]
  rfl

/-- A row with text in its first cell and its last one. -/
def sparseRow : List (List InlineToken) := [runningText [.text "a"], [], runningText [.text "b"]]

theorem rows_notesOfTokens_sparseRow :
    ∃ back, "x\na\t\tb\ny" =
      TextBlock.trimNewlines ("x\n" ++ Text.parted (tabbed sparseRow) ++ back) := by
  have hbefore : ((Draft.empty .notes).run Draft.skipComment [.text "x"]).outcome =
      .ok { (Draft.empty .notes).append "x" with started := true } := rfl
  obtain ⟨-, hwritten, hrows⟩ := rows_notesOfTokens hbefore [sparseRow]
  have hnotes : (Draft.notesOfTokens ([.text "x"] ++ (Piece.table [sparseRow]).tokens ++
      [.text "y"])).outcome = .ok "x\na\t\tb\ny" := by decide +kernel
  obtain ⟨back, htext⟩ := hwritten [.text "y"] _ hnotes
  have hkept : Text.parted (rowText sparseRow) = Text.parted (tabbed sparseRow) := by
    refine (hrows sparseRow (List.mem_singleton_self _)).1.mpr (.inr ⟨?_, ?_⟩) <;> decide +kernel
  refine ⟨back, htext.trans ?_⟩
  rw [List.map_singleton, String.join_cons, String.join_nil, String.append_empty, hkept]
  rfl

/-- Two rows, of which the first one has text in both cells and the second one in its last cell. -/
def gappedRows : List (List (List InlineToken)) :=
  [[runningText [.text "a"], runningText [.text "b"]], [[], runningText [.text "c"]]]

/-- The tab that the second row should begin with is not written. -/
theorem gappedRows_not_kept :
    (Draft.notesOfTokens (Piece.table gappedRows).tokens).outcome = .ok "a\tb\nc" ∧
      TextBlock.trimNewlines (String.join (gappedRows.map fun row => Text.parted (tabbed row))) =
        "a\tb\n\tc" := by
  decide +kernel

end SlideDeck

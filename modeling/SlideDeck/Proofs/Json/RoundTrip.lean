/-
Reading undoes writing.

A list of slides, a batch and a presentation are read back as they were, with everything that is
nested in them, if all their numbers are finite.  Each type is shown to survive from the types of
its fields.  Pages and the properties of slides hold each other, so these two are shown together,
by induction on the page that is written.

A host may therefore keep the slides as JSON between the creation of slides and their population:
what is planned for the slides that are read back is what is planned for the slides themselves.
-/
import SlideDeck.Exchange
import SlideDeck.Proofs.Json.Style

namespace SlideDeck

open Json

/-! ### Slides -/

/-- The style of a run is finite. -/
def StyleRun.isFinite (r : StyleRun) : Bool := r.style.isFinite

theorem StyleRun.survives {r : StyleRun} (h : r.isFinite = true) : Survives toJson ofJson? r := by
  have hfields : r.toJson.fields? ["start", "end", "style"] =
      some [ofNat r.start, ofNat r.stop, r.style.toJson] := by
    simp only [toJson, singleton_eq_present, cons_present]
    exact fields?_present rfl (by decide)
  refine ⟨?_, rfl⟩
  simp only [ofJson?, hfields, (survives_ofNat _).read_write, (TextStyle.survives h).read_write]
  rfl

theorem ListKind.survives (k : ListKind) : Survives toJson ofJson? k :=
  survives_variant (by decide) (by cases k <;> decide)

theorem ListMarker.survives (m : ListMarker) : Survives toJson ofJson? m := by
  have hfields : m.toJson.fields? ["start", "end", "type"] =
      some [ofNat m.start, ofNat m.stop, m.kind.toJson] := by
    simp only [toJson, singleton_eq_present, cons_present]
    exact fields?_present rfl (by decide)
  refine ⟨?_, rfl⟩
  simp only [ofJson?, hfields, (survives_ofNat _).read_write, (ListKind.survives _).read_write]
  rfl

/-- The styles of a block are finite. -/
def TextBlock.isFinite (b : TextBlock) : Bool := b.runs.all (·.isFinite)

theorem TextBlock.survives {b : TextBlock} (h : b.isFinite = true) :
    Survives toJson ofJson? b := by
  have hfields : b.toJson.fields? ["rawText", "runs", "listMarkers", "big"] =
      some [string b.rawText, ofList StyleRun.toJson b.runs,
        ofList ListMarker.toJson b.listMarkers, bool b.big] := by
    simp only [toJson, singleton_eq_present, cons_present]
    exact fields?_present rfl (by decide)
  have hruns := survives_ofList_of_all h fun _ => StyleRun.survives
  have hmarkers := survives_ofList fun m (_ : m ∈ b.listMarkers) => ListMarker.survives m
  refine ⟨?_, rfl⟩
  simp only [ofJson?, hfields, (survives_string _).read_write, hruns.read_write,
    hmarkers.read_write, (survives_bool _).read_write]
  rfl

/-- The cells of a table are finite. -/
def Table.isFinite (t : Table) : Bool := t.cells.all fun row => row.all (·.isFinite)

theorem Table.survives {t : Table} (h : t.isFinite = true) : Survives toJson ofJson? t := by
  have hfields : t.toJson.fields? ["rows", "columns", "cells"] =
      some [ofNat t.rows, ofNat t.columns, ofList (ofList TextBlock.toJson) t.cells] := by
    simp only [toJson, singleton_eq_present, cons_present]
    exact fields?_present rfl (by decide)
  have hcells := survives_ofList_of_all h fun _ hrow =>
    survives_ofList_of_all hrow fun _ => TextBlock.survives
  refine ⟨?_, rfl⟩
  simp only [ofJson?, hfields, (survives_ofNat _).read_write, cellsOfJson?, hcells.read_write]
  rfl

/-- The text of a body is finite. -/
def Body.isFinite (b : Body) : Bool := b.text.isFinite

theorem Body.survives {b : Body} (h : b.isFinite = true) : Survives toJson ofJson? b := by
  have hfields : b.toJson.fields? ["text"] = some [b.text.toJson] := by
    simp only [toJson, singleton_eq_present]
    exact fields?_present rfl (by decide)
  refine ⟨?_, rfl⟩
  simp only [ofJson?, hfields, (TextBlock.survives h).read_write]
  rfl

theorem Image.survives (i : Image) : Survives toJson ofJson? i := by
  have hfields : i.toJson.fields? ["url", "alt", "background"] =
      some [string i.url, string i.alt, bool i.background] := by
    simp only [toJson, singleton_eq_present, cons_present]
    exact fields?_present rfl (by decide)
  refine ⟨?_, rfl⟩
  simp only [ofJson?, hfields, (survives_string _).read_write, (survives_bool _).read_write]
  rfl

/-- All blocks of a slide are finite. -/
def Slide.isFinite (s : Slide) : Bool :=
  s.title.all (·.isFinite) && s.subtitle.all (·.isFinite) && s.bodies.all (·.isFinite) &&
    s.tables.all (·.isFinite)

theorem Slide.survives {s : Slide} (h : s.isFinite = true) : Survives toJson ofJson? s := by
  simp only [isFinite, Bool.and_eq_true] at h
  obtain ⟨⟨⟨htitle, hsubtitle⟩, hbodies⟩, htables⟩ := h
  have hfields : s.toJson.fields? ["title", "subtitle", "bodies", "tables", "images", "notes",
        "customLayout", "objectId"] =
      some [nullable TextBlock.toJson s.title, nullable TextBlock.toJson s.subtitle,
        ofList Body.toJson s.bodies, ofList Table.toJson s.tables, ofList Image.toJson s.images,
        nullable string s.notes, nullable string s.customLayout, nullable string s.objectId] := by
    simp only [toJson, singleton_eq_present, cons_present]
    exact fields?_present rfl (by decide)
  have hblock : ∀ {b? : Option TextBlock}, b?.all (·.isFinite) = true →
      (nullable TextBlock.toJson b?).toOption? TextBlock.ofJson? = some b? := fun hall =>
    toOption?_nullable_of_all hall fun _ => TextBlock.survives
  have hstring : ∀ s? : Option String, (nullable string s?).toOption? toString? = some s? :=
    fun s? => toOption?_nullable fun s _ => survives_string s
  have himages := survives_ofList fun i (_ : i ∈ s.images) => Image.survives i
  refine ⟨?_, rfl⟩
  simp only [ofJson?, hfields, hblock htitle, hblock hsubtitle, hstring,
    (survives_ofList_of_all hbodies fun _ => Body.survives).read_write,
    (survives_ofList_of_all htables fun _ => Table.survives).read_write, himages.read_write]
  rfl

/-! ### Parts of requests -/

theorem CellLocation.survives (l : CellLocation) : Survives toJson ofJson? l := by
  have hfields : l.toJson.fields? ["rowIndex", "columnIndex"] =
      some [ofNat l.rowIndex, ofNat l.columnIndex] := by
    simp only [toJson, singleton_eq_present, cons_present]
    exact fields?_present rfl (by decide)
  refine ⟨?_, rfl⟩
  simp only [ofJson?, hfields, (survives_ofNat _).read_write]
  rfl

theorem RangeType.survives (t : RangeType) : Survives toJson ofJson? t :=
  survives_variant (by decide) (by cases t <;> decide)

theorem TextRange.survives (r : TextRange) : Survives toJson ofJson? r := by
  have hfields : r.toJson.fields? ["startIndex", "endIndex", "type"] =
      some [ofNat r.startIndex, ofNat r.endIndex, r.type.toJson] := by
    simp only [toJson, singleton_eq_present, cons_present]
    exact fields?_present rfl (by decide)
  refine ⟨?_, rfl⟩
  simp only [ofJson?, hfields, (survives_ofNat _).read_write, (RangeType.survives _).read_write]
  rfl

theorem BulletPreset.survives (p : BulletPreset) : Survives toJson ofJson? p :=
  survives_variant (by decide) (by cases p <;> decide)

theorem ZOrderOperation.survives (o : ZOrderOperation) : Survives toJson ofJson? o :=
  survives_variant (by decide) (by cases o <;> decide)

/-- The size and the placement of an element are finite, as far as they are given. -/
def ElementProperties.isFinite (p : ElementProperties) : Bool :=
  p.size.all (·.isFinite) && p.transform.all (·.isFinite)

theorem ElementProperties.survives {p : ElementProperties} (h : p.isFinite = true) :
    Survives toJson ofJson? p := by
  obtain ⟨hsize, htransform⟩ := Bool.and_eq_true_iff.mp h
  have hfields : p.toJson.fields? ["pageObjectId", "size", "transform"] =
      some [string p.pageObjectId, nullable Size.toJson p.size,
        nullable AffineTransform.toJson p.transform] := by
    simp only [toJson, optionalField_eq_present, cons_present, ← present_append, nullable_eq_getD]
    exact fields?_present rfl (by decide)
  refine ⟨?_, rfl⟩
  simp only [ofJson?, hfields, (survives_string _).read_write,
    toOption?_nullable_of_all hsize fun _ => Size.survives,
    toOption?_nullable_of_all htransform fun _ => AffineTransform.survives]
  rfl

/-! ### Requests -/

theorem CreateSlide.layoutOfJson?_write (id : String) :
    layoutOfJson? (object [("layoutId", string id)]) = some id := by
  have hfields : (object [("layoutId", string id)]).fields? ["layoutId"] = some [string id] := by
    simp only [singleton_eq_present]
    exact fields?_present rfl (by decide)
  simp only [layoutOfJson?, hfields, (survives_string id).read_write]

theorem CreateSlide.survives (r : CreateSlide) : Survives toJson ofJson? r := by
  have hfields : r.toJson.fields? ["objectId", "insertionIndex", "slideLayoutReference"] =
      some [string r.objectId, nullable ofNat r.insertionIndex,
        object [("layoutId", string r.layoutId)]] := by
    simp only [toJson, optionalField_eq_present, singleton_eq_present "slideLayoutReference",
      cons_present, ← present_append, nullable_eq_getD]
    exact fields?_present rfl (by decide)
  refine ⟨?_, rfl⟩
  simp only [ofJson?, hfields, (survives_string _).read_write,
    toOption?_nullable fun n _ => survives_ofNat n, layoutOfJson?_write]
  rfl

theorem InsertText.survives (r : InsertText) : Survives toJson ofJson? r := by
  have hfields : r.toJson.fields? ["objectId", "cellLocation", "text", "insertionIndex"] =
      some [string r.objectId, nullable CellLocation.toJson r.cellLocation, string r.text,
        ofNat r.insertionIndex] := by
    simp only [toJson, optionalField_eq_present, singleton_eq_present, cons_present,
      ← present_append, nullable_eq_getD]
    exact fields?_present rfl (by decide)
  refine ⟨?_, rfl⟩
  simp only [ofJson?, hfields, (survives_string _).read_write, (survives_ofNat _).read_write,
    toOption?_nullable fun l _ => CellLocation.survives l]
  rfl

theorem UpdateTextStyle.survives {r : UpdateTextStyle} (h : r.style.isFinite = true) :
    Survives toJson ofJson? r := by
  have hfields : r.toJson.fields? ["objectId", "cellLocation", "style", "textRange", "fields"] =
      some [string r.objectId, nullable CellLocation.toJson r.cellLocation, r.style.toJson,
        r.textRange.toJson, string r.fields] := by
    simp only [toJson, optionalField_eq_present, singleton_eq_present, cons_present,
      ← present_append, nullable_eq_getD]
    exact fields?_present rfl (by decide)
  refine ⟨?_, rfl⟩
  simp only [ofJson?, hfields, (survives_string _).read_write, (TextStyle.survives h).read_write,
    (TextRange.survives _).read_write, toOption?_nullable fun l _ => CellLocation.survives l]
  rfl

theorem CreateParagraphBullets.survives (r : CreateParagraphBullets) :
    Survives toJson ofJson? r := by
  have hfields : r.toJson.fields? ["objectId", "cellLocation", "textRange", "bulletPreset"] =
      some [string r.objectId, nullable CellLocation.toJson r.cellLocation, r.textRange.toJson,
        r.bulletPreset.toJson] := by
    simp only [toJson, optionalField_eq_present, singleton_eq_present, cons_present,
      ← present_append, nullable_eq_getD]
    exact fields?_present rfl (by decide)
  refine ⟨?_, rfl⟩
  simp only [ofJson?, hfields, (survives_string _).read_write, (TextRange.survives _).read_write,
    (BulletPreset.survives _).read_write, toOption?_nullable fun l _ => CellLocation.survives l]
  rfl

theorem CreateTable.survives {r : CreateTable} (h : r.elementProperties.isFinite = true) :
    Survives toJson ofJson? r := by
  have hfields : r.toJson.fields? ["objectId", "elementProperties", "rows", "columns"] =
      some [string r.objectId, r.elementProperties.toJson, ofNat r.rows, ofNat r.columns] := by
    simp only [toJson, singleton_eq_present, cons_present]
    exact fields?_present rfl (by decide)
  refine ⟨?_, rfl⟩
  simp only [ofJson?, hfields, (survives_string _).read_write, (survives_ofNat _).read_write,
    (ElementProperties.survives h).read_write]
  rfl

theorem CreateImage.survives {r : CreateImage} (h : r.elementProperties.isFinite = true) :
    Survives toJson ofJson? r := by
  have hfields : r.toJson.fields? ["objectId", "url", "elementProperties"] =
      some [string r.objectId, string r.url, r.elementProperties.toJson] := by
    simp only [toJson, singleton_eq_present, cons_present]
    exact fields?_present rfl (by decide)
  refine ⟨?_, rfl⟩
  simp only [ofJson?, hfields, (survives_string _).read_write,
    (ElementProperties.survives h).read_write]
  rfl

theorem DeleteObject.survives (r : DeleteObject) : Survives toJson ofJson? r := by
  have hfields : r.toJson.fields? ["objectId"] = some [string r.objectId] := by
    simp only [toJson, singleton_eq_present]
    exact fields?_present rfl (by decide)
  refine ⟨?_, rfl⟩
  simp only [ofJson?, hfields, (survives_string _).read_write]
  rfl

theorem UpdateZOrder.survives (r : UpdateZOrder) : Survives toJson ofJson? r := by
  have hfields : r.toJson.fields? ["pageElementObjectIds", "operation"] =
      some [ofList string r.elementIds, r.operation.toJson] := by
    simp only [toJson, singleton_eq_present, cons_present]
    exact fields?_present rfl (by decide)
  have hids := survives_ofList fun s (_ : s ∈ r.elementIds) => survives_string s
  refine ⟨?_, rfl⟩
  simp only [ofJson?, hfields, hids.read_write, (ZOrderOperation.survives _).read_write]
  rfl

/-- The numbers of a request are finite.  Only styles and elements have any. -/
def Request.isFinite : Request → Bool
  | updateTextStyle r => r.style.isFinite
  | createTable r => r.elementProperties.isFinite
  | createImage r => r.elementProperties.isFinite
  | _ => true

/-- A request is written with the one name that reads as its kind. -/
theorem Request.survives {r : Request} (h : r.isFinite = true) : Survives toJson ofJson? r := by
  cases r with
  | createSlide r => exact ⟨congrArg (Option.map _) r.survives.read_write, rfl⟩
  | insertText r => exact ⟨congrArg (Option.map _) r.survives.read_write, rfl⟩
  | updateTextStyle r =>
      exact ⟨congrArg (Option.map _) (UpdateTextStyle.survives h).read_write, rfl⟩
  | createParagraphBullets r => exact ⟨congrArg (Option.map _) r.survives.read_write, rfl⟩
  | createTable r => exact ⟨congrArg (Option.map _) (CreateTable.survives h).read_write, rfl⟩
  | createImage r => exact ⟨congrArg (Option.map _) (CreateImage.survives h).read_write, rfl⟩
  | deleteObject r => exact ⟨congrArg (Option.map _) r.survives.read_write, rfl⟩
  | updateZOrder r => exact ⟨congrArg (Option.map _) r.survives.read_write, rfl⟩

/-- All requests of a batch are finite. -/
def Batch.isFinite (b : Batch) : Bool := b.requests.all (·.isFinite)

theorem Batch.survives {b : Batch} (h : b.isFinite = true) : Survives toJson ofJson? b := by
  have hfields : b.toJson.fields? ["requests"] = some [ofList Request.toJson b.requests] := by
    simp only [toJson, singleton_eq_present]
    exact fields?_present rfl (by decide)
  have hrequests := survives_ofList_of_all h fun _ => Request.survives
  refine ⟨?_, rfl⟩
  simp only [ofJson?, hfields, hrequests.read_write]
  rfl

/-! ### Elements of pages -/

theorem PlaceholderRole.survives (r : PlaceholderRole) : Survives toJson ofJson? r :=
  survives_variant (by decide) (by cases r <;> decide)

theorem Placeholder.survives (p : Placeholder) : Survives toJson ofJson? p := by
  have hfields : p.toJson.fields? ["type", "index", "parentObjectId"] =
      some [nullable PlaceholderRole.toJson p.role, nullable ofInt32 p.index,
        nullable string p.parentObjectId] := by
    simp only [toJson, optionalField_eq_present, ← present_append, nullable_eq_getD]
    exact fields?_present rfl (by decide)
  refine ⟨?_, rfl⟩
  simp only [ofJson?, hfields, toOption?_nullable fun r _ => PlaceholderRole.survives r,
    toOption?_nullable fun x _ => survives_ofInt32 x,
    toOption?_nullable fun s _ => survives_string s]
  rfl

theorem Shape.survives (s : Shape) : Survives toJson ofJson? s := by
  have hfields : s.toJson.fields? ["shapeType", "placeholder"] =
      some [nullable string s.shapeType, nullable Placeholder.toJson s.placeholder] := by
    simp only [toJson, optionalField_eq_present, ← present_append, nullable_eq_getD]
    exact fields?_present rfl (by decide)
  refine ⟨?_, rfl⟩
  simp only [ofJson?, hfields, toOption?_nullable fun s _ => survives_string s,
    toOption?_nullable fun p _ => Placeholder.survives p]
  rfl

theorem TableExtent.survives (t : TableExtent) : Survives toJson ofJson? t := by
  have hfields : t.toJson.fields? ["rows", "columns"] =
      some [ofInt32 t.rows, ofInt32 t.columns] := by
    simp only [toJson, singleton_eq_present, cons_present]
    exact fields?_present rfl (by decide)
  refine ⟨?_, rfl⟩
  simp only [ofJson?, hfields, (survives_ofInt32 _).read_write]
  rfl

/-- The size and the placement of an element are finite, as far as they are given. -/
def PageElement.isFinite (e : PageElement) : Bool :=
  e.size.all (·.isFinite) && e.transform.all (·.isFinite)

theorem PageElement.survives {e : PageElement} (h : e.isFinite = true) :
    Survives toJson ofJson? e := by
  obtain ⟨hsize, htransform⟩ := Bool.and_eq_true_iff.mp h
  have hfields : e.toJson.fields? ["objectId", "size", "transform", "shape", "table"] =
      some [string e.objectId, nullable Size.toJson e.size,
        nullable AffineTransform.toJson e.transform, nullable Shape.toJson e.shape,
        nullable TableExtent.toJson e.table] := by
    simp only [toJson, optionalField_eq_present, cons_present, ← present_append, nullable_eq_getD]
    exact fields?_present rfl (by decide)
  refine ⟨?_, rfl⟩
  simp only [ofJson?, hfields, (survives_string _).read_write,
    toOption?_nullable_of_all hsize fun _ => Size.survives,
    toOption?_nullable_of_all htransform fun _ => AffineTransform.survives,
    toOption?_nullable fun s _ => Shape.survives s,
    toOption?_nullable fun t _ => TableExtent.survives t]
  rfl

/-! ### Pages -/

theorem PageType.survives (t : PageType) : Survives toJson ofJson? t :=
  survives_variant (by decide) (by cases t <;> decide)

theorem LayoutProperties.survives (p : LayoutProperties) : Survives toJson ofJson? p := by
  have hfields : p.toJson.fields? ["masterObjectId", "name", "displayName"] =
      some [nullable string p.masterObjectId, nullable string p.name,
        nullable string p.displayName] := by
    simp only [toJson, singleton_eq_present, cons_present]
    exact fields?_present rfl (by decide)
  refine ⟨?_, rfl⟩
  simp only [ofJson?, hfields, toOption?_nullable fun s _ => survives_string s]
  rfl

theorem NotesProperties.survives (p : NotesProperties) : Survives toJson ofJson? p := by
  have hfields : p.toJson.fields? ["speakerNotesObjectId"] =
      some [nullable string p.speakerNotesObjectId] := by
    simp only [toJson, singleton_eq_present]
    exact fields?_present rfl (by decide)
  refine ⟨?_, rfl⟩
  simp only [ofJson?, hfields, toOption?_nullable fun s _ => survives_string s]
  rfl

mutual

/-- All elements of a page are finite, and those of its page of notes are too. -/
def Page.isFinite : Page → Bool
  | ⟨_, _, pageElements, slideProperties, _, _⟩ =>
    (pageElements.all fun es => es.all (·.isFinite)) &&
      match slideProperties with
      | none => true
      | some p => p.isFinite

/-- All elements of the page of notes are finite. -/
def SlideProperties.isFinite : SlideProperties → Bool
  | ⟨_, _, notesPage⟩ =>
    match notesPage with
    | none => true
    | some p => p.isFinite

end

theorem Page.isFinite_eq (p : Page) : p.isFinite =
    ((p.pageElements.all fun es => es.all (·.isFinite)) &&
      p.slideProperties.all (·.isFinite)) := by
  obtain ⟨-, -, pageElements, slideProperties, -, -⟩ := p
  cases slideProperties <;> rfl

theorem SlideProperties.isFinite_eq (p : SlideProperties) :
    p.isFinite = p.notesPage.all (·.isFinite) := by
  obtain ⟨-, -, notesPage⟩ := p
  cases notesPage <;> rfl

theorem Page.fields?_toJson (p : Page) :
    p.toJson.fields? ["objectId", "pageType", "pageElements", "slideProperties",
        "layoutProperties", "notesProperties"] =
      some [string p.objectId, nullable PageType.toJson p.pageType,
        nullable (ofList PageElement.toJson) p.pageElements,
        nullable SlideProperties.toJson p.slideProperties,
        nullable LayoutProperties.toJson p.layoutProperties,
        nullable NotesProperties.toJson p.notesProperties] := by
  obtain ⟨objectId, pageType, pageElements, slideProperties, layoutProperties, notesProperties⟩ := p
  cases slideProperties <;>
    simp only [toJson, singleton_eq_present, cons_present] <;>
    exact fields?_present rfl (by decide)

theorem SlideProperties.fields?_toJson (p : SlideProperties) :
    p.toJson.fields? ["layoutObjectId", "masterObjectId", "notesPage"] =
      some [nullable string p.layoutObjectId, nullable string p.masterObjectId,
        nullable Page.toJson p.notesPage] := by
  obtain ⟨layoutObjectId, masterObjectId, notesPage⟩ := p
  cases notesPage <;>
    simp only [toJson, singleton_eq_present, cons_present] <;>
    exact fields?_present rfl (by decide)

mutual

theorem Page.survives : ∀ p : Page, p.isFinite = true → Survives Page.toJson Page.ofJson? p
  | ⟨objectId, pageType, pageElements, slideProperties, layoutProperties, notesProperties⟩, h => by
    rw [Page.isFinite_eq, Bool.and_eq_true] at h
    obtain ⟨helements, hproperties⟩ := h
    have hslide : ∀ p ∈ slideProperties,
        Survives SlideProperties.toJson SlideProperties.ofJson? p := by
      intro p hp
      obtain rfl : slideProperties = some p := hp
      exact SlideProperties.survives p hproperties
    refine ⟨?_, rfl⟩
    rw [Page.ofJson?]
    split
    · rename_i hfields
      cases (Page.fields?_toJson _).symm.trans hfields
      simp only [(survives_string _).read_write, toOption?_nullable fun t _ => PageType.survives t,
        toOption?_nullable_of_all helements fun _ hall =>
          survives_ofList_of_all hall fun _ => PageElement.survives,
        ite_isNull_nullable hslide, toOption?_nullable fun p _ => LayoutProperties.survives p,
        toOption?_nullable fun p _ => NotesProperties.survives p]
      rfl
    · rename_i hfields
      exact absurd (Page.fields?_toJson _) (hfields _ _ _ _ _ _)

theorem SlideProperties.survives : ∀ p : SlideProperties, p.isFinite = true →
    Survives SlideProperties.toJson SlideProperties.ofJson? p
  | ⟨layoutObjectId, masterObjectId, notesPage⟩, h => by
    rw [SlideProperties.isFinite_eq] at h
    have hnotes : ∀ p ∈ notesPage, Survives Page.toJson Page.ofJson? p := by
      intro p hp
      obtain rfl : notesPage = some p := hp
      exact Page.survives p h
    refine ⟨?_, rfl⟩
    rw [SlideProperties.ofJson?]
    split
    · rename_i hfields
      cases (SlideProperties.fields?_toJson _).symm.trans hfields
      simp only [toOption?_nullable fun s _ => survives_string s, ite_isNull_nullable hnotes]
      rfl
    · rename_i hfields
      exact absurd (SlideProperties.fields?_toJson _) (hfields _ _ _)

end

/-- The page size, the slides and the layouts of a presentation are finite. -/
def Presentation.isFinite (p : Presentation) : Bool :=
  p.pageSize.all (·.isFinite) && (p.slides.all fun ps => ps.all (·.isFinite)) &&
    p.layouts.all fun ps => ps.all (·.isFinite)

theorem Presentation.survives {p : Presentation} (h : p.isFinite = true) :
    Survives toJson ofJson? p := by
  simp only [isFinite, Bool.and_eq_true] at h
  obtain ⟨⟨hsize, hslides⟩, hlayouts⟩ := h
  have hfields : p.toJson.fields? ["presentationId", "pageSize", "slides", "title", "layouts",
        "revisionId"] =
      some [string p.presentationId, nullable Size.toJson p.pageSize,
        nullable (ofList Page.toJson) p.slides, nullable string p.title,
        nullable (ofList Page.toJson) p.layouts, nullable string p.revisionId] := by
    simp only [toJson, singleton_eq_present, cons_present]
    exact fields?_present rfl (by decide)
  have hpages : ∀ {ps? : Option (List Page)}, (ps?.all fun ps => ps.all (·.isFinite)) = true →
      (nullable (ofList Page.toJson) ps?).toOption? (toList? Page.ofJson?) = some ps? := fun hall =>
    toOption?_nullable_of_all hall fun _ hps => survives_ofList_of_all hps Page.survives
  refine ⟨?_, rfl⟩
  simp only [ofJson?, hfields, (survives_string _).read_write, hpages hslides, hpages hlayouts,
    toOption?_nullable_of_all hsize fun _ => Size.survives,
    toOption?_nullable fun s _ => survives_string s]
  rfl

/-! ### The theorem -/

/--
**Reading undoes writing.**  Slides, batches and presentations whose numbers are finite are read
back from their JSON as they were.  So if slides are handed over as JSON, what is planned for their
population in any deck is what is planned for the slides themselves.
-/
theorem ofJson?_toJson :
    (∀ slides : List Slide, slides.all (·.isFinite) = true →
      Slide.listOfJson? (Slide.listToJson slides) = some slides) ∧
    (∀ batch : Batch, batch.isFinite = true → Batch.ofJson? batch.toJson = some batch) ∧
    (∀ deck : Presentation, deck.isFinite = true →
      Presentation.ofJson? deck.toJson = some deck) ∧
    ∀ {σ : Type} (ids : IdSource σ) (state : σ) (slides : List Slide) (deck : Option Json),
      slides.all (·.isFinite) = true →
      Exchange.planPopulation ids state (some (Slide.listToJson slides)) deck = do
        let deck ← Exchange.require (deck.bind Presentation.ofJson?)
        let batch ← (Plan.planPopulation ids deck slides state).1
        return batch.toJson := by
  have hslides : ∀ slides : List Slide, slides.all (·.isFinite) = true →
      Slide.listOfJson? (Slide.listToJson slides) = some slides := by
    intro slides h
    exact (survives_ofList_of_all h fun _ => Slide.survives).read_write
  refine ⟨hslides, ?_, ?_, ?_⟩
  · intro batch h
    exact (Batch.survives h).read_write
  · intro deck h
    exact (Presentation.survives h).read_write
  · intro σ ids state slides deck h
    unfold Exchange.planPopulation
    rw [Option.bind_some, hslides slides h]
    rfl

/-- Slides with an offset that is set to none, a transparent background and unset parts. -/
def keptSlides : List Slide :=
  [{ title := some ⟨"a b", [⟨0, 2, { backgroundColor := some ⟨none⟩
                                     baselineOffset := some .none
                                     bold := some false
                                     fontSize := some (.pt 10.5)
                                     foregroundColor := some (.ofRgb (.ofBytes 255 128 0))
                                     link := some ⟨""⟩ }⟩], [⟨1, 3, .ordered⟩], true⟩
     tables := [.ofCells [[.ofString "c"], []]]
     images := [⟨"u", "", true⟩]
     objectId := some "p1" },
    {}]

/-- A batch with requests of several kinds. -/
def keptBatch : Batch :=
  ⟨[.createSlide ⟨"p2", none, "l"⟩, .createSlide ⟨"p3", some 1, "l"⟩,
    .insertText ⟨"t", some ⟨0, 1⟩, "x", 0⟩,
    .updateTextStyle ⟨"t", none, { italic := some true, fontSize := some ⟨some (-0.0), none⟩ },
      .fixed 0 1, "italic"⟩,
    .createParagraphBullets ⟨"t", none, .fixed 0 1, .bulletDiscCircleSquare⟩,
    .createTable ⟨"t", .onPage "p2", 1, 2⟩,
    .createImage ⟨"i", "u", ⟨"p2", some ⟨some (.emu 1e20), none⟩, some (.translateEmu 0.1 5)⟩⟩,
    .updateZOrder ⟨["i"], .sendToBack⟩, .deleteObject ⟨"p1"⟩]⟩

/-- A deck with a slide that has a page of notes, and a placeholder whose role is set to none. -/
def keptDeck : Presentation where
  presentationId := "d"
  pageSize := some ⟨some (.pt 720), none⟩
  slides := some
    [⟨"p1", some .slide,
      some [⟨"e", none, none, some ⟨none, some ⟨some .none, some (-3), none⟩⟩, none⟩,
        ⟨"f", none, none, none, some ⟨2, 2⟩⟩],
      some ⟨some "l", none, some ⟨"n", none, none, none, none, some ⟨some "s"⟩⟩⟩, none, none⟩]
  title := none
  layouts := some [⟨"l", none, some [], none, some ⟨none, some "BLANK", none⟩, none⟩]
  revisionId := none

theorem ofJson?_toJson_kept :
    keptSlides.all (·.isFinite) = true ∧ keptBatch.isFinite = true ∧ keptDeck.isFinite = true ∧
    Slide.listOfJson? (Slide.listToJson keptSlides) = some keptSlides ∧
    Batch.ofJson? keptBatch.toJson = some keptBatch ∧
    Presentation.ofJson? keptDeck.toJson = some keptDeck ∧
    Exchange.planPopulation SequentialIds.source (.ofStem "g") (some (Slide.listToJson keptSlides))
        (some keptDeck.toJson) = do
      let batch ← (Plan.planPopulation SequentialIds.source keptDeck keptSlides (.ofStem "g")).1
      return batch.toJson := by
  have hslides : keptSlides.all (·.isFinite) = true := by decide
  have hbatch : keptBatch.isFinite = true := by decide
  have hdeck : keptDeck.isFinite = true := by decide
  obtain ⟨hreadSlides, hreadBatch, hreadDeck, hplan⟩ := ofJson?_toJson
  refine ⟨hslides, hbatch, hdeck, hreadSlides _ hslides, hreadBatch _ hbatch, hreadDeck _ hdeck, ?_⟩
  rw [hplan SequentialIds.source _ _ _ hslides, Option.bind_some, hreadDeck _ hdeck]
  rfl

end SlideDeck

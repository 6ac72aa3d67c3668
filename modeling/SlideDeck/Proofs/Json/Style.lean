/-
Colours, lengths and text styles survive being written and read.

They hold all the numbers with a fraction that there are, so it is here that it matters whether
numbers are finite: one that is not would read as unset.  A style has more than two thousand sets
of attributes that may be set, and its name `NONE` for an offset is a value and not the lack of one;
neither takes a case of its own, as each slot of a record is read for itself.
-/
import SlideDeck.Proofs.Json.Survival
import SlideDeck.Style.TextStyle

namespace SlideDeck

open Json

/-! ### Colours -/

/-- All channels of a colour are finite. -/
def RgbColor.isFinite (c : RgbColor) : Bool :=
  c.red.isFinite && c.green.isFinite && c.blue.isFinite

theorem RgbColor.survives {c : RgbColor} (h : c.isFinite = true) :
    Survives toJson ofJson? c := by
  simp only [isFinite, Bool.and_eq_true] at h
  obtain ⟨⟨hred, hgreen⟩, hblue⟩ := h
  have hfields : c.toJson.fields? ["red", "green", "blue"] =
      some [ofFloat32 c.red, ofFloat32 c.green, ofFloat32 c.blue] := by
    simp only [toJson, singleton_eq_present, cons_present]
    exact fields?_present rfl (by decide)
  refine ⟨?_, rfl⟩
  simp only [ofJson?, hfields, (survives_ofFloat32 hred).read_write,
    (survives_ofFloat32 hgreen).read_write, (survives_ofFloat32 hblue).read_write]
  rfl

/-- The channels of the colour are finite. -/
def OpaqueColor.isFinite (c : OpaqueColor) : Bool := c.rgbColor.isFinite

theorem OpaqueColor.survives {c : OpaqueColor} (h : c.isFinite = true) :
    Survives toJson ofJson? c := by
  have hfields : c.toJson.fields? ["rgbColor"] = some [c.rgbColor.toJson] := by
    simp only [toJson, singleton_eq_present]
    exact fields?_present rfl (by decide)
  refine ⟨?_, rfl⟩
  simp only [ofJson?, hfields, (RgbColor.survives h).read_write]
  rfl

/-- The channels of the colour are finite, if there is one. -/
def OptionalColor.isFinite (c : OptionalColor) : Bool := c.opaqueColor.all (·.isFinite)

theorem OptionalColor.survives {c : OptionalColor} (h : c.isFinite = true) :
    Survives toJson ofJson? c := by
  have hfields : c.toJson.fields? ["opaqueColor"] =
      some [nullable OpaqueColor.toJson c.opaqueColor] := by
    simp only [toJson, optionalField_eq_present, nullable_eq_getD]
    exact fields?_present rfl (by decide)
  refine ⟨?_, rfl⟩
  simp only [ofJson?, hfields, toOption?_nullable_of_all h fun _ => OpaqueColor.survives]
  rfl

/-! ### Lengths and placements -/

theorem LengthUnit.survives (u : LengthUnit) : Survives toJson ofJson? u :=
  survives_variant (by decide) (by cases u <;> decide)

/-- The magnitude of a length is finite, if it is set. -/
def Dimension.isFinite (d : Dimension) : Bool := d.magnitude.all (·.isFinite)

theorem Dimension.survives {d : Dimension} (h : d.isFinite = true) :
    Survives toJson ofJson? d := by
  have hfields : d.toJson.fields? ["magnitude", "unit"] =
      some [nullable ofFloat d.magnitude, nullable LengthUnit.toJson d.unit] := by
    simp only [toJson, optionalField_eq_present, ← present_append, nullable_eq_getD]
    exact fields?_present rfl (by decide)
  refine ⟨?_, rfl⟩
  simp only [ofJson?, hfields, toOption?_nullable_of_all h fun _ => survives_ofFloat,
    toOption?_nullable fun u _ => LengthUnit.survives u]
  rfl

/-- The width and the height are finite, as far as they are set. -/
def Size.isFinite (s : Size) : Bool := s.width.all (·.isFinite) && s.height.all (·.isFinite)

theorem Size.survives {s : Size} (h : s.isFinite = true) : Survives toJson ofJson? s := by
  obtain ⟨hwidth, hheight⟩ := Bool.and_eq_true_iff.mp h
  have hfields : s.toJson.fields? ["width", "height"] =
      some [nullable Dimension.toJson s.width, nullable Dimension.toJson s.height] := by
    simp only [toJson, optionalField_eq_present, ← present_append, nullable_eq_getD]
    exact fields?_present rfl (by decide)
  refine ⟨?_, rfl⟩
  simp only [ofJson?, hfields, toOption?_nullable_of_all hwidth fun _ => Dimension.survives,
    toOption?_nullable_of_all hheight fun _ => Dimension.survives]
  rfl

/-- The scaling and the shift are finite, as far as they are set. -/
def AffineTransform.isFinite (t : AffineTransform) : Bool :=
  t.scaleX.all (·.isFinite) && t.scaleY.all (·.isFinite) && t.translateX.all (·.isFinite) &&
    t.translateY.all (·.isFinite)

theorem AffineTransform.survives {t : AffineTransform} (h : t.isFinite = true) :
    Survives toJson ofJson? t := by
  simp only [isFinite, Bool.and_eq_true] at h
  obtain ⟨⟨⟨hscaleX, hscaleY⟩, htranslateX⟩, htranslateY⟩ := h
  have hfields : t.toJson.fields? ["scaleX", "scaleY", "translateX", "translateY", "unit"] =
      some [nullable ofFloat t.scaleX, nullable ofFloat t.scaleY, nullable ofFloat t.translateX,
        nullable ofFloat t.translateY, nullable LengthUnit.toJson t.unit] := by
    simp only [toJson, optionalField_eq_present, ← present_append, nullable_eq_getD]
    exact fields?_present rfl (by decide)
  refine ⟨?_, rfl⟩
  simp only [ofJson?, hfields, toOption?_nullable_of_all hscaleX fun _ => survives_ofFloat,
    toOption?_nullable_of_all hscaleY fun _ => survives_ofFloat,
    toOption?_nullable_of_all htranslateX fun _ => survives_ofFloat,
    toOption?_nullable_of_all htranslateY fun _ => survives_ofFloat,
    toOption?_nullable fun u _ => LengthUnit.survives u]
  rfl

/-! ### Text styles -/

theorem BaselineOffset.survives (o : BaselineOffset) : Survives toJson ofJson? o :=
  survives_variant (by decide) (by cases o <;> decide)

theorem Link.survives (l : Link) : Survives toJson ofJson? l := by
  have hfields : l.toJson.fields? ["url"] = some [string l.url] := by
    simp only [toJson, singleton_eq_present]
    exact fields?_present rfl (by decide)
  refine ⟨?_, rfl⟩
  simp only [ofJson?, hfields, (survives_string l.url).read_write]
  rfl

/-- The colours and the size are finite, as far as they are set. -/
def TextStyle.isFinite (s : TextStyle) : Bool :=
  s.backgroundColor.all (·.isFinite) && s.fontSize.all (·.isFinite) &&
    s.foregroundColor.all (·.isFinite)

theorem TextStyle.fields?_toJson (s : TextStyle) :
    s.toJson.fields? ["backgroundColor", "baselineOffset", "bold", "fontFamily", "fontSize",
        "foregroundColor", "italic", "link", "smallCaps", "strikethrough", "underline"] =
      some [nullable OptionalColor.toJson s.backgroundColor,
        nullable BaselineOffset.toJson s.baselineOffset, nullable bool s.bold,
        nullable string s.fontFamily, nullable Dimension.toJson s.fontSize,
        nullable OptionalColor.toJson s.foregroundColor, nullable bool s.italic,
        nullable Link.toJson s.link, nullable bool s.smallCaps, nullable bool s.strikethrough,
        nullable bool s.underline] := by
  simp only [toJson, fields, optionalField_eq_present, ← present_append, nullable_eq_getD]
  exact fields?_present rfl (by decide)

theorem TextStyle.survives {s : TextStyle} (h : s.isFinite = true) :
    Survives toJson ofJson? s := by
  simp only [isFinite, Bool.and_eq_true] at h
  obtain ⟨⟨hbackground, hsize⟩, hforeground⟩ := h
  have hbool : ∀ b? : Option Bool, (nullable bool b?).toOption? toBool? = some b? := fun b? =>
    toOption?_nullable fun b _ => survives_bool b
  refine ⟨?_, rfl⟩
  simp only [ofJson?, fields?_toJson, hbool,
    toOption?_nullable_of_all hbackground fun _ => OptionalColor.survives,
    toOption?_nullable fun o _ => BaselineOffset.survives o,
    toOption?_nullable fun f _ => survives_string f,
    toOption?_nullable_of_all hsize fun _ => Dimension.survives,
    toOption?_nullable_of_all hforeground fun _ => OptionalColor.survives,
    toOption?_nullable fun l _ => Link.survives l]
  rfl

end SlideDeck

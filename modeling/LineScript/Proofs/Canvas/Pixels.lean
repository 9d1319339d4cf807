import LineScript.Canvas.Drawing
import Mathlib.Data.Nat.Basic

/-!
The pixels of a canvas: what painting and resizing make of each of them. Drawing repaints: it
changes neither the size nor the pen, and each pixel keeps its colour or takes that of the pen. A
sound canvas stays sound whatever is done to it.
-/

namespace LineScript.Canvas

variable {canvas before after later : Canvas} {color : Color} {ink : Ink} {i j : ℕ}

/-! ## Places -/

theorem place_mod {width : ℕ} (column : i < width) : (j * width + i) % width = i := by
  rw [Nat.mul_add_mod', Nat.mod_eq_of_lt column]

theorem place_div {width : ℕ} (column : i < width) : (j * width + i) / width = j := by
  rw [Nat.mul_comm, Nat.mul_add_div (Nat.zero_lt_of_lt column), Nat.div_eq_of_lt column,
    Nat.add_zero]

theorem place_eq_iff {width x y : ℕ} (first : x < width) (second : i < width) :
    y * width + x = j * width + i ↔ x = i ∧ y = j := by
  refine ⟨fun same => ⟨?_, ?_⟩, fun ⟨column, row⟩ => by rw [column, row]⟩
  · rw [← place_mod (j := y) first, same, place_mod second]
  · rw [← place_div (j := y) first, same, place_div second]

theorem place_lt (column : i < canvas.width) (row : j < canvas.height) :
    j * canvas.width + i < canvas.pixels.size := by
  rw [canvas.size_eq]
  calc j * canvas.width + i
    _ < j * canvas.width + canvas.width := by omega
    _ = (j + 1) * canvas.width := (Nat.succ_mul j canvas.width).symm
    _ ≤ canvas.height * canvas.width := Nat.mul_le_mul_right _ row
    _ = canvas.width * canvas.height := Nat.mul_comm _ _

theorem pixel?_inside (column : i < canvas.width) (row : j < canvas.height) :
    canvas.pixel? i j = canvas.pixels[j * canvas.width + i]? := by
  rw [pixel?, if_pos (by simp [column, row])]

theorem pixel?_outside (outside : ¬ (i < canvas.width ∧ j < canvas.height)) :
    canvas.pixel? i j = none := by
  rw [pixel?, if_neg (by simpa using outside)]

theorem pixel?_isSome :
    (canvas.pixel? i j).isSome = true ↔ i < canvas.width ∧ j < canvas.height := by
  by_cases inside : i < canvas.width ∧ j < canvas.height
  · rw [pixel?_inside inside.1 inside.2, Array.getElem?_eq_getElem (place_lt inside.1 inside.2)]
    simp [inside]
  · rw [pixel?_outside inside]
    simp [inside]

/-! ## Painting and resizing -/

@[simp]
theorem width_paint (x y : ℤ) : (canvas.paint color x y).width = canvas.width := by
  unfold paint
  split <;> rfl

@[simp]
theorem height_paint (x y : ℤ) : (canvas.paint color x y).height = canvas.height := by
  unfold paint
  split <;> rfl

@[simp]
theorem pen_paint (x y : ℤ) : (canvas.paint color x y).pen = canvas.pen := by
  unfold paint
  split <;> rfl

theorem pixel?_paint (x y : ℤ) :
    (canvas.paint color x y).pixel? i j =
      if x = i ∧ y = j ∧ i < canvas.width ∧ j < canvas.height then some color
      else canvas.pixel? i j := by
  by_cases inside : i < canvas.width ∧ j < canvas.height
  · rw [pixel?_inside (by simpa using inside.1) (by simpa using inside.2),
      pixel?_inside inside.1 inside.2, width_paint]
    obtain ⟨width, height, pixels, size_eq, pen, pointer⟩ := canvas
    unfold paint
    dsimp only at inside ⊢
    split
    · next on =>
        simp only [Bool.and_eq_true, decide_eq_true_eq] at on
        obtain ⟨⟨⟨left, right⟩, top⟩, bottom⟩ := on
        have full : j * width + i < pixels.size :=
          @place_lt ⟨width, height, pixels, size_eq, pen, pointer⟩ i j inside.1 inside.2
        -- Rows do not overlap, so two points of the canvas share a place only if they are the same.
        have same : y.toNat * width + x.toNat = j * width + i ↔ x = i ∧ y = j := by
          rw [place_eq_iff (by omega) inside.1]
          omega
        dsimp only
        rw [Array.getElem?_setIfInBounds]
        by_cases hit : x = i ∧ y = j
        · rw [if_pos (same.mpr hit), same.mpr hit, if_pos full, if_pos ⟨hit.1, hit.2, inside⟩]
        · rw [if_neg (mt same.mp hit), if_neg fun held => hit ⟨held.1, held.2.1⟩]
    · next off =>
        rw [if_neg]
        simp only [Bool.and_eq_true, decide_eq_true_eq] at off
        omega
  · have beside : ¬ (x = i ∧ y = j ∧ i < canvas.width ∧ j < canvas.height) :=
      fun held => inside held.2.2
    rw [if_neg beside, pixel?_outside inside, pixel?_outside (by simpa using inside)]

theorem pixel?_resize {columns rows : ℕ} (column : i < columns) (row : j < rows) :
    (canvas.resize columns rows).pixel? i j = some ((canvas.pixel? i j).getD Color.black) := by
  have full : j * columns + i < columns * rows :=
    (canvas.resize columns rows).size_eq ▸
      @place_lt (canvas.resize columns rows) i j column row
  rw [@pixel?_inside (canvas.resize columns rows) i j column row]
  change (Array.ofFn _)[j * columns + i]? = _
  rw [Array.getElem?_ofFn, dif_pos full]
  dsimp only
  rw [place_mod column, place_div column]

/-- The pixels of both sizes keep their colours, and the others of the new size are black. -/
structure ResizedTo (before after : Canvas) (columns rows : ℕ) : Prop where
  width : after.width = columns
  height : after.height = rows
  pen : after.pen = before.pen
  kept : ∀ i j, i < columns → j < rows → i < before.width → j < before.height →
    after.pixel? i j = before.pixel? i j
  black : ∀ i j, i < columns → j < rows → ¬ (i < before.width ∧ j < before.height) →
    after.pixel? i j = some Color.black

theorem resizedTo_resize (canvas : Canvas) (columns rows : ℕ) :
    canvas.ResizedTo (canvas.resize columns rows) columns rows where
  width := rfl
  height := rfl
  pen := rfl
  kept i j column row oldColumn oldRow := by
    obtain ⟨color, held⟩ := Option.isSome_iff_exists.mp (pixel?_isSome.mpr ⟨oldColumn, oldRow⟩)
    rw [pixel?_resize column row, held, Option.getD_some]
  black i j column row outside := by
    rw [pixel?_resize column row, pixel?_outside outside, Option.getD_none]

/-! ## Drawing -/

/-- Size and pen are the same, and each pixel has its old colour or that of the pen. -/
structure Repaints (ink : Ink) (before after : Canvas) : Prop where
  width : after.width = before.width
  height : after.height = before.height
  pen : after.pen = before.pen
  pixels : ∀ i j, after.pixel? i j = before.pixel? i j ∨
    ∃ color, ink.color = .ok color ∧ after.pixel? i j = some color

theorem Repaints.refl (ink : Ink) (canvas : Canvas) : Repaints ink canvas canvas :=
  ⟨rfl, rfl, rfl, fun _ _ => .inl rfl⟩

theorem Repaints.trans (early : Repaints ink before after) (late : Repaints ink after later) :
    Repaints ink before later where
  width := late.width.trans early.width
  height := late.height.trans early.height
  pen := late.pen.trans early.pen
  pixels i j := by
    rcases late.pixels i j with same | painted
    · rw [same]
      exact early.pixels i j
    · exact .inr painted

theorem repaints_paint (inked : ink.color = .ok color) (x y : ℤ) :
    Repaints ink canvas (canvas.paint color x y) where
  width := width_paint x y
  height := height_paint x y
  pen := pen_paint x y
  pixels i j := by
    rw [pixel?_paint]
    split
    · exact .inr ⟨color, inked, rfl⟩
    · exact .inl rfl

theorem repaints_drawPoints (inked : ink.color = .ok color) (xs ys : Sampling.Stretch)
    (first count : ℕ) : Repaints ink canvas (drawPoints color xs ys first count canvas) := by
  induction count generalizing first canvas with
  | zero => exact .refl ink canvas
  | succ count ih => exact (repaints_paint inked _ _).trans (ih (first + 1))

theorem repaints_drawLine (x y x1 y1 : ℤ) (room : ℕ) :
    Repaints ink canvas (canvas.drawLine ink x y x1 y1 room).canvas := by
  unfold drawLine
  split
  · exact .refl ink canvas
  · exact .refl ink canvas
  · next inked => exact repaints_drawPoints inked _ _ _ _

theorem repaints_andThen {drawn : Drawn} {next : Canvas → Drawn}
    (early : Repaints ink canvas drawn.canvas)
    (late : ∀ canvas, Repaints ink canvas (next canvas).canvas) :
    Repaints ink canvas (drawn.andThen next).canvas := by
  unfold Drawn.andThen
  split
  · exact early
  · exact early.trans (late drawn.canvas)

theorem repaints_drawRect (x y width height : ℤ) (room : ℕ) :
    Repaints ink canvas (canvas.drawRect ink x y width height room).canvas := by
  unfold drawRect
  split
  · exact .refl ink canvas
  · exact repaints_andThen (repaints_andThen (repaints_andThen (repaints_drawLine _ _ _ _ _)
      fun _ => repaints_drawLine _ _ _ _ _) fun _ => repaints_drawLine _ _ _ _ _)
      fun _ => repaints_drawLine _ _ _ _ _

/-! ## Sound canvases -/

def InRange (components : List ℤ) : Prop :=
  ∀ component ∈ components, 0 ≤ component ∧ component ≤ 255

/-- The canvas has a size that can be asked for, a pixel for each place of it, and a pen with the
components of a colour. -/
structure Sound (canvas : Canvas) : Prop where
  wide : 1 ≤ canvas.width
  high : 1 ≤ canvas.height
  bounded : canvas.width * canvas.height ≤ maxPixels
  full : canvas.pixels.size = canvas.width * canvas.height
  pixels : ∀ color ∈ canvas.pixels,
    InRange [color.red.toNat, color.green.toNat, color.blue.toNat]
  pen : InRange [canvas.pen.red, canvas.pen.green, canvas.pen.blue]

theorem inRange_color (color : Color) :
    InRange [color.red.toNat, color.green.toNat, color.blue.toNat] := by
  have bounds (component : UInt8) : 0 ≤ (component.toNat : ℤ) ∧ (component.toNat : ℤ) ≤ 255 := by
    have below := component.toNat_lt
    omega
  simp [InRange, bounds]

/-- The pixels of a canvas are right by their types; what is left is the size and the pen. -/
theorem Sound.of (wide : 1 ≤ canvas.width) (high : 1 ≤ canvas.height)
    (bounded : canvas.width * canvas.height ≤ maxPixels)
    (pen : InRange [canvas.pen.red, canvas.pen.green, canvas.pen.blue]) : canvas.Sound :=
  ⟨wide, high, bounded, canvas.size_eq, fun color _ => inRange_color color, pen⟩

theorem Sound.blank {columns rows : ℕ} (wide : 1 ≤ columns) (high : 1 ≤ rows)
    (bounded : columns * rows ≤ maxPixels) : (blank columns rows).Sound :=
  .of wide high bounded (inRange_color Color.white)

theorem Sound.withPen (sound : canvas.Sound) (color : Color) :
    (canvas.withPen (.ofColor color)).Sound :=
  .of sound.wide sound.high sound.bounded (inRange_color color)

theorem Sound.fill (sound : canvas.Sound) (color : Color) : (canvas.fill color).Sound :=
  .of sound.wide sound.high sound.bounded sound.pen

theorem Sound.resize (sound : canvas.Sound) {columns rows : ℕ} (wide : 1 ≤ columns)
    (high : 1 ≤ rows) (bounded : columns * rows ≤ maxPixels) : (canvas.resize columns rows).Sound :=
  .of wide high bounded sound.pen

theorem Repaints.sound (repaints : Repaints ink before after) (sound : before.Sound) :
    after.Sound := by
  refine .of ?_ ?_ ?_ ?_
  · exact repaints.width ▸ sound.wide
  · exact repaints.height ▸ sound.high
  · rw [repaints.width, repaints.height]
    exact sound.bounded
  · exact repaints.pen ▸ sound.pen

end LineScript.Canvas

import LineScript.Proofs.Canvas.Pixels

/-!
Lines on a canvas. A line colours exactly those of its points that are on the canvas: no point is
lost by looking only at the indexes of points that can lie on it. A line along an axis has all the
points between its ends.
-/

namespace LineScript.Canvas

open Sampling

variable {canvas before after later : Canvas} {color : Color} {area other : ℤ → ℤ → Prop}

/-! ## Areas -/

/-- The pixels in an area have a colour, and everything else is as it was. -/
structure Covers (area : ℤ → ℤ → Prop) (color : Color) (before after : Canvas) : Prop where
  width : after.width = before.width
  height : after.height = before.height
  pen : after.pen = before.pen
  pointer : after.pointer = before.pointer
  inside : ∀ i j : ℕ, i < before.width → j < before.height → area i j →
    after.pixel? i j = some color
  outside : ∀ i j : ℕ, ¬ area i j → after.pixel? i j = before.pixel? i j

theorem Covers.refl (color : Color) (canvas : Canvas) :
    Covers (fun _ _ => False) color canvas canvas :=
  ⟨rfl, rfl, rfl, rfl, fun _ _ _ _ nowhere => nowhere.elim, fun _ _ _ => rfl⟩

theorem Covers.trans (early : Covers area color before after)
    (late : Covers other color after later) :
    Covers (fun i j => area i j ∨ other i j) color before later where
  width := late.width.trans early.width
  height := late.height.trans early.height
  pen := late.pen.trans early.pen
  pointer := late.pointer.trans early.pointer
  inside i j column row either := by
    by_cases again : other i j
    · exact late.inside i j (early.width ▸ column) (early.height ▸ row) again
    · rw [late.outside i j again]
      exact early.inside i j column row (either.resolve_right again)
  outside i j neither := by
    rw [late.outside i j fun second => neither (.inr second)]
    exact early.outside i j fun first => neither (.inl first)

theorem Covers.congr (covers : Covers area color before after)
    (same : ∀ i j : ℕ, i < before.width → j < before.height → (area i j ↔ other i j)) :
    Covers other color before after where
  width := covers.width
  height := covers.height
  pen := covers.pen
  pointer := covers.pointer
  inside i j column row within := covers.inside i j column row ((same i j column row).mpr within)
  outside i j without := by
    by_cases on : i < before.width ∧ j < before.height
    · exact covers.outside i j fun within => without ((same i j on.1 on.2).mp within)
    · rw [pixel?_outside on, pixel?_outside (by rwa [covers.width, covers.height])]

theorem pointer_paint (x y : ℤ) : (canvas.paint color x y).pointer = canvas.pointer := by
  unfold paint
  split <;> rfl

theorem covers_paint (x y : ℤ) :
    Covers (fun i j => x = i ∧ y = j) color canvas (canvas.paint color x y) where
  width := width_paint x y
  height := height_paint x y
  pen := pen_paint x y
  pointer := pointer_paint x y
  inside i j column row here := by
    rw [pixel?_paint, if_pos ⟨here.1, here.2, column, row⟩]
  outside i j elsewhere := by
    rw [pixel?_paint, if_neg fun held => elsewhere ⟨held.1, held.2.1⟩]

theorem covers_drawPoints (xs ys : Stretch) (first count : ℕ) :
    Covers (fun i j => ∃ k, first ≤ k ∧ k < first + count ∧ xs.point k = i ∧ ys.point k = j) color
      canvas (drawPoints color xs ys first count canvas) := by
  induction count generalizing first canvas with
  | zero =>
      refine (Covers.refl color canvas).congr fun i j _ _ => iff_of_false id ?_
      rintro ⟨k, least, most, -⟩
      omega
  | succ count ih =>
      refine ((covers_paint _ _).trans (ih (first + 1))).congr fun i j _ _ => ?_
      constructor
      · rintro (⟨column, row⟩ | ⟨k, least, most, point⟩)
        · exact ⟨first, Nat.le_refl _, by omega, column, row⟩
        · exact ⟨k, by omega, by omega, point⟩
      · rintro ⟨k, least, most, point⟩
        rcases Nat.eq_or_lt_of_le least with rfl | later
        · exact .inl point
        · exact .inr ⟨k, later, by omega, point⟩

/-! ## Points -/

def reached (start stop : ℤ) (k : ℕ) : ℤ :=
  if start ≤ stop then start + k else start - k

theorem point_still (start : ℤ) (gaps k : ℕ) : (Stretch.between start start gaps).point k = start :=
  if_pos rfl

/-- Along its longer axis a line goes on by one from point to point. -/
theorem point_between {start stop : ℤ} {k : ℕ} (most : k ≤ (stop - start).natAbs) :
    (Stretch.between start stop (stop - start).natAbs).point k = reached start stop k := by
  unfold Stretch.point Stretch.between reached
  dsimp only
  split_ifs <;> omega

/-- The points of a stretch with the indexes that are looked at are those that lie within the
bound. -/
theorem mem_insideRange (start stop : ℤ) (bound k : ℕ) :
    ((insideRange start stop bound).1 ≤ k ∧
        k < (insideRange start stop bound).1 + (insideRange start stop bound).2) ↔
      k ≤ (stop - start).natAbs ∧ 0 ≤ reached start stop k ∧ reached start stop k < bound := by
  unfold insideRange reached
  dsimp only
  split_ifs <;> dsimp only <;> omega

theorem mem_insideRange_of_point {start stop : ℤ} {bound k i : ℕ} (on : i < bound)
    (point : (Stretch.between start stop (stop - start).natAbs).point k = i) :
    ((insideRange start stop bound).1 ≤ k ∧
        k < (insideRange start stop bound).1 + (insideRange start stop bound).2) ↔
      k ≤ (stop - start).natAbs := by
  rw [mem_insideRange]
  refine ⟨And.left, fun most => ⟨most, ?_⟩⟩
  rw [← point_between most, point]
  omega

/-! ## Lines -/

def OnLine (x y x1 y1 i j : ℤ) : Prop :=
  ∃ k ≤ lineGaps x y x1 y1, (Stretch.between x x1 (lineGaps x y x1 y1)).point k = i ∧
    (Stretch.between y y1 (lineGaps x y x1 y1)).point k = j

theorem covers_strokeLine (x y x1 y1 : ℤ) :
    Covers (OnLine x y x1 y1) color canvas (canvas.strokeLine color x y x1 y1) := by
  unfold strokeLine
  refine (covers_drawPoints _ _ _ _).congr fun i j column row => ?_
  have looked (k : ℕ) (point : (Stretch.between x x1 (lineGaps x y x1 y1)).point k = i ∧
      (Stretch.between y y1 (lineGaps x y x1 y1)).point k = j) :
      ((canvas.visibleRange x y x1 y1).1 ≤ k ∧
          k < (canvas.visibleRange x y x1 y1).1 + (canvas.visibleRange x y x1 y1).2) ↔
        k ≤ lineGaps x y x1 y1 := by
    unfold visibleRange
    by_cases wide : (y1 - y).natAbs ≤ (x1 - x).natAbs
    · have gaps : lineGaps x y x1 y1 = (x1 - x).natAbs := Nat.max_eq_left wide
      rw [if_pos wide, gaps]
      exact mem_insideRange_of_point column (gaps ▸ point.1)
    · have gaps : lineGaps x y x1 y1 = (y1 - y).natAbs := Nat.max_eq_right (by omega)
      rw [if_neg wide, gaps]
      exact mem_insideRange_of_point row (gaps ▸ point.2)
  constructor
  · rintro ⟨k, least, most, point⟩
    exact ⟨k, (looked k point).mp ⟨least, most⟩, point⟩
  · rintro ⟨k, most, point⟩
    obtain ⟨least, less⟩ := (looked k point).mpr most
    exact ⟨k, least, less, point⟩

theorem onLine_horizontal {x x1 : ℤ} (forward : x ≤ x1) (y i j : ℤ) :
    OnLine x y x1 y i j ↔ j = y ∧ x ≤ i ∧ i ≤ x1 := by
  have gaps : lineGaps x y x1 y = (x1 - x).natAbs := Nat.max_eq_left (by omega)
  unfold OnLine
  rw [gaps]
  constructor
  · rintro ⟨k, most, column, row⟩
    rw [point_between most, reached, if_pos forward] at column
    rw [point_still] at row
    omega
  · rintro ⟨rfl, least, most⟩
    have few : (i - x).toNat ≤ (x1 - x).natAbs := by omega
    refine ⟨(i - x).toNat, few, ?_, point_still _ _ _⟩
    rw [point_between few, reached, if_pos forward]
    omega

theorem onLine_vertical {y y1 : ℤ} (forward : y ≤ y1) (x i j : ℤ) :
    OnLine x y x y1 i j ↔ i = x ∧ y ≤ j ∧ j ≤ y1 := by
  have gaps : lineGaps x y x y1 = (y1 - y).natAbs := Nat.max_eq_right (by omega)
  unfold OnLine
  rw [gaps]
  constructor
  · rintro ⟨k, most, column, row⟩
    rw [point_between most, reached, if_pos forward] at row
    rw [point_still] at column
    omega
  · rintro ⟨rfl, least, most⟩
    have few : (j - y).toNat ≤ (y1 - y).natAbs := by omega
    refine ⟨(j - y).toNat, few, point_still _ _ _, ?_⟩
    rw [point_between few, reached, if_pos forward]
    omega

end LineScript.Canvas

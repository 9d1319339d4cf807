import LineScript.Proofs.Canvas.Line
import LineScript.Proofs.Canvas.Run
import Mathlib.Algebra.Group.Int.Defs
import Mathlib.Algebra.Group.Nat.Defs

/-!
Outlines of rectangles. A rectangle whose numbers are not far out is drawn without a fault, and
what is drawn is its border, as far as it is on the canvas. An instruction with the numbers of a
rectangle draws it with the pen.
-/

namespace LineScript

namespace Canvas

variable {canvas before after : Canvas} {color : Color} {ink : Ink} {x y x1 y1 width height : ℤ}

def OnBorder (x y width height i j : ℤ) : Prop :=
  (x ≤ i ∧ i ≤ x + width - 1 ∧ y ≤ j ∧ j ≤ y + height - 1) ∧
    (i = x ∨ i = x + width - 1 ∨ j = y ∨ j = y + height - 1)

instance (i j : ℤ) : Decidable (OnBorder x y width height i j) :=
  inferInstanceAs (Decidable (_ ∧ _))

/-- The border of a rectangle has a colour as far as it is on the canvas, and everything else is as
it was. A rectangle without extent has no border. -/
structure Outlined (color : Color) (x y width height : ℤ) (before after : Canvas) : Prop where
  empty : width ≤ 0 ∨ height ≤ 0 → after = before
  border : 0 < width → 0 < height → Covers (OnBorder x y width height) color before after

/-! ## Lines without a fault -/

theorem endsFault?_near {start stop : ℤ} (first : start.natAbs < 2 ^ 63)
    (last : stop.natAbs < 2 ^ 63) : endsFault? start stop = none := by
  have word {n : ℤ} (near : n.natAbs < 2 ^ 63) : Number.isAnyWord n = true := by
    have least : (Number.pow2 63 : ℤ) = 2 ^ 63 := by decide
    have most : (Number.pow2 64 : ℤ) = 2 ^ 64 := by decide
    simp only [Number.isAnyWord, least, most, Bool.and_eq_true, decide_eq_true_eq]
    omega
  simp [endsFault?, word first, word last]

theorem toPrecision_small {bits n : ℕ} (few : n.log2 < bits) : Number.toPrecision bits n = n := by
  have shift : n.log2 + 1 - bits = 0 := by omega
  simp [Number.toPrecision, shift, Number.pow2, Number.halfEven, Nat.mod_one]

theorem pointsFault?_near {count room : ℕ} (few : count < 2 ^ 32) (ample : Bytes.limit ≤ room) :
    pointsFault? count room = none := by
  have exact : Number.toPrecision Sampling.precision count = count := by
    refine toPrecision_small ?_
    have bits : count.log2 < 32 := by
      rcases Nat.eq_zero_or_pos count with rfl | positive
      · decide
      · exact (Nat.log2_lt (by omega)).mpr few
    exact Nat.lt_trans bits (by decide)
  have words : Number.pow2 63 = 2 ^ 63 := rfl
  have memory : Bytes.limit = 2 ^ 36 := rfl
  have reserved : (⟨[count], .coordinate⟩ : ArrayShape).reserved < 2 ^ 35 := by
    unfold ArrayShape.reserved ArrayItem.bytes
    by_cases zero : count = 0
    · simp [zero]
    · simp [zero]
      omega
  unfold pointsFault? ArrayShape.check
  rw [memory] at ample
  rw [exact, words, if_neg (by omega), if_neg (by simp; omega), if_neg (by omega),
    if_neg (by omega)]

theorem drawLine_near (canvas : Canvas) (inked : ink.color = .ok color)
    (near : ∀ n ∈ [x, y, x1, y1], n.natAbs < 2 ^ 63) (short : lineGaps x y x1 y1 < 2 ^ 31)
    {room : ℕ} (ample : Bytes.limit ≤ room) :
    canvas.drawLine ink x y x1 y1 room = ⟨canvas.strokeLine color x y x1 y1, none⟩ := by
  have none : lineFault? x y x1 y1 room = none := by
    rw [lineFault?, endsFault?_near (near x (by simp)) (near x1 (by simp)),
      endsFault?_near (near y (by simp)) (near y1 (by simp)), pointsFault?_near (by omega) ample]
    rfl
  unfold drawLine
  rw [none, inked]

/-! ## Rectangles -/

theorem drawRect_empty (canvas : Canvas) (ink : Ink) (empty : width ≤ 0 ∨ height ≤ 0) (room : ℕ) :
    canvas.drawRect ink x y width height room = ⟨canvas, none⟩ :=
  if_pos (by simpa using empty)

theorem onBorder_iff (wide : 0 < width) (high : 0 < height) (i j : ℤ) :
    OnBorder x y width height i j ↔
      ((OnLine x y (x + width - 1) y i j ∨
          OnLine x (y + height - 1) (x + width - 1) (y + height - 1) i j) ∨
        OnLine x y x (y + height - 1) i j) ∨
      OnLine (x + width - 1) y (x + width - 1) (y + height - 1) i j := by
  rw [onLine_horizontal (by omega), onLine_horizontal (by omega), onLine_vertical (by omega),
    onLine_vertical (by omega), OnBorder]
  omega

theorem covers_border (canvas : Canvas) (wide : 0 < width) (high : 0 < height) :
    Covers (OnBorder x y width height) color canvas
      ((((canvas.strokeLine color x y (x + width - 1) y).strokeLine color
        x (y + height - 1) (x + width - 1) (y + height - 1)).strokeLine color
        x y x (y + height - 1)).strokeLine color
        (x + width - 1) y (x + width - 1) (y + height - 1)) := by
  have top : Covers (OnLine x y (x + width - 1) y) color canvas
      (canvas.strokeLine color x y (x + width - 1) y) := covers_strokeLine _ _ _ _
  have across := top.trans (covers_strokeLine x (y + height - 1) (x + width - 1) (y + height - 1))
  have all := (across.trans (covers_strokeLine x y x (y + height - 1))).trans
    (covers_strokeLine (x + width - 1) y (x + width - 1) (y + height - 1))
  exact all.congr fun i j _ _ => (onBorder_iff wide high i j).symm

theorem andThen_whole (canvas : Canvas) (next : Canvas → Drawn) :
    Drawn.andThen ⟨canvas, none⟩ next = next canvas :=
  rfl

theorem drawRect_near (canvas : Canvas) (inked : ink.color = .ok color)
    (near : ∀ n ∈ [x, y, width, height], n.natAbs < 2 ^ 31) {room : ℕ}
    (ample : Bytes.limit ≤ room) :
    ∃ after, canvas.drawRect ink x y width height room = ⟨after, none⟩ ∧
      canvas.Outlined color x y width height after := by
  by_cases empty : width ≤ 0 ∨ height ≤ 0
  · exact ⟨canvas, drawRect_empty canvas ink empty room, fun _ => rfl, fun _ _ => by omega⟩
  have extents : width.natAbs < 2 ^ 31 ∧ height.natAbs < 2 ^ 31 :=
    ⟨near width (by simp), near height (by simp)⟩
  have corners : ∀ n ∈ [x, y, x + width - 1, y + height - 1], n.natAbs < 2 ^ 63 := by
    simp only [List.forall_mem_cons, List.not_mem_nil, false_implies, implies_true,
      and_true] at near ⊢
    omega
  have draws (canvas : Canvas) {x0 y0 x1 y1 : ℤ}
      (ends : ∀ n ∈ [x0, y0, x1, y1], n ∈ [x, y, x + width - 1, y + height - 1])
      (short : lineGaps x0 y0 x1 y1 < 2 ^ 31) :
      canvas.drawLine ink x0 y0 x1 y1 room = ⟨canvas.strokeLine color x0 y0 x1 y1, none⟩ :=
    drawLine_near canvas inked (fun n member => corners n (ends n member)) short ample
  refine ⟨_, ?_, fun none => absurd none empty, fun wide high => covers_border canvas wide high⟩
  rw [drawRect, if_neg (by simpa using empty)]
  dsimp only
  rw [draws canvas (by simp) (by unfold lineGaps; omega), andThen_whole,
    draws _ (by simp) (by unfold lineGaps; omega), andThen_whole,
    draws _ (by simp) (by unfold lineGaps; omega), andThen_whole,
    draws _ (by simp) (by unfold lineGaps; omega)]

end Canvas

open LineScript.Action

/-! ## Instructions -/

def Reading.integerNotes (texts : List String) : List Note :=
  texts.flatMap fun text => (integer text).notes

theorem Effect.draw_whole {shape : Canvas → Ink → Int → Int → Int → Int → Nat → Canvas.Drawn}
    {scope : Scope} {a b c d : String} {after : Canvas}
    (drawn : shape scope.machine.canvas scope.machine.canvas.pen (Reading.integer a).value
      (Reading.integer b).value (Reading.integer c).value (Reading.integer d).value
      scope.machine.host.bytes = ⟨after, none⟩) :
    draw shape a b c d scope =
      .ok () ((scope.reportAll (Reading.integerNotes [a, b, c, d])).withCanvas after) := by
  have told : scope.reportAll (Reading.integerNotes [a, b, c, d]) =
      (((scope.reportAll (Reading.integer a).notes).reportAll
        (Reading.integer b).notes).reportAll (Reading.integer c).notes).reportAll
        (Reading.integer d).notes := by
    simp [Reading.integerNotes, Scope.reportAll_append]
  have same := scope.canvas_reportAll (Reading.integerNotes [a, b, c, d])
  have host := (scope.kept_reportAll (Reading.integerNotes [a, b, c, d])).machine.host
  unfold draw
  rw [bind_apply, take_apply]
  dsimp only
  rw [bind_apply, take_apply]
  dsimp only
  rw [bind_apply, take_apply]
  dsimp only
  rw [bind_apply, take_apply]
  dsimp only
  rw [← told]
  generalize scope.reportAll (Reading.integerNotes [a, b, c, d]) = later at same host
  rw [← same, ← host] at drawn
  rw [onScope_bind, drawn]
  rfl

namespace State

open Canvas

variable {script : Script} {now : State} {line : Line} {spec : Spec Meaning} {scope : Scope}
  {color : Color} {ink : Ink} {x y width height : ℤ}

theorem Meets.draws_rectangle {a b c d : String} {after : Canvas}
    (met : now.Meets line spec [a, b, c, d] scope)
    (builtin : spec.action = .builtin .rectangle)
    (drawn : now.scope.machine.canvas.drawRect now.scope.machine.canvas.pen
      (Reading.integer a).value (Reading.integer b).value (Reading.integer c).value
      (Reading.integer d).value now.scope.machine.host.bytes = ⟨after, none⟩) :
    now.execute script line = .next { now with
      scope := (scope.reportAll (Reading.integerNotes [a, b, c, d])).withCanvas after } := by
  rw [← met.canvas, ← met.alters.steady.host] at drawn
  have performed : Instruction.rectangle.perform script now.inBody line.number
      (piecesOf line.tokens) [a, b, c, d] scope =
      .ok .next ((scope.reportAll (Reading.integerNotes [a, b, c, d])).withCanvas after) := by
    change (Effect.draw @Canvas.drawRect a b c d >>= fun _ => pure Flow.next) scope = _
    rw [bind_apply, Effect.draw_whole drawn]
    rfl
  rw [met.executed builtin, performed]
  rfl

/-- On a host with enough memory, drawing a rectangle with near numbers gives its border the colour,
as far as it is on the canvas, and changes nothing else; so does a line whose arguments are read as
these numbers, with the pen. -/
theorem outlines_rectangle (inked : ink.color = .ok color)
    (near : ∀ n ∈ [x, y, width, height], n.natAbs < 2 ^ 31) :
    (∀ (canvas : Canvas) (room : ℕ), Bytes.limit ≤ room →
      ∃ after, canvas.drawRect ink x y width height room = ⟨after, none⟩ ∧
        canvas.Outlined color x y width height after) ∧
    ∀ (script : Script) (now : State) (line : Line) (spec : Spec Meaning) (scope : Scope)
      (a b c d : String), now.Meets line spec [a, b, c, d] scope →
      spec.action = .builtin .rectangle → now.scope.machine.canvas.pen = ink →
      [a, b, c, d].map (fun text => (Reading.integer text).value) = [x, y, width, height] →
      ∃ after, now.scope.machine.canvas.Outlined color x y width height after ∧
        now.execute script line = .next { now with
          scope := (scope.reportAll (Reading.integerNotes [a, b, c, d])).withCanvas after } := by
  refine ⟨fun canvas room ample => drawRect_near canvas inked near ample, ?_⟩
  intro script now line spec scope a b c d met builtin pen read
  obtain ⟨after, drawn, outlined⟩ := drawRect_near now.scope.machine.canvas inked near
    now.scope.machine.host.bytes_ample
  obtain ⟨rfl, rfl, rfl, rfl⟩ : _ = x ∧ _ = y ∧ _ = width ∧ _ = height := by simpa using read
  exact ⟨after, outlined, met.draws_rectangle builtin (pen ▸ drawn)⟩

def paintableExample : State :=
  { scope := ⟨{ Machine.plainExample.setGraphics true with canvas := .blank 3 2 },
      ⟨"main", [], .empty, .start⟩⟩
    suspended := []
    control := .running
    floor := .ground
    oneLine := false }

/-- The upper left corner of the rectangle is outside, and a pixel of the canvas is inside its
border. -/
theorem outlines_rectangle_cornerExample :
    paintableExample.Meets (.ofText 1 "RECT -1 -1 3 3")
      ⟨"RECT", 4, some 4, .builtin .rectangle, "", "graphics"⟩ ["-1", "-1", "3", "3"]
      paintableExample.scope ∧
    ∃ after, paintableExample.scope.machine.canvas.Outlined Color.white (-1) (-1) 3 3 after ∧
      paintableExample.execute (.ofLines "<string>" []) (.ofText 1 "RECT -1 -1 3 3") =
        .next { paintableExample with scope := paintableExample.scope.withCanvas after } ∧
      after.pixel? 1 0 = some Color.white ∧ after.pixel? 0 1 = some Color.white ∧
      after.pixel? 0 0 = some Color.black := by
  have split : piecesOf (Line.ofText 1 "RECT -1 -1 3 3").tokens =
      [⟨"-1", false⟩, ⟨"-1", false⟩, ⟨"3", false⟩, ⟨"3", false⟩] := by decide +kernel
  have met : paintableExample.Meets (.ofText 1 "RECT -1 -1 3 3")
      ⟨"RECT", 4, some 4, .builtin .rectangle, "", "graphics"⟩ ["-1", "-1", "3", "3"]
      paintableExample.scope :=
    ⟨by decide +kernel, split ▸ by with_unfolding_all rfl, by with_unfolding_all rfl, by rfl⟩
  obtain ⟨after, outlined, executed⟩ :=
    (@outlines_rectangle Color.white (.ofColor Color.white) (-1) (-1) 3 3 (by simp) (by decide)).2
      (.ofLines "<string>" []) _ _ _ _ _ _ _ _ met rfl rfl (by decide +kernel)
  have border := outlined.border (by decide) (by decide)
  have silent : Reading.integerNotes ["-1", "-1", "3", "3"] = [] := by decide +kernel
  rw [silent] at executed
  refine ⟨met, after, outlined, executed, ?_, ?_, ?_⟩
  · exact border.inside 1 0 (by decide) (by decide) (by decide)
  · exact border.inside 0 1 (by decide) (by decide) (by decide)
  · rw [border.outside 0 0 (by decide)]
    decide +kernel

end State

end LineScript

import LineScript.Proofs.Canvas.Pixels
import LineScript.Proofs.Complaint
import LineScript.Proofs.Destination

/-!
Instructions on the canvas. An instruction that takes a pen, fills the canvas or changes its size
does so only if nothing has been said about its line; otherwise there is an error and the canvas is
as it was. An instruction that draws repaints the canvas with the pen. No other instruction reaches
the canvas.
-/

namespace LineScript

open LineScript.Action

def Scope.withCanvas (scope : Scope) (canvas : Canvas) : Scope :=
  { scope with machine := { scope.machine with canvas } }

/-- The chosen canvas is taken and nothing is said, or none is chosen and there is an error. -/
inductive Scope.Turns (scope : Scope) : Option Canvas → Scope → Prop
  | taken (canvas : Canvas) : Turns scope (some canvas) (scope.withCanvas canvas)
  | refused {after : Scope} (canvas : after.machine.canvas = scope.machine.canvas)
      (error : scope.machine.log.GainsError after.machine.log) : Turns scope none after

def Scope.Redraws (before after : Scope) : Prop :=
  Canvas.Repaints before.machine.canvas.pen before.machine.canvas after.machine.canvas

/-! ## Effects -/

theorem Scope.canvas_reportAll (scope : Scope) (notes : List Note) :
    (scope.reportAll notes).machine.canvas = scope.machine.canvas := by
  have alters : scope.Alters [.log] (scope.reportAll notes) :=
    scope.alters_reportAll notes (by simp)
  exact alters.others .canvas (by decide)

theorem Reading.read_of_pos {text : String} (positive : 0 < (Reading.integer text).value) :
    Number.parseInt? text = some (Reading.integer text).value ∧
      (Reading.integer text).notes = [] := by
  unfold Reading.integer at positive ⊢
  cases parsed : Number.parseInt? text with
  | some number => exact ⟨rfl, rfl⟩
  | none =>
      rw [parsed] at positive
      exact absurd positive (Int.lt_irrefl 0)

def Canvas.resized? (canvas : Canvas) (width height : String) : Option Canvas :=
  let columns := (Reading.integer width).value
  let rows := (Reading.integer height).value
  if columns ≤ 0 || rows ≤ 0 || columns * rows > maxPixels then none
  else some (canvas.resize columns.toNat rows.toNat)

theorem Canvas.resized?_eq_some {canvas after : Canvas} {width height : String}
    (resized : canvas.resized? width height = some after) :
    ∃ columns rows : ℕ, Number.parseInt? width = some (columns : ℤ) ∧
      Number.parseInt? height = some (rows : ℤ) ∧ 1 ≤ columns ∧ 1 ≤ rows ∧
      columns * rows ≤ maxPixels ∧ after = canvas.resize columns rows := by
  unfold resized? at resized
  dsimp only at resized
  split at resized
  · cases resized
  · next accepted =>
      simp only [Bool.or_eq_true, decide_eq_true_eq, not_or, Int.not_le, Int.not_lt] at accepted
      obtain ⟨⟨wide, high⟩, bounded⟩ := accepted
      have readWidth := (Reading.read_of_pos wide).1
      have readHeight := (Reading.read_of_pos high).1
      obtain ⟨columns, sameColumns⟩ := Int.eq_ofNat_of_zero_le (Int.le_of_lt wide)
      obtain ⟨rows, sameRows⟩ := Int.eq_ofNat_of_zero_le (Int.le_of_lt high)
      rw [sameColumns] at wide bounded readWidth resized
      rw [sameRows] at high bounded readHeight resized
      cases resized
      refine ⟨columns, rows, readWidth, readHeight, ?_, ?_, ?_, rfl⟩
      · exact Int.ofNat_lt.mp wide
      · exact Int.ofNat_lt.mp high
      · exact_mod_cast bounded

namespace Effect

theorem turns_color (change : Canvas → Color → Canvas) (text : String) (scope : Scope) :
    ∃ after, (do
        match ← colorOf text with
        | some color => onCanvas fun canvas => change canvas color
        | none => return () : Action Unit) scope = .ok () after ∧
      scope.Turns ((Color.ofHex? text).map (change scope.machine.canvas)) after := by
  rw [bind_apply]
  cases read : Color.ofHex? text with
  | some color =>
      rw [colorOf_some read]
      exact ⟨_, rfl, .taken _⟩
  | none =>
      rw [colorOf_none read]
      exact ⟨_, rfl, .refused rfl (scope.gainsError_report rfl)⟩

theorem turns_setPen (text : String) (scope : Scope) :
    ∃ after, setPen text scope = .ok () after ∧ scope.Turns ((Color.ofHex? text).map fun color =>
      scope.machine.canvas.withPen (.ofColor color)) after :=
  turns_color (fun canvas color => canvas.withPen (.ofColor color)) text scope

theorem turns_fillCanvas (text : String) (scope : Scope) :
    ∃ after, fillCanvas text scope = .ok () after ∧
      scope.Turns ((Color.ofHex? text).map scope.machine.canvas.fill) after :=
  turns_color Canvas.fill text scope

def sizeNote (columns rows : Int) : Note :=
  ⟨.error, s!"Invalid window size {columns}x{rows}.", .malformedValue⟩

theorem take_apply (computed : Computed Int) (scope : Scope) :
    take computed scope = .ok computed.value (scope.reportAll computed.notes) :=
  rfl

theorem resizeCanvas_eq (width height : String) (scope : Scope) :
    resizeCanvas width height scope =
      let columns := Reading.integer width
      let rows := Reading.integer height
      let told := scope.reportAll (columns.notes ++ rows.notes)
      if columns.value ≤ 0 || rows.value ≤ 0 || columns.value * rows.value > Canvas.maxPixels then
        .ok () (told.reportAll [sizeNote columns.value rows.value])
      else .ok () (told.withCanvas
        (told.machine.canvas.resize columns.value.toNat rows.value.toNat)) := by
  unfold resizeCanvas
  rw [bind_apply, take_apply]
  dsimp only
  rw [bind_apply, take_apply, ← Scope.reportAll_append]
  dsimp only
  split <;> rfl

theorem turns_resizeCanvas (width height : String) (scope : Scope) :
    ∃ after, resizeCanvas width height scope = .ok () after ∧
      scope.Turns (scope.machine.canvas.resized? width height) after := by
  rw [resizeCanvas_eq, Canvas.resized?]
  dsimp only
  split
  · rw [← Scope.reportAll_append]
    exact ⟨_, rfl, .refused (scope.canvas_reportAll _)
      (scope.gainsError_reportAll (List.mem_append_right _ (List.mem_singleton_self _)) rfl)⟩
  · next accepted =>
      simp only [Bool.or_eq_true, decide_eq_true_eq, not_or, Int.not_le] at accepted
      rw [(Reading.read_of_pos accepted.1.1).2, (Reading.read_of_pos accepted.1.2).2]
      exact ⟨_, rfl, .taken _⟩

theorem redraws_draw {shape : Canvas → Ink → Int → Int → Int → Int → Nat → Canvas.Drawn}
    (repaints : ∀ canvas ink a b c d room,
      Canvas.Repaints ink canvas (shape canvas ink a b c d room).canvas)
    (a b c d : String) : Respects Scope.Redraws (draw shape a b c d) := by
  have trans (first second third : Scope) (early : first.Redraws second)
      (late : second.Redraws third) : first.Redraws third :=
    Canvas.Repaints.trans early (early.pen ▸ late)
  have took (text : String) : Respects Scope.Redraws (take (Reading.integer text)) := by
    intro scope
    rw [take_apply]
    change Canvas.Repaints _ _ (scope.reportAll _).machine.canvas
    rw [scope.canvas_reportAll]
    exact .refl _ _
  refine respects_bind trans (took a) fun a => respects_bind trans (took b) fun b =>
    respects_bind trans (took c) fun c => respects_bind trans (took d) fun d =>
    respects_bind trans (fun scope => repaints _ _ a b c d _) fun fault => ?_
  cases fault with
  | some fault => exact fun scope => .refl _ _
  | none => exact fun scope => .refl _ _

end Effect

/-! ## Instructions -/

namespace Instruction

variable {instruction : Instruction} {script : Script} {inBody : Bool} {number : Nat}
  {pieces : List Piece} {args : List String} {canvas after : Canvas}

def choosers : List Instruction := [.color, .fill, .windowSize]

def drawers : List Instruction := [.line, .rectangle]

/-- The canvas that an instruction chooses; none if its arguments are not good for one. -/
def choice (canvas : Canvas) : Instruction → List String → Option Canvas
  | .color, [text] => (Color.ofHex? text).map fun color => canvas.withPen (.ofColor color)
  | .fill, [text] => (Color.ofHex? text).map canvas.fill
  | .windowSize, [width, height] => canvas.resized? width height
  | _, _ => none

theorem canvas_cases (instruction : Instruction) :
    instruction ∈ choosers ∨ instruction ∈ drawers ∨ .canvas ∉ instruction.parts := by
  cases instruction <;> simp [choosers, drawers, parts]

theorem entry_of_chooser : ∀ entry ∈ allEntries,
    (entry.instruction ∈ choosers ↔ entry.name ∈ ["COLOR", "FILL", "WINSIZE"]) ∧
      (entry.instruction ∈ choosers → entry.minArgs = entry.instruction.needed ∧
        entry.maxArgs = some (entry.instruction.needed : Int)) := by
  decide +kernel

theorem entry_of_drawer : ∀ entry ∈ allEntries, entry.name ∈ ["LINE", "RECT"] →
    entry.instruction ∈ drawers := by
  decide +kernel

theorem entry_of_windowSize : ∀ entry ∈ allEntries, entry.name = "WINSIZE" →
    entry.instruction = .windowSize := by
  decide +kernel

theorem turns_perform (chooser : instruction ∈ choosers)
    (supplied : args.length = instruction.needed) (scope : Scope) :
    ∃ after, instruction.perform script inBody number pieces args scope = .ok .next after ∧
      scope.Turns (instruction.choice scope.machine.canvas args) after := by
  have finishes {effect : Action Unit} {chosen : Option Canvas}
      (turns : ∃ after, effect scope = .ok () after ∧ scope.Turns chosen after) :
      ∃ after, done effect scope = .ok .next after ∧ scope.Turns chosen after := by
    obtain ⟨after, result, turns⟩ := turns
    refine ⟨after, ?_, turns⟩
    rw [done, bind_apply, result]
    rfl
  cases instruction with
  | color =>
      obtain ⟨text, rfl⟩ := List.length_eq_one_iff.mp supplied
      exact finishes (Effect.turns_setPen text scope)
  | fill =>
      obtain ⟨text, rfl⟩ := List.length_eq_one_iff.mp supplied
      exact finishes (Effect.turns_fillCanvas text scope)
  | windowSize =>
      obtain ⟨width, height, rfl⟩ := List.length_eq_two.mp supplied
      exact finishes (Effect.turns_resizeCanvas width height scope)
  | _ => simp [choosers] at chooser

theorem redraws_perform (drawer : instruction ∈ drawers)
    (supplied : instruction.needed ≤ args.length) :
    Respects Scope.Redraws (instruction.perform script inBody number pieces args) := by
  have finishes {effect : Action Unit} (respects : Respects Scope.Redraws effect) :
      Respects Scope.Redraws (done effect) := fun scope => by
    rw [lastScope_done]
    exact respects scope
  cases given supplied with
  | line x y x1 y1 =>
      exact finishes (Effect.redraws_draw (fun _ _ => Canvas.repaints_drawLine) x y x1 y1)
  | rectangle x y width height =>
      exact finishes (Effect.redraws_draw (fun _ _ => Canvas.repaints_drawRect) x y width height)
  | _ => simp [drawers] at drawer

theorem choice_windowSize (chosen : choice canvas .windowSize args = some after) :
    ∃ width height, args = [width, height] ∧ canvas.resized? width height = some after := by
  match args with
  | [width, height] => exact ⟨width, height, rfl, chosen⟩
  | [] | [_] | _ :: _ :: _ :: _ => cases chosen

theorem choice_substitute {arg : String} (member : arg ∈ args)
    (substitute : arg ∈ Reference.substitutes) : instruction.choice canvas args = none := by
  have uncolored := Reference.ofHex?_substitute arg substitute
  unfold choice
  split
  · rw [← List.mem_singleton.mp member, uncolored]
    rfl
  · rw [← List.mem_singleton.mp member, uncolored]
    rfl
  · next width height =>
      cases resized : canvas.resized? width height with
      | none => rfl
      | some after =>
          obtain ⟨columns, rows, parsedWidth, parsedHeight, -⟩ := Canvas.resized?_eq_some resized
          have unread := Reference.parseInt?_substitute arg substitute
          rcases List.mem_pair.mp member with rfl | rfl
          · cases unread.symm.trans parsedWidth
          · cases unread.symm.trans parsedHeight
  · rfl

theorem sound_choice (sound : canvas.Sound) (chosen : instruction.choice canvas args = some after) :
    after.Sound := by
  unfold choice at chosen
  split at chosen
  · obtain ⟨color, -, rfl⟩ := Option.map_eq_some_iff.mp chosen
    exact sound.withPen color
  · obtain ⟨color, -, rfl⟩ := Option.map_eq_some_iff.mp chosen
    exact sound.fill color
  · obtain ⟨columns, rows, -, -, wide, high, bounded, rfl⟩ := Canvas.resized?_eq_some chosen
    exact sound.resize wide high bounded
  · cases chosen

end Instruction

end LineScript

import LineScript.Proofs.Canvas.Instruction
import LineScript.Proofs.Modes

/-!
The canvas in a run. Whatever the lines of a program are, its canvas stays sound: a line either
leaves the canvas as it is, or takes another one that can be asked for, or repaints it with the pen.
-/

namespace LineScript

open LineScript.Action

/-! ## Finding the instructions -/

theorem Spec.length_of_arityProblem? {α : Type} {spec : Spec α} {supplied most : ℤ}
    (least : spec.minArgs = most) (greatest : spec.maxArgs = some most)
    (fits : spec.arityProblem? supplied = none) : supplied = most := by
  have enough := Spec.le_of_arityProblem? fits
  unfold Spec.arityProblem? at fits
  rw [greatest, if_neg (Int.not_lt.mpr enough)] at fits
  dsimp only at fits
  split at fits
  · cases fits
  · omega

theorem Machine.lookup?_reserved {machine : Machine} {keyword : String} {spec : Spec Meaning}
    (accepted : conflict? machine.services = none)
    (reserved : Instruction.isReserved (Text.upper keyword) = true)
    (found : machine.lookup? keyword = some spec) :
    ∃ entry ∈ Instruction.allEntries, entry.name = Text.upper keyword ∧
      spec.action = .builtin entry.instruction := by
  rcases lookup?_cases found with ⟨entry, listed, origin, -, name, rfl⟩ | ⟨added, offered, rfl⟩
  · exact ⟨entry, listed, name, rfl⟩
  · cases (get?_reserved accepted reserved).symm.trans offered

namespace State

variable {script : Script} {line : Line} {state now after : State} {spec : Spec Meaning}
  {args : List String} {scope : Scope} {instruction : Instruction}

/-! ## One line -/

theorem Meets.builtin_of_reserved (met : now.Meets line spec args scope)
    (accepted : Machine.conflict? now.scope.machine.services = none)
    (reserved : Instruction.isReserved (Text.upper line.keyword) = true) :
    ∃ entry ∈ Instruction.allEntries, entry.name = Text.upper line.keyword ∧
      spec.action = .builtin entry.instruction := by
  have services : scope.machine.services = now.scope.machine.services :=
    met.alters.steady.services
  exact Machine.lookup?_reserved (services ▸ accepted) reserved met.found

theorem Meets.length_of_chooser (met : now.Meets line spec args scope)
    (builtin : spec.action = .builtin instruction) (chooser : instruction ∈ Instruction.choosers) :
    args.length = instruction.needed := by
  rcases Machine.lookup?_cases met.found with ⟨entry, listed, origin, -, -, rfl⟩ | ⟨added, -, rfl⟩
  · obtain rfl : entry.instruction = instruction := Meaning.builtin.inj builtin
    obtain ⟨least, most⟩ := (Instruction.entry_of_chooser entry listed).2 chooser
    exact Int.ofNat_inj.mp (Spec.length_of_arityProblem? least most met.supplied)
  · cases builtin

theorem Meets.turns (met : now.Meets line spec args scope)
    (builtin : spec.action = .builtin instruction) (chooser : instruction ∈ Instruction.choosers) :
    ∃ after, now.execute script line = .next { now with scope := after } ∧
      scope.Turns (instruction.choice scope.machine.canvas args) after := by
  obtain ⟨after, performed, turns⟩ := Instruction.turns_perform chooser
    (met.length_of_chooser builtin chooser) scope
  refine ⟨after, ?_, turns⟩
  rw [met.executed builtin, performed]
  rfl

theorem Meets.canvas (met : now.Meets line spec args scope) :
    scope.machine.canvas = now.scope.machine.canvas :=
  met.alters.others .canvas (by decide)

theorem Meets.canvas_execute (met : now.Meets line spec args scope) :
    (now.execute script line).state.scope.machine.canvas =
      (lastScope (now.performed script line spec args scope)).machine.canvas := by
  rw [met.execute]
  exact (idle_settle _).canvas

theorem Meets.canvas_same (met : now.Meets line spec args scope)
    (apart : ∀ instruction, spec.action = .builtin instruction → .canvas ∉ instruction.parts) :
    (now.execute script line).state.scope.machine.canvas = now.scope.machine.canvas := by
  rw [met.canvas_execute, ← met.canvas]
  unfold performed
  cases action : spec.action with
  | builtin instruction =>
      exact (Instruction.alters_perform scope).others .canvas (apart instruction action)
  | added behavior => exact (Meaning.alters_added behavior scope).others .canvas (by decide)

theorem Meets.redraws (met : now.Meets line spec args scope)
    (builtin : spec.action = .builtin instruction) (drawer : instruction ∈ Instruction.drawers) :
    now.scope.machine.canvas.Repaints now.scope.machine.canvas.pen
      (now.execute script line).state.scope.machine.canvas := by
  rw [met.canvas_execute, ← met.canvas]
  unfold performed
  rw [builtin]
  exact Instruction.redraws_perform drawer (met.instruction_supplied builtin) scope

/-- What becomes of a line with an instruction that chooses a canvas: either nothing has been said,
and the canvas is the chosen one, or the canvas is as it was, and the run does not go on without an
error. -/
inductive Chooses (script : Script) (now : State) (line : Line) : Prop where
  | takes {entry : Instruction.Entry} {args : List String} {scope : Scope} {canvas : Canvas}
      (listed : entry ∈ Instruction.allEntries) (name : entry.name = Text.upper line.keyword)
      (resolved : Reference.resolveAll (piecesOf line.tokens) now.scope = .ok args scope)
      (silent : scope.machine.log = now.scope.machine.log)
      (chosen : entry.instruction.choice now.scope.machine.canvas args = some canvas)
      (taken : now.execute script line = .next { now with scope := scope.withCanvas canvas })
  | leaves
      (same : (now.execute script line).state.scope.machine.canvas = now.scope.machine.canvas)
      (told : ∀ after, now.execute script line = .next after →
        now.scope.machine.log.GainsError after.scope.machine.log)

theorem chooses_execute (script : Script)
    (accepted : Machine.conflict? now.scope.machine.services = none)
    (named : Text.upper line.keyword ∈ ["COLOR", "FILL", "WINSIZE"]) :
    now.Chooses script line := by
  have reserved : Instruction.isReserved (Text.upper line.keyword) = true :=
    (by decide +kernel : ∀ name ∈ ["COLOR", "FILL", "WINSIZE"],
      Instruction.isReserved name = true) _ named
  by_cases comes : ∃ spec args scope, now.Meets line spec args scope
  · obtain ⟨spec, args, scope, met⟩ := comes
    obtain ⟨entry, listed, name, builtin⟩ := met.builtin_of_reserved accepted reserved
    have chooser := (Instruction.entry_of_chooser entry listed).1.mpr (name ▸ named)
    obtain ⟨after, executed, turns⟩ := met.turns builtin chooser
    generalize choice : entry.instruction.choice scope.machine.canvas args = chosen at turns
    cases turns with
    | taken canvas =>
        refine .takes listed name met.resolved ?_ (met.canvas ▸ choice) executed
        -- An error while the arguments are read would have left a substitute, and then no canvas
        -- is chosen.
        rcases Reference.substitute_of_resolveAll met.resolved with log | ⟨arg, member, substitute⟩
        · exact log
        · cases (Instruction.choice_substitute member substitute).symm.trans choice
    | refused canvas error =>
        refine .leaves ?_ fun other next => ?_
        · rw [executed]
          exact canvas.trans met.canvas
        · cases executed.symm.trans next
          exact met.gains.gainsError error
  · have reads := (meets_or_onlyReads script now line).resolve_left comes
    exact .leaves (reads.scope.others .canvas (by decide))
      ((meets_or_complains script now line).resolve_left comes)

theorem redraws_execute (script : Script)
    (accepted : Machine.conflict? now.scope.machine.services = none)
    (named : Text.upper line.keyword ∈ ["LINE", "RECT"]) :
    now.scope.machine.canvas.Repaints now.scope.machine.canvas.pen
      (now.execute script line).state.scope.machine.canvas := by
  have reserved : Instruction.isReserved (Text.upper line.keyword) = true :=
    (by decide +kernel : ∀ name ∈ ["LINE", "RECT"], Instruction.isReserved name = true) _ named
  rcases meets_or_onlyReads script now line with ⟨spec, args, scope, met⟩ | reads
  · obtain ⟨entry, listed, name, builtin⟩ := met.builtin_of_reserved accepted reserved
    exact met.redraws builtin (Instruction.entry_of_drawer entry listed (name ▸ named))
  · rw [reads.scope.others .canvas (by decide)]
    exact .refl _ _

theorem sound_execute (script : Script) (line : Line) (sound : now.scope.machine.canvas.Sound) :
    (now.execute script line).state.scope.machine.canvas.Sound := by
  rcases meets_or_onlyReads script now line with ⟨spec, args, scope, met⟩ | reads
  · cases action : spec.action with
    | builtin instruction =>
        rcases instruction.canvas_cases with chooser | drawer | apart
        · obtain ⟨after, executed, turns⟩ := met.turns action chooser
          have before : scope.machine.canvas.Sound := met.canvas ▸ sound
          rw [executed]
          generalize choice : instruction.choice scope.machine.canvas args = chosen at turns
          cases turns with
          | taken canvas => exact Instruction.sound_choice before choice
          | refused canvas error => exact canvas ▸ before
        · exact (met.redraws action drawer).sound sound
        · rw [met.canvas_same fun other same =>
            Meaning.builtin.inj (action.symm.trans same) ▸ apart]
          exact sound
    | added behavior =>
        rw [met.canvas_same fun other same => nomatch action.symm.trans same]
        exact sound
  · rw [reads.scope.others .canvas (by decide)]
    exact sound

/-! ## One step -/

theorem sound_step (script : Script) (sound : state.scope.machine.canvas.Sound) :
    (state.step script).state.scope.machine.canvas.Sound := by
  rcases carries_or_idle script state with ⟨line, spec, args, scope, carries⟩ | idle
  · rw [carries.steps]
    exact sound_execute script line ((state.idle_told line.text).canvas ▸ sound)
  · exact idle.canvas ▸ sound

theorem refuses_step (whole : state.oneLine = false)
    (accepted : Machine.conflict? state.scope.machine.services = none)
    (next : state.nextLine? script = some line)
    (named : Text.upper line.keyword ∈ ["COLOR", "FILL", "WINSIZE"])
    (error : state.scope.machine.log.GainsError (state.step script).state.scope.machine.log) :
    (state.step script).state.scope.machine.canvas = state.scope.machine.canvas := by
  have idle := state.idle_told line.text
  rcases step_nextLine whole next with ⟨fault, stops⟩ | executes
  · rw [stops]
    exact idle.canvas
  rw [executes] at error ⊢
  rw [← state.log_told line.text] at error
  cases chooses_execute script (idle.services ▸ accepted) named with
  | leaves same told => exact same.trans idle.canvas
  | @takes entry args scope canvas listed name resolved silent chosen taken =>
      rw [taken] at error
      have unchanged : (state.told line.text).scope.machine.log.GainsError scope.machine.log :=
        error
      rw [silent] at unchanged
      exact absurd unchanged (Log.not_gainsError _)

theorem resizes_step (whole : state.oneLine = false)
    (accepted : Machine.conflict? state.scope.machine.services = none)
    (next : state.nextLine? script = some line) (named : Text.upper line.keyword = "WINSIZE")
    (stepped : state.step script = .next after)
    (silent : ¬ state.scope.machine.log.GainsError after.scope.machine.log) :
    ∃ width height scope, Reference.resolveAll (piecesOf line.tokens)
        (state.told line.text).scope = .ok [width, height] scope ∧
      ∃ columns rows : ℕ, Number.parseInt? width = some (columns : ℤ) ∧
        Number.parseInt? height = some (rows : ℤ) ∧
        state.scope.machine.canvas.ResizedTo after.scope.machine.canvas columns rows := by
  have idle := state.idle_told line.text
  rcases step_nextLine whole next with ⟨fault, stops⟩ | executes
  · cases stops.symm.trans stepped
  have executed := executes.symm.trans stepped
  rw [← state.log_told line.text] at silent
  cases chooses_execute script (idle.services ▸ accepted)
    (show Text.upper line.keyword ∈ _ by simp [named]) with
  | leaves same told => exact absurd (told after executed) silent
  | @takes entry args scope canvas listed name resolved same chosen taken =>
      rw [Instruction.entry_of_windowSize entry listed (name.trans named), idle.canvas] at chosen
      obtain ⟨width, height, rfl, resized⟩ := Instruction.choice_windowSize chosen
      obtain ⟨columns, rows, readWidth, readHeight, -, -, -, rfl⟩ := Canvas.resized?_eq_some resized
      cases taken.symm.trans executed
      exact ⟨width, height, scope, resolved, columns, rows, readWidth, readHeight,
        Canvas.resizedTo_resize _ _ _⟩

theorem redraws_step (whole : state.oneLine = false)
    (accepted : Machine.conflict? state.scope.machine.services = none)
    (next : state.nextLine? script = some line)
    (named : Text.upper line.keyword ∈ ["LINE", "RECT"]) :
    state.scope.machine.canvas.Repaints state.scope.machine.canvas.pen
      (state.step script).state.scope.machine.canvas := by
  have idle := state.idle_told line.text
  rw [← idle.canvas]
  rcases step_nextLine whole next with ⟨fault, stops⟩ | executes
  · rw [stops]
    exact .refl _ _
  · rw [executes]
    exact redraws_execute script (idle.services ▸ accepted) named

end State

/-! ## Programs -/

namespace Program

variable {script : Script} {entry : String} {machine : Machine} {state : State}

theorem idle_start (script : Script) (entry : String) (machine : Machine) :
    machine.Idle (start script entry machine).machine :=
  machine.outlasts_idle.start (.refl machine) script entry

theorem idle_close (ending : Ending) (state : State) :
    state.scope.machine.Idle (close ending state).machine :=
  state.scope.machine.outlasts_idle.close (.refl state.scope.machine) ending

theorem Reaches.canvas_sound (reached : Reaches script entry machine state)
    (sound : machine.canvas.Sound) : state.scope.machine.canvas.Sound := by
  induction reached with
  | start started =>
      have idle := idle_start script entry machine
      rw [started] at idle
      exact idle.canvas ▸ sound
  | @step state after reached stepped ih =>
      have kept := State.sound_step script ih
      rwa [stepped] at kept

theorem sound_run {run : ProgramRun} {fuel : ℕ} (sound : machine.canvas.Sound)
    (ended : Program.run script entry machine fuel = some run) : run.machine.canvas.Sound := by
  cases concludes_of_run ended with
  | early started =>
      have idle := idle_start script entry machine
      rw [started] at idle
      exact idle.canvas ▸ sound
  | @late final last ending reached stopped =>
      have kept := State.sound_step script (reached.canvas_sound sound)
      rw [stopped] at kept
      exact (idle_close ending last).canvas ▸ kept

/-- What lines do to the canvas of a program. -/
structure KeepsCanvas (script : Script) (entry : String) (machine : Machine) : Prop where
  sound : ∀ state, Reaches script entry machine state → state.scope.machine.canvas.Sound
  ended : ∀ fuel run, Program.run script entry machine fuel = some run → run.machine.canvas.Sound
  /-- A line that takes a pen, fills the canvas or changes its size does nothing of this if it has
  an error. -/
  refused : ∀ state line, Reaches script entry machine state →
    state.nextLine? script = some line → Text.upper line.keyword ∈ ["COLOR", "FILL", "WINSIZE"] →
    state.scope.machine.log.GainsError (state.step script).state.scope.machine.log →
      (state.step script).state.scope.machine.canvas = state.scope.machine.canvas
  /-- Without an error the canvas gets the size that is asked for, keeps the pixels of both sizes
  and is black elsewhere. -/
  resized : ∀ state line after, Reaches script entry machine state →
    state.nextLine? script = some line → Text.upper line.keyword = "WINSIZE" →
    state.step script = .next after →
    ¬ state.scope.machine.log.GainsError after.scope.machine.log →
      ∃ width height scope, Reference.resolveAll (piecesOf line.tokens)
          (state.told line.text).scope = .ok [width, height] scope ∧
        ∃ columns rows : ℕ, Number.parseInt? width = some (columns : ℤ) ∧
          Number.parseInt? height = some (rows : ℤ) ∧
          state.scope.machine.canvas.ResizedTo after.scope.machine.canvas columns rows
  /-- Drawing repaints the canvas with the pen, even if it does not come to its end. -/
  drawn : ∀ state line, Reaches script entry machine state →
    state.nextLine? script = some line → Text.upper line.keyword ∈ ["LINE", "RECT"] →
      state.scope.machine.canvas.Repaints state.scope.machine.canvas.pen
        (state.step script).state.scope.machine.canvas

theorem canvas_ofSetup {setup : Machine.Setup} (built : Machine.ofSetup setup = .ok machine) :
    machine.canvas = .blank Canvas.defaultWidth Canvas.defaultHeight := by
  obtain ⟨-, fresh, starts, rfl⟩ := Machine.ofSetup_ok built
  exact starts.canvas

/-- Of every program the canvas is sound at any time, and only the lines that are meant to change
it do so. -/
theorem keepsCanvas_ofSetup (script : Script) (entry : String) {setup : Machine.Setup}
    {machine : Machine} (built : Machine.ofSetup setup = .ok machine) :
    KeepsCanvas script entry machine := by
  have sound : machine.canvas.Sound := by
    rw [canvas_ofSetup built]
    exact .blank (by decide) (by decide) (by decide)
  obtain ⟨accepted, layered⟩ := Machine.layered_ofSetup built
  have free (state : State) (reached : Reaches script entry machine state) :
      Machine.conflict? state.scope.machine.services = none :=
    (Machine.lasts_layered.reaches layered reached).1 ▸ accepted
  refine ⟨fun state reached => reached.canvas_sound sound, fun fuel run => sound_run sound,
    ?_, ?_, ?_⟩
  · intro state line reached next named error
    exact State.refuses_step reached.inPlace.whole (free state reached) next named error
  · intro state line after reached next named stepped silent
    exact State.resizes_step reached.inPlace.whole (free state reached) next named stepped silent
  · intro state line reached next named
    exact State.redraws_step reached.inPlace.whole (free state reached) next named

def paintingExample : Script :=
  .ofLines "" ["DEF main", "WINSIZE 2 1", "FILL 00f", "RECT 0 0 1 1", "WINSIZE 2 -1", "ENDDEF"]

def graphicsExample : Machine.Setup :=
  { settings := ⟨some Settings.defaultDepth, some Settings.defaultArgs, false, false⟩
    services := .empty
    extended := false
    graphics := true
    seed := 0
    clock := Clock.ofSeconds 0 0
    wakes := false
    replies := []
    files := .ofDirectory "/" }

theorem keepsCanvas_paintingExample :
    ∃ machine run, Machine.ofSetup graphicsExample = .ok machine ∧
      KeepsCanvas paintingExample "main" machine ∧
      Program.run paintingExample "main" machine 20 = some run ∧ run.machine.canvas.Sound ∧
      run.machine.canvas.pixels.toList = [⟨255, 255, 255⟩, ⟨0, 0, 255⟩] := by
  obtain ⟨machine, built⟩ : ∃ machine, Machine.ofSetup graphicsExample = .ok machine := ⟨_, rfl⟩
  have keeps := keepsCanvas_ofSetup paintingExample "main" built
  have painted : ((Machine.ofSetup graphicsExample).toOption.bind fun machine =>
      (Program.run paintingExample "main" machine 20).map (·.machine.canvas.pixels.toList)) =
      some [⟨255, 255, 255⟩, ⟨0, 0, 255⟩] := by
    decide +kernel
  rw [built] at painted
  obtain ⟨run, ended, pixels⟩ := Option.map_eq_some_iff.mp painted
  exact ⟨machine, run, built, keeps, ended, keeps.ended 20 run ended, pixels⟩

end Program

end LineScript

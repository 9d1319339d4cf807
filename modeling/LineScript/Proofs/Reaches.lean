import LineScript.Proofs.Program

/-!
The states that a program comes to. Every frame of a run stands inside a definition that exists; the
body of an inline loop is never above the header of the loop, and only such a body comes to an end
marker, which is below the header.
-/

namespace LineScript

/-! ## Frames that are in place -/

structure Frame.Proper (script : Script) (frame : Frame) : Prop where
  defined : script.entryLine? frame.entry ≠ none
  inside : frame.cursor.line ≤ script.lineCount

def Script.IsBelow (script : Script) (above line : Nat) : Prop :=
  above < line ∧ line ≤ script.lineCount

def Suspended.Holds (script : Script) (frame : Frame) : Suspended → Prop
  | caller _ _ => True
  | owner cursor loop => loop.header = cursor.line ∧ cursor.line ≤ frame.cursor.line ∧
      ∀ line ∈ loop.endLine, script.IsBelow cursor.line line

def Grounded (script : Script) (frame : Frame) : List Suspended → Prop
  | [] => frame.Proper script
  | waiting :: rest => frame.Proper script ∧ waiting.Holds script frame ∧
      Grounded script (waiting.frame frame) rest

namespace Grounded

variable {script : Script} {frame later : Frame} {waiting : Suspended} {suspended : List Suspended}

theorem proper (grounded : Grounded script frame suspended) : frame.Proper script := by
  cases suspended with
  | nil => exact grounded
  | cons waiting rest => exact grounded.1

theorem onward (grounded : Grounded script frame suspended) (moved : frame.Onward script later) :
    Grounded script later suspended := by
  induction suspended generalizing frame later with
  | nil => exact ⟨moved.entry ▸ grounded.defined, moved.within grounded.inside⟩
  | cons waiting rest ih =>
      obtain ⟨proper, holds, below⟩ := grounded
      refine ⟨⟨moved.entry ▸ proper.defined, moved.within proper.inside⟩, ?_, ?_⟩
      · cases waiting with
        | caller frame wait => trivial
        | owner cursor loop =>
            exact ⟨holds.1, Nat.le_trans holds.2.1 moved.forward, holds.2.2⟩
      · refine ih below ?_
        cases waiting with
        | caller frame wait => exact .refl frame
        | owner cursor loop => exact ⟨moved.entry, moved.args, Nat.le_refl _, id⟩

end Grounded

def State.BodyAbove (script : Script) (state : State) (line : Nat) : Prop :=
  ∃ cursor loop rest, state.suspended = .owner cursor loop :: rest ∧
    script.IsBelow cursor.line line

/-- The frames of the state are in place, and one that comes to an end marker is the body of a
loop above it. -/
structure State.InPlace (script : Script) (state : State) : Prop where
  whole : state.oneLine = false
  alone : state.floor = .ground
  grounded : Grounded script state.scope.frame state.suspended
  resumes : ∀ line value, state.control = .leaving (.resume line value) → state.BodyAbove script line

/-! ## What a step preserves -/

def Suspended.Fits (script : Script) (fresh : Suspended → Prop) : Prop :=
  ∀ cursor loop, fresh (.owner cursor loop) →
    loop.header = cursor.line ∧ ∀ line ∈ loop.endLine, script.IsBelow cursor.line line

theorem Suspended.Starts.grounded {script : Script} {waiting : Suspended} {frame : Frame}
    {rest : List Suspended} {fresh : Suspended → Prop} (starts : waiting.Starts script frame)
    (known : fresh waiting) (fits : Suspended.Fits script fresh)
    (below : Grounded script (waiting.frame frame) rest) :
    Grounded script frame (waiting :: rest) := by
  cases waiting with
  | caller other wait =>
      obtain ⟨entry, args, line, found, rfl⟩ := starts
      refine ⟨⟨?_, Cursor.advance_within (Nat.zero_le _)⟩, trivial, below⟩
      simp [State.definitionFrame, found]
  | owner cursor loop =>
      obtain ⟨header, ends⟩ := fits cursor loop known
      have proper := below.proper
      have bound : loop.header ≤ script.lineCount := header ▸ proper.inside
      have line : frame.cursor.line = loop.header := by
        rw [show frame.cursor = _ from starts]
        exact Cursor.line_advance (Nat.zero_le _) bound
      exact ⟨⟨proper.defined, line ▸ bound⟩, ⟨header, by omega, ends⟩, below⟩

theorem Outcome.grounded {script : Script} {fresh : Suspended → Prop} {exits : Signal → Prop}
    {now after : State} (outcome : Outcome script fresh exits now after)
    (fits : Suspended.Fits script fresh) (ready : now.control = .running)
    (ends : ∀ line value, exits (.resume line value) → now.BodyAbove script line)
    (grounded : Grounded script now.scope.frame now.suspended) :
    Grounded script after.scope.frame after.suspended ∧
      ∀ line value, after.control = .leaving (.resume line value) → after.BodyAbove script line := by
  cases outcome with
  | stays control same frame =>
      refine ⟨same ▸ grounded.onward frame, fun line value leaving => ?_⟩
      rw [control, ready] at leaving
      cases leaving
  | leaves control known same frame =>
      refine ⟨same ▸ grounded.onward frame, fun line value leaving => ?_⟩
      rw [control, Control.leaving.injEq] at leaving
      rw [State.BodyAbove, same]
      exact ends line value (leaving ▸ known)
  | enters control known pushed frame starts room =>
      refine ⟨pushed ▸ starts.grounded known fits (grounded.onward frame), ?_⟩
      intro line value leaving
      rw [control] at leaving
      cases leaving

namespace State

variable {script : Script} {state after : State}

theorem bodyAbove_of_arisesOn {line place : Nat} {value : String}
    (grounded : Grounded script state.scope.frame state.suspended)
    (below : script.IsBelow state.scope.frame.cursor.line line)
    (arises : (Signal.resume place value).ArisesOn state.inBody line) :
    state.BodyAbove script place := by
  obtain ⟨inside, rfl⟩ := arises
  unfold inBody at inside
  split at inside
  · cases inside
  · next waiting rest waits =>
      rw [waits] at grounded
      cases waiting with
      | caller frame wait => cases inside
      | owner cursor loop =>
          exact ⟨cursor, loop, rest, waits, Nat.lt_of_le_of_lt grounded.2.1.2.1 below.1,
            below.2⟩

namespace InPlace

theorem ends (inPlace : state.InPlace script) {signal : Signal} {cursor : Cursor}
    {loop : InlineLoop} {rest : List Suspended} (leaving : state.control = .leaving signal)
    (waits : state.suspended = .owner cursor loop :: rest) :
    ∀ line ∈ (loop.after signal).endLine, script.IsBelow cursor.line line := by
  have grounded := inPlace.grounded
  rw [waits] at grounded
  cases signal with
  | resume line value =>
      obtain ⟨other, _, _, same, below⟩ := inPlace.resumes line value leaving
      rw [waits] at same
      cases same
      intro last ends
      cases ends
      exact below
  | returned value => exact grounded.2.1.2.2
  | broken value => exact grounded.2.1.2.2
  | continued value => exact grounded.2.1.2.2

theorem step (inPlace : state.InPlace script) (follows : state.Follows after)
    (transition : Transition script state after) : after.InPlace script := by
  have whole := follows.oneLine.trans inPlace.whole
  have alone := follows.floor.trans inPlace.alone
  cases transition with
  | finishes running control same frame =>
      refine ⟨whole, alone, same ▸ inPlace.grounded.onward frame, fun line value leaving => ?_⟩
      rw [control] at leaving
      cases leaving
  | @reads now running ready same frame below outcome =>
      have fits : Suspended.Fits script
          (Suspended.Begun script state.scope.machine.services) := fun cursor loop begun =>
        ⟨begun.2.1, by simp [begun.2.2]⟩
      -- The signal that resumes a loop arises only inside its body, so the end marker is below.
      have ends (line : Nat) (value : String) (arises : (Signal.resume line value).ArisesOn
          now.inBody now.scope.frame.cursor.line) : now.BodyAbove script line := by
        rw [inBody, same] at arises
        rw [BodyAbove, same]
        have inside := (inPlace.grounded.onward frame).proper.inside
        exact bodyAbove_of_arisesOn inPlace.grounded ⟨below, inside⟩ arises
      obtain ⟨grounded, resumes⟩ :=
        outcome.grounded fits ready ends (same ▸ inPlace.grounded.onward frame)
      exact ⟨whole, alone, grounded, resumes⟩
  | @returns now signal waiting leaving waits ready frame outcome =>
      have grounded := inPlace.grounded
      rw [waits] at grounded
      -- A loop that repeats keeps its header; all that may change is the known end marker.
      have fits : Suspended.Fits script (waiting.Repeats signal) := by
        intro cursor again repeats
        cases waiting with
        | caller frame wait =>
            cases wait <;> exact repeats.elim
        | owner place loop =>
            obtain ⟨rfl, -, -, header, endLine⟩ := repeats
            have same : (loop.after signal).header = loop.header := by cases signal <;> rfl
            exact ⟨header.trans (same.trans grounded.2.1.1), endLine ▸ inPlace.ends leaving waits⟩
      have ends (line : Nat) (value : String)
          (passed : waiting.PassesOn signal (.resume line value)) : now.BodyAbove script line := by
        obtain ⟨-, same, other, returned⟩ := passed
        cases same.trans returned
      obtain ⟨groundedAfter, resumes⟩ := outcome.grounded fits ready ends (frame ▸ grounded.2.2)
      exact ⟨whole, alone, groundedAfter, resumes⟩

end InPlace

end State

/-! ## What a run preserves -/

namespace Program

/-- The states that a program comes to. -/
inductive Reaches (script : Script) (entry : String) (machine : Machine) : State → Prop where
  | start {state : State} (started : Program.start script entry machine = .running state) :
      Reaches script entry machine state
  | step {state after : State} (reached : Reaches script entry machine state)
      (stepped : state.step script = .next after) : Reaches script entry machine after

variable {script : Script} {entry : String} {machine : Machine} {state : State}

theorem inPlace_of_running (started : start script entry machine = .running state) :
    state.InPlace script := by
  have starts := starts_of_running started
  obtain ⟨line, found, frame⟩ := starts.found
  refine ⟨starts.whole, starts.alone, ?_, ?_⟩
  · rw [starts.suspended, frame]
    refine ⟨?_, Cursor.advance_within (Nat.zero_le _)⟩
    simp [State.definitionFrame, found]
  · simp [starts.control]

namespace Reaches

theorem inPlace (reached : Reaches script entry machine state) : state.InPlace script := by
  induction reached with
  | start started => exact inPlace_of_running started
  | step reached stepped inPlace =>
      have transits := State.transits_step script inPlace.whole
      rw [stepped] at transits
      exact inPlace.step transits.1 transits.2

theorem transits (reached : Reaches script entry machine state) :
    (state.step script).Transits script state :=
  State.transits_step script reached.inPlace.whole

theorem transition (reached : Reaches script entry machine state) {after : State}
    (stepped : state.step script = .next after) :
    state.Follows after ∧ Transition script state after := by
  have transits := reached.transits
  rwa [stepped] at transits

theorem stopped (reached : Reaches script entry machine state) {fuel : Nat} {ending : Ending}
    {last : State} (ran : state.run script fuel = some (ending, last)) :
    ∃ final, Reaches script entry machine final ∧ final.step script = .stop ending last := by
  induction fuel generalizing state with
  | zero => cases ran
  | succ fuel ih =>
      cases stepped : state.step script with
      | stop other final =>
          rw [State.run_stop stepped] at ran
          cases ran
          exact ⟨state, reached, stepped⟩
      | next after =>
          rw [State.run_next stepped] at ran
          exact ih (reached.step stepped) ran

theorem ended (reached : Reaches script entry machine state) {ending : Ending}
    {last : State} (stopped : state.step script = .stop ending last) :
    ∃ fuel, Program.run script entry machine fuel = some (close ending last) := by
  have ran : ∃ fuel, state.run script fuel = some (ending, last) := ⟨1, State.run_stop stopped 0⟩
  clear stopped
  induction reached with
  | start started =>
      obtain ⟨fuel, ran⟩ := ran
      refine ⟨fuel, ?_⟩
      rw [Program.run, started, ProgramStart.finish, ran]
      rfl
  | step reached stepped ih =>
      obtain ⟨fuel, ran⟩ := ran
      exact ih ⟨fuel + 1, (State.run_next stepped fuel).trans ran⟩

theorem follows (reached : Reaches script entry machine state) :
    machine.Follows state.scope.machine := by
  induction reached with
  | start started => exact (starts_of_running started).follows
  | step reached stepped follows => exact follows.trans (reached.transition stepped).1.machine

end Reaches

/-- How a run comes to its end: before the first line, or in the step from a state that the program
comes to. -/
inductive Concludes (script : Script) (entry : String) (machine : Machine) : ProgramRun → Prop where
  | early {run : ProgramRun} (started : start script entry machine = .ended run) :
      Concludes script entry machine run
  | late {state last : State} {ending : Ending} (reached : Reaches script entry machine state)
      (stopped : state.step script = .stop ending last) :
      Concludes script entry machine (close ending last)

theorem concludes_of_run {fuel : Nat} {run : ProgramRun}
    (ended : Program.run script entry machine fuel = some run) :
    Concludes script entry machine run := by
  unfold Program.run at ended
  cases started : start script entry machine with
  | ended early =>
      rw [started] at ended
      cases ended
      exact .early started
  | running first =>
      rw [started, ProgramStart.finish] at ended
      obtain ⟨⟨ending, last⟩, ran, rfl⟩ := Option.map_eq_some_iff.mp ended
      obtain ⟨state, reached, stopped⟩ := (Reaches.start started).stopped ran
      exact .late reached stopped

end Program

end LineScript

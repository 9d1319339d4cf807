import LineScript.Proofs.Insertion.Script

/-!
A blank line or a comment has no effect. A program whose script has one more such line takes one
more step whenever it comes by it, and otherwise does what the program does without it, under the
new numbers of the lines: it ends if and only if that one does, and in the same way.
-/

namespace LineScript

/-! ## Two scripts in lock step -/

/-- The second step is the first one as it is seen in the view. A frame that has come to the end of
the script may stand at another line, for nobody asks where it has stood. -/
inductive View.Alike (view : View) : Step → Step → Prop where
  | seen (step : Step) : view.Alike step (view.step step)
  | leaving {state : State} {signal : Signal} (leaves : state.control = .leaving signal)
      (cursor : Cursor) : view.Alike (.next state) (.next ((view.state state).moveTo cursor))
  | finished {state : State} (alone : state.suspended = []) (signal : Signal) (cursor : Cursor) :
      view.Alike (.stop (.finished (some signal)) state)
        (.stop (.finished (some (view.signal signal))) ((view.state state).moveTo cursor))

theorem Step.leads_step (script : Script) (state : State) :
    Leads script 1 (.next state) (state.step script) :=
  .next (.refl _)

namespace Cursor

variable {script : Script} {above : Nat} {text : String} {cursor : Cursor}

theorem read_before (before : cursor.line < script.lineCount) :
    cursor.read script = ⟨cursor.line + 1, script.line? (cursor.line + 1)⟩ :=
  if_pos before

theorem read_last (last : script.lineCount ≤ cursor.line) :
    cursor.read script = ⟨cursor.line, none⟩ :=
  if_neg (by omega)

theorem read_elsewhere (inside : above ≤ script.lineCount) (before : Machine)
    (within : cursor.line ≤ script.lineCount) (elsewhere : cursor.line ≠ above) :
    ((View.inserted above before).cursor cursor).read (script.insertLine above text) =
      (View.inserted above before).cursor (cursor.read script) := by
  have count : (script.insertLine above text).lineCount = script.lineCount + 1 :=
    Script.lineCount_insertLine inside
  have next : shifted above cursor.line + 1 = shifted above (cursor.line + 1) := by
    unfold shifted
    split <;> split <;> omega
  rcases Nat.lt_or_eq_of_le within with earlier | last
  · have seen : ((View.inserted above before).cursor cursor).line <
        (script.insertLine above text).lineCount := by
      rw [count]
      change shifted above cursor.line < _
      unfold shifted
      split <;> omega
    rw [read_before earlier, read_before seen]
    change Cursor.mk (shifted above cursor.line + 1)
      ((script.insertLine above text).line? (shifted above cursor.line + 1)) = _
    rw [next, Script.line?_insertLine inside]
    rfl
  · have seen : (script.insertLine above text).lineCount ≤
        ((View.inserted above before).cursor cursor).line := by
      rw [count]
      change _ ≤ shifted above cursor.line
      unfold shifted
      split <;> omega
    rw [read_last (Nat.le_of_eq last.symm), read_last seen]
    rfl

theorem read_inserted (inside : above ≤ script.lineCount) (before : Machine)
    (here : cursor.line = above) :
    ((View.inserted above before).cursor cursor).read (script.insertLine above text) =
      ⟨above + 1, some text⟩ := by
  have seen : ((View.inserted above before).cursor cursor).line = above := by
    change shifted above cursor.line = above
    rw [here, shifted_upper (Nat.le_refl above)]
  rw [read_before (by rw [seen, Script.lineCount_insertLine inside]; omega), seen,
    Script.line?_inserted inside]

theorem read_after (before : Machine) (here : cursor.line = above) (more : above < script.lineCount) :
    Cursor.read (script.insertLine above text) ⟨above + 1, some text⟩ =
      (View.inserted above before).cursor (cursor.read script) := by
  have inside := Nat.le_of_lt more
  rw [read_before (show cursor.line < script.lineCount by omega),
    read_before (by rw [Script.lineCount_insertLine inside]; exact Nat.succ_lt_succ more)]
  have next : shifted above (above + 1) = above + 1 + 1 := shifted_lower (Nat.lt_succ_self above)
  change Cursor.mk (above + 1 + 1) ((script.insertLine above text).line? (above + 1 + 1)) =
    ⟨shifted above (cursor.line + 1), script.line? (cursor.line + 1)⟩
  rw [here, ← next, Script.line?_insertLine inside]

end Cursor

namespace State

variable {script : Script} {state : State}

theorem leads_blank (running : state.control = .running) (whole : state.oneLine = false)
    {cursor : Cursor} (read : state.scope.frame.cursor.read script = cursor) {text : String}
    (found : cursor.text = some text) (blank : isSkippable text = true) :
    Step.Leads script 2 (.next state) ((state.moveTo (cursor.read script)).onRead script) := by
  have runningThere : (state.moveTo cursor).control = .running := running
  have wholeThere : (state.moveTo cursor).oneLine = false := whole
  have passes : state.step script = .next (state.moveTo cursor) := by
    rw [step_running running whole, advance_eq, read]
    exact onRead_blank found blank
  have goesOn : (state.moveTo cursor).step script =
      (state.moveTo (cursor.read script)).onRead script := by
    rw [step_running runningThere wholeThere, advance_eq]
    rfl
  exact .next (passes ▸ .next (goesOn ▸ .refl _))

theorem handOver_moveTo {waiting : Suspended} {rest : List Suspended}
    (waits : state.suspended = waiting :: rest) (cursor : Cursor) (signal : Signal) :
    (state.moveTo cursor).handOver script signal = state.handOver script signal := by
  have waitsMoved : (state.moveTo cursor).suspended = waiting :: rest := waits
  unfold handOver
  rw [waits, waitsMoved]
  cases waiting with
  | caller frame wait => cases wait <;> rfl
  | owner place loop => rfl

end State

namespace Program

variable {script : Script} {above : Nat} {text entry : String} {machine before : Machine}
  {state : State}

theorem alike_below (inside : above ≤ script.lineCount) (blank : isSkippable text = true)
    (silent : state.scope.machine.services = .empty) (here : state.scope.frame.cursor.line = above) :
    (View.inserted above before).Alike
      ((state.moveTo (state.scope.frame.cursor.read script)).onRead script)
      ((((View.inserted above before).state state).moveTo
        (Cursor.read (script.insertLine above text) ⟨above + 1, some text⟩)).onRead
          (script.insertLine above text)) := by
  rcases Nat.lt_or_eq_of_le inside with more | last
  · have corresponds := View.corresponds_inserted inside blank before
    have read := corresponds.onRead (state.moveTo (state.scope.frame.cursor.read script)) silent
      (Cursor.read_within (here ▸ inside)) (.inl ⟨rfl, rfl⟩)
    rw [Cursor.read_after before here more]
    exact read ▸ .seen _
  · -- Below the last line both frames end; the second one has read one line more.
    have bottom : state.scope.frame.cursor.read script = ⟨_, none⟩ :=
      Cursor.read_last (by omega)
    have bottomSeen : Cursor.read (script.insertLine above text) ⟨above + 1, some text⟩ =
        ⟨above + 1, none⟩ :=
      Cursor.read_last (by rw [Script.lineCount_insertLine inside, last])
    rw [bottom, bottomSeen, State.onRead_end rfl, State.onRead_end rfl]
    exact View.Alike.leaving rfl ⟨above + 1, none⟩

theorem alike_handOver (inside : above ≤ script.lineCount) (blank : isSkippable text = true)
    (inPlace : state.InPlace script) {signal : Signal} (leaves : state.control = .leaving signal)
    (cursor : Cursor) :
    (View.inserted above before).Alike (state.handOver script signal)
      ((((View.inserted above before).state state).moveTo cursor).handOver
        (script.insertLine above text) ((View.inserted above before).signal signal)) := by
  cases waits : state.suspended with
  | nil =>
      have alone : (((View.inserted above before).state state).moveTo cursor).suspended = [] :=
        congrArg (List.map _) waits
      rw [State.handOver_alone waits, State.handOver_alone alone]
      exact .finished waits signal cursor
  | cons waiting rest =>
      have waitsSeen : ((View.inserted above before).state state).suspended = _ :: _ :=
        congrArg (List.map _) waits
      have corresponds := View.corresponds_inserted inside blank before
      rw [State.handOver_moveTo waitsSeen,
        corresponds.handOver state inPlace leaves (.inl ⟨rfl, rfl⟩)]
      exact .seen _

theorem alike_step (inside : above ≤ script.lineCount) (blank : isSkippable text = true)
    (silent : machine.services = .empty) {step : Step}
    (reached : Reaches script entry machine state)
    (alike : (View.inserted above before).Alike (.next state) step) :
    ∃ count last, Step.Leads (script.insertLine above text) (count + 1) step last ∧
      (View.inserted above before).Alike (state.step script) last := by
  have inPlace := reached.inPlace
  have silentHere := reached.follows.services.trans silent
  cases alike with
  | seen =>
      by_cases comes : state.control = .running ∧ state.scope.frame.cursor.line = above
      · obtain ⟨running, here⟩ := comes
        have runningSeen : ((View.inserted above before).state state).control = .running :=
          congrArg (View.inserted above before).control running
        refine ⟨1, _, State.leads_blank runningSeen inPlace.whole
          (Cursor.read_inserted inside before here) rfl blank, ?_⟩
        rw [State.step_running running inPlace.whole, State.advance_eq]
        exact alike_below inside blank silentHere here
      · refine ⟨0, _, Step.leads_step _ _, ?_⟩
        have corresponds := View.corresponds_inserted inside blank before
        rw [corresponds.step_state state silentHere inPlace (fun running =>
          Cursor.read_elsewhere inside before inPlace.grounded.proper.inside fun here =>
            comes ⟨running, here⟩) (.inl ⟨rfl, rfl⟩)]
        exact .seen _
  | @leaving _ signal leaves cursor =>
      refine ⟨0, _, Step.leads_step _ _, ?_⟩
      have leavesSeen : (((View.inserted above before).state state).moveTo cursor).control =
          .leaving ((View.inserted above before).signal signal) :=
        congrArg (View.inserted above before).control leaves
      rw [State.step_leaving leaves, State.step_leaving leavesSeen]
      exact alike_handOver inside blank inPlace leaves cursor

/-! ## Runs -/

theorem close_alike {view : View} {ending : Ending} {step : Step}
    (alike : view.Alike (.stop ending state) step) (silent : state.scope.machine.services = .empty)
    (outside : ∀ line value, ending ≠ .finished (some (.resume line value))) :
    ∃ given final, step = .stop given final ∧
      close given final = view.run (close ending state) := by
  cases alike with
  | seen => exact ⟨_, _, rfl, close_state silent outside⟩
  | finished alone signal cursor =>
      refine ⟨_, _, rfl, ?_⟩
      rw [← close_state silent outside]
      have silentSeen : (view.state state).scope.machine.services = .empty := silent
      have silentMoved : ((view.state state).moveTo cursor).scope.machine.services = .empty := silent
      have only : (view.state state).suspended = [] := congrArg (List.map _) alone
      have onlyMoved : ((view.state state).moveTo cursor).suspended = [] := only
      unfold close View.ending
      dsimp only
      rw [closeSignal_silent silentMoved, closeSignal_silent silentSeen, State.outermost,
        State.outermost, only, onlyMoved]
      rfl

theorem alike_run (inside : above ≤ script.lineCount) (blank : isSkippable text = true)
    (silent : machine.services = .empty) (reached : Reaches script entry machine state) {step : Step}
    (alike : (View.inserted above before).Alike (.next state) step) {fuel : Nat} {ending : Ending}
    {last : State} (ran : state.run script fuel = some (ending, last)) :
    ∃ other given final, step.run (script.insertLine above text) other = some (given, final) ∧
      close given final = (View.inserted above before).run (close ending last) := by
  induction fuel generalizing state step with
  | zero => cases ran
  | succ fuel ih =>
      obtain ⟨count, after, leads, alikeAfter⟩ := alike_step inside blank silent reached alike
      cases stepped : state.step script with
      | next later =>
          rw [State.run_next stepped] at ran
          rw [stepped] at alikeAfter
          obtain ⟨other, given, final, ended, same⟩ := ih (reached.step stepped) alikeAfter ran
          exact ⟨count + 1 + other, given, final, (leads.run other).trans ended, same⟩
      | stop stopped state =>
          rw [State.run_stop stepped] at ran
          cases ran
          rw [stepped] at alikeAfter
          have stop := reached.stop stepped
          have services := stop.1.machine.services.trans (reached.follows.services.trans silent)
          obtain ⟨given, final, rfl, same⟩ := close_alike alikeAfter services stop.2
          exact ⟨count + 1 + 0, given, final, leads.run 0, same⟩

theorem alike_stops (inside : above ≤ script.lineCount) (blank : isSkippable text = true)
    (silent : machine.services = .empty) (reached : Reaches script entry machine state) {step : Step}
    (alike : (View.inserted above before).Alike (.next state) step) {fuel : Nat}
    (stops : step.run (script.insertLine above text) fuel ≠ none) :
    ∃ other, state.run script other ≠ none := by
  induction fuel using Nat.strong_induction_on generalizing state step with
  | _ fuel ih =>
      obtain ⟨count, after, leads, alikeAfter⟩ := alike_step inside blank silent reached alike
      obtain ⟨enough, stopsAfter⟩ := leads.stops stops
      cases stepped : state.step script with
      | next later =>
          rw [stepped] at alikeAfter
          obtain ⟨other, ended⟩ :=
            ih (fuel - (count + 1)) (by omega) (reached.step stepped) alikeAfter stopsAfter
          exact ⟨other + 1, by rwa [State.run_next stepped]⟩
      | stop ending last => exact ⟨1, by rw [State.run_stop stepped]; simp⟩

theorem start_inserted (inside : above ≤ script.lineCount) (blank : isSkippable text = true)
    (silent : machine.services = .empty) :
    start (script.insertLine above text) entry ((View.inserted above before).machine machine) =
      (View.inserted above before).start (start script entry machine) :=
  start_view (View.corresponds_inserted inside blank before) silent (.inl rfl)

theorem inserted_of_run (inside : above ≤ script.lineCount) (blank : isSkippable text = true)
    (silent : machine.services = .empty) {fuel : Nat} {plain : ProgramRun}
    (ran : Program.run script entry machine fuel = some plain) :
    ∃ other, Program.run (script.insertLine above text) entry
      ((View.inserted above before).machine machine) other =
        some ((View.inserted above before).run plain) := by
  unfold Program.run at ran ⊢
  rw [start_inserted inside blank silent]
  cases started : start script entry machine with
  | ended given =>
      rw [started] at ran
      cases ran
      exact ⟨0, rfl⟩
  | running state =>
      rw [started] at ran
      obtain ⟨⟨ending, last⟩, ended, rfl⟩ := Option.map_eq_some_iff.mp ran
      obtain ⟨other, given, final, endedSeen, same⟩ :=
        alike_run inside blank silent (.start started) (.seen _) ended
      exact ⟨other, Option.map_eq_some_iff.mpr ⟨(given, final), endedSeen, same⟩⟩

theorem run_of_inserted (inside : above ≤ script.lineCount) (blank : isSkippable text = true)
    (silent : machine.services = .empty) {fuel : Nat} {run : ProgramRun}
    (ran : Program.run (script.insertLine above text) entry
      ((View.inserted above before).machine machine) fuel = some run) :
    ∃ other plain, Program.run script entry machine other = some plain := by
  unfold Program.run at ran ⊢
  rw [start_inserted inside blank silent] at ran
  cases started : start script entry machine with
  | ended given => exact ⟨0, given, rfl⟩
  | running state =>
      rw [started] at ran
      obtain ⟨ended, endedSeen, -⟩ := Option.map_eq_some_iff.mp ran
      obtain ⟨other, ends⟩ := alike_stops inside blank silent (.start started) (.seen _)
        (Option.ne_none_iff_exists.mpr ⟨ended, endedSeen.symm⟩)
      obtain ⟨last, endedHere⟩ := Option.ne_none_iff_exists.mp ends
      exact ⟨other, _, Option.map_eq_some_iff.mpr ⟨last, endedHere.symm, rfl⟩⟩

end Program

/-! ## Main statement -/

/-- A run under the numbers that the lines have after another one has been put in: the place of a
failure, the messages and the recorded lines since the program was started, and the frames that were
active. -/
def ProgramRun.shifted (run : ProgramRun) (above : Nat) (before : Machine) : ProgramRun where
  result := run.result.mapError (View.inserted above before).fault
  machine :=
    { run.machine with
      log := ⟨(run.machine.log.after before.log).map (View.inserted above before).message ++
        before.log.newest⟩
      trace := (run.machine.trace.take (run.machine.trace.length - before.trace.length)).map
        (View.inserted above before).record ++ before.trace
      frames := run.machine.frames.map (View.inserted above before).activation }
  left := run.left.map (View.inserted above before).activation
  locals := run.locals

theorem View.run_inserted (above : Nat) (before : Machine) (run : ProgramRun) :
    (View.inserted above before).run run =
      ((View.since before 0 0).run run).shifted above before := by
  have same := View.numbers_since before 0 0
  rw [same.run, same.machine]
  unfold ProgramRun.shifted
  dsimp only [View.since]
  rw [Log.after_append, List.length_append, Nat.add_sub_cancel, List.take_left]
  rfl

/-- A blank line or a comment has no effect, wherever it stands: the program with it ends if and
only if the one without it does, and in the same way but for the numbers of the lines below. -/
theorem Program.run_insertLine {script : Script} {above : Nat} {text : String} {machine : Machine}
    (inside : above ≤ script.lineCount) (blank : isSkippable text = true)
    (silent : machine.services = .empty) (entry : String) (run : ProgramRun) :
    (∃ fuel, Program.run (script.insertLine above text) entry machine fuel = some run) ↔
      ∃ fuel plain, Program.run script entry machine fuel = some plain ∧
        run = plain.shifted above machine := by
  -- The frames of an earlier program are forgotten when a program starts.
  suffices unwound : (∃ fuel,
      Program.run (script.insertLine above text) entry machine.unwound fuel = some run) ↔
        ∃ fuel plain, Program.run script entry machine.unwound fuel = some plain ∧
        run = plain.shifted above machine.unwound from unwound
  have frames : machine.unwound.frames = [] := rfl
  replace silent : machine.unwound.services = .empty := silent
  generalize machine.unwound = machine at frames silent ⊢
  -- Both programs do what the program does that starts with nothing reported.
  have cleared : (View.inserted above machine).machine machine.cleared = machine :=
    View.machine_cleared ⟨rfl, rfl⟩ rfl rfl (by rw [frames]; rfl)
  have silentCleared : machine.cleared.services = .empty := silent
  have since (fuel : Nat) : Program.run script entry machine fuel = _ := run_since silent fuel
  constructor
  · rintro ⟨fuel, ran⟩
    rw [← cleared] at ran
    obtain ⟨other, plain, ranPlain⟩ := run_of_inserted inside blank silentCleared ran
    obtain ⟨again, ranAgain⟩ := inserted_of_run inside blank silentCleared ranPlain
    refine ⟨other, (View.since machine 0 0).run plain, by rw [since, ranPlain]; rfl, ?_⟩
    rw [run_unique ran ranAgain, View.run_inserted]
  · rintro ⟨fuel, plain, ran, rfl⟩
    rw [since] at ran
    obtain ⟨core, ranCore, rfl⟩ := Option.map_eq_some_iff.mp ran
    obtain ⟨other, ranInserted⟩ := inserted_of_run inside blank silentCleared ranCore
    rw [cleared, View.run_inserted] at ranInserted
    exact ⟨other, ranInserted⟩

def passesExample : Script :=
  .ofLines "" ["DEF main", "FOR 2", "PRINT pass", "ENDF", "SET missing 1", "JUMP"]

theorem Program.run_insertLine_passesExample :
    ∃ run, Program.run passesExample "main" .plainExample 30 = some run ∧
      run.machine.output = "pass\npass\n" ∧ run.machine.log.newest.map (·.line) = [6, 5] ∧
      ∃ fuel, Program.run (passesExample.insertLine 2 "; in each pass") "main" .plainExample fuel =
        some (run.shifted 2 .plainExample) := by
  have ends : ((Program.run passesExample "main" .plainExample 30).map
      fun run => (run.machine.output, run.machine.log.newest.map (·.line))) =
      some ("pass\npass\n", [6, 5]) := by
    decide +kernel
  obtain ⟨run, ran, same⟩ := Option.map_eq_some_iff.mp ends
  obtain ⟨output, lines⟩ := Prod.mk.inj same
  refine ⟨run, ran, output, lines, ?_⟩
  exact (Program.run_insertLine (by decide) (by decide) rfl "main" _).mpr ⟨30, run, ran, rfl⟩

end LineScript

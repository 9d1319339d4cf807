import LineScript.Proofs.Settling
import LineScript.Proofs.View.Program

/-!
Limits that a run does not come to. If no frame is refused because too many are active and no line
has too many arguments, then greater limits change nothing: the program ends in the same way, with
the same messages and the same machine, or it does not end with either limits.
-/

namespace LineScript

def Machine.withLimits (machine : Machine) (maxDepth maxArgs : Int) : Machine :=
  { machine with
    settings := { machine.settings with maxDepth := some maxDepth, maxArgs := some maxArgs } }

theorem View.machine_raised {depth args deeper wider : Int} (deep : depth ≤ deeper)
    (wide : args ≤ wider) (before : Machine) {machine : Machine}
    (maxDepth : machine.settings.maxDepth = some depth)
    (maxArgs : machine.settings.maxArgs = some args) :
    (View.since before (deeper - depth).toNat (wider - args).toNat).machine machine =
      ((View.since before 0 0).machine machine).withLimits deeper wider := by
  have depths : depth + ((deeper - depth).toNat : Int) = deeper := by omega
  have counts : args + ((wider - args).toNat : Int) = wider := by omega
  have limits : (View.since before (deeper - depth).toNat (wider - args).toNat).settings
      machine.settings =
        { machine.settings with maxDepth := some deeper, maxArgs := some wider } := by
    simp only [View.settings, View.since, maxDepth, maxArgs, Option.map_some, depths, counts]
  exact congrArg (fun settings => { (View.since before 0 0).machine machine with settings }) limits

namespace Program

variable {script : Script} {entry : String} {machine : Machine}

/-- The program does not come to a limit: it never halts because too many frames are active, and it
never reports that a line has too many arguments. -/
structure Unhindered (script : Script) (entry : String) (machine : Machine) : Prop where
  depth : ∀ fuel run, Program.run script entry machine fuel = some run →
    run.result ≠ .error (.halt Signal.abnormalCode)
  arguments : ∀ state, Reaches script entry machine state →
    ∀ message ∈ state.scope.machine.log.after machine.log,
      message.code ≠ Code.argumentCapacity.number

theorem Unhindered.step (unhindered : Unhindered script entry machine)
    (silent : machine.services = .empty) {state : State}
    (reached : Reaches script entry machine.cleared state) :
    (state.step script).Unhindered := by
  have seen : Seen (View.since machine 0 0) script script entry machine.cleared := seen_since silent
  cases stepped : state.step script with
  | next after =>
      have same := View.numbers_since machine 0 0
      have reachedSeen := seen.reaches (reached.step stepped)
      rw [View.machine_since] at reachedSeen
      have clean := unhindered.arguments _ reachedSeen
      rw [same.state] at clean
      change ∀ message ∈ ((View.since machine 0 0).machine after.scope.machine).log.after machine.log,
        _ at clean
      rw [same.machine] at clean
      rwa [show (View.since machine 0 0).messages = machine.log.newest from rfl,
        Log.after_append] at clean
  | stop ending last =>
      rintro rfl
      obtain ⟨fuel, ended⟩ := reached.ended stepped
      have ran : run script entry machine fuel = _ := run_since silent fuel
      rw [ended] at ran
      refine unhindered.depth fuel _ ran ?_
      have quiet : last.scope.machine.services = .empty :=
        (reached.stop stepped).1.machine.services.trans (reached.follows.services.trans silent)
      have halted : (close (.failed (.halt Signal.abnormalCode)) last).result =
          .error (.halt Signal.abnormalCode) := by
        rw [close, closeFault_silent quiet]
      exact congrArg (Except.mapError (View.since machine 0 0).fault) halted

theorem Unhindered.opens (unhindered : Unhindered script entry machine)
    (silent : machine.services = .empty) : Opens script entry machine.cleared := by
  intro run started halted
  have ended : Program.run script entry machine.cleared 0 = some run := by
    rw [Program.run, started]
    rfl
  have ran : Program.run script entry machine 0 = _ := run_since silent 0
  rw [ended] at ran
  exact unhindered.depth 0 _ ran (congrArg (Except.mapError (View.since machine 0 0).fault) halted)

theorem unhindered_of_run (silent : machine.services = .empty) {fuel : Nat} {run : ProgramRun}
    (ran : Program.run script entry machine fuel = some run)
    (result : run.result ≠ .error (.halt Signal.abnormalCode))
    (clean : ∀ message ∈ run.machine.log.after machine.log,
      message.code ≠ Code.argumentCapacity.number) : Unhindered script entry machine where
  depth other again ranAgain := run_unique ran ranAgain ▸ result
  arguments state reached message new := by
    obtain ⟨left, ending, last, ended, rfl⟩ := reached.runs ran
    refine clean message (Log.mem_after_of_suffix ?_ new)
    obtain ⟨final, reachedFinal, stepped⟩ := reached.stopped ended
    have follows := reachedFinal.follows.trans (reachedFinal.stop stepped).1.machine
    have closed : ∃ frames, (close ending last).machine = { last.scope.machine with frames } :=
      machine_close (follows.services.trans silent)
    obtain ⟨frames, closed⟩ := closed
    rw [closed]
    exact reached.log_suffix silent ended

/-- Greater limits change nothing for a program that does not come to a limit. -/
theorem run_withLimits {depth args deeper wider : Int} (silent : machine.services = .empty)
    (deep : depth ≤ deeper) (wide : args ≤ wider)
    (unhindered : Unhindered script entry (machine.withLimits depth args)) (fuel : Nat) :
    run script entry (machine.withLimits deeper wider) fuel =
      (run script entry (machine.withLimits depth args) fuel).map fun run =>
        { run with machine := run.machine.withLimits deeper wider } := by
  -- Both runs are the run of a machine without messages, seen with either limits.
  have quiet : (machine.withLimits depth args).services = .empty := silent
  have ran : run script entry (machine.withLimits depth args) fuel = _ := run_since quiet fuel
  have seen : Seen (View.since (machine.withLimits depth args) (deeper - depth).toNat
      (wider - args).toNat) script script entry (machine.withLimits depth args).cleared :=
    seen_self (View.numbers_since _ _ _) silent (.inr (unhindered.opens silent))
      fun _ reached => .inr (unhindered.step silent reached)
  have ranRaised := seen.run fuel
  rw [View.machine_raised deep wide _ rfl rfl, View.machine_since] at ranRaised
  rw [ran, Option.map_map, show run script entry (machine.withLimits deeper wider) fuel = _ from
    ranRaised]
  cases ended : run script entry (machine.withLimits depth args).cleared fuel with
  | none => rfl
  | some run =>
      have kept :=
        (Machine.lasts_settings (machine.withLimits depth args).cleared.settings).run rfl ended
      refine congrArg some ?_
      rw [(View.numbers_since _ _ _).run, Function.comp_apply, (View.numbers_since _ _ _).run,
        View.machine_raised deep wide _ (congrArg Settings.maxDepth kept)
          (congrArg Settings.maxArgs kept)]

def callsExample : Script :=
  .ofLines "" ["DEF main", "CALL first \"one two\"", "ENDDEF", "DEF first", "CALL second @0",
    "ENDDEF", "DEF second", "PRINT @0", "ENDDEF"]

theorem run_withLimits_callsExample :
    Unhindered callsExample "main" (Machine.plainExample.withLimits 3 2) ∧
      (∃ run, Program.run callsExample "main" (Machine.plainExample.withLimits 3 2) 20 = some run ∧
        run.machine.output = "one two\n") ∧
      Program.run callsExample "main" (Machine.plainExample.withLimits 100 64) 20 =
        (Program.run callsExample "main" (Machine.plainExample.withLimits 3 2) 20).map fun run =>
          { run with machine := run.machine.withLimits 100 64 } := by
  have ends : ((Program.run callsExample "main" (Machine.plainExample.withLimits 3 2) 20).map
      fun run => (run.result.toOption, run.machine.output, run.machine.log.newest.map (·.code))) =
      some (some (.returned nullText), "one two\n", [0, 0, 0]) := by
    decide +kernel
  obtain ⟨run, ran, same⟩ := Option.map_eq_some_iff.mp ends
  obtain ⟨result, output, codes⟩ : _ ∧ _ ∧ _ := by simpa only [Prod.mk.injEq] using same
  have unhindered : Unhindered callsExample "main" (Machine.plainExample.withLimits 3 2) := by
    refine unhindered_of_run rfl ran ?_ fun message new => ?_
    · intro halted
      rw [halted] at result
      cases result
    · have listed := List.mem_map_of_mem (f := (·.code)) (List.mem_of_mem_take new)
      rw [codes] at listed
      rw [show message.code = 0 by simpa using listed]
      decide
  exact ⟨unhindered, ⟨run, ran, output⟩, run_withLimits rfl (by decide) (by decide) unhindered 20⟩

end Program

end LineScript

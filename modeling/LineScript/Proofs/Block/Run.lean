import LineScript.Proofs.Block.Agreement

/-!
Programs that are printed from a listing of definitions. A program comes to an end just if its
definitions do, with the same result, the same variables and the same machine.
-/

namespace LineScript

/-- How the program has ended, the frames that it has left aside. -/
def ProgramRun.ending (run : ProgramRun) : ProgramEnd :=
  ⟨run.result, run.machine.unwound, run.locals⟩

theorem Directive.applyLines_nothing {texts : List String}
    (nothing : ∀ text ∈ texts, isDirective text = false) (machine : Machine) (number : Nat) :
    applyLines machine number texts = machine := by
  induction texts generalizing number with
  | nil => rfl
  | cons text rest ih =>
      rw [applyLines, nothing text List.mem_cons_self]
      exact ih (fun other member => nothing other (List.mem_cons_of_mem text member)) (number + 1)

/-! ## The outermost frame -/

namespace Seat

variable {script : Script} {seat : Seat} {settings : Settings}

def root (entry : String) : Seat :=
  ⟨entry, [], []⟩

theorem run_root (outermost : seat.suspended = []) {result : Except Fault Signal} {store : Store}
    {last : Step} (ready : store.machine.Ready settings) (alone : store.machine.frames = [])
    (ends : seat.Ends seat.Leaves (Exit.rethrown result, store) last) :
    ∃ ending final, last.run script 1 = some (ending, final) ∧
      (∀ fuel, last.run script fuel ≠ none → last.run script fuel = some (ending, final)) ∧
      (Program.close ending final).ending = ⟨result, store.machine, some store.locals⟩ := by
  cases result with
  | error fault =>
      obtain ⟨state, rfl, machine, locals⟩ := ends
      rw [outermost] at locals
      refine ⟨_, _, rfl, fun _ _ => rfl, ?_⟩
      have silent : state.scope.machine.services = .empty := machine ▸ ready.bare.services
      change (Program.closeFault _ _ _ _).ending = _
      rw [Program.closeFault_silent silent, machine, locals]
      exact congrArg (ProgramEnd.mk _ · _) (Machine.unwound_eq alone)
  | ok signal =>
      obtain ⟨-, cursor, rfl⟩ := ends
      have stepped : (seat.leaving cursor store signal).step script =
          .stop (.finished (some signal)) (seat.leaving cursor store signal) :=
        (State.step_leaving rfl).trans (State.handOver_alone outermost signal)
      refine ⟨_, _, State.run_stop stepped 0, fun fuel stops => ?_, ?_⟩
      · cases fuel with
        | zero => exact absurd rfl stops
        | succ fuel => exact State.run_stop stepped fuel
      · change (Program.closeSignal store.machine _ _).ending = _
        rw [Program.closeSignal_silent ready.bare.services, State.locals_outermost,
          show (seat.leaving cursor store signal).suspended = [] from outermost]
        exact congrArg (ProgramEnd.mk _ · _) (Machine.unwound_eq alone)

end Seat

namespace Listing

variable {listing : Listing} {script : Script} {settings : Settings} {machine : Machine}
  {entry : String}

theorem run_definition (prints : listing.Prints settings script) (ready : machine.Ready settings)
    (alone : machine.frames = []) {above : Nat} {definition : Definition}
    (found : listing.find? entry = some (above, definition)) (ending : ProgramEnd) :
    (∃ fuel final, State.run script fuel
        ((Seat.root entry).state (Cursor.start.advance script above) ⟨machine, .empty⟩) =
          some final ∧ (Program.close final.1 final.2).ending = ending) ↔
      ∃ result, definition.eval listing ⟨entry, [], 1⟩ above ⟨machine, .empty⟩ = some result ∧
        ending = ⟨result.1, result.2.machine, some result.2.locals⟩ := by
  obtain ⟨name, stands⟩ := prints.find? found
  have inside := stands.lines.le_lineCount (by simp)
  have line : (Cursor.start.advance script above).line = above :=
    Cursor.line_advance (Nat.zero_le _) (by omega)
  have agrees (bound : Nat) : (Seat.root entry).Agrees script bound 0 (Seat.root entry).Leaves
      (.next ((Seat.root entry).state (Cursor.start.advance script above) ⟨machine, .empty⟩))
      ⟨machine, .empty⟩
      ((definition.eval listing ⟨entry, [], 1⟩ above ⟨machine, .empty⟩).map
        fun result => (Exit.rethrown result.1, result.2)) := by
    have all := (prints.agreement bound).definitions _ _ definition ⟨machine, .empty⟩ _
      (.stands (Seat.root entry) (Cursor.start.advance script above) ready name.symm
        (line.symm ▸ stands))
    rwa [line] at all
  have comes {result : Except Fault Signal × Store}
      (evaluated : definition.eval listing ⟨entry, [], 1⟩ above ⟨machine, .empty⟩ = some result) :
      ∃ count last, Step.Leads script count
          (.next ((Seat.root entry).state (Cursor.start.advance script above)
            ⟨machine, .empty⟩)) last ∧
        ∃ ended final, last.run script 1 = some (ended, final) ∧
          (∀ fuel, last.run script fuel ≠ none → last.run script fuel = some (ended, final)) ∧
          (Program.close ended final).ending =
            ⟨result.1, result.2.machine, some result.2.locals⟩ := by
    obtain ⟨kept, count, last, -, leads, ends⟩ :=
      (agrees 0).sound (Exit.rethrown result.1, result.2) (by rw [evaluated, Option.map_some])
    have still := kept.frames.trans alone
    exact ⟨count, last, leads, Seat.run_root rfl (kept.ready ready) still ends⟩
  constructor
  · rintro ⟨fuel, ⟨ended, final⟩, ran, rfl⟩
    have stops : Step.run script fuel (.next ((Seat.root entry).state
        (Cursor.start.advance script above) ⟨machine, .empty⟩)) ≠ none := by
      change State.run script fuel _ ≠ none
      simp [ran]
    -- The bound is the run's own: a run that stops within it makes the evaluation end as well.
    obtain ⟨other, mapped⟩ := (agrees (fuel + 1)).complete fuel (Nat.lt_succ_self fuel) stops
    obtain ⟨result, evaluated, -⟩ := Option.map_eq_some_iff.mp mapped
    refine ⟨result, evaluated, ?_⟩
    obtain ⟨count, last, leads, early, state, -, only, closed⟩ := comes evaluated
    obtain ⟨within, later⟩ := leads.stops stops
    have same := leads.run (fuel - count)
    rw [Nat.add_sub_cancel' within, only _ later] at same
    obtain ⟨rfl, rfl⟩ := Prod.mk.inj (Option.some.inj (ran.symm.trans same))
    exact closed
  · rintro ⟨result, evaluated, rfl⟩
    obtain ⟨count, last, leads, ended, final, ends, -, closed⟩ := comes evaluated
    exact ⟨count + 1, (ended, final), (leads.run 1).trans ends, closed⟩

/-! ## Main statement -/

/-- A script that is printed from a listing of well-formed definitions runs as its blocks say: the
program comes to an end with a result, a machine and variables just if the definitions do. -/
theorem run_eq_some_iff (bare : machine.Bare) (extended : machine.extended = true)
    (formed : listing.WellFormed machine.settings) (printed : script.lines.toList = listing.lines)
    (entry : String) (ending : ProgramEnd) :
    (∃ fuel run, Program.run script entry machine fuel = some run ∧ run.ending = ending) ↔
      listing.run entry machine.unwound = some ending := by
  have prints : listing.Prints machine.settings script := ⟨formed, printed⟩
  have defined := entryLine?_eq formed printed entry
  unfold Listing.run
  cases found : listing.find? entry with
  | none =>
      rw [found] at defined
      unfold Program.run
      rw [Program.start_missing defined]
      simp only [ProgramStart.finish, Option.some.injEq, exists_eq_left', exists_const]
      rfl
  | some answer =>
      obtain ⟨above, definition⟩ := answer
      rw [found] at defined
      -- No line of a well-formed listing is a directive, so none above the entry changes anything.
      have plain : machine.opened script above = machine.unwound := by
        refine Directive.applyLines_nothing (fun text member => ?_) _ _
        exact not_directive formed (printed ▸ List.mem_of_mem_take member)
      unfold Program.run
      rw [Program.start_found defined, plain, Machine.announce_plain bare.unwound.services]
      dsimp only
      cases deep : machine.unwound.checkDepth 0 0 with
      | some answer =>
          obtain ⟨fault, other⟩ := answer
          have kept := Machine.kept_checkDepth deep
          simp only [ProgramStart.finish, Option.some.injEq, exists_eq_left', exists_const]
          have same : ({ other with frames := [] } : Machine) = other :=
            Machine.unwound_eq kept.frames
          rw [Program.closeFault_silent (kept.services.trans bare.services), ProgramRun.ending,
            same, Machine.unwound_eq kept.frames]
      | none =>
          refine Iff.trans ?_ ((run_definition prints
            ⟨bare.unwound, extended, rfl⟩ rfl found ending).trans ?_)
          · simp only [ProgramStart.finish, Option.map_eq_some_iff]
            constructor
            · rintro ⟨fuel, _, ⟨final, ran, rfl⟩, same⟩
              exact ⟨fuel, final, ran, same⟩
            · rintro ⟨fuel, final, ran, same⟩
              exact ⟨fuel, _, ⟨final, ran, rfl⟩, same⟩
          · constructor
            · rintro ⟨result, evaluated, rfl⟩
              simp only [evaluated]
              rfl
            · intro evaluated
              obtain ⟨result, inner, same⟩ := Option.bind_eq_some_iff.mp evaluated
              exact ⟨result, inner, (Option.some.inj same).symm⟩

def stagesExample : Listing :=
  ⟨[⟨["; the stages of a value"], "main", "DEF main",
      .line "NEW stage,first"
        (.loop .whileLoop "WHILE NE $stage never"
          (.line "DO next $stage" (.line "SET stage $_ret"
            (.line "CMPR EQL $stage last"
              (.fork "IF" (.line "BREAK" .done) "ELSE"
                (.blank "; not yet" (.line "PRINT $stage" .done)) "ENDIF" .done))))
          "ENDW" (.line "RET $stage" .done)),
      "ENDDEF main"⟩,
    ⟨[""], "next", "DEF next",
      .line "CMPR EQL @0 first" (.branch "IF" (.line "RET middle" .done) "ENDIF"
        (.line "RET last" .done)), "ENDDEF"⟩], []⟩

theorem run_eq_some_iff_stagesExample :
    ∃ run, Program.run (.ofLines "" stagesExample.lines) "main" .plainExample 40 = some run ∧
      run.result = .ok (.returned "last") ∧ run.machine.output = "middle\n" ∧
      stagesExample.run "main" .plainExample = some run.ending := by
  have formed : stagesExample.WellFormed Machine.plainExample.settings := by decide +kernel
  have ends : ((Program.run (.ofLines "" stagesExample.lines) "main" .plainExample 40).map
      fun run => (run.result.toOption, run.machine.output)) =
      some (some (.returned "last"), "middle\n") := by
    decide +kernel
  obtain ⟨run, ran, same⟩ := Option.map_eq_some_iff.mp ends
  obtain ⟨result, output⟩ := Prod.mk.inj same
  refine ⟨run, ran, ?_, output, ?_⟩
  · cases given : run.result with
    | ok signal => simpa [given, Except.toOption] using result
    | error fault => simp [given, Except.toOption] at result
  · exact (run_eq_some_iff Machine.plain_plainExample.toBare rfl formed (by rfl) "main"
      run.ending).mp ⟨40, run, ran, rfl⟩

end Listing

end LineScript

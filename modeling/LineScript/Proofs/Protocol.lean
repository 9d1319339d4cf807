import LineScript.Proofs.Reaches
import Mathlib.Data.List.TakeWhile

/-!
How the signals travel with which frames end. The end of a pass goes to the loop that has started the
pass and no further; a return goes through all loops around it; leaving or repeating a loop concerns
the innermost one only.
-/

namespace LineScript

def Signal.EndsFrame : Signal → Prop
  | resume _ _ => False
  | _ => True

def Signal.EndsPass : Signal → Prop
  | broken _ => True
  | continued _ => True
  | _ => False

/-! ## One step -/

namespace State

variable {script : Script} {state after : State} {signal : Signal} {cursor : Cursor}
  {loop : InlineLoop} {rest : List Suspended}

/-- The owner of a loop has taken over from its body: it goes on with the next line or with the next
pass. -/
structure TakesOver (loop : InlineLoop) (cursor : Cursor) (rest : List Suspended) (state : State) :
    Prop where
  running : state.control = .running
  suspended : state.suspended = rest ∨
    ∃ again, loop.Next again ∧ state.suspended = .owner cursor again :: rest

theorem takesOver_of_transition (transition : Transition script state after)
    (leaving : state.control = .leaving signal)
    (waits : state.suspended = .owner cursor loop :: rest)
    (other : ∀ value, signal ≠ .returned value) :
    after.TakesOver (loop.after signal) cursor rest := by
  cases transition with
  | reads running => cases leaving.symm.trans running
  | finishes running => cases leaving.symm.trans running
  | @returns now given waiting left below ready frame outcome =>
      cases Control.leaving.inj (leaving.symm.trans left)
      obtain ⟨rfl, same⟩ := List.cons.inj (waits.symm.trans below)
      cases outcome with
      | stays control kept onward => exact ⟨control.trans ready, .inl (kept.trans same.symm)⟩
      | leaves control known kept onward =>
          obtain ⟨-, -, value, returned⟩ := known
          exact absurd returned (other value)
      | @enters place control known pushed onward starts room =>
          match place with
          | .caller frame wait => exact known.elim
          | .owner next again =>
              obtain ⟨rfl, repeats⟩ := known
              exact ⟨control, .inr ⟨again, repeats, same ▸ pushed⟩⟩

theorem suspended_of_broken {value : String} (leaving : state.control = .leaving (.broken value))
    (waits : state.suspended = .owner cursor loop :: rest)
    (stepped : state.step script = .next after) : after.suspended = rest := by
  rw [step_leaving leaving, handOver_body waits, afterBody] at stepped
  generalize taken : ((state.below (.owner cursor loop) rest).report .info "Break statement"
    .loop).keepReturned value = now at stepped
  have below : now.suspended = rest := by rw [← taken]; rfl
  have running : now.control = .running := by rw [← taken]; rfl
  -- No frame may be started and no signal given, whatever the jump out of the loop does.
  have goes : (now.leaveLoop script loop none).Goes script (fun _ => False) (fun _ => False) False
      now := goes_leaveLoop running False.elim
  rw [stepped] at goes
  cases goes.2 with
  | stays control same frame => exact same.trans below
  | leaves control known same frame => exact known.elim
  | enters control known pushed frame starts room => exact known.elim

theorem step_returned {value : String} (leaving : state.control = .leaving (.returned value))
    (waits : state.suspended = .owner cursor loop :: rest) :
    ∃ after, state.step script = .next after ∧ after.control = .leaving (.returned value) ∧
      after.suspended = rest ∧ after.scope.frame = { state.scope.frame with cursor } := by
  rw [step_leaving leaving, handOver_body waits]
  exact ⟨_, rfl, rfl, rfl, rfl⟩

theorem leads_returned {value : String} {owners : List Suspended}
    (inside : ∀ waiting ∈ owners, waiting.startsBody = true)
    (leaving : state.control = .leaving (.returned value))
    (waits : state.suspended = owners ++ rest) :
    ∃ last, Step.Leads script owners.length (.next state) (.next last) ∧
      last.control = .leaving (.returned value) ∧ last.suspended = rest ∧
      last.scope.frame.entry = state.scope.frame.entry := by
  induction owners generalizing state with
  | nil => exact ⟨state, .refl _, leaving, waits, rfl⟩
  | cons waiting owners ih =>
      match waiting with
      | .caller frame wait => cases inside _ List.mem_cons_self
      | .owner cursor loop =>
          obtain ⟨after, stepped, left, below, frame⟩ :
              ∃ after, state.step script = .next after ∧ _ := step_returned leaving waits
          obtain ⟨last, leads, leftLast, kept, entry⟩ :=
            ih (fun other member => inside other (List.mem_cons_of_mem _ member)) left below
          refine ⟨last, .next (stepped ▸ leads), leftLast, kept, ?_⟩
          rw [entry, frame]

end State

/-! ## Main statement -/

/-- How the signals of a program travel. -/
structure Program.SignalProtocol (script : Script) (entry : String) (machine : Machine) :
    Prop where
  /-- Calls, loops whose body is a definition, and the program itself never see the end of a
  pass. -/
  definitions : ∀ state signal, Reaches script entry machine state →
    state.control = .leaving signal → state.inBody = false → signal.EndsFrame
  results : ∀ fuel run signal, Program.run script entry machine fuel = some run →
    run.result = .ok signal → signal.EndsFrame
  /-- The end of a pass goes to the loop that owns the body, and is below its header. -/
  resumed : ∀ state line value, Reaches script entry machine state →
    state.control = .leaving (.resume line value) →
    ∃ cursor loop rest, state.suspended = .owner cursor loop :: rest ∧
      loop.header = cursor.line ∧ loop.header < line ∧
      state.step script = ((state.below (.owner cursor loop) rest).keepReturned value).continueInline
        script { loop with endLine := some line } ∧
      ∀ after, state.step script = .next after →
        after.TakesOver { loop with endLine := some line } cursor rest
  /-- A return comes out of the innermost frame that is not the body of a loop. -/
  returned : ∀ state value, Reaches script entry machine state →
    state.control = .leaving (.returned value) →
    ∃ last, Step.Leads script (state.suspended.takeWhile Suspended.startsBody).length (.next state)
        (.next last) ∧
      last.control = .leaving (.returned value) ∧ last.inBody = false ∧
      last.suspended = state.suspended.dropWhile Suspended.startsBody ∧
      last.scope.frame.entry = state.scope.frame.entry
  /-- All frames below the innermost loop stay as they are when it is left or repeated. -/
  innermost : ∀ state signal cursor loop rest, Reaches script entry machine state →
    state.control = .leaving signal → signal.EndsPass →
    state.suspended = .owner cursor loop :: rest →
    (∀ after, state.step script = .next after → after.TakesOver loop cursor rest ∧
      ∀ value, signal = .broken value → after.suspended = rest) ∧
    ∀ ending last, state.step script = .stop ending last →
      last.suspended = rest ∧ ∃ fault, ending = .failed fault

namespace Program

variable {script : Script} {entry : String} {machine : Machine} {state : State}

theorem Reaches.endsFrame (reached : Reaches script entry machine state) {signal : Signal}
    (leaving : state.control = .leaving signal) (outside : state.inBody = false) :
    signal.EndsFrame := by
  cases signal with
  | resume line value =>
      obtain ⟨cursor, loop, rest, waits, -⟩ := reached.inPlace.resumes line value leaving
      rw [State.inBody, waits] at outside
      cases outside
  | _ => trivial

theorem Reaches.closes (reached : Reaches script entry machine state) {ending : Ending}
    {last : State} {signal : Signal} (stepped : state.step script = .stop ending last)
    (result : (close ending last).result = .ok signal) : signal.EndsFrame := by
  have transits := reached.transits
  rw [stepped] at transits
  cases transits.2.1 with
  | @finished given leaving alone =>
      have same : given = signal := by
        change (closeSignal _ _ given).result = _ at result
        unfold closeSignal at result
        split at result
        · exact Except.ok.inj result
        · cases result
      refine same ▸ reached.endsFrame leaving ?_
      rw [State.inBody, alone]
  | reading => cases result
  | returning => cases result

theorem Reaches.resumed (reached : Reaches script entry machine state) {line : Nat} {value : String}
    (leaving : state.control = .leaving (.resume line value)) :
    ∃ cursor loop rest, state.suspended = .owner cursor loop :: rest ∧
      loop.header = cursor.line ∧ loop.header < line ∧
      state.step script = ((state.below (.owner cursor loop) rest).keepReturned value).continueInline
        script { loop with endLine := some line } ∧
      ∀ after, state.step script = .next after →
        after.TakesOver { loop with endLine := some line } cursor rest := by
  obtain ⟨cursor, loop, rest, waits, below⟩ := reached.inPlace.resumes line value leaving
  have grounded := reached.inPlace.grounded
  rw [waits] at grounded
  have header : loop.header = cursor.line := grounded.2.1.1
  refine ⟨cursor, loop, rest, waits, header, header ▸ below.1, ?_, fun after stepped => ?_⟩
  · rw [State.step_leaving leaving, State.handOver_body waits]
    rfl
  · exact State.takesOver_of_transition (reached.transition stepped).2 leaving waits nofun

theorem Reaches.innermost (reached : Reaches script entry machine state) {signal : Signal}
    {cursor : Cursor} {loop : InlineLoop} {rest : List Suspended}
    (leaving : state.control = .leaving signal) (ends : signal.EndsPass)
    (waits : state.suspended = .owner cursor loop :: rest) :
    (∀ after, state.step script = .next after → after.TakesOver loop cursor rest ∧
      ∀ value, signal = .broken value → after.suspended = rest) ∧
    ∀ ending last, state.step script = .stop ending last →
      last.suspended = rest ∧ ∃ fault, ending = .failed fault := by
  have other (value : String) : signal ≠ .returned value := by
    rintro rfl
    exact ends
  have same : loop.after signal = loop := by
    cases signal with
    | resume line value => exact ends.elim
    | _ => rfl
  refine ⟨fun after stepped => ⟨?_, fun value broken => ?_⟩, fun ending last stepped => ?_⟩
  · rw [← same]
    exact State.takesOver_of_transition (reached.transition stepped).2 leaving waits other
  · exact State.suspended_of_broken (broken ▸ leaving) waits stepped
  · have transits := reached.transits
    rw [stepped] at transits
    cases transits.2.1 with
    | finished left alone => cases alone.symm.trans waits
    | reading running => cases leaving.symm.trans running
    | @returning fault _ given waiting left below frame =>
        exact ⟨(List.cons.inj (waits.symm.trans below)).2.symm, fault, rfl⟩

/-- Whatever the script: definitions end with a return, or by leaving or repeating a loop that they do
not own; the end of a pass is taken by the loop that it belongs to; a return comes out of the
definition that it stands in; and a loop that is left or repeated is the innermost one. -/
theorem signalProtocol (script : Script) (entry : String) (machine : Machine) :
    SignalProtocol script entry machine where
  definitions _ _ reached leaving outside := reached.endsFrame leaving outside
  results fuel run signal ended result := by
    cases concludes_of_run ended with
    | early started => exact absurd result ((left_of_ended started).2 signal)
    | late reached stopped => exact reached.closes stopped result
  resumed _ _ _ reached leaving := reached.resumed leaving
  returned state value reached leaving := by
    have inside : ∀ waiting ∈ state.suspended.takeWhile Suspended.startsBody,
        waiting.startsBody = true := fun waiting member => List.mem_takeWhile_imp member
    obtain ⟨last, leads, left, below, same⟩ :
        ∃ last, Step.Leads script _ (.next state) (.next last) ∧ _ :=
      State.leads_returned inside leaving List.takeWhile_append_dropWhile.symm
    refine ⟨last, leads, left, ?_, below, same⟩
    unfold State.inBody
    rw [below]
    split
    · rfl
    · next waiting rest split =>
        have head := List.head?_dropWhile_not Suspended.startsBody state.suspended
        rw [split] at head
        simpa using head
  innermost _ _ _ _ _ reached leaving ends waits := reached.innermost leaving ends waits

end Program

end LineScript

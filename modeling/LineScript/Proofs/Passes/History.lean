import LineScript.Proofs.Passes.Turn
import LineScript.Proofs.Scoping

/-!
The history of a loop. The passes that the line of a loop has made, with the signals in which they
ended and the checks between them, account for everything that the line has come to: it is the
owner's turn, or a pass is underway, or the loop is done.
-/

namespace LineScript

/-- What a line has come to: the step of its own frame, and then those of the frames that it has
started above the given ones. -/
inductive Step.Unfolds (script : Script) (lower : List Suspended) (first : Step) : Step → Prop where
  | begins : Unfolds script lower first first
  | goesOn {state : State} (unfolds : Unfolds script lower first (.next state))
      (above : lower.length < state.suspended.length) :
      Unfolds script lower first (state.step script)

/-! ## Frames above others -/

namespace State

variable {script : Script} {state after first begun left : State} {kept lower : List Suspended}
  {signal : Signal}

theorem transits_above (above : state.suspended ≠ []) :
    (state.step script).Transits script state := by
  cases state.steps script with
  | rests running alone steps => exact absurd alone above
  | advances running steps =>
      rw [steps]
      exact transits_advance running
  | leaves leaving steps =>
      rw [steps]
      exact transits_handOver leaving

theorem passes_above (above : state.suspended ≠ []) : (state.step script).Passes script state := by
  cases state.steps script with
  | rests running alone steps => exact absurd alone above
  | advances running steps =>
      rw [steps]
      exact passes_advance running
  | leaves leaving steps =>
      rw [steps]
      exact passes_handOver leaving

theorem Stays.suffix (stays : first.Stays script kept state) (filled : kept ≠ [])
    (below : kept <:+ first.suspended) : kept <:+ state.suspended := by
  induction stays with
  | refl => exact below
  | @step state after stays room stepped ih =>
      have above : state.suspended ≠ [] := by
        intro empty
        rw [empty] at ih
        exact filled (List.suffix_nil.mp ih)
      have transits : (state.step script).Transits script state := transits_above above
      rw [stepped] at transits
      exact transits.2.chained.suffix ih room

theorem Stays.unfolds {step : Step} (stays : first.Stays script kept state)
    (room : lower.length < kept.length)
    (unfolds : Step.Unfolds script lower step (.next first)) :
    Step.Unfolds script lower step (.next state) := by
  induction stays with
  | refl => exact unfolds
  | @step state after stays waits stepped ih =>
      rw [← stepped]
      exact ih.goesOn (by have := state.waiting_suffix.length_le; omega)

/-- The frame that was innermost in the one state has ended in the other with the signal. -/
structure Pass (script : Script) (begun left : State) (signal : Signal) : Prop where
  stays : begun.Stays script begun.suspended left
  level : left.suspended = begun.suspended
  leaving : left.control = .leaving signal

end State

namespace Loop

structure Begins (script : Script) (loop : Loop) (unchecked : Bool) (owner : State) (again : Loop)
    (ready : State) (checks : List Check) (begun : State) : Prop where
  passes : loop.Passes unchecked owner again ready checks
  started : again.start script ready = .next begun
  running : begun.control = .running
  pushed : begun.suspended = again.waiting ready.scope.frame :: owner.suspended

def owned (again : Loop) (ready left owner : State) : State :=
  left.below (again.waiting ready.scope.frame) owner.suspended

/-- The passes that a loop has made: the signals with which they ended, the checks before them, and
the loop and its owner at the next turn. The first turn is unchecked if the loop is entered first. -/
inductive History (script : Script) (loop : Loop) (entered : Bool) (opened : State) :
    List Signal → List Check → Loop → State → Prop where
  | opens : History script loop entered opened [] [] loop opened
  | pass {signals : List Signal} {checks more : List Check} {current again : Loop}
      {owner ready begun left : State} {signal : Signal}
      (history : History script loop entered opened signals checks current owner)
      (begins : current.Begins script (entered && signals.isEmpty) owner again ready more begun)
      (pass : begun.Pass script left signal) (onward : again.isEnded signal = false) :
      History script loop entered opened (signals ++ [signal]) (checks ++ more)
        (again.after signal) (again.takeOver signal (again.owned ready left owner))

/-- The loop is done: all its passes, with the signals and the checks, and what comes of it. -/
inductive Finishes (script : Script) (loop : Loop) (entered : Bool) (opened : State) :
    List Signal → List Check → Step → Prop where
  | closes {signals : List Signal} {checks more : List Check} {current : Loop}
      {owner ready : State}
      (history : History script loop entered opened signals checks current owner)
      (closes : current.Closes (entered && signals.isEmpty) owner ready more) :
      Finishes script loop entered opened signals (checks ++ more) (current.close script ready)
  | ends {signals : List Signal} {checks more : List Check} {current again : Loop}
      {owner ready begun left : State} {signal : Signal}
      (history : History script loop entered opened signals checks current owner)
      (begins : current.Begins script (entered && signals.isEmpty) owner again ready more begun)
      (pass : begun.Pass script left signal) (ends : again.isEnded signal = true) :
      Finishes script loop entered opened (signals ++ [signal]) (checks ++ more)
        (again.resume script signal (again.owned ready left owner))
  | missing {signals : List Signal} {checks more : List Check} {current again : Loop}
      {owner ready : State} {body : ExternalLoop}
      (history : History script loop entered opened signals checks current owner)
      (passes : current.Passes (entered && signals.isEmpty) owner again ready more)
      (form : again = .external body) (undefined : script.entryLine? body.body = none) :
      Finishes script loop entered opened signals (checks ++ more) (again.start script ready)

inductive Stage (script : Script) (loop : Loop) (entered : Bool) (opened : State) :
    Step → Prop where
  | turns {signals : List Signal} {checks : List Check} {current : Loop} {owner : State}
      (history : History script loop entered opened signals checks current owner) :
      Stage script loop entered opened (current.turn script (entered && signals.isEmpty) owner)
  | within {signals : List Signal} {checks more : List Check} {current again : Loop}
      {owner ready begun state : State}
      (history : History script loop entered opened signals checks current owner)
      (begins : current.Begins script (entered && signals.isEmpty) owner again ready more begun)
      (stays : begun.Stays script begun.suspended state) :
      Stage script loop entered opened (.next state)
  | stopped {signals : List Signal} {checks more : List Check} {current again : Loop}
      {owner ready begun state last : State} {ending : Ending}
      (history : History script loop entered opened signals checks current owner)
      (begins : current.Begins script (entered && signals.isEmpty) owner again ready more begun)
      (stays : begun.Stays script begun.suspended state)
      (room : begun.suspended.length ≤ state.waiting.length)
      (stepped : state.step script = .stop ending last) :
      Stage script loop entered opened (.stop ending last)
  | finished {signals : List Signal} {checks : List Check} {step : Step}
      (finishes : Finishes script loop entered opened signals checks step) :
      Stage script loop entered opened step

variable {script : Script} {loop current again : Loop} {entered unchecked : Bool}
  {opened owner ready begun left after : State} {signals : List Signal} {checks more : List Check}
  {signal : Signal} {step first : Step}

/-! ## What the owner keeps -/

/-- The owner of a loop is in its place, and the loop has kept its form. -/
structure Seated (loop : Loop) (opened : State) (current : Loop) (owner : State) : Prop where
  suspended : owner.suspended = opened.suspended
  running : owner.control = .running
  cursor : owner.scope.frame.cursor = opened.scope.frame.cursor
  kind : current.kind = loop.kind
  body : current.body? = loop.body?

theorem Begins.seated (begins : current.Begins script unchecked owner again ready checks begun)
    (seated : loop.Seated opened current owner) (left : State) :
    loop.Seated opened again (again.owned ready left owner) where
  suspended := seated.suspended
  running := rfl
  cursor := by
    change ((again.waiting ready.scope.frame).frame left.scope.frame).cursor = _
    rw [again.frame_waiting, begins.passes.kept.1.cursor, seated.cursor]
  kind := begins.passes.form.1.trans seated.kind
  body := begins.passes.form.2.trans seated.body

theorem Seated.takeOver (seated : loop.Seated opened current owner) (signal : Signal) :
    loop.Seated opened (current.after signal) (current.takeOver signal owner) := by
  have same := same_takeOver signal owner current
  exact ⟨same.suspended.trans seated.suspended, same.control.trans seated.running,
    (congrArg Frame.cursor same.frame).trans seated.cursor, kind_after.trans seated.kind,
    body?_after.trans seated.body⟩

theorem History.seated (running : opened.control = .running)
    (history : History script loop entered opened signals checks current owner) :
    loop.Seated opened current owner := by
  induction history with
  | opens => exact ⟨rfl, running, rfl, rfl, rfl⟩
  | pass history begins pass onward ih => exact (begins.seated ih _).takeOver _

theorem History.onward (running : opened.control = .running)
    (history : History script loop entered opened signals checks current owner) :
    ∀ signal ∈ signals, loop.isEnded signal = false := by
  induction history with
  | opens => exact fun _ member => nomatch member
  | pass history begins pass onward ih =>
      intro signal member
      rcases List.mem_append.mp member with early | last
      · exact ih signal early
      · have form := (begins.seated (history.seated running) opened).body
        rw [List.mem_singleton.mp last, ← isEnded_congr form]
        exact onward

/-! ## Every step of the line is accounted for -/

theorem Begins.level (begins : current.Begins script unchecked owner again ready checks begun) :
    begun.suspended.length = owner.suspended.length + 1 := by
  rw [begins.pushed, List.length_cons]

theorem Begins.filled (begins : current.Begins script unchecked owner again ready checks begun) :
    begun.suspended ≠ [] := by
  rw [begins.pushed]
  exact List.cons_ne_nil _ _

theorem step_ended (begins : current.Begins script unchecked owner again ready checks begun)
    (pass : begun.Pass script left signal) :
    left.step script = again.resume script signal (again.owned ready left owner) :=
  step_pass pass.leaving (pass.level.trans begins.pushed)

theorem turn_later (unchecked : Bool) (signals : List Signal) (signal : Signal) (loop : Loop)
    (owner : State) :
    loop.turn script (unchecked && (signals ++ [signal]).isEmpty) owner =
      loop.goOn script owner := by
  have filled : (signals ++ [signal]).isEmpty = false := by simp
  rw [filled, Bool.and_false]
  rfl

theorem stage_passed (history : History script loop entered opened signals checks current owner)
    (begins : current.Begins script (entered && signals.isEmpty) owner again ready more begun)
    (pass : begun.Pass script left signal) :
    loop.Stage script entered opened (left.step script) := by
  rw [step_ended begins pass]
  cases ends : again.isEnded signal with
  | true => exact .finished (.ends history begins pass ends)
  | false =>
      have turned : loop.Stage script entered opened _ :=
        .turns (history.pass begins pass ends)
      rwa [turn_later, ← resume_onward ends] at turned

theorem stage_step {state : State}
    (history : History script loop entered opened signals checks current owner)
    (begins : current.Begins script (entered && signals.isEmpty) owner again ready more begun)
    (stays : begun.Stays script begun.suspended state) :
    loop.Stage script entered opened (state.step script) := by
  by_cases room : begun.suspended.length ≤ state.waiting.length
  · cases stepped : state.step script with
    | next after => exact .within history begins (stays.step room stepped)
    | stop ending last => exact .stopped history begins stays room stepped
  · have below := stays.suffix begins.filled List.suffix_rfl
    obtain ⟨level, signal, leaving⟩ := State.ended_of_full below begins.filled room
    exact stage_passed history begins ⟨stays, level, leaving⟩

theorem stage_turn (history : History script loop entered opened signals checks current owner)
    {state : State}
    (turned : current.turn script (entered && signals.isEmpty) owner = .next state) :
    (∃ again ready more,
      current.Begins script (entered && signals.isEmpty) owner again ready more state) ∨
    state.suspended = owner.suspended ∧
      ∃ all, Finishes script loop entered opened signals all (.next state) := by
  cases turn_cases script current (entered && signals.isEmpty) owner with
  | faults stops => cases turned.symm.trans stops
  | closes closes leaves =>
      have closed := turned.symm.trans leaves
      have done := Finishes.closes history closes
      rw [← closed] at done
      exact .inr ⟨(suspended_close closed.symm).1.trans closes.kept.2.1, _, done⟩
  | @passes again ready more passes starts =>
      have started := starts.symm.trans turned
      have starting : again.Starts script ready (again.start script ready) := starts_start
      cases starting with
      | refused stops => cases started.symm.trans stops
      | enters stepped running pushed machine =>
          cases started.symm.trans stepped
          refine .inl ⟨again, ready, more, passes, started, running, ?_⟩
          rw [pushed, passes.kept.2.1]
      | missing form undefined stepped =>
          have done := Finishes.missing history passes form undefined
          rw [started] at done
          cases started.symm.trans stepped
          exact .inr ⟨passes.kept.2.1, _, done⟩

theorem Finishes.suspended (running : opened.control = .running)
    (finishes : Finishes script loop entered opened signals checks (.next after)) :
    after.suspended = opened.suspended := by
  generalize came : Step.next after = step at finishes
  cases finishes with
  | closes history closes =>
      exact (suspended_close came.symm).1.trans
        (closes.kept.2.1.trans (history.seated running).suspended)
  | ends history begins pass ends =>
      exact (suspended_resume ends came.symm).trans
        (begins.seated (history.seated running) _).suspended
  | missing history passes form undefined =>
      subst form
      change _ = State.startPass _ _ _ at came
      unfold State.startPass at came
      rw [undefined] at came
      cases came
      exact passes.kept.2.1.trans (history.seated running).suspended

theorem stage_of_unfolds (running : opened.control = .running)
    (unfolds : Step.Unfolds script opened.suspended (loop.turn script entered opened) step) :
    loop.Stage script entered opened step := by
  have first : loop.Stage script entered opened (loop.turn script entered opened) := by
    have turned : loop.Stage script entered opened _ := .turns .opens
    rwa [List.isEmpty_nil, Bool.and_true] at turned
  induction unfolds with
  | begins => exact first
  | @goesOn state unfolds above ih =>
      generalize came : Step.next state = step at ih
      cases ih with
      | turns history =>
          rcases stage_turn history came.symm with ⟨again, ready, more, begins⟩ | ⟨level, -⟩
          · exact stage_step history begins .refl
          · rw [level, (history.seated running).suspended] at above
            exact absurd above (Nat.lt_irrefl _)
      | within history begins stays =>
          cases came
          exact stage_step history begins stays
      | stopped => cases came
      | finished finishes =>
          subst came
          rw [finishes.suspended running] at above
          exact absurd above (Nat.lt_irrefl _)

theorem finishes_of_unfolds (running : opened.control = .running)
    (unfolds : Step.Unfolds script opened.suspended (loop.turn script entered opened)
      (.next after)) (level : after.suspended.length ≤ opened.suspended.length) :
    ∃ signals checks, Finishes script loop entered opened signals checks (.next after) := by
  have stage := stage_of_unfolds running unfolds
  generalize came : Step.next after = step at stage
  cases stage with
  | turns history =>
      rcases stage_turn history came.symm with ⟨again, ready, more, begins⟩ | ⟨-, all, finishes⟩
      · have longer := begins.level
        rw [(history.seated running).suspended] at longer
        omega
      · exact came ▸ ⟨_, _, finishes⟩
  | within history begins stays =>
      cases came
      have below := (stays.suffix begins.filled List.suffix_rfl).length_le
      rw [begins.level, (history.seated running).suspended] at below
      omega
  | stopped => cases came
  | finished finishes => exact ⟨_, _, finishes⟩

/-! ## The history is one of the run -/

theorem Passes.turned (passes : current.Passes unchecked owner again ready checks) :
    current.turn script unchecked owner = again.start script ready := by
  unfold turn
  cases passes with
  | unchecked first => rw [if_pos first]
  | counted later planned =>
      rw [if_neg (by simp [later]), goOn_eq, planned]
  | checked later planned holds =>
      rw [if_neg (by simp [later]), goOn_eq, planned]
      dsimp only
      rw [holds]

theorem Closes.turned (closes : current.Closes unchecked owner ready checks) :
    current.turn script unchecked owner = current.close script ready := by
  unfold turn
  cases closes with
  | counted later planned => rw [if_neg (by simp [later]), goOn_eq, planned]
  | checked later planned fails =>
      rw [if_neg (by simp [later]), goOn_eq, planned]
      dsimp only
      rw [fails]

theorem Begins.unfolds_left
    (begins : current.Begins script unchecked owner again ready checks begun)
    (seated : loop.Seated opened current owner) (pass : begun.Pass script left signal)
    (unfolds : Step.Unfolds script opened.suspended first (current.turn script unchecked owner)) :
    Step.Unfolds script opened.suspended first (.next left) := by
  have level := begins.level
  rw [seated.suspended] at level
  rw [begins.passes.turned, begins.started] at unfolds
  exact pass.stays.unfolds (by omega) unfolds

theorem Begins.unfolds (begins : current.Begins script unchecked owner again ready checks begun)
    (seated : loop.Seated opened current owner) (pass : begun.Pass script left signal)
    (unfolds : Step.Unfolds script opened.suspended first (current.turn script unchecked owner)) :
    Step.Unfolds script opened.suspended first
      (again.resume script signal (again.owned ready left owner)) := by
  have level := begins.level
  rw [seated.suspended, ← pass.level] at level
  rw [← step_ended begins pass]
  exact (begins.unfolds_left seated pass unfolds).goesOn (by omega)

theorem History.unfolds (running : opened.control = .running)
    (history : History script loop entered opened signals checks current owner) :
    Step.Unfolds script opened.suspended (loop.turn script entered opened)
      (current.turn script (entered && signals.isEmpty) owner) := by
  induction history with
  | opens =>
      rw [List.isEmpty_nil, Bool.and_true]
      exact .begins
  | pass history begins pass onward ih =>
      rw [turn_later, ← resume_onward onward]
      exact begins.unfolds (history.seated running) pass ih

theorem Finishes.unfolds (running : opened.control = .running)
    (finishes : Finishes script loop entered opened signals checks step) :
    Step.Unfolds script opened.suspended (loop.turn script entered opened) step := by
  cases finishes with
  | closes history closes => exact closes.turned ▸ history.unfolds running
  | ends history begins pass ends =>
      exact begins.unfolds (history.seated running) pass (history.unfolds running)
  | missing history passes form undefined => exact passes.turned ▸ history.unfolds running

end Loop

end LineScript

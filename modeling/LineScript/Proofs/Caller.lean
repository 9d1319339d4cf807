import LineScript.Proofs.Dispatch
import LineScript.Proofs.Passes.History

/-!
Frames that start other definitions. A frame that calls a definition, or whose loop has a definition
as its body, waits until the definition has ended, and then it is what it was: whatever happens in
the frames above it, its variables and its place stay the same.
-/

namespace LineScript

open LineScript.Action

theorem Scope.Alters.frame {parts : List Part} {before after : Scope}
    (alters : before.Alters parts after) (locals : .locals ∉ parts) (cursor : .cursor ∉ parts) :
    after.frame = before.frame := by
  have entry := alters.steady.entry
  have args := alters.steady.args
  have sameLocals : after.frame.locals = before.frame.locals := alters.others _ locals
  have sameCursor : after.frame.cursor = before.frame.cursor := alters.others _ cursor
  calc after.frame
    _ = ⟨after.frame.entry, after.frame.args, after.frame.locals, after.frame.cursor⟩ := rfl
    _ = before.frame := by rw [entry, args, sameLocals, sameCursor]

/-- Above the given frames, the frame is the innermost one, or it waits for a definition that it has
started. -/
inductive State.Hosts (frame : Frame) (lower : List Suspended) (state : State) : Prop where
  | acts (suspended : state.suspended = lower) (same : state.scope.frame = frame)
  | waits {wait : Wait} (below : .caller frame wait :: lower <:+ state.suspended)

def Step.Hosts (frame : Frame) (lower : List Suspended) (step : Step) : Prop :=
  step.state.Hosts frame lower

namespace State

variable {script : Script} {now state : State} {frame : Frame} {lower : List Suspended}

theorem Hosts.under (hosts : state.Hosts frame lower) :
    ∃ above, state.suspended = above ++ lower ∧ state.scope.frame.under above = frame := by
  cases hosts with
  | acts suspended same => exact ⟨[], suspended, same⟩
  | @waits wait below =>
      obtain ⟨upper, split⟩ := below
      refine ⟨upper ++ [.caller frame wait], ?_, ?_⟩
      · rw [← split, List.append_assoc, List.singleton_append]
      · unfold Frame.under
        rw [List.foldl_append]
        rfl

/-! ## What the frame does itself -/

theorem hosts_enter (entered : Frame) (wait : Wait) :
    (now.enter entered (.caller now.scope.frame wait)).Hosts now.scope.frame now.suspended := by
  unfold enter
  split
  · exact .acts rfl rfl
  · exact .waits List.suffix_rfl

theorem hosts_call (keyword entry : String) (args : List String) :
    (now.call script keyword entry args).Hosts now.scope.frame now.suspended := by
  unfold call
  split
  · exact .acts rfl rfl
  · exact hosts_enter _ _

theorem hosts_startPass (loop : ExternalLoop) :
    (now.startPass script loop).Hosts now.scope.frame now.suspended := by
  unfold startPass
  split
  · exact .acts rfl rfl
  · exact hosts_enter _ _

theorem hosts_instructionFault (name : String) (code : Code) (fault : Fault) :
    (now.instructionFault name code fault).Hosts now.scope.frame now.suspended := by
  cases fault <;> exact .acts rfl rfl

theorem hosts_continueExternal (loop : ExternalLoop) :
    (now.continueExternal script loop).Hosts now.scope.frame now.suspended := by
  unfold continueExternal
  split
  · exact .acts rfl rfl
  · exact hosts_startPass _
  · next header _ =>
      have alters : Alters [.compareFlag, .console, .log] (loop.kind.condition true header) :=
        LoopKind.alters_condition true header
      split
      · next scope checked =>
          have same := (alters.ok checked).frame (by simp) (by simp)
          exact same ▸ @hosts_startPass script { now with scope } loop
      · next checked => exact .acts rfl ((alters.ok checked).frame (by simp) (by simp))
      · next fault scope failed =>
          have same := (alters.error failed).frame (by simp) (by simp)
          exact same ▸ @hosts_instructionFault { now with scope } _ _ fault

theorem hosts_afterPass (loop : ExternalLoop) (signal : Signal) :
    (now.afterPass script loop signal).Hosts now.scope.frame now.suspended := by
  unfold afterPass
  split
  · exact .acts rfl rfl
  · exact @hosts_continueExternal script (now.report .info "Continue statement" .loop) loop
  · exact hosts_continueExternal loop

/-- Unless it starts a loop whose body follows its header. -/
theorem hosts_follow (keyword : String) {flow : Flow}
    (outer : ∀ loop entered, flow ≠ .inline loop entered) :
    (now.follow script keyword flow).Hosts now.scope.frame now.suspended := by
  cases flow with
  | next => exact .acts rfl rfl
  | leave signal => exact .acts rfl rfl
  | call entry args => exact hosts_call _ _ _
  | external loop entered =>
      cases entered with
      | true => exact hosts_startPass loop
      | false => exact hosts_continueExternal loop
  | inline loop entered => exact absurd rfl (outer loop entered)

/-! ## What happens above the frame -/

theorem hosts_handOver {signal : Signal} {wait : Wait}
    (waits : state.suspended = .caller frame wait :: lower) :
    (state.handOver script signal).Hosts frame lower := by
  cases wait with
  | call keyword =>
      rw [handOver_call waits]
      exact .acts rfl rfl
  | pass loop =>
      rw [handOver_pass waits]
      exact @hosts_afterPass script
        ((state.below (.caller frame (.pass loop)) lower).keepReturned signal.value) loop signal

theorem Hosts.step (hosts : state.Hosts frame lower)
    (above : lower.length < state.suspended.length) : (state.step script).Hosts frame lower := by
  cases hosts with
  | acts suspended same => exact absurd (congrArg List.length suspended) (Nat.ne_of_gt above)
  | @waits wait below =>
      have filled : state.suspended ≠ [] := by
        intro empty
        rw [empty] at above
        exact Nat.not_lt_zero _ above
      have transits : (state.step script).Transits script state := transits_above filled
      by_cases room : (Suspended.caller frame wait :: lower).length ≤ state.waiting.length
      · -- The frame below which it waits is not the one that acts.
        refine @Hosts.waits _ _ _ wait ?_
        cases stepped : state.step script with
        | next after =>
            rw [stepped] at transits
            exact transits.2.chained.suffix below room
        | stop ending last =>
            rw [stepped] at transits
            have stands := transits.2.1
            cases ending with
            | finished signal =>
                cases stands with
                | finished leaving alone => exact absurd alone filled
            | failed fault =>
                have same : last.suspended = state.waiting := stands.chain.1
                change _ <:+ last.suspended
                rw [same]
                exact List.suffix_of_suffix_length_le below state.waiting_suffix room
      · unfold waiting at room
        cases control : state.control with
        | running =>
            rw [control] at room
            exact absurd below.length_le room
        | leaving signal =>
            rw [control] at room
            have alone : state.suspended = .caller frame wait :: lower := by
              refine (below.eq_of_length_le ?_).symm
              simp only [List.length_tail, List.length_cons] at room ⊢
              omega
            rw [step_leaving control]
            exact hosts_handOver alone

theorem hosts_unfolds {first step : Step} (unfolds : Step.Unfolds script lower first step)
    (hosts : first.Hosts frame lower) : step.Hosts frame lower := by
  induction unfolds with
  | begins => exact hosts
  | goesOn unfolds above ih => exact Hosts.step ih above

end State

end LineScript

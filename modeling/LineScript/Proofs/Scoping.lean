import LineScript.Proofs.Block.Line
import LineScript.Proofs.Settling
import LineScript.Proofs.Stack
import Mathlib.Data.List.Chain

/-!
Which frames share variables. A frame that a call or a pass of a loop starts has variables of its
own, and whatever it does with them, the frame that waits for it goes on as it was. The body of a
loop works on the variables of the frame that owns the loop: a pass begins with what the pass before
it has left, and after the loop the owner has what the last pass has left.
-/

namespace LineScript

/-- The frames differ in nothing but their lines. -/
structure Frame.Shares (first second : Frame) : Prop where
  entry : second.entry = first.entry
  args : second.args = first.args
  locals : second.locals = first.locals

theorem Frame.Shares.of_eq {first second : Frame}
    (same : second = { first with cursor := second.cursor }) : first.Shares second :=
  ⟨by rw [same], by rw [same], by rw [same]⟩

theorem Frame.Shares.eq {first second : Frame} (shares : first.Shares second) :
    second = { first with cursor := second.cursor } := by
  obtain ⟨entry, args, locals⟩ := shares
  cases second
  simp only [Frame.mk.injEq, and_true]
  exact ⟨entry, args, locals⟩

theorem Frame.Shares.answer {α : Type} {action : Action α} (looks : action.Looks)
    {lower upper : Frame} (shares : lower.Shares upper) (machine : Machine) :
    Action.answer (action ⟨machine, upper⟩) = Action.answer (action ⟨machine, lower⟩) := by
  have seen : (⟨machine, upper⟩ : Scope) =
      Scope.seenFrom ⟨machine, lower⟩ upper.cursor machine.log :=
    congrArg (Scope.mk machine) shares.eq
  rw [seen]
  exact looks.answer_seenFrom _ _ _

theorem Suspended.shares_frame {waiting : Suspended} (body : waiting.startsBody = true)
    (above : Frame) : (waiting.frame above).Shares above := by
  cases waiting with
  | caller frame wait => cases body
  | owner cursor loop => exact ⟨rfl, rfl, rfl⟩

namespace State

/-- The line that the frame of the one state executes has led to the other state, and all the time
the frame has waited. -/
inductive Underway (script : Script) (origin : State) : State → Prop where
  | begins {after : State} (stepped : origin.step script = .next after) :
      Underway script origin after
  | goesOn {state after : State} (underway : Underway script origin state)
      (waits : origin.suspended.length < state.suspended.length)
      (stepped : state.step script = .next after) : Underway script origin after

structure Completes (script : Script) (origin after : State) : Prop where
  running : origin.control = .running
  underway : Underway script origin after
  level : after.suspended.length = origin.suspended.length

/-- The frame of the one state has executed whole lines. -/
inductive Works (script : Script) (first : State) : State → Prop where
  | refl : Works script first first
  | line {state after : State} (works : Works script first state)
      (completes : state.Completes script after) : Works script first after

/-- A loop of the one state, of which some passes have been made: the first one with the variables
of the owner, and every other one with those that the pass before it has left. -/
inductive Looped (script : Script) (origin : State) : State → Prop where
  | opened {after : State} (stepped : origin.step script = .next after)
      (shares : origin.scope.frame.Shares after.scope.frame) : Looped script origin after
  | passed {entered left after : State} {loop : InlineLoop} {signal : Signal}
      (looped : Looped script origin entered)
      (waits : entered.suspended =
        .owner (origin.scope.frame.cursor.read script) loop :: origin.suspended)
      (pass : entered.Works script left) (same : left.suspended = entered.suspended)
      (leaving : left.control = .leaving signal) (stepped : left.step script = .next after)
      (shares : left.scope.frame.Shares after.scope.frame) : Looped script origin after

def Turns (frame : Frame) (lower : List Suspended) (offspring : Offspring) (after : State) : Prop :=
  ∃ now : State, now.scope.frame = frame ∧ now.suspended = lower ∧ now.control = .running ∧
    now.Settles offspring after

variable {script : Script} {entry : String} {machine : Machine} {origin state after : State}
  {frame : Frame} {lower kept : List Suspended}

theorem Turns.own (turns : Turns frame lower .own after) :
    (after.suspended = lower ∧ after.control = .running ∧ after.scope.frame = frame) ∨
      ∃ wait, after.suspended = .caller frame wait :: lower ∧
        after.scope.frame.locals = .empty := by
  obtain ⟨now, rfl, rfl, ready, settles⟩ := turns
  cases settles with
  | stays control suspended frame => exact .inl ⟨suspended, control.trans ready, frame⟩
  | @calls fitting wait control suspended fresh => exact .inr ⟨wait, suspended, fresh⟩
  | moves fitting => exact absurd rfl fitting
  | repeats fitting => cases fitting

theorem Turns.shared (turns : Turns frame lower .shared after) :
    frame.Shares after.scope.frame ∧
      (after.suspended = lower ∨ ∃ loop, after.suspended = .owner frame.cursor loop :: lower) := by
  obtain ⟨now, rfl, rfl, ready, settles⟩ := turns
  cases settles with
  | stays control suspended frame => exact ⟨.of_eq (by rw [frame]), .inl suspended⟩
  | calls fitting => rcases fitting with other | other <;> cases other
  | moves fitting suspended frame => exact ⟨.of_eq frame, .inl suspended⟩
  | @repeats fitting loop control suspended frame => exact ⟨.of_eq frame, .inr ⟨loop, suspended⟩⟩

theorem running_of_offspring (starts : state.offspring script ≠ .none) :
    state.control = .running := by
  unfold State.offspring at starts
  split at starts
  · next running _ => exact running
  · exact absurd rfl starts

end State

namespace Program.Reaches

variable {script : Script} {entry : String} {machine : Machine} {state after : State}

theorem turns_line (reached : Reaches script entry machine state)
    (starts : state.offspring script = .own ∨ state.offspring script = .shared)
    (stepped : state.step script = .next after) :
    State.Turns { state.scope.frame with cursor := state.scope.frame.cursor.read script }
      state.suspended (state.offspring script) after := by
  have busy : state.offspring script ≠ .none := by
    rcases starts with same | same <;> rw [same] <;> nofun
  cases reached.passage stepped with
  | idles running quiet => exact absurd quiet busy
  | directs running quiet => exact absurd quiet busy
  | returns now leaving =>
      rw [State.running_of_offspring busy] at leaving
      cases leaving
  | executes now running machine suspended frame carries =>
      obtain ⟨performed, performs, settles⟩ := carries
      exact ⟨performed, (performs.starter starts).trans frame, performs.suspended.trans suspended,
        performs.running, settles.2⟩

theorem turns_end (reached : Reaches script entry machine state) {signal : Signal}
    {waiting : Suspended} {lower : List Suspended} (leaving : state.control = .leaving signal)
    (waits : state.suspended = waiting :: lower) (stepped : state.step script = .next after) :
    State.Turns (waiting.frame state.scope.frame) lower waiting.offspring after := by
  have other {P : Prop} (running : state.control = .running) : P := by
    rw [leaving] at running
    cases running
  cases reached.passage stepped with
  | idles running => exact other running
  | directs running => exact other running
  | executes now running => exact other running
  | returns now _ split ready machine frame settles =>
      rw [waits] at split
      obtain ⟨rfl, rfl⟩ := List.cons.inj split
      exact ⟨now, frame, rfl, ready, settles.2⟩

theorem suspended_line (reached : Reaches script entry machine state)
    (running : state.control = .running) (quiet : state.offspring script = .none)
    (stepped : state.step script = .next after) : after.suspended = state.suspended := by
  cases reached.passage stepped with
  | idles _ _ machine suspended => exact suspended
  | directs _ _ found filled directive machine suspended => exact suspended
  | returns now leaving =>
      rw [running] at leaving
      cases leaving
  | executes now _ machine suspended frame carries =>
      obtain ⟨performed, performs, settles⟩ := carries
      have same := performs.suspended.trans suspended
      rw [quiet] at settles
      cases settles.2 with
      | stays control settled => exact settled.trans same
      | moves fitting settled => exact settled.trans same
      | calls fitting => rcases fitting with other | other <;> cases other
      | repeats fitting => cases fitting

end Program.Reaches

/-! ## Whole lines -/

namespace State

variable {script : Script} {entry : String} {machine : Machine} {origin state after : State}
  {kept : List Suspended}

theorem waiting_of_running (running : state.control = .running) :
    state.waiting = state.suspended := by
  rw [waiting, running]

theorem ended_of_full (below : kept <:+ state.suspended) (filled : kept ≠ [])
    (full : ¬ kept.length ≤ state.waiting.length) :
    state.suspended = kept ∧ ∃ signal, state.control = .leaving signal := by
  have positive := List.length_pos_iff.mpr filled
  have shorter := below.length_le
  unfold waiting at full
  cases control : state.control with
  | running =>
      rw [control] at full
      exact absurd shorter full
  | leaving signal =>
      rw [control] at full
      simp only [List.length_tail] at full
      have level : kept.length = state.suspended.length := by omega
      exact ⟨(below.eq_of_length level).symm, signal, rfl⟩

theorem Underway.reaches (underway : origin.Underway script state)
    (reached : Program.Reaches script entry machine origin) :
    Program.Reaches script entry machine state := by
  induction underway with
  | begins stepped => exact reached.step stepped
  | goesOn underway waits stepped ih => exact ih.step stepped

theorem Underway.stays (underway : origin.Underway script state)
    (running : origin.control = .running) : origin.Stays script origin.suspended state := by
  induction underway with
  | begins stepped =>
      refine Stays.refl.step ?_ stepped
      rw [waiting_of_running running]
  | @goesOn state after underway waits stepped ih =>
      refine ih.step ?_ stepped
      unfold waiting
      split
      · exact Nat.le_of_lt waits
      · rw [List.length_tail]
        omega

theorem Underway.suffix (underway : origin.Underway script state)
    (reached : Program.Reaches script entry machine origin) (running : origin.control = .running) :
    origin.suspended <:+ state.suspended := by
  obtain ⟨above, split, -⟩ := reached.keeps (List.nil_append _).symm (underway.stays running)
  exact ⟨above, split.symm⟩

theorem Completes.same (completes : origin.Completes script after)
    (reached : Program.Reaches script entry machine origin) :
    after.suspended = origin.suspended ∧ origin.scope.frame.Twin after.scope.frame := by
  obtain ⟨above, split, twin⟩ :=
    reached.keeps (List.nil_append _).symm (completes.underway.stays completes.running)
  have empty : above = [] := by
    have level := completes.level
    rw [split, List.length_append] at level
    exact List.eq_nil_of_length_eq_zero (by omega)
  rw [empty] at split twin
  exact ⟨split, twin⟩

theorem Works.reaches (works : origin.Works script state)
    (reached : Program.Reaches script entry machine origin) :
    Program.Reaches script entry machine state ∧ state.suspended = origin.suspended := by
  induction works with
  | refl => exact ⟨reached, rfl⟩
  | line works completes ih =>
      exact ⟨completes.underway.reaches ih.1, (completes.same ih.1).1.trans ih.2⟩

theorem Stays.works (reached : Program.Reaches script entry machine origin)
    (filled : origin.suspended ≠ []) (stays : origin.Stays script origin.suspended state) :
    ∃ last, origin.Works script last ∧ (last = state ∨ last.control = .running ∧
      last.Underway script state ∧ last.suspended.length < state.suspended.length) := by
  induction stays with
  | refl => exact ⟨origin, .refl, .inl rfl⟩
  | @step state after stays room stepped ih =>
      obtain ⟨last, works, progress⟩ := ih
      obtain ⟨reachedLast, same⟩ := works.reaches reached
      have underway : last.control = .running ∧ last.Underway script after := by
        rcases progress with rfl | ⟨running, underway, deeper⟩
        · refine ⟨?_, .begins stepped⟩
          have positive := List.length_pos_iff.mpr filled
          unfold waiting at room
          split at room
          · next running => exact running
          · rw [same, List.length_tail] at room
            omega
        · exact ⟨running, underway.goesOn deeper stepped⟩
      have below := (underway.2.suffix reachedLast underway.1).length_le
      -- Back at the depth of its frame the line is whole; deeper it is still underway.
      by_cases level : after.suspended.length = last.suspended.length
      · exact ⟨after, works.line ⟨underway.1, underway.2, level⟩, .inl rfl⟩
      · exact ⟨last, works, .inr ⟨underway.1, underway.2, by omega⟩⟩

/-! ## Calls and loops -/

/-- The definitions that a line has started have ended or are underway. The frame of the line is as
it was on that line. -/
def Awaits (script : Script) (origin state : State) : Prop :=
  let frame := { origin.scope.frame with cursor := origin.scope.frame.cursor.read script }
  (state.suspended = origin.suspended ∧ state.control = .running ∧ state.scope.frame = frame) ∨
    ∃ wait, (.caller frame wait :: origin.suspended) <:+ state.suspended

def Repeats (script : Script) (origin state : State) : Prop :=
  (state.suspended = origin.suspended ∧ origin.Looped script state) ∨
    ∃ entered loop, origin.Looped script entered ∧
      entered.suspended =
        .owner (origin.scope.frame.cursor.read script) loop :: origin.suspended ∧
      entered.Stays script entered.suspended state ∧ entered.suspended <:+ state.suspended

theorem Looped.reaches (looped : origin.Looped script state)
    (reached : Program.Reaches script entry machine origin) :
    Program.Reaches script entry machine state := by
  induction looped with
  | opened stepped shares => exact reached.step stepped
  | passed looped waits pass same leaving stepped shares ih =>
      exact (pass.reaches ih).1.step stepped

theorem Looped.repeats (looped : origin.Looped script state)
    (turned : state.suspended = origin.suspended ∨ ∃ loop, state.suspended =
      .owner (origin.scope.frame.cursor.read script) loop :: origin.suspended) :
    origin.Repeats script state := by
  rcases turned with done | ⟨loop, waits⟩
  · exact .inl ⟨done, looped⟩
  · exact .inr ⟨state, loop, looped, waits, .refl, List.suffix_rfl⟩

theorem Underway.awaits (underway : origin.Underway script state)
    (reached : Program.Reaches script entry machine origin)
    (starts : origin.offspring script = .own) : origin.Awaits script state := by
  have settled {after : State} (turns : Turns { origin.scope.frame with
      cursor := origin.scope.frame.cursor.read script } origin.suspended .own after) :
      origin.Awaits script after := by
    rcases turns.own with done | ⟨wait, waits, -⟩
    · exact .inl done
    · exact .inr ⟨wait, waits ▸ List.suffix_rfl⟩
  induction underway with
  | begins stepped =>
      have turns := reached.turns_line (.inl starts) stepped
      rw [starts] at turns
      exact settled turns
  | @goesOn state after underway waits stepped ih =>
      rcases ih with ⟨done, -⟩ | ⟨wait, below⟩
      · rw [done] at waits
        exact absurd waits (Nat.lt_irrefl _)
      · have reachedState := underway.reaches reached
        -- Either the caller still waits, or the definition it waits for ends in this step.
        by_cases room : origin.suspended.length + 1 ≤ state.waiting.length
        · exact .inr ⟨wait, (reachedState.chained stepped).suffix below room⟩
        · obtain ⟨ended, signal, leaving⟩ := ended_of_full below nofun room
          exact settled (reachedState.turns_end leaving ended stepped)

theorem Underway.repeats (underway : origin.Underway script state)
    (reached : Program.Reaches script entry machine origin)
    (starts : origin.offspring script = .shared) : origin.Repeats script state := by
  induction underway with
  | begins stepped =>
      have turns := reached.turns_line (.inr starts) stepped
      rw [starts] at turns
      obtain ⟨shares, turned⟩ := turns.shared
      exact Looped.repeats (.opened stepped ⟨shares.entry, shares.args, shares.locals⟩) turned
  | @goesOn state after underway waits stepped ih =>
      rcases ih with ⟨done, -⟩ | ⟨entered, loop, looped, opens, stays, below⟩
      · rw [done] at waits
        exact absurd waits (Nat.lt_irrefl _)
      have reachedState := underway.reaches reached
      have reachedEntered := looped.reaches reached
      have filled : entered.suspended ≠ [] := by
        rw [opens]
        nofun
      by_cases room : entered.suspended.length ≤ state.waiting.length
      · exact .inr ⟨entered, loop, looped, opens, stays.step room stepped,
          (reachedState.chained stepped).suffix below room⟩
      · obtain ⟨ended, signal, leaving⟩ := ended_of_full below filled room
        obtain ⟨shares, turned⟩ :=
          (reachedState.turns_end leaving (ended.trans opens) stepped).shared
        -- At the end of the pass no line of the body is underway.
        have pass : entered.Works script state := by
          obtain ⟨last, works, progress⟩ := stays.works reachedEntered filled
          rcases progress with rfl | ⟨-, -, deeper⟩
          · exact works
          · rw [(works.reaches reachedEntered).2, ended] at deeper
            exact absurd deeper (Nat.lt_irrefl _)
        exact Looped.repeats (.passed looped opens pass ended leaving stepped
          ⟨shares.entry, shares.args, shares.locals⟩) turned

/-! ## Bodies -/

theorem chain_activationsFrom (frame : Frame) (suspended : List Suspended) :
    (activationsFrom frame suspended).IsChain fun upper lower =>
      upper.inBody = true → lower.frame.Shares upper.frame := by
  induction suspended generalizing frame with
  | nil => exact .singleton _
  | cons waiting rest ih =>
      have below := ih (waiting.frame frame)
      have here (body : waiting.startsBody = true) := waiting.shares_frame body frame
      cases rest with
      | nil => exact .cons_cons here below
      | cons next rest => exact .cons_cons here below

theorem chain_active (whole : state.oneLine = false) :
    state.active.IsChain fun lower upper =>
      upper.inBody = true → lower.frame.Shares upper.frame := by
  rw [active, whole]
  change state.activations.IsChain _
  rw [activations, List.isChain_reverse]
  exact chain_activationsFrom _ _

end State

theorem Machine.offspring_call {machine : Machine} {keyword : String}
    (call : keyword ∈ Instruction.callNames) (supplied : Nat) :
    machine.offspring keyword supplied = .own := by
  have known {name : String} (found : Instruction.core.get? name =
      some ⟨name, 1, none, .call, "", "core"⟩) : machine.offspring name supplied = .own := by
    rw [Machine.offspring, lookup?_core found]
    rfl
  simp only [Instruction.callNames, List.mem_cons, List.not_mem_nil, or_false] at call
  rcases call with rfl | rfl
  · exact known rfl
  · exact known rfl

theorem Machine.offspring_loop {machine : Machine} (extended : machine.extended = true)
    (kind : LoopKind) (supplied : Nat) : machine.offspring kind.keyword supplied =
      if kind.inlineArity < supplied then .own else .shared := by
  obtain ⟨origin, known⟩ := Machine.knows_loop extended kind
  rw [Machine.offspring, known]
  rfl

/-! ## Main statement -/

namespace Program

/-- Which frames of a program share variables. -/
structure Scoping (script : Script) (entry : String) (machine : Machine) : Prop where
  alone : ∀ origin after, Reaches script entry machine origin → origin.control = .running →
    origin.offspring script = .none → origin.step script = .next after →
    after.suspended = origin.suspended
  /-- After a call, or after all passes of a loop whose body is a definition, the frame is as it was
  on that line. -/
  called : ∀ origin after, Reaches script entry machine origin → origin.offspring script = .own →
    origin.Completes script after →
    after.suspended = origin.suspended ∧ after.control = .running ∧
      after.scope.frame =
        { origin.scope.frame with cursor := origin.scope.frame.cursor.read script }
  fresh : ∀ origin frame wait entered, Reaches script entry machine origin →
    origin.Pushes script (.caller frame wait) entered → entered.scope.frame.locals = .empty
  /-- Whatever has asked for a call, the frame that waits for it goes on as it was. -/
  resumed : ∀ origin frame keyword entered state after, Reaches script entry machine origin →
    origin.Pushes script (.caller frame (.call keyword)) entered →
    entered.Stays script entered.suspended state →
    state.suspended.length = entered.suspended.length →
    (∃ signal, state.control = .leaving signal) → state.step script = .next after →
    after.suspended = origin.waiting ∧ after.control = .running ∧ after.scope.frame = frame
  /-- After a loop whose body follows, the frame has the variables that the last pass has left. -/
  looped : ∀ origin after, Reaches script entry machine origin →
    origin.offspring script = .shared → origin.Completes script after →
    after.suspended = origin.suspended ∧ origin.scope.frame.Twin after.scope.frame ∧
      origin.Looped script after
  /-- The body of a loop is what the frame below it is, and reads what that frame would read. -/
  bodies : ∀ state, Reaches script entry machine state →
    state.active.IsChain fun lower upper => upper.inBody = true →
      lower.frame.Shares upper.frame ∧ ∀ present text,
        Action.answer (Reference.resolve text ⟨present, upper.frame⟩) =
          Action.answer (Reference.resolve text ⟨present, lower.frame⟩) ∧
        Action.answer (Reference.read text ⟨present, upper.frame⟩) =
          Action.answer (Reference.read text ⟨present, lower.frame⟩)
  starters : ∀ (state : State) (text : String), state.control = .running →
    script.line? (state.scope.frame.cursor.line + 1) = some text →
    LineText.isInstruction text = true →
    (LineText.keyword text ∈ Instruction.callNames → state.offspring script = .own) ∧
      ∀ kind : LoopKind, state.scope.machine.extended = true →
        LineText.keyword text = kind.keyword → state.offspring script =
          if kind.inlineArity < (LineText.pieces text).length then .own else .shared

variable {script : Script} {entry : String} {machine : Machine} {origin entered : State}

theorem Reaches.fresh {frame : Frame} {wait : Wait} (reached : Reaches script entry machine origin)
    (pushes : origin.Pushes script (.caller frame wait) entered) :
    entered.scope.frame.locals = .empty := by
  have pushed := pushes.pushed
  have longer {P : Prop} (running : origin.control = .running)
      (same : entered.suspended = origin.suspended) : P := by
    rw [State.waiting_of_running running] at pushed
    have length := congrArg List.length (pushed.symm.trans same)
    simp at length
  cases reached.passage pushes.stepped with
  | idles running quiet machine suspended => exact longer running suspended
  | directs running quiet found filled directive machine suspended => exact longer running suspended
  | executes now running machine suspended frame carries =>
      obtain ⟨performed, performs, settles⟩ := carries
      rw [State.waiting_of_running running, ← suspended, ← performs.suspended] at pushed
      exact settles.2.fresh pushed
  | returns now leaving waits ready machine frame settles =>
      rw [State.waiting, leaving, waits] at pushed
      exact settles.2.fresh pushed

/-- Whatever the script and the extensions, calls leave the frames that make them alone, and the
bodies of loops work on the variables of the frames that own the loops. -/
theorem scoping (script : Script) (entry : String) (machine : Machine) :
    Scoping script entry machine where
  alone origin after reached running quiet stepped := reached.suspended_line running quiet stepped
  called origin after reached starts completes := by
    rcases completes.underway.awaits reached starts with done | ⟨wait, below⟩
    · exact done
    -- A call that goes on has its frame above the origin, so its line is not complete.
    · have length := below.length_le
      rw [completes.level, List.length_cons] at length
      omega
  fresh origin frame wait entered reached pushes := reached.fresh pushes
  resumed origin frame keyword entered state after reached pushes stays level leaves stepped := by
    obtain ⟨signal, leaving⟩ := leaves
    have waits := (reached.returns pushes stays level).1.trans pushes.pushed
    rw [State.step_leaving leaving, State.handOver_call waits] at stepped
    cases stepped
    exact ⟨rfl, rfl, rfl⟩
  looped origin after reached starts completes := by
    obtain ⟨same, twin⟩ := completes.same reached
    refine ⟨same, twin, ?_⟩
    rcases completes.underway.repeats reached starts with
      ⟨-, looped⟩ | ⟨entered, loop, -, opens, -, below⟩
    · exact looped
    · have length := below.length_le
      rw [completes.level, opens, List.length_cons] at length
      omega
  bodies state reached := by
    refine (State.chain_active reached.inPlace.whole).imp fun lower upper shares body => ?_
    exact ⟨shares body, fun present text =>
      ⟨(shares body).answer (Reference.looks_resolve text) present,
        (shares body).answer (Reference.looks_read text) present⟩⟩
  starters state text running found executed := by
    rw [State.offspring_line running found executed]
    refine ⟨fun call => Machine.offspring_call call _, fun kind extended loop => ?_⟩
    rw [loop]
    exact Machine.offspring_loop extended kind _

-- The call in each pass has an `x` of its own.
example : (run (.ofLines "" ["DEF main", "NEW x", "FOR 2", "ADD x 1", "CALL f", "ENDF", "PRINT $x",
    "ENDDEF", "DEF f", "NEW x,7", "PRINT $x", "ENDDEF"]) "main" .plainExample 40).map
    (·.machine.output) = some "7\n7\n2\n" := by
  decide +kernel

end Program

end LineScript

import LineScript.Proofs.Settling

/-!
The frames that are active during a run. They form a chain: each was started by the one below it,
which waits at the statement that started it, and a frame that ends leaves the frames below it as
they were when it was started.
-/

namespace LineScript

/-! ## The frame that acts -/

def Suspended.cursor : Suspended → Cursor
  | caller frame _ => frame.cursor
  | owner cursor _ => cursor

theorem Suspended.cursor_frame (waiting : Suspended) (above : Frame) :
    (waiting.frame above).cursor = waiting.cursor := by
  cases waiting <;> rfl

def Instruction.starterNames : List String :=
  callNames ++ [LoopKind.forLoop, .whileLoop, .doWhileLoop].map LoopKind.keyword

/-- The frame is at a statement that starts frames: a call or a loop, or an instruction of an
extension that may ask for a call. -/
def Suspended.Stands (script : Script) (services : Services) (waiting : Suspended) : Prop :=
  script.StandsOn waiting.cursor.line (Text.upper waiting.keyword) ∧
    (waiting.keyword ∈ Instruction.starterNames ∨
      ∃ spec, services.instructions.get? waiting.keyword = some spec ∧ spec.action.Calls)

namespace State

/-- The frames that wait during the next step. If the innermost frame has ended, the one below it
takes over. -/
def waiting (state : State) : List Suspended :=
  match state.control with
  | .running => state.suspended
  | .leaving _ => state.suspended.tail

def acting (state : State) : Frame :=
  match state.control, state.suspended with
  | .leaving _, waiting :: _ => waiting.frame state.scope.frame
  | _, _ => state.scope.frame

/-- The frame that acts in the one state has started the innermost frame of the other, and waits for
it there. -/
structure Pushes (script : Script) (origin : State) (waiting : Suspended) (entered : State) :
    Prop where
  stepped : origin.step script = .next entered
  running : entered.control = .running
  pushed : entered.suspended = waiting :: origin.waiting
  parent : origin.acting.Onward script (waiting.frame entered.scope.frame)

/-- The run leads from the one state to the other while the given frames wait. -/
inductive Stays (script : Script) (kept : List Suspended) (first : State) : State → Prop where
  | refl : Stays script kept first first
  | step {state after : State} (stays : Stays script kept first state)
      (room : kept.length ≤ state.waiting.length) (stepped : state.step script = .next after) :
      Stays script kept first after

end State

/-! ## One step -/

theorem LoopKind.mem_starterNames (kind : LoopKind) :
    kind.keyword ∈ Instruction.starterNames := by
  cases kind <;> decide

theorem LoopKind.upper_keyword (kind : LoopKind) : Text.upper kind.keyword = kind.keyword := by
  cases kind <;> decide

theorem Suspended.Begun.stands {script : Script} {services : Services} {waiting : Suspended}
    (begun : waiting.Begun script services) : waiting.Stands script services := by
  match waiting with
  | caller frame (.call keyword) => exact ⟨begun.1, begun.2.imp_left (List.mem_append_left _)⟩
  | caller frame (.pass loop) =>
      exact ⟨loop.kind.upper_keyword.symm ▸ begun.1, .inl loop.kind.mem_starterNames⟩
  | owner cursor loop =>
      exact ⟨loop.kind.upper_keyword.symm ▸ begun.1.1, .inl loop.kind.mem_starterNames⟩

theorem InlineLoop.kind_after (loop : InlineLoop) (signal : Signal) :
    (loop.after signal).kind = loop.kind := by
  cases signal <;> rfl

theorem Suspended.Repeats.stands {script : Script} {services : Services} {signal : Signal}
    {waiting again : Suspended} (repeats : waiting.Repeats signal again)
    (stands : waiting.Stands script services) : again.Stands script services := by
  match waiting, again with
  | caller frame (.pass loop), caller other (.pass later) =>
      obtain ⟨place, kind, -⟩ := repeats
      simpa [Stands, Suspended.cursor, keyword, Wait.keyword, place, kind] using stands
  | owner cursor loop, owner place later =>
      obtain ⟨rfl, kind, -⟩ := repeats
      rw [loop.kind_after] at kind
      simpa [Stands, Suspended.cursor, keyword, kind] using stands

/-- What a step does to the chain of frames: it stays as it is, or the frame that acts starts
another one. -/
inductive Chained (script : Script) (before after : State) : Prop where
  | same (suspended : after.suspended = before.waiting)
      (frame : before.acting.Onward script after.scope.frame)
  | pushed {waiting : Suspended} (running : after.control = .running)
      (suspended : after.suspended = waiting :: before.waiting)
      (frame : before.acting.Onward script (waiting.frame after.scope.frame))
      (stands : (∀ below ∈ before.suspended, below.Stands script before.scope.machine.services) →
        waiting.Stands script before.scope.machine.services)
      (room : ∃ limit, after.scope.machine.settings.maxDepth = some limit ∧
        (after.depth : Int) ≤ limit)

theorem Outcome.chained {script : Script} {fresh : Suspended → Prop} {exits : Signal → Prop}
    {before now after : State} (outcome : Outcome script fresh exits now after)
    (suspended : now.suspended = before.waiting)
    (frame : before.acting.Onward script now.scope.frame)
    (stands : ∀ waiting, fresh waiting →
      (∀ below ∈ before.suspended, below.Stands script before.scope.machine.services) →
      waiting.Stands script before.scope.machine.services) : Chained script before after := by
  cases outcome with
  | stays control same onward => exact .same (same.trans suspended) (frame.trans onward)
  | leaves control known same onward => exact .same (same.trans suspended) (frame.trans onward)
  | @enters waiting control known pushed onward starts room =>
      exact .pushed control (suspended ▸ pushed) (frame.trans onward) (stands waiting known) room

theorem Transition.chained {script : Script} {before after : State}
    (transition : Transition script before after) : Chained script before after := by
  cases transition with
  | reads running ready same frame below outcome =>
      refine outcome.chained ?_ ?_ fun waiting begun _ => begun.stands
      · rw [State.waiting, running]
        exact same
      · rw [State.acting, running]
        exact frame
  | finishes running control same frame =>
      refine .same ?_ ?_
      · rw [State.waiting, running]
        exact same
      · rw [State.acting, running]
        exact frame
  | @returns now signal waiting leaving waits ready frame outcome =>
      refine outcome.chained ?_ ?_ fun again repeats stands => ?_
      · rw [State.waiting, leaving, waits]
        rfl
      · rw [State.acting, leaving, waits, frame]
        exact .refl _
      · exact repeats.stands (stands waiting (waits ▸ List.mem_cons_self))

namespace State

variable {script : Script} {state : State}

theorem waiting_suffix (state : State) : state.waiting <:+ state.suspended := by
  unfold waiting
  cases state.control with
  | running => exact List.suffix_rfl
  | leaving signal => exact List.tail_suffix _

theorem length_activationsFrom (frame : Frame) (suspended : List Suspended) :
    (activationsFrom frame suspended).length = suspended.length + 1 := by
  induction suspended generalizing frame with
  | nil => rfl
  | cons waiting rest ih => rw [activationsFrom, List.length_cons, ih, List.length_cons]

theorem length_active (whole : state.oneLine = false) :
    state.active.length = state.suspended.length + 1 := by
  rw [active, whole]
  change state.activations.length = _
  rw [activations, List.length_reverse, length_activationsFrom]

theorem getLast_activationsFrom (frame : Frame) (suspended : List Suspended) :
    (activationsFrom frame suspended).getLast? =
      some ⟨suspended.foldl (fun frame waiting => waiting.frame frame) frame, false⟩ := by
  induction suspended generalizing frame with
  | nil => rfl
  | cons waiting rest ih =>
      rw [activationsFrom, List.getLast?_cons, ih, List.foldl_cons]
      rfl

theorem head_active (whole : state.oneLine = false) :
    state.active.head? = some ⟨state.outermost, false⟩ := by
  rw [active, whole]
  change state.activations.head? = _
  rw [activations, List.head?_reverse, getLast_activationsFrom]
  rfl

theorem cursors_activationsFrom (frame : Frame) (suspended : List Suspended) :
    (activationsFrom frame suspended).tail.map (fun activation => activation.frame.cursor) =
      suspended.map Suspended.cursor := by
  induction suspended generalizing frame with
  | nil => rfl
  | cons waiting rest ih =>
      have below := ih (waiting.frame frame)
      rw [activationsFrom, List.tail_cons, List.map_cons, ← below, ← waiting.cursor_frame frame]
      cases rest <;> rfl

theorem cursors_active (whole : state.oneLine = false) :
    state.active.dropLast.map (fun activation => activation.frame.cursor) =
      (state.suspended.map Suspended.cursor).reverse := by
  rw [active, whole]
  change state.activations.dropLast.map _ = _
  rw [activations, List.dropLast_reverse, List.map_reverse, cursors_activationsFrom]

end State

theorem Standstill.chain {script : Script} {before last : State} {fault : Fault}
    (ended : Standstill script before (.failed fault) last) :
    last.suspended = before.waiting ∧ before.acting.Onward script last.scope.frame := by
  cases ended with
  | reading running same frame =>
      rw [State.waiting, State.acting, running]
      exact ⟨same, frame⟩
  | returning leaving waits frame =>
      rw [State.waiting, State.acting, leaving, waits]
      exact ⟨rfl, frame⟩

/-! ## The frame that comes back -/

/-- The frames execute the same definition with the same arguments. -/
structure Frame.Twin (first second : Frame) : Prop where
  entry : second.entry = first.entry
  args : second.args = first.args

def Frame.under (frame : Frame) (upper : List Suspended) : Frame :=
  upper.foldl (fun frame waiting => waiting.frame frame) frame

theorem Frame.Onward.under {script : Script} {first second : Frame}
    (onward : first.Onward script second) (upper : List Suspended) :
    (first.under upper).Onward script (second.under upper) := by
  induction upper generalizing first second with
  | nil => exact onward
  | cons waiting rest ih =>
      refine ih ?_
      cases waiting with
      | caller frame wait => exact .refl frame
      | owner cursor loop => exact ⟨onward.entry, onward.args, Nat.le_refl _, id⟩

theorem State.under_acting {state : State} {upper kept : List Suspended}
    (split : state.suspended = upper ++ kept) (room : kept.length ≤ state.waiting.length) :
    ∃ above, state.waiting = above ++ kept ∧
      state.acting.under above = state.scope.frame.under upper := by
  unfold waiting at room ⊢
  unfold acting
  cases control : state.control with
  | running => exact ⟨upper, split, rfl⟩
  | leaving signal =>
      rw [control] at room
      cases upper with
      | nil =>
          have empty : kept = [] := by
            rw [split, List.nil_append, List.length_tail] at room
            exact List.eq_nil_of_length_eq_zero (by omega)
          rw [split, empty]
          exact ⟨[], rfl, rfl⟩
      | cons waiting above =>
          rw [split]
          exact ⟨above, rfl, rfl⟩

theorem Chained.suffix {script : Script} {state after : State} {kept : List Suspended}
    (chained : Chained script state after) (below : kept <:+ state.suspended)
    (room : kept.length ≤ state.waiting.length) : kept <:+ after.suspended := by
  have still : kept <:+ state.waiting :=
    List.suffix_of_suffix_length_le below state.waiting_suffix room
  cases chained with
  | same suspended frame => exact suspended ▸ still
  | pushed running suspended frame stands room =>
      rw [suspended]
      exact still.trans (List.suffix_cons _ _)

/-- A frame that waits below the one that acts is as it was, and so is the frame above it but for
its place, which is not above the one it had. -/
theorem Chained.under {script : Script} {state after : State} {upper kept : List Suspended}
    (chained : Chained script state after) (split : state.suspended = upper ++ kept)
    (room : kept.length ≤ state.waiting.length) :
    ∃ above, after.suspended = above ++ kept ∧
      (state.scope.frame.under upper).Onward script (after.scope.frame.under above) := by
  obtain ⟨later, waits, under⟩ := State.under_acting split room
  rw [← under]
  cases chained with
  | same suspended frame => exact ⟨later, suspended.trans waits, frame.under later⟩
  | @pushed waiting running suspended frame stands room =>
      exact ⟨waiting :: later, by rw [suspended, waits, List.cons_append], frame.under later⟩

namespace Program.Reaches

variable {script : Script} {entry : String} {machine : Machine} {state after : State}

theorem chained (reached : Reaches script entry machine state)
    (stepped : state.step script = .next after) : Chained script state after :=
  (reached.transition stepped).2.chained

theorem stays (reached : Reaches script entry machine state) {kept : List Suspended}
    (stays : state.Stays script kept after) : Reaches script entry machine after := by
  induction stays with
  | refl => exact reached
  | step stays room stepped reached => exact reached.step stepped

theorem keeps (reached : Reaches script entry machine state) {upper kept : List Suspended}
    (split : state.suspended = upper ++ kept) (stays : state.Stays script kept after) :
    ∃ above, after.suspended = above ++ kept ∧
      (state.scope.frame.under upper).Twin (after.scope.frame.under above) := by
  induction stays with
  | refl => exact ⟨upper, split, ⟨rfl, rfl⟩⟩
  | @step middle last stays room stepped ih =>
      obtain ⟨above, split, twin⟩ := ih
      obtain ⟨later, waits, onward⟩ := ((reached.stays stays).chained stepped).under split room
      exact ⟨later, waits, onward.entry.trans twin.entry, onward.args.trans twin.args⟩

theorem bottom (reached : Reaches script entry machine state) :
    ∃ first, Program.start script entry machine = .running first ∧
      first.Stays script [] state := by
  induction reached with
  | start started => exact ⟨_, started, .refl⟩
  | step reached stepped ih =>
      obtain ⟨first, started, stays⟩ := ih
      exact ⟨first, started, stays.step (Nat.zero_le _) stepped⟩

theorem stands (reached : Reaches script entry machine state) :
    ∀ waiting ∈ state.suspended, waiting.Stands script machine.services := by
  induction reached with
  | start started => simp [(starts_of_running started).suspended]
  | @step state after reached stepped ih =>
      have below : ∀ waiting ∈ state.waiting, waiting.Stands script machine.services :=
        fun waiting member => ih waiting (state.waiting_suffix.subset member)
      intro waiting member
      cases reached.chained stepped with
      | same suspended frame => exact below waiting (suspended ▸ member)
      | pushed running suspended frame stands room =>
          rw [suspended] at member
          rw [reached.follows.services] at stands
          rcases List.mem_cons.mp member with rfl | member
          · exact stands ih
          · exact below waiting member

theorem bounded (reached : Reaches script entry machine state) :
    ∃ limit, machine.settings.maxDepth = some limit ∧ (state.depth : Int) ≤ limit := by
  induction reached with
  | @start state started =>
      have starts := starts_of_running started
      obtain ⟨limit, limited, positive⟩ := starts.room
      refine ⟨limit, starts.follows.settings ▸ limited, ?_⟩
      simp only [State.depth, starts.suspended, starts.whole, starts.alone, Floor.ground]
      exact positive
  | @step state after reached stepped ih =>
      have whole := (reached.step stepped).inPlace
      cases reached.chained stepped with
      | same suspended frame =>
          obtain ⟨limit, limited, deep⟩ := ih
          have shorter := state.waiting_suffix.length_le
          refine ⟨limit, limited, ?_⟩
          simp only [State.depth, reached.inPlace.whole, reached.inPlace.alone] at deep
          simp only [State.depth, whole.whole, whole.alone, suspended]
          omega
      | pushed running suspended frame stands room =>
          rwa [(reached.step stepped).follows.settings] at room

theorem parent (reached : Reaches script entry machine state) {upper lower : List Suspended}
    {waiting : Suspended} (split : state.suspended = upper ++ waiting :: lower) :
    ∃ origin entered, Reaches script entry machine origin ∧
      origin.Pushes script waiting entered ∧ origin.waiting = lower ∧
      entered.Stays script (waiting :: lower) state := by
  induction reached generalizing upper with
  | start started =>
      rw [(starts_of_running started).suspended] at split
      simp at split
  | @step state after reached stepped ih =>
      -- The frame was there before the step, which has left it alone.
      have older {above : List Suspended} (waits : state.waiting = above ++ waiting :: lower) :
          ∃ origin entered, Reaches script entry machine origin ∧
            origin.Pushes script waiting entered ∧ origin.waiting = lower ∧
            entered.Stays script (waiting :: lower) after := by
        obtain ⟨ended, before⟩ := state.waiting_suffix
        rw [waits, ← List.append_assoc] at before
        obtain ⟨origin, entered, known, pushes, below, stays⟩ := ih before.symm
        refine ⟨origin, entered, known, pushes, below, stays.step ?_ stepped⟩
        simp [waits]
      cases reached.chained stepped with
      | same suspended frame => exact older (suspended.symm.trans split)
      | @pushed other running suspended frame stands room =>
          rw [suspended] at split
          cases upper with
          | nil =>
              obtain ⟨rfl, rfl⟩ := List.cons.inj split
              exact ⟨state, after, reached, ⟨stepped, running, suspended, frame⟩, rfl, .refl⟩
          | cons first above => exact older (List.cons.inj split).2

theorem returns {origin entered : State} {waiting : Suspended}
    (reached : Reaches script entry machine origin) (pushes : origin.Pushes script waiting entered)
    (stays : entered.Stays script entered.suspended state)
    (level : state.suspended.length = entered.suspended.length) :
    state.suspended = entered.suspended ∧ entered.scope.frame.Twin state.scope.frame := by
  obtain ⟨above, split, twin⟩ :=
    (reached.step pushes.stepped).keeps (List.nil_append _).symm stays
  have empty : above = [] := by
    have length := congrArg List.length split
    rw [List.length_append] at length
    exact List.eq_nil_of_length_eq_zero (by omega)
  rw [empty] at split twin
  exact ⟨split, twin⟩

end Program.Reaches

/-! ## Main statement -/

/-- The frames that are active in a state of a program form a chain. -/
structure State.Disciplined (script : Script) (entry : String) (machine : Machine) (state : State) :
    Prop where
  /-- No frame of an earlier program is left. -/
  ground : state.scope.machine.frames = [] ∧ state.floor = .ground
  bounded : ∃ limit, machine.settings.maxDepth = some limit ∧
    (state.active.length : Int) ≤ max limit 0
  /-- The outermost frame is the one with which the program has started, when no frame waited. -/
  bottom : ∃ first, Program.start script entry machine = .running first ∧ first.suspended = [] ∧
    first.Stays script [] state ∧ state.active.head? = some ⟨state.outermost, false⟩ ∧
    state.outermost.entry = entry ∧ state.outermost.args = []
  /-- Every other frame was started by the one below it, which has waited for it since then. -/
  parents : ∀ upper waiting lower, state.suspended = upper ++ waiting :: lower →
    ∃ origin entered, Program.Reaches script entry machine origin ∧
      origin.Pushes script waiting entered ∧ origin.waiting = lower ∧
      entered.Stays script (waiting :: lower) state
  stands : ∀ waiting ∈ state.suspended, waiting.Stands script machine.services
  places : state.active.dropLast.map (fun activation => activation.frame.cursor) =
    (state.suspended.map Suspended.cursor).reverse

/-- How a program treats the frames that are active. -/
structure Program.StackDiscipline (script : Script) (entry : String) (machine : Machine) :
    Prop where
  reached : ∀ state, Reaches script entry machine state → state.Disciplined script entry machine
  /-- When a frame ends, the one that started it takes over, with the frames below it that were
  there when it was started. -/
  returned : ∀ origin waiting entered state signal, Reaches script entry machine origin →
    origin.Pushes script waiting entered → entered.Stays script entered.suspended state →
    state.control = .leaving signal → state.suspended.length = entered.suspended.length →
    state.suspended = entered.suspended ∧ state.waiting = origin.waiting ∧
      state.acting = waiting.frame state.scope.frame ∧
      entered.scope.frame.Twin state.scope.frame
  /-- A run that a fault ends leaves the frames that were active in its last step. -/
  aborted : ∀ first fuel fault last, start script entry machine = .running first →
    first.run script fuel = some (.failed fault, last) →
    ∃ run state, Program.run script entry machine fuel = some run ∧ run.left = last.active ∧
      Reaches script entry machine state ∧ state.step script = .stop (.failed fault) last ∧
      last.suspended = state.waiting ∧ state.acting.Onward script last.scope.frame
  finished : ∀ fuel run signal, Program.run script entry machine fuel = some run →
    run.result = .ok signal → run.left = []
  /-- The frames that a run leaves stay with the machine, and the next program, of whatever script,
  forgets them: it has no other frame below its own. -/
  restarts : ∀ fuel run, Program.run script entry machine fuel = some run →
    run.machine.frames = run.left ∧ ∀ other name,
      (∀ first, start other name run.machine = .running first →
        first.scope.machine.frames = [] ∧ first.suspended = [] ∧ first.depth = 1 ∧
          first.active = [⟨first.scope.frame, false⟩]) ∧
      ∀ early, start other name run.machine = .ended early →
        early.machine.frames = [] ∧ early.left = []

namespace Program

variable {script : Script} {entry : String} {machine : Machine} {state : State}

theorem Reaches.disciplined (reached : Reaches script entry machine state) :
    state.Disciplined script entry machine := by
  have whole := reached.inPlace.whole
  refine ⟨⟨reached.frames, reached.inPlace.alone⟩, ?_, ?_,
    fun upper waiting lower => reached.parent, reached.stands, state.cursors_active whole⟩
  · obtain ⟨limit, limited, deep⟩ := reached.bounded
    refine ⟨limit, limited, ?_⟩
    simp only [State.depth, whole, reached.inPlace.alone, Floor.ground, Bool.false_eq_true,
      if_false] at deep
    rw [state.length_active whole]
    omega
  · obtain ⟨first, started, stays⟩ := reached.bottom
    have starts := starts_of_running started
    obtain ⟨line, -, frame⟩ := starts.found
    obtain ⟨above, split, twin⟩ := (Reaches.start started).keeps (List.append_nil _).symm stays
    rw [List.append_nil] at split
    rw [starts.suspended, ← split, frame] at twin
    exact ⟨first, started, starts.suspended, stays, state.head_active whole, twin.entry, twin.args⟩

theorem left_of_signal {ending : Ending} {signal : Signal}
    (ended : (close ending state).result = .ok signal) : (close ending state).left = [] := by
  cases ending with
  | failed fault => cases ended
  | finished signal => exact left_closeSignal _ _ _

end Program

end LineScript

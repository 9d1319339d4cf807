import LineScript.Proofs.Block.Listing
import LineScript.Proofs.Events
import LineScript.Proofs.Footprint
import LineScript.Session

/-!
Frames move forward. The cursor of a frame is always at a line of the script with the text of this
line, and as long as a frame goes on, every line that it executes is below the one before it. No
jump is ever asked to lead back: neither one to the end of a block nor one to the end of a loop.
-/

namespace LineScript

open LineScript.Action

/-! ## Cursors -/

/-- The cursor is at a line of the script, or above the first one, and has the text of the line
unless it has come to the end of the script. -/
structure Cursor.Shows (script : Script) (cursor : Cursor) : Prop where
  inside : cursor.line ≤ script.lineCount
  text : cursor.text = script.line? cursor.line ∨
    cursor.text = none ∧ cursor.line = script.lineCount

namespace Cursor

variable {script : Script} {cursor : Cursor}

theorem shows_start : Cursor.start.Shows script :=
  ⟨Nat.zero_le _, .inl rfl⟩

theorem Shows.read (shows : cursor.Shows script) : (cursor.read script).Shows script := by
  unfold Cursor.read
  split
  · next below => exact ⟨below, .inl rfl⟩
  · next last => exact ⟨shows.inside, .inr ⟨rfl, by have := shows.inside; simp only; omega⟩⟩

theorem Shows.advance (shows : cursor.Shows script) (target : Nat) :
    (cursor.advance script target).Shows script := by
  unfold Cursor.advance
  split
  · exact shows
  · split
    · next bound => exact ⟨bound, .inl rfl⟩
    · have last := Nat.max_eq_right shows.inside
      exact ⟨Nat.le_of_eq last, .inr ⟨rfl, last⟩⟩

theorem shows_head (target : Nat) : (Cursor.start.advance script target).Shows script :=
  shows_start.advance target

theorem Shows.advanceTo {moved : Cursor} {target : Int} (shows : cursor.Shows script)
    (reached : cursor.advanceTo script target = .ok moved) : moved.Shows script := by
  unfold Cursor.advanceTo at reached
  split at reached <;> cases reached
  exact shows.advance _

theorem advanceTo_forward {target : Nat} (forward : cursor.line ≤ target) :
    cursor.advanceTo script target = .ok (cursor.advance script target) := by
  rw [advanceTo, if_neg (by omega), Int.toNat_natCast]

theorem line_advance_min (shows : cursor.Shows script) {target : Nat}
    (forward : cursor.line ≤ target) :
    (cursor.advance script target).line = min target script.lineCount := by
  have inside := shows.inside
  by_cases bound : target ≤ script.lineCount
  · rw [line_advance forward bound, Nat.min_eq_left bound]
  · rw [advance, if_neg (by omega), if_neg bound]
    simp only
    omega

theorem reposition_cases (script : Script) (cursor : Cursor) (target : Nat) :
    ∃ origin, (origin = .start ∨ origin = cursor ∧ cursor.line ≤ target) ∧
      cursor.reposition script (target + 1) = (origin.advance script target, none) := by
  have same : (target + 1 : Int) - 1 = target := by omega
  unfold reposition
  rw [same]
  by_cases back : (target : Int) < cursor.line
  · refine ⟨.start, .inl rfl, ?_⟩
    rw [if_pos back]
    dsimp only
    rw [advanceTo_forward (Nat.zero_le _)]
  · have forward : cursor.line ≤ target := by omega
    refine ⟨cursor, .inr ⟨rfl, forward⟩, ?_⟩
    rw [if_neg back]
    dsimp only
    rw [advanceTo_forward forward]

theorem Shows.reposition (shows : cursor.Shows script) (next : Int) :
    (cursor.reposition script next).1.Shows script := by
  have origin : (if next - 1 < cursor.line then start else cursor).Shows script := by
    split
    · exact shows_start
    · exact shows
  unfold Cursor.reposition
  dsimp only
  split
  · next moved reached => exact origin.advanceTo reached
  · exact origin

theorem reposition_line (shows : cursor.Shows script) (target : Nat) :
    (cursor.reposition script (target + 1)).2 = none ∧
      (cursor.reposition script (target + 1)).1.Shows script ∧
      (cursor.reposition script (target + 1)).1.line = min target script.lineCount := by
  obtain ⟨origin, known, moved⟩ := reposition_cases script cursor target
  rw [moved]
  rcases known with rfl | ⟨rfl, forward⟩
  · exact ⟨rfl, shows_start.advance target, line_advance_min shows_start (Nat.zero_le _)⟩
  · exact ⟨rfl, shows.advance target, line_advance_min shows forward⟩

theorem advance_read (inside : cursor.line ≤ script.lineCount)
    (read : cursor.text = script.line? cursor.line) {target : Nat}
    (forward : cursor.line ≤ target) :
    cursor.advance script target = Cursor.start.advance script target := by
  obtain ⟨line, text⟩ := cursor
  dsimp only at inside read forward
  subst read
  rcases Nat.eq_or_lt_of_le forward with rfl | below
  · have stays : advance script ⟨line, script.line? line⟩ line = ⟨line, script.line? line⟩ :=
      if_pos (Nat.le_refl line)
    rw [stays]
    rcases Nat.eq_zero_or_pos line with rfl | positive
    · rfl
    · exact (advance_forward positive inside).symm
  · have further : 0 < target := by omega
    simp only [advance, start, if_neg (Nat.not_le_of_lt below), if_neg (Nat.not_le_of_lt further),
      Nat.max_eq_right inside, Nat.zero_max]

theorem reposition_head (inside : cursor.line ≤ script.lineCount)
    (read : cursor.text = script.line? cursor.line) (target : Nat) :
    cursor.reposition script (target + 1) = (Cursor.start.advance script target, none) := by
  obtain ⟨origin, known, moved⟩ := reposition_cases script cursor target
  rw [moved]
  rcases known with rfl | ⟨rfl, forward⟩
  · rfl
  · rw [advance_read inside read forward]

end Cursor

/-! ## Actions that move -/

namespace Action

variable {α β : Type} {script : Script} {parts : List Part}

def Retreats (action : Action α) (scope : Scope) : Prop :=
  ∃ move after, action scope = .error (.exception (.backwardMove move)) after

def Shows (script : Script) (action : Action α) : Prop :=
  Respects (fun before after => before.frame.cursor.Shows script → after.frame.cursor.Shows script)
    action

theorem shows_alters {action : Action α} (alters : Alters parts action)
    (still : .cursor ∉ parts) : Shows script action := by
  intro scope shows
  have same : (lastScope (action scope)).frame.cursor = scope.frame.cursor :=
    (alters scope).others .cursor still
  exact same ▸ shows

theorem shows_bind {first : Action α} {next : α → Action β} (shows : Shows script first)
    (showsNext : ∀ value, Shows script (next value)) : Shows script (first >>= next) := by
  refine respects_bind ?_ shows showsNext
  exact fun _ _ _ early late shown => late (early shown)

end Action

namespace Effect

variable {script : Script} {scope : Scope}

theorem shows_jumpTo (target : Int) : Shows script (jumpTo script target) := by
  intro scope shows
  unfold jumpTo
  rw [get_bind]
  unfold Cursor.advanceTo
  by_cases back : target < scope.frame.cursor.line
  · rw [if_pos back]
    exact shows
  · rw [if_neg back]
    exact shows.advance _

theorem shows_jumpOut (opener : BlockMarker) (closer : String) (alternates : List String) :
    Shows script (jumpOut script opener closer alternates) := by
  intro scope shows
  cases found : script.blockEnd? scope.frame.cursor.line opener closer alternates with
  | some target =>
      rw [jumpOut_found found]
      exact shows.advance target
  | none =>
      rw [jumpOut_lost found]
      exact shows

theorem shows_openDefinition (script : Script) : Shows script (openDefinition script) := by
  intro scope shows
  unfold openDefinition
  rw [get_bind]
  cases script.entryLine? scope.frame.entry with
  | none => exact shows
  | some line =>
      exact shows_jumpTo line ⟨Directive.applyAbove scope.machine script line, scope.frame⟩ shows

theorem not_retreats_jumpTo {target : Nat} (forward : scope.frame.cursor.line ≤ target) :
    ¬ Retreats (jumpTo script target) scope := by
  rintro ⟨move, after, failed⟩
  rw [jumpTo_forward forward] at failed
  cases failed

theorem not_retreats_jumpOut {α : Type} (opener : BlockMarker) (closer : String)
    (alternates : List String) (value : α) :
    ¬ Retreats (do
      let _ ← jumpOut script opener closer alternates
      return value : Action α) scope := by
  rintro ⟨move, after, failed⟩
  cases found : script.blockEnd? scope.frame.cursor.line opener closer alternates with
  | some target =>
      rw [jumpOut_bind_found found] at failed
      cases failed
  | none =>
      rw [jumpOut_bind_lost found] at failed
      cases failed

theorem not_retreats_openDefinition (machine : Machine) (entry : String) (args : List String)
    (locals : Locals) :
    ¬ Retreats (openDefinition script) ⟨machine, ⟨entry, args, locals, .start⟩⟩ := by
  rintro ⟨move, after, failed⟩
  unfold openDefinition at failed
  rw [get_bind] at failed
  dsimp only at failed
  cases found : script.entryLine? entry with
  | none =>
      rw [found] at failed
      cases failed
  | some line =>
      rw [found] at failed
      change jumpTo script line ⟨Directive.applyAbove machine script line,
        ⟨entry, args, locals, .start⟩⟩ = _ at failed
      rw [jumpTo_forward (Nat.zero_le _)] at failed
      cases failed

end Effect

theorem Instruction.not_retreats_perform {instruction : Instruction} {script : Script}
    {inBody : Bool} {number : Nat} {pieces : List Piece} {args : List String} {scope : Scope}
    (jump : instruction.isJump = true) :
    ¬ Retreats (instruction.perform script inBody number pieces args) scope := by
  rintro ⟨move, after, failed⟩
  rcases perform_jump_cases jump with ⟨cursor, -, moved⟩ | lost
  · cases moved.symm.trans failed
  · cases lost.symm.trans failed

theorem Meaning.shows_perform {meaning : Meaning} {script : Script} {inBody : Bool} {number : Nat}
    {pieces : List Piece} {args : List String} :
    Shows script (meaning.perform script inBody number pieces args) := by
  cases meaning with
  | added behavior =>
      exact shows_alters (Effect.alters_extend behavior args) (by simp [Part.extension])
  | builtin instruction =>
      by_cases jump : instruction.isJump = true
      · intro scope shows
        change (lastScope
          (instruction.perform script inBody number pieces args scope)).frame.cursor.Shows script
        rcases Instruction.perform_jump jump with stays | ⟨alternates, jumps⟩
        · rw [stays]
          exact shows
        · rw [jumps]
          exact shows_bind (Effect.shows_jumpOut _ _ _) (fun _ _ => id) scope shows
      · refine shows_alters Instruction.alters_perform ?_
        cases instruction <;> first | exact absurd rfl jump | simp [Instruction.parts]

/-! ## Steps -/

theorem InlineLoop.shows_exit (script : Script) (loop : InlineLoop) (endLine : Option Nat) :
    Shows script (loop.exit script endLine) := by
  cases endLine with
  | some line => exact Effect.shows_jumpTo line
  | none => exact shows_bind (Effect.shows_jumpOut _ _ _) fun _ _ => id

structure State.Shown (script : Script) (state : State) : Prop where
  innermost : state.scope.frame.cursor.Shows script
  waiting : ∀ waiting ∈ state.suspended, waiting.cursor.Shows script

def Step.Shown (script : Script) (step : Step) : Prop :=
  step.state.Shown script

namespace State

variable {script : Script} {now state : State}

theorem Shown.inScope {scope : Scope} (shown : now.Shown script)
    (shows : scope.frame.cursor.Shows script) : State.Shown script { now with scope } :=
  ⟨shows, shown.waiting⟩

theorem Shown.ok {α : Type} {action : Action α} {value : α} {scope : Scope}
    (shown : now.Shown script) (shows : Shows script action)
    (result : action now.scope = .ok value scope) : State.Shown script { now with scope } :=
  shown.inScope (Respects.ok shows result shown.innermost)

theorem Shown.error {α : Type} {action : Action α} {fault : Fault} {scope : Scope}
    (shown : now.Shown script) (shows : Shows script action)
    (result : action now.scope = .error fault scope) : State.Shown script { now with scope } :=
  shown.inScope (Respects.error shows result shown.innermost)

theorem shown_enter (shown : now.Shown script) {frame : Frame} {waiting : Suspended}
    (shows : frame.cursor.Shows script) (waits : waiting.cursor.Shows script) :
    (now.enter frame waiting).Shown script := by
  unfold enter
  split
  · exact ⟨shown.innermost, shown.waiting⟩
  · exact ⟨shows, List.forall_mem_cons.mpr ⟨waits, shown.waiting⟩⟩

theorem shown_call (shown : now.Shown script) (keyword entry : String) (args : List String) :
    (now.call script keyword entry args).Shown script := by
  unfold call
  split
  · exact ⟨shown.innermost, shown.waiting⟩
  · exact shown_enter shown (Cursor.shows_head _) shown.innermost

theorem shown_startPass (shown : now.Shown script) (loop : ExternalLoop) :
    (now.startPass script loop).Shown script := by
  unfold startPass
  split
  · exact ⟨shown.innermost, shown.waiting⟩
  · exact shown_enter shown (Cursor.shows_head _) shown.innermost

theorem shown_instructionFault (shown : now.Shown script) (name : String) (code : Code)
    (fault : Fault) : (now.instructionFault name code fault).Shown script := by
  cases fault <;> exact ⟨shown.innermost, shown.waiting⟩

theorem shown_lineFault (shown : now.Shown script) (fault : Fault) :
    (now.lineFault fault).Shown script := by
  cases fault with
  | exception exception =>
      unfold lineFault
      dsimp only
      split <;> exact ⟨shown.innermost, shown.waiting⟩
  | _ => exact ⟨shown.innermost, shown.waiting⟩

theorem shown_continueExternal (shown : now.Shown script) (loop : ExternalLoop) :
    (now.continueExternal script loop).Shown script := by
  unfold continueExternal
  split
  · exact shown
  · exact shown_startPass shown _
  · next header _ =>
      have shows : Shows script (loop.kind.condition true header) :=
        shows_alters (LoopKind.alters_condition true header) (by simp)
      split
      · next scope checked => exact shown_startPass (shown.ok shows checked) loop
      · next scope checked => exact shown.ok shows checked
      · next fault scope failed => exact shown_instructionFault (shown.error shows failed) _ _ _

theorem shown_leaveLoop (shown : now.Shown script) (loop : InlineLoop) (endLine : Option Nat) :
    (now.leaveLoop script loop endLine).Shown script := by
  have shows := loop.shows_exit script endLine
  rw [leaveLoop_eq]
  split
  · next scope moved => exact shown.ok shows moved
  · next fault scope failed => exact shown_instructionFault (shown.error shows failed) _ _ _

theorem shown_startBody (shown : now.Shown script) (loop : InlineLoop) :
    (now.startBody script loop).Shown script :=
  shown_enter shown (Cursor.shows_head _) shown.innermost

theorem shown_continueInline (shown : now.Shown script) (loop : InlineLoop) :
    (now.continueInline script loop).Shown script := by
  unfold continueInline
  split
  · exact shown_leaveLoop shown loop _
  · exact shown_startBody shown _
  · next header _ =>
      have shows : Shows script (loop.kind.condition false header) :=
        shows_alters (LoopKind.alters_condition false header) (by simp)
      split
      · next scope checked => exact shown_startBody (shown.ok shows checked) loop
      · next scope checked => exact shown_leaveLoop (shown.ok shows checked) loop _
      · next fault scope failed => exact shown_instructionFault (shown.error shows failed) _ _ _

theorem shown_openInline (shown : now.Shown script) (loop : InlineLoop) (entered : Bool) :
    (now.openInline script loop entered).Shown script := by
  unfold openInline
  dsimp only
  split
  · exact ⟨shown.innermost, shown.waiting⟩
  · split
    · exact shown_startBody shown loop
    · exact shown_continueInline shown loop

theorem shown_follow (shown : now.Shown script) (keyword : String) (flow : Flow) :
    (now.follow script keyword flow).Shown script := by
  cases flow with
  | next => exact shown
  | leave signal => exact ⟨shown.innermost, shown.waiting⟩
  | call entry args => exact shown_call shown keyword entry args
  | external loop entered =>
      unfold follow
      dsimp only
      split
      · exact shown_startPass shown loop
      · exact shown_continueExternal shown loop
  | inline loop entered => exact shown_openInline shown loop entered

theorem shown_execute (shown : now.Shown script) (line : Line) :
    (now.execute script line).Shown script := by
  have reads : Shows script (Reference.resolveAll (piecesOf line.tokens)) :=
    shows_alters (Reference.alters_resolveAll _) (by simp)
  cases now.execution script line with
  | unlimited unset execute =>
      rw [execute]
      exact shown_lineFault shown _
  | excess limited execute =>
      rw [execute]
      exact ⟨shown.innermost, shown.waiting⟩
  | unread allowed resolved execute =>
      rw [execute]
      exact shown_lineFault (shown.error reads resolved) _
  | unnamed allowed resolved tokens execute =>
      rw [execute]
      exact shown_lineFault (shown.ok reads resolved) _
  | unknown allowed resolved unknown execute =>
      rw [execute]
      exact ⟨(shown.ok reads resolved).innermost, shown.waiting⟩
  | unsupplied allowed resolved found refused execute =>
      rw [execute]
      exact ⟨(shown.ok reads resolved).innermost, shown.waiting⟩
  | performs met performed execute =>
      rw [execute]
      exact shown_follow ((shown.ok reads met.resolved).ok Meaning.shows_perform performed) _ _
  | fails met performed execute =>
      rw [execute]
      exact shown_instructionFault
        ((shown.ok reads met.resolved).error Meaning.shows_perform performed) _ _ _

theorem Shown.same {later : State} (shown : now.Shown script) (same : now.Same later) :
    later.Shown script :=
  ⟨same.frame ▸ shown.innermost, same.suspended ▸ shown.waiting⟩

theorem shown_advance (shown : state.Shown script) : (state.advance script).Shown script := by
  have read : (state.moveTo (state.scope.frame.cursor.read script)).Shown script :=
    ⟨shown.innermost.read, shown.waiting⟩
  cases state.advances script with
  | ends last advance =>
      rw [advance]
      rw [read_end last] at read
      exact ⟨read.innermost, read.waiting⟩
  | skips found other advance =>
      rw [advance]
      rwa [read_line found] at read
  | directs found other filled directive advance =>
      rw [advance]
      rw [read_line found] at read
      exact ⟨read.innermost, read.waiting⟩
  | @executes text found executed =>
      rw [read_line found] at read
      have told : (state.told text).Shown script := Shown.same read (state.same_told text)
      cases heard : (state.announced text).2 with
      | some fault =>
          rw [advance_refused found executed heard]
          exact told
      | none =>
          rw [advance_told found executed heard]
          exact shown_execute told _

theorem shown_afterPass (shown : now.Shown script) (loop : ExternalLoop) (signal : Signal) :
    (now.afterPass script loop signal).Shown script := by
  have reported : (now.report .info "Continue statement" .loop).Shown script :=
    ⟨shown.innermost, shown.waiting⟩
  unfold afterPass
  split
  · exact ⟨shown.innermost, shown.waiting⟩
  · exact shown_continueExternal reported loop
  · exact shown_continueExternal shown loop

theorem shown_afterBody (shown : now.Shown script) (loop : InlineLoop) (signal : Signal) :
    (now.afterBody script loop signal).Shown script := by
  have kept (text : String) (value : String) :
      ((now.report .info text .loop).keepReturned value).Shown script :=
    ⟨shown.innermost, shown.waiting⟩
  have resumed (value : String) : (now.keepReturned value).Shown script :=
    ⟨shown.innermost, shown.waiting⟩
  cases signal with
  | resume line value => exact shown_continueInline (resumed value) _
  | continued value => exact shown_continueInline (kept _ value) loop
  | returned value => exact ⟨shown.innermost, shown.waiting⟩
  | broken value => exact shown_leaveLoop (kept _ value) loop none

theorem shown_step (shown : state.Shown script) : (state.step script).Shown script := by
  cases state.steps script with
  | rests running alone steps =>
      rw [steps]
      exact shown
  | advances running steps =>
      rw [steps]
      exact shown_advance shown
  | @leaves signal leaving steps =>
      rw [steps]
      cases waits : state.suspended with
      | nil =>
          rw [handOver_alone waits]
          exact shown
      | cons waiting rest =>
          obtain ⟨here, below⟩ := List.forall_mem_cons.mp (waits ▸ shown.waiting)
          have taken : (state.below waiting rest).Shown script :=
            ⟨(waiting.cursor_frame state.scope.frame) ▸ here, below⟩
          have kept (value : String) :
              ((state.below waiting rest).keepReturned value).Shown script :=
            ⟨taken.innermost, taken.waiting⟩
          match waiting with
          | .caller frame (.call keyword) =>
              rw [handOver_call waits]
              exact kept _
          | .caller frame (.pass loop) =>
              rw [handOver_pass waits]
              exact shown_afterPass (kept _) loop signal
          | .owner cursor loop =>
              rw [handOver_body waits]
              exact shown_afterBody taken loop signal

/-! ## The lines that a frame executes -/

/-- The frame that is innermost in the one state has executed lines with these numbers, the last one
first, while the frames below it have waited. -/
inductive Executed (script : Script) (entered : State) : List Nat → State → Prop where
  | refl : Executed script entered [] entered
  | line {numbers : List Nat} {state after : State} {line : Line}
      (early : Executed script entered numbers state)
      (level : state.suspended = entered.suspended) (next : state.nextLine? script = some line)
      (stepped : state.step script = .next after) :
      Executed script entered (line.number :: numbers) after
  | other {numbers : List Nat} {state after : State}
      (early : Executed script entered numbers state)
      (room : entered.suspended.length ≤ state.waiting.length)
      (elsewhere : state.suspended = entered.suspended → state.nextLine? script = none)
      (stepped : state.step script = .next after) : Executed script entered numbers after

variable {entered after : State} {numbers : List Nat}

theorem Stays.executed (stays : entered.Stays script entered.suspended state) :
    ∃ numbers, entered.Executed script numbers state := by
  induction stays with
  | refl => exact ⟨[], .refl⟩
  | @step state after stays room stepped ih =>
      obtain ⟨numbers, early⟩ := ih
      by_cases level : state.suspended = entered.suspended
      · cases next : state.nextLine? script with
        | some line => exact ⟨_, early.line level next stepped⟩
        | none => exact ⟨numbers, early.other room (fun _ => next) stepped⟩
      · exact ⟨numbers, early.other room (fun same => absurd same level) stepped⟩

theorem chained_step (whole : state.oneLine = false) (stepped : state.step script = .next after) :
    Chained script state after ∧ after.oneLine = false := by
  have transits := transits_step script whole
  rw [stepped] at transits
  exact ⟨transits.2.chained, transits.1.oneLine.trans whole⟩

theorem under_line {line : Line} (whole : state.oneLine = false)
    (next : state.nextLine? script = some line) (stepped : state.step script = .next after) :
    ∃ above, after.suspended = above ++ state.suspended ∧
      line.number ≤ (after.scope.frame.under above).cursor.line := by
  obtain ⟨running, text, rfl, found, executed⟩ := isInstruction_of_nextLine? next
  have goes := goes_instruction running found executed
  rw [← step_running running whole, stepped] at goes
  cases goes.2 with
  | stays control same frame => exact ⟨[], same, frame.forward⟩
  | leaves control known same frame => exact ⟨[], same, frame.forward⟩
  | @enters waiting control known pushed frame starts room =>
      exact ⟨[waiting], pushed, frame.forward⟩

theorem lt_of_nextLine? {line : Line} {above kept : List Suspended} {number : Nat}
    (next : state.nextLine? script = some line) (level : state.suspended = kept)
    (split : state.suspended = above ++ kept)
    (behind : number ≤ (state.scope.frame.under above).cursor.line) : number < line.number := by
  have empty : above = [] := by
    rw [level] at split
    exact List.self_eq_append_left.mp split
  subst empty
  obtain ⟨-, text, rfl, -⟩ := isInstruction_of_nextLine? next
  exact Nat.lt_succ_of_le behind

/-- The lines that have been executed are in order, and the frame has not moved back since. -/
theorem Executed.holds (executed : entered.Executed script numbers state)
    (whole : entered.oneLine = false) : state.oneLine = false ∧
      (numbers ++ [entered.scope.frame.cursor.line]).Pairwise (· > ·) ∧
      ∃ above, state.suspended = above ++ entered.suspended ∧
        ∀ number ∈ numbers ++ [entered.scope.frame.cursor.line],
          number ≤ (state.scope.frame.under above).cursor.line := by
  induction executed with
  | refl => exact ⟨whole, List.pairwise_singleton _ _, [], rfl, by simp [Frame.under]⟩
  | @line numbers state after line early level next stepped ih =>
      obtain ⟨wholeState, ordered, above, split, behind⟩ := ih
      obtain ⟨further, pushed, reached⟩ := under_line wholeState next stepped
      have below : ∀ number ∈ numbers ++ [entered.scope.frame.cursor.line],
          number < line.number :=
        fun number member => lt_of_nextLine? next level split (behind number member)
      refine ⟨(chained_step wholeState stepped).2, List.pairwise_cons.mpr ⟨below, ordered⟩,
        further, level ▸ pushed, List.forall_mem_cons.mpr ⟨reached, fun number member => ?_⟩⟩
      exact Nat.le_trans (Nat.le_of_lt (below number member)) reached
  | @other numbers state after early room elsewhere stepped ih =>
      obtain ⟨wholeState, ordered, above, split, behind⟩ := ih
      obtain ⟨chained, wholeAfter⟩ := chained_step wholeState stepped
      obtain ⟨further, pushed, onward⟩ := chained.under split room
      exact ⟨wholeAfter, ordered, further, pushed,
        fun number member => Nat.le_trans (behind number member) onward.forward⟩

theorem Executed.next (executed : entered.Executed script numbers state)
    (whole : entered.oneLine = false) (level : state.suspended = entered.suspended) {line : Line}
    (next : state.nextLine? script = some line) :
    (line.number :: numbers ++ [entered.scope.frame.cursor.line]).Pairwise (· > ·) := by
  obtain ⟨-, ordered, above, split, behind⟩ := executed.holds whole
  exact List.pairwise_cons.mpr
    ⟨fun number member => lt_of_nextLine? next level split (behind number member), ordered⟩

end State

/-! ## Frames that are worked with step by step -/

theorem State.Shown.activations {script : Script} {state : State} (shown : state.Shown script) :
    ∀ activation ∈ activationsFrom state.scope.frame state.suspended,
      activation.frame.cursor.Shows script := by
  obtain ⟨here, below⟩ := shown
  generalize state.scope.frame = frame at here
  generalize state.suspended = suspended at below
  induction suspended generalizing frame with
  | nil =>
      intro activation member
      rw [List.mem_singleton.mp member]
      exact here
  | cons waiting rest ih =>
      obtain ⟨next, later⟩ := List.forall_mem_cons.mp below
      refine List.forall_mem_cons.mpr ⟨here, ih _ ?_ later⟩
      rwa [waiting.cursor_frame]

theorem State.Shown.active {script : Script} {state : State} (shown : state.Shown script) :
    ∀ activation ∈ state.active, activation.frame.cursor.Shows script := by
  intro activation member
  refine shown.activations activation (List.mem_reverse.mp ?_)
  unfold State.active at member
  split at member
  · exact List.mem_of_mem_drop member
  · exact member

theorem State.Shown.outermost {script : Script} {state : State} (shown : state.Shown script) :
    state.outermost.cursor.Shows script :=
  shown.activations _ (List.mem_of_getLast? (getLast_activationsFrom _ _))

theorem State.shown_run {script : Script} {fuel : Nat} {state last : State} {ending : Ending}
    (shown : state.Shown script) (ran : state.run script fuel = some (ending, last)) :
    last.Shown script := by
  induction fuel generalizing state with
  | zero => cases ran
  | succ fuel ih =>
      have stepped := State.shown_step shown
      rw [State.run] at ran
      cases step : state.step script with
      | next after =>
          rw [step] at ran stepped
          exact ih stepped ran
      | stop other final =>
          rw [step] at ran stepped
          cases ran
          exact stepped

namespace Session

variable {script : Script} {session after : Session}

def Shown (script : Script) (session : Session) : Prop :=
  session.scope.frame.cursor.Shows script

theorem shown_perform {α : Type} {action : Action α} (shown : session.Shown script)
    (shows : Shows script action) : (session.perform action).2.Shown script := by
  have here := shows session.scope shown
  unfold perform
  split <;> next done =>
    rw [done] at here
    exact here

theorem shown_absorb {ending : Ending} {state : State} (shown : state.Shown script) :
    (session.absorb ending state).2.Shown script := by
  cases ending <;> exact shown.outermost

theorem shown_openFrame (shown : session.Shown script) :
    (session.openFrame script).2.Shown script := by
  have opened := shown_perform shown (Effect.shows_openDefinition script)
  unfold openFrame
  split <;> next done =>
    rw [done] at opened
    exact opened

theorem shows_reposition (next : Int) : Shows script (reposition script next) := by
  intro scope shows
  have moved := shows.reposition next
  unfold reposition
  rw [get_bind]
  generalize scope.frame.cursor.reposition script next = answer at moved ⊢
  obtain ⟨cursor, fault⟩ := answer
  cases fault <;> exact moved

theorem shown_ran {fuel : Nat} {state : State} {result : Except Fault (Option Signal)}
    {finish : Ending × State → Except Fault (Option Signal) × Session} (shown : state.Shown script)
    (ran : (state.run script fuel).map finish = some (result, after))
    (finishes : ∀ ending last, last.Shown script → (finish (ending, last)).2.Shown script) :
    after.Shown script := by
  obtain ⟨⟨ending, last⟩, ran, same⟩ := Option.map_eq_some_iff.mp ran
  have ended := finishes ending last (State.shown_run shown ran)
  rwa [same] at ended

theorem shown_finish (session : Session) (phase : Option Signal → Phase) {ending : Ending}
    {last : State} (shown : last.Shown script) :
    (match session.absorb ending last with
      | (Except.ok signal, session) => (Except.ok signal, { session with phase := phase signal })
      | (Except.error fault, session) => (Except.error fault, session)).2.Shown script := by
  have absorbed : (session.absorb ending last).2.Shown script := shown_absorb shown
  generalize session.absorb ending last = answer at absorbed ⊢
  obtain ⟨fault | signal, kept⟩ := answer <;> exact absorbed

theorem shown_runOpen {fuel : Nat} {next : Option Int} {result : Except Fault (Option Signal)}
    (shown : session.Shown script)
    (ran : session.runOpen script fuel next = some (result, after)) : after.Shown script := by
  unfold runOpen at ran
  split at ran
  · cases ran
    exact shown
  cases next with
  | none =>
      have ready : State.Shown script ⟨session.scope, [], .running, session.floor, false⟩ :=
        ⟨shown, by simp⟩
      exact shown_ran ready ran fun ending last ended => shown_finish _ _ ended
  | some next =>
      have moved := shown_perform shown (shows_reposition next)
      dsimp only at ran
      generalize session.perform (reposition script next) = answer at moved ran
      obtain ⟨fault | _, placed⟩ := answer
      · cases ran
        exact moved
      · have ready : State.Shown script ⟨placed.scope, [], .running, session.floor, false⟩ :=
          ⟨moved, by simp⟩
        exact shown_ran ready ran fun ending last ended => shown_finish _ _ ended

theorem shown_run {fuel : Nat} {next : Option Int} {result : Except Fault (Option Signal)}
    (shown : session.Shown script) (ran : session.run script fuel next = some (result, after)) :
    after.Shown script := by
  unfold run at ran
  split at ran
  · have opened := shown_openFrame shown
    generalize session.openFrame script = answer at opened ran
    obtain ⟨fault | _, ready⟩ := answer
    · cases ran
      exact opened
    · exact shown_runOpen opened ran
  · exact shown_runOpen shown ran

theorem shown_execute {fuel : Nat} {text : String} {result : Except Fault (Option Signal)}
    (shown : session.Shown script) (ran : session.execute script fuel text = some (result, after)) :
    after.Shown script := by
  have begun : State.Shown script ⟨session.scope, [], .running, session.floor, true⟩ :=
    ⟨shown, by simp⟩
  have executed := State.shown_execute begun (.ofText session.scope.frame.cursor.line text)
  unfold execute at ran
  dsimp only at ran
  split at ran
  · next ending last stopped =>
      rw [stopped] at executed
      have absorbed : (session.absorb ending last).2.Shown script := shown_absorb executed
      rwa [Option.some.inj ran] at absorbed
  · next now stepped =>
      rw [stepped] at executed
      exact shown_ran executed ran fun ending last ended => shown_absorb ended

end Session

/-! ## Where a frame begins -/

theorem Outcome.starts {script : Script} {fresh : Suspended → Prop} {exits : Signal → Prop}
    {now after : State} {waiting : Suspended} (outcome : Outcome script fresh exits now after)
    (pushed : after.suspended = waiting :: now.suspended) :
    waiting.Starts script after.scope.frame := by
  have longer {P : Prop} (same : after.suspended = now.suspended) : P := by
    have length := congrArg List.length (pushed.symm.trans same)
    simp at length
  cases outcome with
  | stays control same frame => exact longer same
  | leaves control known same frame => exact longer same
  | enters control known other frame starts room =>
      cases pushed.symm.trans other
      exact starts

theorem State.Pushes.starts {script : Script} {entry : String} {machine : Machine}
    {origin entered : State} {waiting : Suspended} (pushes : origin.Pushes script waiting entered)
    (reached : Program.Reaches script entry machine origin) :
    waiting.Starts script entered.scope.frame := by
  have pushed := pushes.pushed
  cases (reached.transition pushes.stepped).2 with
  | reads running ready same frame below outcome =>
      rw [State.waiting, running, ← same] at pushed
      exact outcome.starts pushed
  | finishes running control same frame =>
      rw [State.waiting, running, same] at pushed
      have length := congrArg List.length pushed
      simp at length
  | returns leaving waits ready frame outcome =>
      rw [State.waiting, leaving, waits] at pushed
      exact outcome.starts pushed

theorem Script.line_definitionFrame {script : Script} {entry : String} {line : Nat}
    (found : script.entryLine? entry = some line) (args : List String) :
    (State.definitionFrame script entry args line).cursor.line = line :=
  Cursor.line_advance (Nat.zero_le _) (Script.entryLine?_bounds found).2

namespace Program

variable {script : Script} {entry : String} {machine : Machine} {state : State}

theorem Reaches.shown (reached : Reaches script entry machine state) : state.Shown script := by
  induction reached with
  | start started =>
      have starts := starts_of_running started
      obtain ⟨line, -, frame⟩ := starts.found
      exact ⟨frame ▸ Cursor.shows_head line, by simp [starts.suspended]⟩
  | step reached stepped shown =>
      have after := State.shown_step shown
      rwa [stepped] at after

end Program

namespace Program

/-- How the frames of a program move over the lines of its script. -/
structure Forward (script : Script) (entry : String) (machine : Machine) : Prop where
  /-- The cursor of every frame is at a line of the script and has its text. -/
  shown : ∀ state, Reaches script entry machine state →
    ∀ activation ∈ state.active, activation.frame.cursor.Shows script
  stopped : ∀ state ending last, Reaches script entry machine state →
    state.step script = .stop ending last →
    ∀ activation ∈ last.active, activation.frame.cursor.Shows script
  worked : ∀ (session after : Session) fuel result, session.Shown script →
    (∀ next, session.run script fuel next = some (result, after) → after.Shown script) ∧
      ∀ text, session.execute script fuel text = some (result, after) → after.Shown script
  /-- The program, and every frame that is called, begins after the line of its definition. -/
  begins : ∀ first, start script entry machine = .running first →
    script.entryLine? entry = some first.scope.frame.cursor.line
  called : ∀ origin frame wait entered, Reaches script entry machine origin →
    origin.Pushes script (.caller frame wait) entered →
    script.entryLine? entered.scope.frame.entry = some entered.scope.frame.cursor.line
  /-- Every pass of a loop begins after the header, to which the body has been put back from
  wherever the pass before it has left it. -/
  looped : ∀ origin cursor loop entered, Reaches script entry machine origin →
    origin.Pushes script (.owner cursor loop) entered →
    entered.scope.frame.cursor.line = loop.header ∧ loop.header = cursor.line ∧
      ∀ body : Cursor, body.line ≤ script.lineCount → body.text = script.line? body.line →
        body.reposition script (loop.header + 1) = (entered.scope.frame.cursor, none)
  /-- Until it ends, a frame executes lines in order, all of them below its beginning. -/
  recorded : ∀ entered state : State, entered.Stays script entered.suspended state →
    ∃ numbers, entered.Executed script numbers state
  ordered : ∀ (entered state : State) numbers, entered.oneLine = false →
    entered.Executed script numbers state →
    (numbers ++ [entered.scope.frame.cursor.line]).Pairwise (· > ·)
  next : ∀ (entered state : State) numbers line, entered.oneLine = false →
    entered.Executed script numbers state → state.suspended = entered.suspended →
    state.nextLine? script = some line →
    (line.number :: numbers ++ [entered.scope.frame.cursor.line]).Pairwise (· > ·)
  /-- Nothing asks a cursor to move back: the two branches of a condition do not, -/
  branches : ∀ scope inBody number pieces args,
    ¬ Retreats (Instruction.ifBlock.perform script inBody number pieces args) scope ∧
      ¬ Retreats (Instruction.elseBlock.perform script inBody number pieces args) scope
  /-- nor the end of a loop, whether it has no pass at all, is broken off, or ends after a pass that
  has come to the end marker, -/
  opened : ∀ (meaning : Meaning) inBody number pieces args scope after loop entered,
    meaning.Supplied args →
    meaning.perform script inBody number pieces args scope = .ok (.inline loop entered) after →
    ∀ scope, ¬ Retreats (loop.exit script loop.endLine) scope
  broken : ∀ (loop : InlineLoop) scope, ¬ Retreats (loop.exit script none) scope
  exits : ∀ state signal cursor loop rest, Reaches script entry machine state →
    state.control = .leaving signal → state.suspended = .owner cursor loop :: rest →
    ∀ scope : Scope, scope.frame.cursor = cursor →
      ¬ Retreats (loop.exit script (loop.after signal).endLine) scope
  repositions : ∀ (cursor : Cursor) (target : Nat), cursor.Shows script →
    (cursor.reposition script (target + 1)).2 = none ∧
      (cursor.reposition script (target + 1)).1.line = min target script.lineCount
  opens : ∀ scope : Scope, scope.frame.cursor = .start →
    ¬ Retreats (Effect.openDefinition script) scope

/-- The frames of a program only move forward, whatever the script and the extensions. -/
theorem moves_forward (script : Script) (entry : String) (machine : Machine) :
    Forward script entry machine where
  shown state reached := reached.shown.active
  stopped state ending last reached stopped := by
    have shown := State.shown_step reached.shown
    rw [stopped] at shown
    exact State.Shown.active shown
  worked session after fuel result shown := ⟨fun next => Session.shown_run shown,
    fun text => Session.shown_execute shown⟩
  begins first started := by
    obtain ⟨line, found, frame⟩ := (starts_of_running started).found
    rw [frame, Script.line_definitionFrame found, found]
  called origin frame wait entered reached pushes := by
    obtain ⟨name, args, line, found, here⟩ := pushes.starts reached
    rw [here, Script.line_definitionFrame found]
    exact found
  looped origin cursor loop entered reached pushes := by
    have starts : entered.scope.frame.cursor = Cursor.start.advance script loop.header :=
      pushes.starts reached
    have grounded := (reached.step pushes.stepped).inPlace.grounded
    rw [pushes.pushed] at grounded
    -- The header is the line at which the owner of the loop stands.
    obtain ⟨-, ⟨header, -⟩, below⟩ := grounded
    have inside : cursor.line ≤ script.lineCount := below.proper.inside
    refine ⟨?_, header, fun body within read => ?_⟩
    · rw [starts, Cursor.line_advance (Nat.zero_le _) (header ▸ inside)]
    · rw [starts, Cursor.reposition_head within read]
  recorded entered state stays := stays.executed
  ordered entered state numbers whole executed := (executed.holds whole).2.1
  next entered state numbers line whole executed level next := executed.next whole level next
  branches scope inBody number pieces args :=
    ⟨Instruction.not_retreats_perform rfl, Instruction.not_retreats_perform rfl⟩
  opened meaning inBody number pieces args scope after loop entered supplied performed other := by
    have asks := (Meaning.perform_ok supplied performed).1
    cases asks
    exact Effect.not_retreats_jumpOut _ _ _ _
  broken loop scope := Effect.not_retreats_jumpOut _ _ _ _
  exits state signal cursor loop rest reached leaving waits scope here := by
    have ends := reached.inPlace.ends leaving waits
    cases known : (loop.after signal).endLine with
    | none => exact Effect.not_retreats_jumpOut _ _ _ _
    | some line =>
        refine Effect.not_retreats_jumpTo ?_
        rw [here]
        exact Nat.le_of_lt (ends line known).1
  repositions cursor target shows :=
    ⟨(Cursor.reposition_line shows target).1, (Cursor.reposition_line shows target).2.2⟩
  opens scope above := by
    obtain ⟨machine, entry, args, locals, cursor⟩ := scope
    cases above
    exact Effect.not_retreats_openDefinition machine entry args locals

example :
    (executed (.ofLines "" ["DEF main", "FOR 2", "PRINT a", "ENDF", "RET", "ENDDEF"]) "main"
      .plainExample 20).map (·.number) = [2, 3, 4, 3, 4, 5] := by
  decide +kernel

end Program

end LineScript

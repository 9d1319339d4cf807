import LineScript.Proofs.Program
import Mathlib.Data.DFinsupp.WellFounded

/-!
Every run ends in a script whose loops all count their passes. For each active frame, from the
outermost one inwards, the lines below it and then the passes to come are compared: a step lowers
the rank of one frame and keeps those of the frames outside it. How many frames there are is bounded
by the limit on nesting.
-/

namespace LineScript

/-! ## Ranks -/

def Lowered (after before : List (Nat × Nat)) : Prop :=
  ∃ shared lower upper restAfter restBefore,
    after = shared ++ lower :: restAfter ∧ before = shared ++ upper :: restBefore ∧
      Prod.Lex (· < ·) (· < ·) lower upper

theorem wellFounded_lowered (bound : Nat) :
    WellFounded fun after before => Lowered after before ∧ before.length ≤ bound := by
  let entry (ranks : List (Nat × Nat)) (place : Fin bound) : Nat × Nat := ranks.getD place (0, 0)
  have ordered : WellFounded (Pi.Lex (· < ·)
      fun {_ : Fin bound} => Prod.Lex (· < · : Nat → Nat → Prop) (· < · : Nat → Nat → Prop)) :=
    Pi.Lex.wellFounded _ fun _ => WellFounded.prod_lex Nat.lt_wfRel.wf Nat.lt_wfRel.wf
  refine Subrelation.wf ?_ (InvImage.wf entry ordered)
  rintro after before ⟨⟨shared, lower, upper, restAfter, restBefore, rfl, rfl, less⟩, short⟩
  have inside : shared.length < bound := by
    simp only [List.length_append, List.length_cons] at short
    omega
  refine ⟨⟨shared.length, inside⟩, fun place earlier => ?_, ?_⟩
  · have within : place.val < shared.length := earlier
    simp [entry, List.getElem?_append_left within]
  · simpa [entry] using less

def LoopPlan.passes : LoopPlan → Nat
  | count left => left
  | condition _ => 0

def LoopPlan.Counted (plan : LoopPlan) : Prop :=
  ∃ left, plan = .count left

namespace Suspended

def line : Suspended → Nat
  | caller frame _ => frame.cursor.line
  | owner cursor _ => cursor.line

def burden : Suspended → Nat
  | caller _ (.call _) => 2
  | caller _ (.pass loop) => loop.plan.passes + 2
  | owner _ loop => loop.plan.passes + 2

def Counted : Suspended → Prop
  | caller _ (.call _) => True
  | caller _ (.pass loop) => loop.plan.Counted
  | owner _ loop => loop.plan.Counted

theorem line_frame (waiting : Suspended) (above : Frame) :
    (waiting.frame above).cursor.line = waiting.line := by
  cases waiting <;> rfl

theorem two_le_burden (waiting : Suspended) : 2 ≤ waiting.burden := by
  unfold burden
  split <;> omega

end Suspended

def Control.burden : Control → Nat
  | running => 1
  | leaving _ => 0

def Suspended.ranks (script : Script) (suspended : List Suspended) : List (Nat × Nat) :=
  suspended.reverse.map fun waiting => (script.lineCount - waiting.line, waiting.burden)

theorem Suspended.ranks_cons (script : Script) (waiting : Suspended) (rest : List Suspended) :
    Suspended.ranks script (waiting :: rest) =
      Suspended.ranks script rest ++ [(script.lineCount - waiting.line, waiting.burden)] := by
  simp [ranks]

def State.ranks (script : Script) (state : State) : List (Nat × Nat) :=
  Suspended.ranks script state.suspended ++
    [(script.lineCount - state.scope.frame.cursor.line, state.control.burden)]

theorem State.length_ranks (script : Script) (state : State) :
    (state.ranks script).length = state.suspended.length + 1 := by
  simp [ranks, Suspended.ranks]

/-! ## One step lowers the ranks -/

def Script.CountsPasses (script : Script) : Prop :=
  ∀ statement ∈ script.statements, statement.keyword ≠ "WHILE" ∧ statement.keyword ≠ "DOWHILE"

instance (script : Script) : Decidable script.CountsPasses :=
  inferInstanceAs (Decidable (∀ statement ∈ script.statements, _))

theorem LoopKind.Runs.counted {script : Script} (counts : script.CountsPasses) {line : Nat}
    {kind : LoopKind} {plan : LoopPlan} (runs : kind.Runs script line plan) : plan.Counted := by
  obtain ⟨⟨statement, member, -, keyword⟩, header, planned⟩ := runs
  obtain ⟨notWhile, notDoWhile⟩ := counts statement member
  cases kind with
  | forLoop => exact planned
  | whileLoop => exact absurd keyword notWhile
  | doWhileLoop => exact absurd keyword notDoWhile

theorem Suspended.Begun.counted {script : Script} (counts : script.CountsPasses)
    {services : Services} {waiting : Suspended} (begun : waiting.Begun script services) :
    waiting.Counted := by
  cases waiting with
  | owner cursor loop => exact begun.1.counted counts
  | caller frame wait =>
      cases wait with
      | call keyword => trivial
      | pass loop => exact LoopKind.Runs.counted counts begun

theorem LoopPlan.Next.lowers {plan again : LoopPlan} (next : plan.Next again)
    (counted : plan.Counted) : again.Counted ∧ again.passes < plan.passes := by
  obtain ⟨left, rfl⟩ := counted
  cases next with
  | counted left => exact ⟨⟨left, rfl⟩, Nat.lt_succ_self left⟩

theorem Suspended.Repeats.lowers {signal : Signal} {waiting again : Suspended}
    (repeats : waiting.Repeats signal again) (counted : waiting.Counted) :
    again.Counted ∧ again.burden < waiting.burden := by
  cases waiting with
  | owner cursor loop =>
      cases again with
      | caller frame wait => exact repeats.elim
      | owner place again =>
          have same : (loop.after signal).plan = loop.plan := by cases signal <;> rfl
          have next : loop.plan.Next again.plan := same ▸ repeats.2.2.1
          obtain ⟨countedAgain, fewer⟩ := next.lowers counted
          exact ⟨countedAgain, Nat.add_lt_add_right fewer 2⟩
  | caller frame wait =>
      cases wait with
      | call keyword => exact repeats.elim
      | pass loop =>
          match again, repeats with
          | .caller _ (.pass again), next =>
              obtain ⟨countedAgain, fewer⟩ := LoopPlan.Next.lowers next.2.2 counted
              exact ⟨countedAgain, Nat.add_lt_add_right fewer 2⟩

/-- What the states of a run have in common: the frames are not too many, their loops count their
passes, and they are inside the script. -/
structure State.Bounded (script : Script) (limit : Int) (state : State) : Prop where
  whole : state.oneLine = false
  maxDepth : state.scope.machine.settings.maxDepth = some limit
  depth : (state.suspended.length : Int) ≤ max limit 0
  waiting : ∀ waiting ∈ state.suspended, waiting.Counted ∧ waiting.line ≤ script.lineCount
  inside : state.scope.frame.cursor.line ≤ script.lineCount

theorem Suspended.Starts.inside {script : Script} {waiting : Suspended} {frame : Frame}
    (starts : waiting.Starts script frame) : frame.cursor.line ≤ script.lineCount := by
  cases waiting with
  | owner cursor loop =>
      rw [show frame.cursor = _ from starts]
      exact Cursor.advance_within (Nat.zero_le _)
  | caller below wait =>
      obtain ⟨entry, args, line, -, rfl⟩ := starts
      exact Cursor.advance_within (Nat.zero_le _)

namespace Outcome

variable {script : Script} {fresh : Suspended → Prop} {exits : Signal → Prop} {limit : Int}
  {now after : State}

theorem bounded (outcome : Outcome script fresh exits now after) (whole : after.oneLine = false)
    (maxDepth : after.scope.machine.settings.maxDepth = some limit)
    (depth : (now.suspended.length : Int) ≤ max limit 0)
    (waits : ∀ waiting ∈ now.suspended, waiting.Counted ∧ waiting.line ≤ script.lineCount)
    (inside : now.scope.frame.cursor.line ≤ script.lineCount)
    (counted : ∀ waiting, fresh waiting → waiting.Counted) : after.Bounded script limit := by
  cases outcome with
  | stays control same frame =>
      exact ⟨whole, maxDepth, same ▸ depth, same ▸ waits, frame.within inside⟩
  | leaves control exit same frame =>
      exact ⟨whole, maxDepth, same ▸ depth, same ▸ waits, frame.within inside⟩
  | @enters waiting control known pushed frame starts room =>
      obtain ⟨most, equal, bound⟩ := room
      rw [maxDepth] at equal
      cases equal
      unfold State.depth at bound
      refine ⟨whole, maxDepth, by omega, ?_, starts.inside⟩
      rw [pushed]
      intro other member
      rcases List.mem_cons.mp member with rfl | below
      · exact ⟨counted _ known, other.line_frame _ ▸ frame.within inside⟩
      · exact waits other below

/-- The rank of a frame after what it has come to: it is at the same line or below, and unless it
goes on itself it waits for a frame that it may start. -/
theorem ranks_eq (outcome : Outcome script fresh exits now after) (ready : now.control = .running)
    (inside : now.scope.frame.cursor.line ≤ script.lineCount) :
    ∃ line burden rest, after.ranks script = Suspended.ranks script now.suspended ++
        (script.lineCount - line, burden) :: rest ∧
      now.scope.frame.cursor.line ≤ line ∧ line ≤ script.lineCount ∧
      (burden ≤ 1 ∨ ∃ waiting, fresh waiting ∧ burden = waiting.burden) := by
  cases outcome with
  | stays control same frame =>
      refine ⟨after.scope.frame.cursor.line, 1, [], ?_, frame.forward, frame.within inside, .inl
        le_rfl⟩
      rw [State.ranks, same, control, ready]
      rfl
  | leaves control exit same frame =>
      refine ⟨after.scope.frame.cursor.line, 0, [], ?_, frame.forward, frame.within inside, .inl
        zero_le_one⟩
      rw [State.ranks, same, control]
      rfl
  | @enters waiting control known pushed frame starts room =>
      refine ⟨waiting.line, waiting.burden,
        [(script.lineCount - after.scope.frame.cursor.line, after.control.burden)], ?_, ?_, ?_,
        .inr ⟨waiting, known, rfl⟩⟩
      · rw [State.ranks, pushed, Suspended.ranks_cons, List.append_assoc]
        rfl
      · exact waiting.line_frame _ ▸ frame.forward
      · exact waiting.line_frame _ ▸ frame.within inside

end Outcome

theorem lex_of_le {line lower : Nat} {burden lighter : Nat} (lines : lower ≤ line)
    (burdens : lighter < burden) : Prod.Lex (· < ·) (· < ·) (lower, lighter) (line, burden) := by
  rcases Nat.eq_or_lt_of_le lines with rfl | fewer
  · exact Prod.Lex.right _ burdens
  · exact Prod.Lex.left _ _ fewer

theorem Transition.lowered {script : Script} (counts : script.CountsPasses) {limit : Int}
    {before after : State} (bounded : before.Bounded script limit)
    (follows : before.Follows after) (transition : Transition script before after) :
    after.Bounded script limit ∧ Lowered (after.ranks script) (before.ranks script) := by
  have whole := follows.oneLine.trans bounded.whole
  have maxDepth : after.scope.machine.settings.maxDepth = some limit := by
    rw [follows.machine.settings, bounded.maxDepth]
  cases transition with
  | finishes running control same frame =>
      refine ⟨⟨whole, maxDepth, same ▸ bounded.depth, same ▸ bounded.waiting,
        frame.within bounded.inside⟩, ?_⟩
      rw [State.ranks, State.ranks, same, control, running]
      have forward := frame.forward
      exact ⟨_, _, _, [], [], rfl, rfl, lex_of_le (by omega) zero_lt_one⟩
  | @reads now running ready same frame below outcome =>
      have inside := frame.within bounded.inside
      refine ⟨outcome.bounded whole maxDepth (same ▸ bounded.depth) (same ▸ bounded.waiting)
        inside fun waiting begun => Suspended.Begun.counted counts begun, ?_⟩
      -- The frame has gone down by a line, so its rank falls whatever is opened above it.
      obtain ⟨line, burden, rest, ranks, forward, within, -⟩ := outcome.ranks_eq ready inside
      rw [ranks, same, State.ranks]
      exact ⟨_, _, _, rest, [], rfl, rfl, Prod.Lex.left _ _ (by omega)⟩
  | @returns now signal waiting leaving waits ready frame outcome =>
      have member (other : Suspended) (below : other ∈ now.suspended) : other ∈ before.suspended :=
        waits ▸ List.mem_cons_of_mem waiting below
      have here := bounded.waiting waiting (waits ▸ List.mem_cons_self)
      have place : now.scope.frame.cursor.line = waiting.line := by rw [frame, waiting.line_frame]
      have depth := bounded.depth
      rw [waits, List.length_cons] at depth
      have inside : now.scope.frame.cursor.line ≤ script.lineCount := place ▸ here.2
      refine ⟨outcome.bounded whole maxDepth (by omega)
        (fun other below => bounded.waiting other (member other below)) inside
        fun again repeats => (repeats.lowers here.1).1, ?_⟩
      obtain ⟨line, burden, rest, ranks, forward, within, light⟩ := outcome.ranks_eq ready inside
      -- The frame that goes on may stand where it stood; then it is its loop that has lost a pass.
      have lighter : burden < waiting.burden := by
        rcases light with low | ⟨again, repeats, rfl⟩
        · exact Nat.lt_of_le_of_lt low waiting.two_le_burden
        · exact (repeats.lowers here.1).2
      rw [ranks, State.ranks, waits, Suspended.ranks_cons, List.append_assoc]
      exact ⟨_, _, _, rest, _, rfl, rfl, lex_of_le (by omega) lighter⟩

/-! ## Runs -/

namespace State

variable {script : Script} {limit : Int}

theorem exists_run (counts : script.CountsPasses) (state : State)
    (bounded : state.Bounded script limit) :
    ∃ fuel ending last, state.run script fuel = some (ending, last) := by
  -- The induction is on the ranks of all frames, the outermost one first.
  have lowered := wellFounded_lowered (max limit 0).toNat.succ
  generalize equal : state.ranks script = ranks
  induction ranks using lowered.induction generalizing state with
  | _ ranks ih =>
      have transits := transits_step script bounded.whole
      cases stepped : state.step script with
      | stop ending last => exact ⟨1, ending, last, run_stop stepped 0⟩
      | next after =>
          rw [stepped] at transits
          obtain ⟨follows, transition⟩ := transits
          obtain ⟨boundedAfter, lower⟩ := transition.lowered counts bounded follows
          have short : ranks.length ≤ (max limit 0).toNat.succ := by
            have depth := bounded.depth
            rw [← equal, state.length_ranks]
            omega
          obtain ⟨fuel, ending, last, ends⟩ :=
            ih (after.ranks script) ⟨equal ▸ lower, short⟩ after boundedAfter rfl
          exact ⟨fuel + 1, ending, last, (run_next stepped fuel).trans ends⟩

end State

/-! ## Main statement -/

/-- Without loops that check a condition every program ends, wherever it is entered and whatever
the machine is like: the limit on nesting cuts off every recursion. -/
theorem Program.run_ends_of_countsPasses {script : Script} (counts : script.CountsPasses)
    (entry : String) (machine : Machine) :
    ∃ fuel run, Program.run script entry machine fuel = some run := by
  unfold Program.run
  cases started : Program.start script entry machine with
  | ended run => exact ⟨0, run, rfl⟩
  | running state =>
      have starts := Program.starts_of_running started
      obtain ⟨line, -, frame⟩ := starts.found
      obtain ⟨limit, limited, positive⟩ := starts.room
      have bounded : state.Bounded script limit := by
        refine ⟨starts.whole, limited, ?_, ?_, ?_⟩
        · simp [starts.suspended]
        · simp [starts.suspended]
        · rw [frame]
          exact Cursor.advance_within (Nat.zero_le _)
      obtain ⟨fuel, ending, last, ends⟩ := state.exists_run counts bounded
      refine ⟨fuel, Program.close ending last, ?_⟩
      rw [ProgramStart.finish, ends, Option.map_some]

def recursiveExample : Script :=
  .ofLines "" ["DEF main", "FOR 3", "CALL main", "FOR main 2", "ENDF", "ENDDEF"]

theorem Program.run_ends_of_countsPasses_recursiveExample :
    recursiveExample.CountsPasses ∧
      ∃ fuel run, Program.run recursiveExample "main" .plainExample fuel = some run := by
  have counts : recursiveExample.CountsPasses := by decide +kernel
  exact ⟨counts, Program.run_ends_of_countsPasses counts "main" .plainExample⟩

end LineScript

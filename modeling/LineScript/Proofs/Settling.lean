import LineScript.Proofs.Argument.Count
import LineScript.Proofs.Reaches
import LineScript.Proofs.Reading

/-!
What one step leaves of the variables, and how it stops. An instruction works on the variables of
its own frame; then the frame goes on, waits for a definition that starts without variables, or waits
for the body of a loop that has the same variables. When a frame ends, a caller finds its variables
as they were, and the owner of a loop finds those of the body. A run stops with a halt or a failure;
an exception gets out of it only when an extension refuses an argument in the outermost frame.
-/

namespace LineScript

open LineScript.Action

/-! ## Faults of the language -/

/-- The limits are numbers, and nobody interrupts. -/
structure Machine.Orderly (machine : Machine) : Prop where
  maxDepth : machine.settings.maxDepth ≠ none
  maxArgs : machine.settings.maxArgs ≠ none
  replies : .interrupt ∉ machine.console.replies

def Fault.IsOwn : Fault → Prop
  | .failure _ => True
  | .halt _ => True
  | _ => False

theorem Machine.Kept.orderly {first second : Machine} (kept : first.Kept second)
    (orderly : first.Orderly) : second.Orderly :=
  ⟨kept.settings ▸ orderly.maxDepth, kept.settings ▸ orderly.maxArgs,
    fun interrupt => orderly.replies (kept.replies.subset interrupt)⟩

theorem Machine.checkDepth_cases {machine after : Machine} {depth line : Nat} {fault : Fault}
    (refused : machine.checkDepth depth line = some (fault, after)) :
    fault.IsOwn ∨ machine.settings.maxDepth = none ∧ fault = .exception .incomparable := by
  cases checkDepth_some refused with
  | unlimited unset => exact .inr ⟨unset, rfl⟩
  | deep limited deep => exact .inl trivial

theorem Machine.isOwn_checkDepth {machine after : Machine} {depth line : Nat} {fault : Fault}
    (orderly : machine.Orderly) (refused : machine.checkDepth depth line = some (fault, after)) :
    fault.IsOwn :=
  (checkDepth_cases refused).resolve_right fun unlimited => orderly.maxDepth unlimited.1

theorem Machine.isOwn_hookFault {line : Nat} {event : String} (trouble : Trouble) :
    (hookFault line event trouble).IsOwn := by
  cases trouble <;> trivial

theorem Machine.isOwn_callHandlers {machine : Machine} {line : Nat} {detail : EventDetail}
    {handlers : List (Handler HookBehavior)} {fault : Fault}
    (ended : (machine.callHandlers line detail handlers).2 = some fault) : fault.IsOwn := by
  induction handlers generalizing machine with
  | nil => cases ended
  | cons handler rest ih =>
      unfold callHandlers at ended
      dsimp only at ended
      split at ended
      · exact ih ended
      · next trouble _ =>
          cases ended
          exact isOwn_hookFault trouble

/-- What keeps a reference from being read with an exception: a variable of an extension raises it,
what was typed is no text, or there are more marks than the host can follow. -/
inductive Machine.Denies (machine : Machine) : Exception → Prop where
  | raised {name : String} {behavior : VariableBehavior} {sight : Sight} {text : String}
      (found : machine.predefined.lookup? name = some (.computed behavior))
      (answered : behavior.answer sight = .error (.exception text)) :
      machine.Denies (.refusedValue text)
  | undecodable {text : String} (typed : .broken (.undecodable text) ∈ machine.console.replies) :
      machine.Denies (.refusedValue text)
  | exhausted (bounded : machine.host.marks ≠ none) : machine.Denies .tooManyMarks

theorem Machine.Kept.denies {first second : Machine} (kept : first.Kept second)
    {exception : Exception} (denies : second.Denies exception) : first.Denies exception := by
  cases denies with
  | raised found answered => exact .raised (kept.predefined ▸ found) answered
  | undecodable typed => exact .undecodable (kept.replies.subset typed)
  | exhausted bounded => exact .exhausted (kept.host ▸ bounded)

/-- How the reading of references ends early: somebody interrupts, an extension ends the run as an
instruction would, or there is an exception. -/
inductive Action.Unread (scope : Scope) : Fault → Prop where
  | interrupted (interrupt : .interrupt ∈ scope.machine.console.replies) : Unread scope .interrupted
  | own {fault : Fault} (own : fault.IsOwn) : Unread scope fault
  | exception {exception : Exception} (denies : scope.machine.Denies exception) :
      Unread scope (.exception exception)

theorem Action.Arises.unread {faults : Fault → Prop} {scope : Scope} {fault : Fault}
    (arises : Arises faults scope fault) : faults fault ∨ Unread scope fault := by
  refine arises.imp_right ?_
  rintro (⟨keyboard | text, rfl, typed⟩ | @⟨name, behavior, sight, trouble, found, answered⟩ |
    bounded)
  · exact .interrupted typed
  · exact .exception (.undecodable typed)
  · cases trouble with
    | exception text => exact .exception (.raised found answered)
    | halt code => exact .own trivial
    | failure message code => exact .own trivial
  · exact .exception (.exhausted bounded)

theorem Action.Arises.interrupt {faults : Fault → Prop} {scope : Scope}
    (arises : Arises faults scope .interrupted) (unexpected : ¬ faults .interrupted) :
    .interrupt ∈ scope.machine.console.replies := by
  rcases arises.unread with expected | interrupt | own
  · exact absurd expected unexpected
  · exact interrupt
  · exact own.elim

theorem Action.Arises.not_interrupted {faults : Fault → Prop} {scope : Scope} {fault : Fault}
    (arises : Arises faults scope fault) (orderly : scope.machine.Orderly)
    (known : ∀ fault, faults fault → fault ≠ .interrupted) : fault ≠ .interrupted := by
  rcases arises.unread with expected | unread
  · exact known fault expected
  · rintro rfl
    cases unread with
    | interrupted interrupt => exact orderly.replies interrupt
    | own own => exact own

theorem Meaning.not_interrupted_of_fails {scope : Scope} {meaning : Meaning} {fault : Fault}
    (fails : meaning.Fails scope fault) : fault ≠ .interrupted := by
  cases meaning with
  | added behavior => exact fails
  | builtin instruction =>
      rcases fails with (⟨-, exception, rfl⟩ | ⟨-, rfl⟩) | ⟨-, rfl⟩ <;> nofun

/-! ## What becomes of a frame -/

/-- The frames that the work of another one starts: none, some with variables of their own, or
bodies of a loop, which share its variables. An extension may do other things before it starts a
frame with variables of its own. -/
inductive Offspring where
  | none
  | own
  | shared
  | foreign
deriving DecidableEq, Repr

namespace State

structure Same (now later : State) : Prop where
  machine : now.scope.machine.Kept later.scope.machine
  frame : later.scope.frame = now.scope.frame
  suspended : later.suspended = now.suspended
  control : later.control = now.control

/-- What becomes of a frame, by the frames that its work may start. -/
inductive Settles (offspring : Offspring) (now after : State) : Prop where
  | stays (control : after.control = now.control) (suspended : after.suspended = now.suspended)
      (frame : after.scope.frame = now.scope.frame)
  | calls (fitting : offspring = .own ∨ offspring = .foreign) {wait : Wait}
      (control : after.control = .running)
      (suspended : after.suspended = .caller now.scope.frame wait :: now.suspended)
      (fresh : after.scope.frame.locals = .empty)
  | moves (fitting : offspring ≠ .own) (suspended : after.suspended = now.suspended)
      (frame : after.scope.frame = { now.scope.frame with cursor := after.scope.frame.cursor })
  | repeats (fitting : offspring = .shared) {loop : InlineLoop} (control : after.control = .running)
      (suspended : after.suspended = .owner now.scope.frame.cursor loop :: now.suspended)
      (frame : after.scope.frame = { now.scope.frame with cursor := after.scope.frame.cursor })

theorem Settles.fresh {offspring : Offspring} {now after : State} {caller : Frame} {wait : Wait}
    (settles : now.Settles offspring after)
    (pushed : after.suspended = .caller caller wait :: now.suspended) :
    after.scope.frame.locals = .empty := by
  have longer {P : Prop} (same : after.suspended = now.suspended) : P := by
    have length := congrArg List.length (pushed.symm.trans same)
    simp at length
  cases settles with
  | stays control suspended frame => exact longer suspended
  | calls fitting control suspended fresh => exact fresh
  | moves fitting suspended frame => exact longer suspended
  | repeats fitting control suspended frame =>
      rw [pushed] at suspended
      cases suspended

variable {first second third : State}

theorem Same.trans (early : first.Same second) (late : second.Same third) : first.Same third :=
  ⟨early.machine.trans late.machine, late.frame.trans early.frame,
    late.suspended.trans early.suspended, late.control.trans early.control⟩

theorem same_machine {now : State} {change : Machine → Machine}
    (kept : now.scope.machine.Kept (change now.scope.machine)) : now.Same (now.onMachine change) :=
  ⟨kept, rfl, rfl, rfl⟩

theorem same_report (now : State) (level : Level) (text : String) (code : Code) :
    now.Same (now.report level text code) :=
  ⟨Machine.kept_report _ _ _, rfl, rfl, rfl⟩

theorem same_reportMissing (now : State) (entry : String) : now.Same (now.reportMissing entry) :=
  same_machine (Machine.kept_report _ _ _)

theorem same_keepReturned (now : State) (value : String) : now.Same (now.keepReturned value) :=
  same_machine ⟨rfl, rfl, rfl, rfl, rfl, rfl, rfl, List.suffix_rfl⟩

end State

namespace Step

variable {offspring : Offspring} {now later : State} {step : Step}

def Settles (offspring : Offspring) (now : State) : Step → Prop
  | .next after => now.scope.machine.Kept after.scope.machine ∧ now.Settles offspring after
  | .stop ending last => now.scope.machine.Kept last.scope.machine ∧
      ∃ fault, ending = .failed fault ∧ (now.scope.machine.Orderly → fault.IsOwn)

theorem Settles.after (settles : step.Settles offspring later) (same : now.Same later) :
    step.Settles offspring now := by
  cases step with
  | stop ending last =>
      obtain ⟨kept, fault, failed, own⟩ := settles
      exact ⟨same.machine.trans kept, fault, failed,
        fun orderly => own (same.machine.orderly orderly)⟩
  | next after =>
      refine ⟨same.machine.trans settles.1, ?_⟩
      cases settles.2 with
      | stays control suspended frame =>
          exact .stays (control.trans same.control) (suspended.trans same.suspended)
            (frame.trans same.frame)
      | calls fitting control suspended fresh =>
          exact .calls fitting control (same.frame ▸ same.suspended ▸ suspended) fresh
      | moves fitting suspended frame =>
          exact .moves fitting (suspended.trans same.suspended) (same.frame ▸ frame)
      | repeats fitting control suspended frame =>
          exact .repeats fitting control (same.frame ▸ same.suspended ▸ suspended)
            (same.frame ▸ frame)

theorem settles_next (same : now.Same later) : (Step.next later).Settles offspring now :=
  ⟨same.machine, .stays same.control same.suspended same.frame⟩

theorem settles_abort {fault : Fault} (kept : now.scope.machine.Kept later.scope.machine)
    (own : now.scope.machine.Orderly → fault.IsOwn) : (later.abort fault).Settles offspring now :=
  ⟨kept, fault, rfl, own⟩

end Step

namespace State

variable {script : Script} {offspring : Offspring} {now : State} {scope : Scope} {fault : Fault}

theorem settles_enter {frame : Frame} {waiting : Suspended}
    (entered : ∀ after, after.control = .running → after.suspended = waiting :: now.suspended →
      after.scope.frame = frame → now.Settles offspring after) :
    (now.enter frame waiting).Settles offspring now := by
  unfold enter
  cases deep : now.scope.machine.checkDepth now.depth now.currentLine with
  | some refused =>
      obtain ⟨fault, machine⟩ := refused
      exact Step.settles_abort (Machine.kept_checkDepth deep)
        fun orderly => Machine.isOwn_checkDepth orderly deep
  | none => exact ⟨.refl _, entered _ rfl rfl rfl⟩

theorem settles_call (fitting : offspring = .own ∨ offspring = .foreign) (keyword entry : String)
    (args : List String) : (now.call script keyword entry args).Settles offspring now := by
  unfold call
  split
  · exact Step.settles_next ((now.same_reportMissing entry).trans (same_keepReturned _ _))
  · refine settles_enter fun after control suspended frame => .calls fitting control suspended ?_
    rw [frame]
    rfl

theorem settles_startPass (loop : ExternalLoop) : (now.startPass script loop).Settles .own now := by
  unfold startPass
  split
  · exact Step.settles_next ((now.same_reportMissing _).trans (same_report _ _ _ _))
  · refine settles_enter fun after control suspended frame =>
      .calls (.inl rfl) control suspended ?_
    rw [frame]
    rfl

theorem settles_instructionFault (name : String) (code : Code) (running : now.control = .running)
    (kept : now.scope.machine.Kept scope.machine) (frame : scope.frame = now.scope.frame)
    (calm : now.scope.machine.Orderly → fault ≠ .interrupted) :
    (instructionFault { now with scope } name code fault).Settles offspring now := by
  cases fault with
  | exception exception =>
      exact Step.settles_abort (kept.trans (Machine.kept_report _ _ _)) fun _ => trivial
  | unreadable text =>
      exact Step.settles_next ⟨kept.trans (Machine.kept_report _ _ _), frame, rfl, running.symm⟩
  | failure failure => exact Step.settles_abort kept fun _ => trivial
  | halt code => exact Step.settles_abort kept fun _ => trivial
  | interrupted => exact Step.settles_abort kept fun orderly => absurd rfl (calm orderly)

/-! ## Loops whose body is a definition -/

theorem settles_continueExternal (loop : ExternalLoop) (running : now.control = .running) :
    (now.continueExternal script loop).Settles .own now := by
  unfold continueExternal
  split
  · exact Step.settles_next ⟨.refl _, rfl, rfl, rfl⟩
  · exact settles_startPass _
  · next header _ =>
      have keeps : Keeps (fun _ => False) (loop.kind.condition true header) :=
        LoopKind.keeps_condition true header
      have looks : Looks (loop.kind.condition true header) := LoopKind.looks_condition true header
      split
      · next scope checked =>
          exact (settles_startPass loop).after
            ⟨(keeps.ok checked).machine, looks.ok checked, rfl, rfl⟩
      · next scope checked =>
          exact Step.settles_next ⟨(keeps.ok checked).machine, looks.ok checked, rfl, rfl⟩
      · next fault scope failed =>
          obtain ⟨kept, arises⟩ := keeps.raised failed
          exact settles_instructionFault _ _ running kept.machine (looks.error failed)
            fun orderly => arises.not_interrupted orderly nofun

theorem settles_afterPass (loop : ExternalLoop) (signal : Signal)
    (running : now.control = .running) :
    (now.afterPass script loop signal).Settles .own now := by
  unfold afterPass
  split
  · exact Step.settles_next (same_report _ _ _ _)
  · exact Step.Settles.after (settles_continueExternal loop running) (now.same_report _ _ _)
  · exact settles_continueExternal loop running

/-! ## Loops whose body follows -/

theorem settles_startBody (loop : InlineLoop) : (now.startBody script loop).Settles .shared now :=
  settles_enter fun after control suspended frame =>
    .repeats rfl control suspended (by rw [frame])

theorem settles_leaveLoop (loop : InlineLoop) (endLine : Option Nat)
    (running : now.control = .running) :
    (now.leaveLoop script loop endLine).Settles .shared now := by
  cases leavesLoop script now loop endLine with
  | moves forward place left =>
      rw [left]
      exact ⟨.refl _, .moves nofun rfl rfl⟩
  | backward place above left =>
      rw [left]
      exact settles_instructionFault _ _ running (.refl _) rfl fun _ => nofun
  | lost place missing left =>
      rw [left]
      exact settles_instructionFault _ _ running (Machine.kept_report _ _ _) rfl fun _ => nofun

theorem settles_continueInline (loop : InlineLoop) (running : now.control = .running) :
    (now.continueInline script loop).Settles .shared now := by
  unfold continueInline
  split
  · exact settles_leaveLoop loop _ running
  · exact settles_startBody _
  · next header _ =>
      have keeps : Keeps (fun _ => False) (loop.kind.condition false header) :=
        LoopKind.keeps_condition false header
      have looks : Looks (loop.kind.condition false header) := LoopKind.looks_condition false header
      split
      · next scope checked =>
          exact (settles_startBody loop).after
            ⟨(keeps.ok checked).machine, looks.ok checked, rfl, rfl⟩
      · next scope checked =>
          exact Step.Settles.after (settles_leaveLoop loop loop.endLine running)
            ⟨(keeps.ok checked).machine, looks.ok checked, rfl, rfl⟩
      · next fault scope failed =>
          obtain ⟨kept, arises⟩ := keeps.raised failed
          exact settles_instructionFault _ _ running kept.machine (looks.error failed)
            fun orderly => arises.not_interrupted orderly nofun

theorem settles_openInline (loop : InlineLoop) (entered : Bool) (running : now.control = .running) :
    (now.openInline script loop entered).Settles .shared now := by
  unfold openInline
  dsimp only
  split
  · exact Step.settles_abort (Machine.kept_report _ _ _) fun _ => trivial
  · split
    · exact settles_startBody loop
    · exact settles_continueInline loop running

theorem settles_afterBody (loop : InlineLoop) (signal : Signal) (running : now.control = .running) :
    (now.afterBody script loop signal).Settles .shared now := by
  have reported (text : String) (value : String) :
      now.Same ((now.report .info text .loop).keepReturned value) :=
    (now.same_report _ _ _).trans (same_keepReturned _ _)
  cases signal with
  | resume line value =>
      exact Step.Settles.after (settles_continueInline _ running) (now.same_keepReturned value)
  | continued value =>
      exact Step.Settles.after (settles_continueInline loop running) (reported _ value)
  | returned value => exact ⟨Machine.kept_report _ _ _, .moves nofun rfl rfl⟩
  | broken value =>
      exact Step.Settles.after (settles_leaveLoop loop none running) (reported _ value)

end State

/-! ## Carrying out a line -/

open Classical in
/-- The code of an extension starts frames if there is anything that makes it ask for a call. -/
noncomputable def Meaning.offspring (supplied : Nat) : Meaning → Offspring
  | .builtin .call => .own
  | .builtin (.loop kind) => if kind.inlineArity < supplied then .own else .shared
  | .builtin _ => .none
  | .added behavior => if behavior.Calls then .foreign else .none

noncomputable def Machine.offspring (machine : Machine) (keyword : String) (supplied : Nat) :
    Offspring :=
  match machine.lookup? keyword with
  | some spec => spec.action.offspring supplied
  | none => .none

theorem Machine.Kept.offspring {first second : Machine} (kept : first.Kept second)
    (keyword : String) (supplied : Nat) :
    second.offspring keyword supplied = first.offspring keyword supplied := by
  unfold Machine.offspring
  rw [kept.lookup?]

def Flow.Suits (offspring : Offspring) : Flow → Prop
  | .next => True
  | .leave _ => offspring ≠ .own
  | .call _ _ => offspring = .own ∨ offspring = .foreign
  | .external _ _ => offspring = .own
  | .inline _ _ => offspring = .shared

namespace Meaning

variable {meaning : Meaning} {args : List String} {script : Script} {inBody : Bool} {number : Nat}
  {pieces : List Piece} {scope after : Scope} {flow : Flow}

/-- Calls and loops of the language do nothing but start frames. -/
def IsStarter (meaning : Meaning) : Prop :=
  meaning = .builtin .call ∨ ∃ kind, meaning = .builtin (.loop kind)

theorem starts_iff {supplied : Nat} :
    meaning.offspring supplied = .own ∨ meaning.offspring supplied = .shared ↔
      meaning.IsStarter := by
  unfold offspring
  constructor
  · intro starts
    split at starts
    · exact .inl rfl
    · exact .inr ⟨_, rfl⟩
    · simp at starts
    · split at starts <;> simp at starts
  · rintro (rfl | ⟨kind, rfl⟩)
    · exact .inl rfl
    · dsimp only
      split
      · exact .inl rfl
      · exact .inr rfl

theorem IsStarter.looks (starter : meaning.IsStarter) (supplied : meaning.Supplied args) :
    Looks (meaning.perform script inBody number pieces args) := by
  rcases starter with rfl | ⟨kind, rfl⟩
  · obtain ⟨entry, rest, rfl⟩ := exists_one (supplied .call rfl)
    exact looks_pure (Flow.call entry rest)
  · exact LoopKind.looks_start number pieces args

theorem suits_loop {kind : LoopKind}
    (performed : kind.start number pieces args scope = .ok flow after) :
    flow.Suits (if kind.inlineArity < args.length then .own else .shared) := by
  unfold LoopKind.start at performed
  split at performed
  · split at performed
    · next more =>
        obtain ⟨plan, middle, -, last⟩ := bind_ok performed
        cases last
        exact if_pos more
    · next few =>
        obtain ⟨plan, middle, -, last⟩ := bind_ok performed
        cases last
        exact if_neg few
  · cases performed

theorem offspring_of_calls (calls : meaning.Calls) (supplied : Nat) :
    meaning.offspring supplied = .own ∨ meaning.offspring supplied = .foreign := by
  cases meaning with
  | builtin instruction =>
      cases calls
      exact .inl rfl
  | added behavior => exact .inr (if_pos calls)

theorem suits_perform (supplied : meaning.Supplied args)
    (performed : meaning.perform script inBody number pieces args scope = .ok flow after) :
    flow.Suits (meaning.offspring args.length) := by
  by_cases starter : meaning.IsStarter
  · rcases starter with rfl | ⟨kind, rfl⟩
    · obtain ⟨entry, rest, rfl⟩ := exists_one (supplied .call rfl)
      cases performed
      exact .inl rfl
    · exact suits_loop performed
  · have other : meaning.offspring args.length ≠ .own := fun own =>
      starter (starts_iff.mp (.inl own))
    cases (perform_ok supplied performed).1 with
    | next => trivial
    | leave => exact other
    | resume => exact other
    | call meaning calls => exact offspring_of_calls calls _
    | external kind => exact absurd (.inr ⟨kind, rfl⟩) starter
    | inline kind => exact absurd (.inr ⟨kind, rfl⟩) starter

end Meaning

theorem State.settles_follow {script : Script} {now : State} (keyword : String) {flow : Flow}
    {offspring : Offspring} (suits : flow.Suits offspring) (running : now.control = .running) :
    (now.follow script keyword flow).Settles offspring now := by
  cases flow with
  | next => exact Step.settles_next ⟨.refl _, rfl, rfl, rfl⟩
  | leave signal => exact ⟨.refl _, .moves suits rfl rfl⟩
  | call entry args => exact settles_call suits keyword entry args
  | external loop entered =>
      rw [suits]
      unfold follow
      dsimp only
      split
      · exact settles_startPass loop
      · exact settles_continueExternal loop running
  | inline loop entered =>
      rw [suits]
      exact settles_openInline loop entered running

/-- The instruction of a line has been carried out. One of the language that starts frames has
changed nothing. -/
structure State.Performs (script : Script) (offspring : Offspring) (now performed : State) :
    Prop where
  scope : now.scope.Onward script performed.scope
  suspended : performed.suspended = now.suspended
  running : performed.control = .running
  starter : offspring = .own ∨ offspring = .shared → performed.scope.frame = now.scope.frame

/-- What comes of a line: its instruction is carried out, and then the frame settles. -/
def Step.CarriesOut (script : Script) (offspring : Offspring) (escapes : Fault → Prop)
    (now : State) : Step → Prop
  | .next after => ∃ performed, now.Performs script offspring performed ∧
      (Step.next after).Settles offspring performed
  | .stop ending last => now.scope.machine.Kept last.scope.machine ∧
      ∃ fault, ending = .failed fault ∧
        (now.scope.machine.Orderly → fault.IsOwn ∨ escapes fault)

namespace Step

variable {script : Script} {offspring : Offspring} {escapes : Fault → Prop}
  {now later performed : State} {step : Step}

theorem Settles.carriesOut (settles : step.Settles offspring performed)
    (performs : now.Performs script offspring performed) :
    step.CarriesOut script offspring escapes now := by
  cases step with
  | next after => exact ⟨performed, performs, settles⟩
  | stop ending last =>
      obtain ⟨kept, fault, failed, own⟩ := settles
      have keptNow := performs.scope.machine
      exact ⟨keptNow.trans kept, fault, failed, fun orderly => .inl (own (keptNow.orderly orderly))⟩

theorem CarriesOut.after (carries : step.CarriesOut script offspring escapes later)
    (scope : now.scope.Kept later.scope) (same : now.Same later) :
    step.CarriesOut script offspring escapes now := by
  cases step with
  | stop ending last =>
      obtain ⟨kept, fault, failed, own⟩ := carries
      exact ⟨same.machine.trans kept, fault, failed,
        fun orderly => own (same.machine.orderly orderly)⟩
  | next after =>
      obtain ⟨performed, performs, settles⟩ := carries
      exact ⟨performed, ⟨scope.onward.trans performs.scope, performs.suspended.trans same.suspended,
        performs.running, fun starts => (performs.starter starts).trans same.frame⟩, settles⟩

theorem carriesOut_report (running : now.control = .running) (level : Level) (text : String)
    (code : Code) :
    (Step.next (now.report level text code)).CarriesOut script offspring escapes now := by
  have settles : (Step.next (now.report level text code)).Settles offspring
      (now.report level text code) := settles_next ⟨.refl _, rfl, rfl, rfl⟩
  exact settles.carriesOut ⟨(now.scope.kept_report _).onward, rfl, running, fun _ => rfl⟩

theorem carriesOut_abort {fault : Fault} (kept : now.scope.machine.Kept later.scope.machine)
    (own : now.scope.machine.Orderly → fault.IsOwn ∨ escapes fault) :
    (later.abort fault).CarriesOut script offspring escapes now :=
  ⟨kept, fault, rfl, own⟩

end Step

namespace State

variable {script : Script} {escapes : Fault → Prop} {now state after : State}

def starterFailure (state : State) (waiting : Suspended) (exception : Exception) : Failure :=
  let scope : Scope := ⟨state.scope.machine, waiting.frame state.scope.frame⟩
  scope.failure .general s!"{waiting.keyword} failed: {exception.message}" .internal

theorem lineFault_alone {exception : Exception} (alone : now.suspended = []) :
    now.lineFault (.exception exception) = now.abort (.exception exception) := by
  unfold lineFault
  rw [alone]

theorem lineFault_waits {exception : Exception} {waiting : Suspended} {rest : List Suspended}
    (waits : now.suspended = waiting :: rest) :
    ∃ line note, now.lineFault (.exception exception) =
      (now.onMachine fun machine => machine.report line note).abort
        (.failure (now.starterFailure waiting exception)) := by
  unfold lineFault
  rw [waits]
  exact ⟨_, _, rfl⟩

theorem lineFault_own {fault : Fault} (own : fault.IsOwn) :
    now.lineFault fault = now.abort fault := by
  cases fault with
  | failure failure => rfl
  | halt code => rfl
  | _ => exact own.elim

theorem carriesOut_lineFault {offspring : Offspring} {exception : Exception}
    (kept : now.scope.machine.Kept state.scope.machine)
    (escaped : state.suspended = [] → now.scope.machine.Orderly → escapes (.exception exception)) :
    (state.lineFault (.exception exception)).CarriesOut script offspring escapes now := by
  cases waits : state.suspended with
  | nil =>
      rw [lineFault_alone waits]
      exact Step.carriesOut_abort kept fun orderly => .inr (escaped waits orderly)
  | cons waiting rest =>
      obtain ⟨line, note, failed⟩ := lineFault_waits waits
      rw [failed]
      exact Step.carriesOut_abort (kept.trans (Machine.kept_report _ _ _)) fun _ => .inl trivial

theorem Meets.offspring {line : Line} {spec : Spec Meaning} {args : List String} {scope : Scope}
    (met : now.Meets line spec args scope) :
    now.scope.machine.offspring line.keyword (piecesOf line.tokens).length =
      spec.action.offspring args.length := by
  have keeps : Keeps (fun _ => False) (Reference.resolveAll (piecesOf line.tokens)) :=
    Reference.keeps_resolveAll _
  rw [← (keeps.ok met.resolved).machine.offspring, ← Reference.length_resolveAll met.resolved,
    Machine.offspring, met.found]

theorem carriesOut_performed (now : State) {line : Line} {spec : Spec Meaning}
    {args : List String} {scope : Scope} {flow : Flow} (running : now.control = .running)
    (supplied : spec.action.Supplied args)
    (performed : now.performed script line spec args now.scope = .ok flow scope) :
    (follow script spec.name flow { now with scope }).CarriesOut script
      (spec.action.offspring args.length) escapes now := by
  have onward : now.scope.Onward script scope := by
    rcases (Meaning.perform_ok supplied performed).2 with kept | ⟨-, onward⟩
    · exact kept.onward
    · exact onward
  exact Step.Settles.carriesOut
    (settles_follow spec.name (Meaning.suits_perform supplied performed) running)
    ⟨onward, rfl, running,
      fun starts => ((Meaning.starts_iff.mp starts).looks supplied).ok performed⟩

theorem carriesOut_failed (now : State) {line : Line} {spec : Spec Meaning}
    {args : List String} {scope : Scope} {fault : Fault} (running : now.control = .running)
    (supplied : spec.action.Supplied args)
    (performed : now.performed script line spec args now.scope = .error fault scope) :
    (instructionFault { now with scope } spec.name (Meaning.exceptionCode spec.origin)
      fault).CarriesOut script (spec.action.offspring args.length) escapes now := by
  obtain ⟨kept, arises⟩ := Meaning.perform_raised supplied performed
  -- An interruption ends the run as it is; other faults become failures of the instruction.
  by_cases stopped : fault = .interrupted
  · rw [stopped] at arises ⊢
    exact Step.carriesOut_abort kept.machine fun orderly => absurd rfl
      (arises.not_interrupted orderly fun _ => Meaning.not_interrupted_of_fails)
  have settles : (instructionFault { now with scope } spec.name (Meaning.exceptionCode spec.origin)
      fault).Settles (spec.action.offspring args.length) { now with scope } :=
    settles_instructionFault _ _ running (.refl _) rfl fun _ => stopped
  exact settles.carriesOut ⟨kept.onward, rfl, running,
    fun starts => ((Meaning.starts_iff.mp starts).looks supplied).error performed⟩

theorem carriesOut_execute (now : State) (line : Line) (running : now.control = .running)
    (tokens : line.tokens ≠ [])
    (refused : ∀ limit exception last, now.suspended = [] →
      now.scope.machine.settings.maxArgs = some limit →
      pieces? limit line.tokens = .ok (piecesOf line.tokens) →
      Reference.resolveAll (piecesOf line.tokens) now.scope = .error (.exception exception) last →
      escapes (.exception exception)) :
    (now.execute script line).CarriesOut script
      (now.scope.machine.offspring line.keyword (piecesOf line.tokens).length) escapes now := by
  have keeps : Keeps (fun _ => False) (Reference.resolveAll (piecesOf line.tokens)) :=
    Reference.keeps_resolveAll _
  have looks : Looks (Reference.resolveAll (piecesOf line.tokens)) :=
    Reference.looks_resolveAll _
  -- What holds of the state in which the arguments have been read holds of the one before.
  have later {offspring : Offspring} {args : List String} {scope : Scope} {step : Step}
      (resolved : Reference.resolveAll (piecesOf line.tokens) now.scope = .ok args scope)
      (carries : step.CarriesOut script offspring escapes { now with scope }) :
      step.CarriesOut script offspring escapes now :=
    carries.after (keeps.ok resolved) ⟨(keeps.ok resolved).machine, looks.ok resolved, rfl, rfl⟩
  cases now.execution script line with
  | unlimited unset execute =>
      rw [execute]
      exact carriesOut_lineFault (.refl _) fun _ orderly => absurd unset orderly.maxArgs
  | excess limited execute =>
      rw [execute]
      exact Step.carriesOut_report running _ _ _
  | @unread fault scope allowed resolved execute =>
      rw [execute]
      obtain ⟨kept, arises⟩ := keeps.raised resolved
      cases arises.unread.resolve_left id with
      | interrupted interrupt =>
          exact Step.carriesOut_abort kept.machine fun orderly => absurd interrupt orderly.replies
      | own own =>
          rw [lineFault_own own]
          exact Step.carriesOut_abort kept.machine fun _ => .inl own
      | @exception exception denies =>
          obtain ⟨limit, limited⟩ := allowed.limited_of_error resolved
          exact carriesOut_lineFault kept.machine fun alone _ =>
            refused limit exception scope alone limited (allowed.fits limited) resolved
  | unnamed allowed resolved named execute => exact absurd named tokens
  | unknown allowed resolved unknown execute =>
      rw [execute]
      exact later resolved (Step.carriesOut_abort (Machine.kept_report _ _ _) fun _ => .inl trivial)
  | @unsupplied args scope spec problem allowed resolved found fails execute =>
      rw [execute]
      exact later resolved (Step.carriesOut_report (by exact running) _ _ _)
  | performs met performed execute =>
      rw [execute, met.offspring]
      exact later met.resolved (carriesOut_performed _ running
        (Machine.lookup?_supplied met.found met.supplied) performed)
  | fails met performed execute =>
      rw [execute, met.offspring]
      exact later met.resolved (carriesOut_failed _ running
        (Machine.lookup?_supplied met.found met.supplied) performed)

end State

/-! ## One step -/

namespace State

variable {script : Script} {state after : State}

theorem told_outlasts {property : Machine → Prop} (outlasts : Machine.Outlasts property)
    (holds : property state.scope.machine) (text : String) :
    property (state.told text).scope.machine := by
  have recorded : property (state.recorded text).scope.machine := by
    unfold State.recorded record
    dsimp only
    split
    · exact outlasts.trace _ holds
    · exact holds
  exact outlasts.announce recorded _ _

theorem same_told (state : State) (text : String) :
    (state.onLine text).Same (state.told text) := by
  rw [told_eq]
  exact ⟨state.kept_announced text, rfl, rfl, rfl⟩

noncomputable def offspring (script : Script) (state : State) : Offspring :=
  match state.control, (state.scope.frame.cursor.read script).text with
  | .running, some text =>
      if LineText.isInstruction text then
        state.scope.machine.offspring (LineText.keyword text) (LineText.pieces text).length
      else .none
  | _, _ => .none

/-- The arguments of the next line are read. -/
structure Executes (script : Script) (state : State) (source : String) : Prop where
  running : state.control = .running
  found : script.line? (state.scope.frame.cursor.line + 1) = some source
  executed : LineText.isInstruction source = true
  silent : (state.announced source).2 = none
  fits : ∃ limit, state.scope.machine.settings.maxArgs = some limit ∧
    pieces? limit (tokenize source) = .ok (LineText.pieces source)

/-- Reading the arguments of the next line ends with an exception. -/
structure RefusesArgument (script : Script) (state : State) (source : String)
    (exception : Exception) : Prop extends Executes script state source where
  refused : ∃ last, Reference.resolveAll (LineText.pieces source) (state.told source).scope =
    .error (.exception exception) last

end State

def Suspended.offspring : Suspended → Offspring
  | caller _ _ => .own
  | owner _ _ => .shared

inductive Passage (script : Script) (before after : State) : Prop where
  | idles (running : before.control = .running) (quiet : before.offspring script = .none)
      (machine : after.scope.machine = before.scope.machine)
      (suspended : after.suspended = before.suspended)
      (frame : after.scope.frame =
        { before.scope.frame with cursor := before.scope.frame.cursor.read script })
  | directs {text : String} (running : before.control = .running)
      (quiet : before.offspring script = .none)
      (found : script.line? (before.scope.frame.cursor.line + 1) = some text)
      (filled : isSkippable text = false) (directive : isDirective text = true)
      (machine : after.scope.machine = Directive.apply before.scope.machine
        ((before.scope.frame.cursor.line + 1 : Nat)) text)
      (suspended : after.suspended = before.suspended)
      (frame : after.scope.frame =
        { before.scope.frame with cursor := before.scope.frame.cursor.read script })
  | executes (now : State) (running : before.control = .running)
      (machine : before.scope.machine.Kept now.scope.machine)
      (suspended : now.suspended = before.suspended)
      (frame : now.scope.frame =
        { before.scope.frame with cursor := before.scope.frame.cursor.read script })
      (carries : (Step.next after).CarriesOut script (before.offspring script) (fun _ => False) now)
  | returns (now : State) {waiting : Suspended} {signal : Signal}
      (leaving : before.control = .leaving signal)
      (waits : before.suspended = waiting :: now.suspended) (ready : now.control = .running)
      (machine : before.scope.machine.Kept now.scope.machine)
      (frame : now.scope.frame = waiting.frame before.scope.frame)
      (settles : (Step.next after).Settles waiting.offspring now)

inductive Halts (script : Script) (before : State) : Ending → Prop where
  | finished {signal : Signal} (leaving : before.control = .leaving signal)
      (alone : before.suspended = []) : Halts script before (.finished (some signal))
  | own {fault : Fault} (own : fault.IsOwn) : Halts script before (.failed fault)
  | escapes {source : String} {exception : Exception} (alone : before.suspended = [])
      (refuses : before.RefusesArgument script source exception) :
      Halts script before (.failed (.exception exception))

def Step.Passes (script : Script) (before : State) : Step → Prop
  | .next after => Passage script before after
  | .stop ending last => before.scope.machine.Kept last.scope.machine ∧
      (before.scope.machine.Orderly → Halts script before ending)

namespace State

variable {script : Script} {state after : State}

theorem passes_handOver {signal : Signal} (leaving : state.control = .leaving signal) :
    (state.handOver script signal).Passes script state := by
  cases waits : state.suspended with
  | nil =>
      rw [handOver_alone waits]
      exact ⟨.refl _, fun _ => .finished leaving waits⟩
  | cons waiting rest =>
      -- The frame below takes over, and what it does next leaves its variables alone.
      have taken (value : String) : (state.below waiting rest).Same
          ((state.below waiting rest).keepReturned value) := same_keepReturned _ value
      have settled : (state.handOver script signal).Settles waiting.offspring
          (state.below waiting rest) := by
        match waiting with
        | .caller frame (.call keyword) =>
            rw [handOver_call waits]
            exact Step.settles_next (taken _)
        | .caller frame (.pass loop) =>
            rw [handOver_pass waits]
            exact Step.Settles.after (settles_afterPass loop signal rfl) (taken _)
        | .owner cursor loop =>
            rw [handOver_body waits]
            exact settles_afterBody loop signal rfl
      cases stepped : state.handOver script signal with
      | next after =>
          rw [stepped] at settled
          exact .returns (state.below waiting rest) leaving waits rfl (.refl _) rfl settled
      | stop ending last =>
          rw [stepped] at settled
          obtain ⟨kept, fault, rfl, own⟩ := settled
          exact ⟨kept, fun orderly => .own (own orderly)⟩

theorem offspring_line {text : String} (running : state.control = .running)
    (found : script.line? (state.scope.frame.cursor.line + 1) = some text)
    (executed : LineText.isInstruction text = true) :
    state.offspring script = state.scope.machine.offspring (LineText.keyword text)
      (LineText.pieces text).length := by
  unfold State.offspring
  rw [running, read_line found]
  exact if_pos executed

theorem passes_instruction {text : String} (running : state.control = .running)
    (found : script.line? (state.scope.frame.cursor.line + 1) = some text)
    (executed : LineText.isInstruction text = true) :
    (state.advance script).Passes script state := by
  have same := state.same_told text
  have read := read_line found
  cases heard : (state.announced text).2 with
  | some fault =>
      rw [advance_refused found executed heard]
      exact ⟨same.machine, fun _ => .own (Machine.isOwn_callHandlers heard)⟩
  | none =>
      rw [advance_told found executed heard]
      let escapes (fault : Fault) : Prop := Halts script state (.failed fault)
      generalize lined : Line.ofText (state.scope.frame.cursor.line + 1) text = line
      have tokens : line.tokens = tokenize text := by rw [← lined, Line.ofText]
      -- What the line starts is read off before it is announced, and announcing changes no entry.
      have starts : state.offspring script = (state.told text).scope.machine.offspring
          line.keyword (piecesOf line.tokens).length := by
        have kept : state.scope.machine.Kept (state.told text).scope.machine := same.machine
        rw [offspring_line running found executed, kept.offspring, Line.keyword, tokens]
        rfl
      have carries : ((state.told text).execute script line).CarriesOut script
          (state.offspring script) escapes (state.told text) := by
        rw [starts]
        refine carriesOut_execute (state.told text) line (same.control.trans running) ?_ ?_
        · rw [tokens]
          exact LineText.tokenize_ne_nil executed
        · intro limit exception last alone limited fits failed
          rw [tokens] at fits failed
          rw [same.machine.settings] at limited
          exact .escapes (same.suspended.symm.trans alone)
            ⟨⟨running, found, executed, heard, limit, limited, fits⟩, last, failed⟩
      cases stepped : (state.told text).execute script line with
      | next after =>
          rw [stepped] at carries
          refine .executes (state.told text) running same.machine same.suspended ?_ carries
          rw [same.frame, read]
          rfl
      | stop ending last =>
          rw [stepped] at carries
          obtain ⟨kept, fault, rfl, own⟩ := carries
          refine ⟨same.machine.trans kept, fun orderly => ?_⟩
          rcases own (same.machine.orderly orderly) with own | escaped
          · exact .own own
          · exact escaped

theorem passes_advance (running : state.control = .running) :
    (state.advance script).Passes script state := by
  cases state.advances script with
  | ends last advance =>
      have quiet : state.offspring script = .none := by
        rw [offspring, running, read_end last]
      rw [advance]
      refine .idles running quiet rfl rfl ?_
      rw [read_end last]
      rfl
  | executes found executed => exact passes_instruction running found executed
  | skips found other advance =>
      have quiet : state.offspring script = .none := by
        rw [offspring, running, read_line found]
        exact if_neg (by simp [other])
      rw [advance]
      refine .idles running quiet rfl rfl ?_
      rw [read_line found]
      rfl
  | @directs text found other filled directive advance =>
      have quiet : state.offspring script = .none := by
        rw [offspring, running, read_line found]
        exact if_neg (by simp [other])
      have frame : (state.onLine text).scope.frame =
          { state.scope.frame with cursor := state.scope.frame.cursor.read script } := by
        rw [read_line found]
        rfl
      rw [advance]
      exact Passage.directs running quiet found filled directive
        (by dsimp only [onMachine, onLine, moveTo]) (by dsimp only [onMachine, onLine, moveTo]) frame

theorem passes_step (script : Script) (whole : state.oneLine = false) :
    (state.step script).Passes script state := by
  unfold step
  cases control : state.control with
  | leaving signal => exact passes_handOver control
  | running =>
      rw [whole]
      exact passes_advance control

end State

theorem Program.Reaches.passage {script : Script} {entry : String} {machine : Machine}
    {state after : State} (reached : Reaches script entry machine state)
    (stepped : state.step script = .next after) : Passage script state after := by
  have passes := State.passes_step script reached.inPlace.whole
  rwa [stepped] at passes

/-! ## What lasts through a program -/

/-- The property of machines stays while a program runs: neither an instruction nor a directive
ends it. -/
structure Machine.Endures (property : Machine → Prop) : Prop where
  kept : ∀ {before after : Machine}, before.Kept after → property before → property after
  directive : ∀ {machine : Machine} (line : Int) (text : String), property machine →
    property (Directive.apply machine line text)

/-- Besides, the property has nothing to do with the frames that programs leave. -/
structure Machine.Lasts (property : Machine → Prop) : Prop extends Machine.Endures property where
  frames : ∀ {machine : Machine} (frames : List Activation), property machine →
    property { machine with frames }

namespace Machine.Endures

variable {property : Machine → Prop} {script : Script} {entry : String} {machine : Machine}

theorem opened (endures : Machine.Endures property) (holds : property machine.unwound)
    (script : Script) (line : Nat) : property (machine.opened script line) :=
  Directive.applyLines_keeps property (fun line text => endures.directive line text) holds _ _

theorem announce (endures : Machine.Endures property) (holds : property machine) (line : Nat)
    (detail : EventDetail) : property (machine.announce line detail).1 :=
  endures.kept (kept_callHandlers _ _ _ _) holds

theorem passage (endures : Machine.Endures property) {before after : State}
    (holds : property before.scope.machine) (passage : Passage script before after) :
    property after.scope.machine := by
  cases passage with
  | idles running quiet machine => exact machine ▸ holds
  | directs running quiet found filled directive machine =>
      exact machine ▸ endures.directive _ _ holds
  | executes now running kept suspended frame carries =>
      obtain ⟨performed, performs, settled⟩ := carries
      exact endures.kept ((kept.trans performs.scope.machine).trans settled.1) holds
  | returns now leaving waits ready kept frame settled =>
      exact endures.kept (kept.trans settled.1) holds

theorem reaches (endures : Machine.Endures property) (holds : property machine.unwound)
    {state : State} (reached : Program.Reaches script entry machine state) :
    property state.scope.machine := by
  induction reached with
  | @start first started =>
      have begins := Program.begins script entry machine
      rw [started] at begins
      cases begins with
      | @runs line told found heard room =>
          have begun := endures.announce (endures.opened holds script line) 0 (.start entry)
          rwa [heard] at begun
  | step reached stepped ih => exact endures.passage ih (reached.passage stepped)

end Machine.Endures

namespace Machine.Lasts

variable {property : Machine → Prop} {script : Script} {entry : String} {machine : Machine}

theorem outlasts (lasts : Machine.Lasts property) : Machine.Outlasts property where
  report line note holds := lasts.kept (kept_report _ line note) holds
  events looks events holds := lasts.kept (kept_events _ looks events) holds
  trace trace holds := lasts.kept (kept_trace _ trace) holds
  directive := lasts.directive
  frames := lasts.frames

theorem reaches (lasts : Machine.Lasts property) (holds : property machine) {state : State}
    (reached : Program.Reaches script entry machine state) : property state.scope.machine :=
  lasts.toEndures.reaches (lasts.frames [] holds) reached

theorem run (lasts : Machine.Lasts property) (holds : property machine) {fuel : Nat}
    {run : ProgramRun} (ended : Program.run script entry machine fuel = some run) :
    property run.machine := by
  cases Program.concludes_of_run ended with
  | early started =>
      have begun := lasts.outlasts.start holds script entry
      rwa [started] at begun
  | @late state last ending reached stopped =>
      have passes := State.passes_step script reached.inPlace.whole
      rw [stopped] at passes
      exact lasts.outlasts.close (lasts.kept passes.1 (lasts.reaches holds reached)) ending

end Machine.Lasts

theorem Machine.lasts_settings (settings : Settings) :
    Lasts fun machine => machine.settings = settings where
  kept kept same := kept.settings.trans same
  directive line text same := by
    unfold Directive.apply
    split <;> exact same
  frames frames same := same

theorem Machine.endures_frames (frames : List Activation) :
    Endures fun machine => machine.frames = frames where
  kept kept same := kept.frames.trans same
  directive line text same := by
    unfold Directive.apply
    split <;> exact same

/-! ## The frames that a program leaves -/

namespace Program

variable {script : Script} {entry : String} {machine : Machine} {state : State}

theorem Reaches.frames (reached : Reaches script entry machine state) :
    state.scope.machine.frames = [] :=
  (Machine.endures_frames []).reaches rfl reached

theorem frames_closeFault (machine : Machine) (left : List Activation) (locals : Locals)
    (fault : Fault) : (closeFault machine left locals fault).machine.frames = left := by
  cases fault <;> rfl

theorem frames_closeSignal (machine : Machine) (locals : Locals) (signal : Signal) :
    (closeSignal machine locals signal).machine.frames = machine.frames := by
  have told : (machine.announce 0 (.finish signal.value)).1.frames = machine.frames :=
    (Machine.kept_callHandlers _ _ _ _).frames
  unfold closeSignal
  split
  · next heard => rwa [heard] at told
  · next heard => rwa [heard] at told

theorem left_closeSignal (machine : Machine) (locals : Locals) (signal : Signal) :
    (closeSignal machine locals signal).left = [] := by
  unfold closeSignal
  split <;> rfl

/-- A program leaves its frames with the machine. -/
theorem frames_of_run {fuel : Nat} {run : ProgramRun}
    (ended : Program.run script entry machine fuel = some run) : run.machine.frames = run.left := by
  have endures := Machine.endures_frames []
  have opened (line : Nat) :
      ((machine.opened script line).announce 0 (.start entry)).1.frames = [] :=
    endures.announce (endures.opened rfl script line) 0 (.start entry)
  cases concludes_of_run ended with
  | early started =>
      have begins := begins script entry machine
      rw [started] at begins
      cases begins with
      | missing absent => rfl
      | @refused line _ _ found heard =>
          have told := opened line
          rwa [heard] at told
      | tooDeep found heard deep => exact frames_closeFault _ _ _ _
  | @late state last ending reached stopped =>
      cases ending with
      | failed fault => exact frames_closeFault _ _ _ _
      | finished signal =>
          have passes := State.passes_step script reached.inPlace.whole
          rw [stopped] at passes
          change (closeSignal _ _ _).machine.frames = (closeSignal _ _ _).left
          rw [frames_closeSignal, left_closeSignal, passes.1.frames, reached.frames]

end Program

end LineScript

import LineScript.Proofs.Remark
import LineScript.Proofs.Settling
import LineScript.Proofs.Stack

/-!
What a step has to say, and how it stops. Every message of a step is a remark about the line that the
acting frame is at, or says that a definition is missing. A step that stops with a failure has
reported it last, unless an extension is the cause. The other faults are not reported as such: halts,
interruptions, and exceptions that arise before the instruction of a line is known.
-/

namespace LineScript

open LineScript.Action

/-! ## What is said -/

/-- The message says that there is no definition of some name. It is about no line. -/
def Message.Misses (script : Script) (message : Message) : Prop :=
  ∃ entry, script.entryLine? entry = none ∧
    message = ⟨.error, 0, Effect.entryMissing entry, Code.entryPointNotFound.number⟩

/-- All that has been said since is about the line, or that definitions are missing, and no hook has
been told anything. The codes that are kept for failures are only used by extensions. -/
structure Machine.Tells (script : Script) (line : Nat) (before after : Machine) : Prop where
  log : before.log.Gains
    (fun message => message.Speaks before.services.Reports line ∨ message.Misses script)
    after.log
  events : after.events = before.events
  services : after.services = before.services

namespace Machine

variable {script : Script} {line : Nat} {first second third machine : Machine}

theorem tells_silent (log : second.log = first.log) (events : second.events = first.events)
    (services : second.services = first.services) : first.Tells script line second :=
  ⟨log ▸ .refl _, events, services⟩

theorem Tells.refl (machine : Machine) : machine.Tells script line machine :=
  tells_silent rfl rfl rfl

theorem Tells.trans (early : first.Tells script line second)
    (late : second.Tells script line third) : first.Tells script line third :=
  ⟨early.log.trans (early.services ▸ late.log), late.events.trans early.events,
    late.services.trans early.services⟩

theorem tells_report {note : Note} (calm : note.code.endsRun = false) :
    machine.Tells script line (machine.report line note) :=
  ⟨.emit (.inl (Message.Remarks.speaks ⟨note, calm, rfl⟩)), rfl, rfl⟩

theorem tells_missing {entry : String} (missing : script.entryLine? entry = none) :
    machine.Tells script line
      (machine.report 0 ⟨.error, Effect.entryMissing entry, .entryPointNotFound⟩) :=
  ⟨.emit (.inr ⟨entry, missing, rfl⟩), rfl, rfl⟩

end Machine

theorem Scope.Speaks.tells {voiced : Note → Prop} {script : Script} {before after : Scope}
    (speaks : before.Speaks voiced after) (kept : before.machine.Kept after.machine)
    (known : ∀ note, voiced note → before.machine.services.Reports note) :
    before.machine.Tells script before.frame.cursor.line after.machine :=
  ⟨(speaks.weaken known).log.weaken fun _ => .inl, speaks.events, kept.services⟩

theorem Scope.Remarks.tells {script : Script} {before after : Scope}
    (remarks : before.Remarks after) (kept : before.Kept after) :
    before.machine.Tells script before.frame.cursor.line after.machine :=
  remarks.speaks.tells kept.machine fun _ => id

theorem Directive.tells_apply (script : Script) (machine : Machine) (line : Nat) (text : String) :
    machine.Tells script line (Directive.apply machine line text) := by
  have extended (enabled : Bool) (note : Note) (calm : note.code.endsRun = false) :
      machine.Tells script line ((machine.setExtended enabled).report line note) := by
    have switched : machine.Tells script line (machine.setExtended enabled) :=
      Machine.tells_silent rfl rfl rfl
    exact switched.trans (Machine.tells_report calm)
  have graphics (enabled : Bool) (note : Note) (calm : note.code.endsRun = false) :
      machine.Tells script line ((machine.setGraphics enabled).report line note) := by
    have switched : machine.Tells script line (machine.setGraphics enabled) :=
      Machine.tells_silent rfl rfl rfl
    exact switched.trans (Machine.tells_report calm)
  unfold Directive.apply
  split
  · exact extended true _ rfl
  · exact extended false _ rfl
  · exact graphics true _ rfl
  · exact graphics false _ rfl
  · exact Machine.tells_report rfl

/-! ## How a step stops -/

namespace State

/-- Nothing has happened in the innermost frame but that something has been said. -/
structure Tells (script : Script) (now later : State) : Prop where
  kept : now.scope.machine.Kept later.scope.machine
  said : now.scope.machine.Tells script now.scope.frame.cursor.line later.scope.machine
  cursor : later.scope.frame.cursor = now.scope.frame.cursor
  entry : later.scope.frame.entry = now.scope.frame.entry
  suspended : later.suspended = now.suspended

inductive Unreported (script : Script) (now : State) : Fault → Prop where
  | halted (code : String) : Unreported script now (.halt code)
  | interrupted (interrupt : .interrupt ∈ now.scope.machine.console.replies) :
      Unreported script now .interrupted
  | unlimited (maxDepth : now.scope.machine.settings.maxDepth = none) :
      Unreported script now (.exception .incomparable)
  | foreign (failure : Failure) (makes : now.scope.machine.MakesFailures) :
      Unreported script now (.failure failure)
  | undefined (failure : Failure) (missing : script.entryLine? now.scope.frame.entry = none) :
      Unreported script now (.failure failure)

/-- How a step stops in a frame. The exceptions that can arise before the instruction of a line is
known are a parameter. -/
inductive Stops (script : Script) (early : Exception → Prop) (now last : State) : Fault → Prop where
  | reported (kind : FailureKind) (message : String) {code : Code} {before : Machine}
      (grave : code.endsRun = true)
      (said : now.scope.machine.Tells script now.scope.frame.cursor.line before)
      (report : last.scope.machine =
        before.report now.scope.frame.cursor.line ⟨.error, message, code⟩)
      (cursor : last.scope.frame.cursor = now.scope.frame.cursor) :
      Stops script early now last (.failure (last.scope.failure kind message code))
  | silent {fault : Fault}
      (said : now.scope.machine.Tells script now.scope.frame.cursor.line last.scope.machine)
      (unreported : now.Unreported script fault) : Stops script early now last fault
  | early {exception : Exception} {fault : Fault} (arises : early exception)
      (place : now.suspended = [] ∧ fault = .exception exception ∨
        ∃ failure, fault = .failure failure) : Stops script early now last fault

variable {script : Script} {early : Exception → Prop} {now later : State}

theorem Unreported.before {fault : Fault} (unreported : later.Unreported script fault)
    (told : now.Tells script later) : now.Unreported script fault := by
  cases unreported with
  | halted code => exact .halted code
  | interrupted interrupt => exact .interrupted (told.kept.replies.subset interrupt)
  | unlimited maxDepth => exact .unlimited (told.kept.settings ▸ maxDepth)
  | foreign failure makes =>
      exact .foreign failure (told.kept.makesFailures makes)
  | undefined failure missing => exact .undefined failure (told.entry ▸ missing)

end State

def Step.Tells (script : Script) (early : Exception → Prop) (now : State) : Step → Prop
  | .next after =>
      now.scope.machine.Tells script now.scope.frame.cursor.line after.scope.machine
  | .stop ending last => ∃ fault, ending = .failed fault ∧ now.Stops script early last fault

namespace Step

variable {script : Script} {early : Exception → Prop} {now later : State} {step : Step}

theorem Tells.after (tells : step.Tells script early later) (told : now.Tells script later) :
    step.Tells script early now := by
  have joined {machine : Machine}
      (said : later.scope.machine.Tells script later.scope.frame.cursor.line machine) :
      now.scope.machine.Tells script now.scope.frame.cursor.line machine :=
    told.said.trans (told.cursor ▸ said)
  cases step with
  | next after => exact joined tells
  | stop ending last =>
      obtain ⟨fault, failed, stops⟩ := tells
      refine ⟨fault, failed, ?_⟩
      cases stops with
      | reported kind message grave said report cursor =>
          exact .reported kind message grave (joined said) (told.cursor ▸ report)
            (cursor.trans told.cursor)
      | silent said unreported => exact .silent (joined said) (unreported.before told)
      | early arises place => exact .early arises (told.suspended ▸ place)

theorem Tells.weaken {fewer : Exception → Prop} (tells : step.Tells script fewer now)
    (included : ∀ exception, fewer exception → early exception) :
    step.Tells script early now := by
  cases step with
  | next after => exact tells
  | stop ending last =>
      obtain ⟨fault, failed, stops⟩ := tells
      refine ⟨fault, failed, ?_⟩
      cases stops with
      | reported kind message grave said report cursor =>
          exact .reported kind message grave said report cursor
      | silent said unreported => exact .silent said unreported
      | early arises place => exact .early (included _ arises) place

theorem tells_silent {fault : Fault}
    (said : now.scope.machine.Tells script now.scope.frame.cursor.line later.scope.machine)
    (unreported : now.Unreported script fault) : (later.abort fault).Tells script early now :=
  ⟨fault, rfl, .silent said unreported⟩

end Step

/-! ## Starting frames and going on with loops -/

namespace State

variable {script : Script} {early : Exception → Prop} {now : State}

theorem tells_scope {scope : Scope} (kept : now.scope.Kept scope)
    (remarks : now.scope.Remarks scope) : now.Tells script { now with scope } :=
  ⟨kept.machine, remarks.tells kept, remarks.cursor, kept.entry, rfl⟩

theorem tells_report (level : Level) (text : String) {code : Code} (calm : code.endsRun = false) :
    now.Tells script (now.report level text code) :=
  tells_scope (now.scope.kept_report _) (now.scope.remarks_report calm)

theorem tells_reportMissing {entry : String} (missing : script.entryLine? entry = none) :
    now.Tells script (now.reportMissing entry) :=
  ⟨Machine.kept_report _ _ _, Machine.tells_missing missing, rfl, rfl, rfl⟩

theorem tells_keepReturned (value : String) : now.Tells script (now.keepReturned value) :=
  ⟨⟨rfl, rfl, rfl, rfl, rfl, rfl, rfl, List.suffix_rfl⟩, Machine.tells_silent rfl rfl rfl, rfl, rfl,
    rfl⟩

theorem Tells.trans {first second third : State} (early : first.Tells script second)
    (late : second.Tells script third) : first.Tells script third :=
  ⟨early.kept.trans late.kept, early.said.trans (early.cursor ▸ late.said),
    late.cursor.trans early.cursor, late.entry.trans early.entry,
    late.suspended.trans early.suspended⟩

theorem currentLine_whole (whole : now.oneLine = false) :
    now.currentLine = now.scope.frame.cursor.line := by
  unfold currentLine
  rw [whole]
  rfl

theorem tells_enter (whole : now.oneLine = false) (frame : Frame) (waiting : Suspended) :
    (now.enter frame waiting).Tells script early now := by
  unfold enter Machine.checkDepth
  rw [currentLine_whole whole]
  cases limited : now.scope.machine.settings.maxDepth with
  | none => exact Step.tells_silent (.refl _) (.unlimited limited)
  | some limit =>
      dsimp only
      by_cases deep : limit ≤ (now.depth : Int)
      · rw [if_pos deep]
        exact Step.tells_silent (Machine.tells_report rfl) (.halted _)
      · rw [if_neg deep]
        exact Machine.Tells.refl _

theorem tells_call (whole : now.oneLine = false) (keyword entry : String) (args : List String) :
    (now.call script keyword entry args).Tells script early now := by
  unfold call
  cases found : script.entryLine? entry with
  | none => exact ((tells_reportMissing found).trans (tells_keepReturned nullText)).said
  | some line => exact tells_enter whole _ _

theorem tells_startPass (whole : now.oneLine = false) (loop : ExternalLoop) :
    (now.startPass script loop).Tells script early now := by
  unfold startPass
  cases found : script.entryLine? loop.body with
  | none => exact ((tells_reportMissing found).trans (tells_report _ _ rfl)).said
  | some line => exact tells_enter whole _ _

theorem tells_instructionFault {voiced : Note → Prop} {makes : Prop} {scope : Scope} {fault : Fault}
    (name : String) {code : Code} (grave : code.endsRun = true) (kept : now.scope.Kept scope)
    (breaks : now.scope.Breaks voiced makes scope fault)
    (interrupts : fault = .interrupted → .interrupt ∈ now.scope.machine.console.replies)
    (reports : ∀ note, voiced note → now.scope.machine.services.Reports note)
    (made : makes → now.scope.machine.services.MakesFailures) :
    (instructionFault { now with scope } name code fault).Tells script early now := by
  cases breaks with
  | reported kind message grave =>
      exact ⟨_, rfl, .reported kind message grave (.refl _) rfl rfl⟩
  | spoken speaks known =>
      have said : now.scope.machine.Tells script now.scope.frame.cursor.line scope.machine :=
        speaks.tells kept.machine reports
      cases fault with
      | exception exception =>
          refine ⟨_, rfl, .reported .general _ grave said ?_ speaks.cursor⟩
          dsimp only [Scope.reportFailure, Scope.report]
          rw [speaks.cursor]
      | unreadable text =>
          exact (speaks.trans (scope.remarks_report rfl).speaks).tells
            (kept.trans (scope.kept_report _)).machine reports
      | failure failure =>
          have source := (known failure rfl).elim (.inl ∘ made) id
          exact Step.tells_silent said (.foreign failure source)
      | halt code => exact Step.tells_silent said (.halted code)
      | interrupted => exact Step.tells_silent said (.interrupted (interrupts rfl))

theorem tells_condition {kind : LoopKind} {external : Bool} {header : List Piece} {scope : Scope}
    {fault : Fault} (failed : kind.condition external header now.scope = .error fault scope) :
    (instructionFault { now with scope } kind.keyword .internal fault).Tells script early now := by
  have keeps : Keeps (fun _ => False) (kind.condition external header) :=
    LoopKind.keeps_condition external header
  obtain ⟨kept, arises⟩ := keeps.raised failed
  have breaks : now.scope.Breaks (fun _ => False) False scope fault := by
    refine .spoken ((LoopKind.remarks_condition external header).error failed).speaks ?_
    rintro failure rfl
    exact .inr (arises.makesFailures id)
  refine tells_instructionFault kind.keyword rfl kept breaks ?_ nofun nofun
  rintro rfl
  exact arises.interrupt id

theorem tells_checked {kind : LoopKind} {external holds : Bool} {header : List Piece}
    {scope : Scope} (checked : kind.condition external header now.scope = .ok holds scope) :
    now.Tells script { now with scope } := by
  have keeps : Keeps (fun _ => False) (kind.condition external header) :=
    LoopKind.keeps_condition external header
  exact tells_scope (keeps.ok checked) ((LoopKind.remarks_condition external header).ok checked)

theorem tells_continueExternal (whole : now.oneLine = false) (loop : ExternalLoop) :
    (now.continueExternal script loop).Tells script early now := by
  unfold continueExternal
  split
  · exact Machine.Tells.refl _
  · exact tells_startPass whole _
  · split
    · next scope checked =>
        have passes : (startPass script loop { now with scope }).Tells script early
            { now with scope } := tells_startPass (by exact whole) loop
        exact passes.after (tells_checked checked)
    · next scope checked => exact (tells_checked checked).said
    · next fault scope failed => exact tells_condition failed

theorem tells_startBody (whole : now.oneLine = false) (loop : InlineLoop) :
    (now.startBody script loop).Tells script early now :=
  tells_enter whole _ _

theorem tells_leaveLoop (loop : InlineLoop) (endLine : Option Nat) :
    (now.leaveLoop script loop endLine).Tells script early now := by
  cases leavesLoop script now loop endLine with
  | moves forward place left =>
      rw [left]
      exact Machine.Tells.refl _
  | @backward target place above left =>
      have breaks : now.scope.Breaks (fun _ => False) False now.scope (.exception (.backwardMove
          ⟨now.scope.frame.cursor.line, target⟩)) :=
        .spoken (Scope.Remarks.refl _).speaks nofun
      rw [left]
      exact tells_instructionFault loop.kind.keyword rfl (.refl _) breaks nofun nofun nofun
  | lost place missing left =>
      rw [left]
      let message := s!"Could not find {loop.kind.closer} to jump to."
      have breaks : now.scope.Breaks (fun _ => False) False
          (now.scope.reportFailure message .jumpNotFound)
          (.failure (Effect.jumpFailure now.scope loop.kind.closer)) :=
        .reported _ message rfl
      exact tells_instructionFault loop.kind.keyword rfl (now.scope.kept_report _) breaks nofun
        nofun nofun

theorem tells_continueInline (whole : now.oneLine = false) (loop : InlineLoop) :
    (now.continueInline script loop).Tells script early now := by
  unfold continueInline
  split
  · exact tells_leaveLoop loop _
  · exact tells_startBody whole _
  · split
    · next scope checked =>
        have passes : (startBody script loop { now with scope }).Tells script early
            { now with scope } := tells_startBody (by exact whole) loop
        exact passes.after (tells_checked checked)
    · next scope checked =>
        have leaves : (leaveLoop script loop loop.endLine { now with scope }).Tells script early
            { now with scope } := tells_leaveLoop loop _
        exact leaves.after (tells_checked checked)
    · next fault scope failed => exact tells_condition failed

theorem tells_openInline (whole : now.oneLine = false) (loop : InlineLoop) (entered : Bool) :
    (now.openInline script loop entered).Tells script early now := by
  unfold openInline
  dsimp only
  cases found : script.entryLine? now.scope.frame.entry with
  | none => exact Step.tells_silent (Machine.tells_missing found) (.undefined _ found)
  | some line =>
      dsimp only
      split
      · exact tells_startBody whole loop
      · exact tells_continueInline whole loop

theorem tells_afterPass (whole : now.oneLine = false) (loop : ExternalLoop) (signal : Signal) :
    (now.afterPass script loop signal).Tells script early now := by
  unfold afterPass
  split
  · exact (tells_report _ _ rfl).said
  · exact Step.Tells.after (tells_continueExternal (by exact whole) loop) (tells_report _ _ rfl)
  · exact tells_continueExternal whole loop

theorem tells_afterBody (whole : now.oneLine = false) (loop : InlineLoop) (signal : Signal) :
    (now.afterBody script loop signal).Tells script early now := by
  cases signal with
  | resume line value =>
      exact Step.Tells.after (tells_continueInline (by exact whole) _) (tells_keepReturned value)
  | continued value =>
      exact Step.Tells.after (tells_continueInline (by exact whole) loop)
        ((tells_report _ _ rfl).trans (tells_keepReturned value))
  | returned value => exact Machine.tells_report rfl
  | broken value =>
      exact Step.Tells.after (tells_leaveLoop loop none)
        ((tells_report _ _ rfl).trans (tells_keepReturned value))

/-! ## Carrying out a line -/

theorem tells_follow (whole : now.oneLine = false) (keyword : String) (flow : Flow) :
    (now.follow script keyword flow).Tells script early now := by
  cases flow with
  | next => exact Machine.Tells.refl _
  | leave signal => exact Machine.Tells.refl _
  | call entry args => exact tells_call whole keyword entry args
  | external loop entered =>
      unfold follow
      dsimp only
      split
      · exact tells_startPass whole loop
      · exact tells_continueExternal whole loop
  | inline loop entered => exact tells_openInline whole loop entered

theorem endsRun_exceptionCode (origin : String) :
    (Meaning.exceptionCode origin).endsRun = true := by
  unfold Meaning.exceptionCode
  split <;> rfl

theorem tells_raised {spec : Spec Meaning} {keyword : String} {inBody : Bool} {number : Nat}
    {pieces : List Piece} {args : List String} {scope : Scope} {fault : Fault}
    (found : now.scope.machine.lookup? keyword = some spec)
    (fits : spec.arityProblem? args.length = none)
    (performed : spec.action.perform script inBody number pieces args now.scope =
      .error fault scope) :
    (instructionFault { now with scope } spec.name (Meaning.exceptionCode spec.origin) fault).Tells
      script early now := by
  have supplied := Machine.lookup?_supplied found fits
  obtain ⟨kept, arises⟩ := Meaning.perform_raised supplied performed
  refine tells_instructionFault spec.name (endsRun_exceptionCode _) kept
    (Meaning.perform_breaks supplied performed) ?_ (fun _ => Machine.reports_of_lookup? found)
    (Machine.makesFailures_of_lookup? found)
  rintro rfl
  exact arises.interrupt fun fails => Meaning.not_interrupted_of_fails fails rfl

theorem tells_lineFault {state : State} {exception : Exception} (arises : early exception)
    (same : state.suspended = now.suspended) :
    (state.lineFault (.exception exception)).Tells script early now := by
  cases waits : state.suspended with
  | nil =>
      rw [lineFault_alone waits]
      exact ⟨_, rfl, .early arises (.inl ⟨same.symm.trans waits, rfl⟩)⟩
  | cons waiting rest =>
      have fails : ∃ line note, state.lineFault (.exception exception) = _ := lineFault_waits waits
      obtain ⟨line, note, failed⟩ := fails
      rw [failed]
      exact ⟨_, rfl, .early arises (.inr ⟨_, rfl⟩)⟩

theorem tells_performed {scope last : Scope} {flow : Flow} (whole : now.oneLine = false)
    {line : Line} {args : List String} {spec : Spec Meaning} (met : now.Meets line spec args scope)
    (performed : now.performed script line spec args scope = .ok flow last) :
    (follow script spec.name flow { now with scope := last }).Tells script early
      { now with scope } := by
  have supplied := Machine.lookup?_supplied met.found met.supplied
  have follows : (follow script spec.name flow { now with scope := last }).Tells script early
      { now with scope := last } := tells_follow (by exact whole) spec.name flow
  -- After a jump the next line follows, and nothing is said there.
  rcases Meaning.perform_speaks performed with speaks | ⟨rfl, cursor, rfl⟩
  · have said (kept : scope.machine.Kept last.machine) :
        scope.machine.Tells script scope.frame.cursor.line last.machine :=
      speaks.tells kept fun _ => Machine.reports_of_lookup? met.found
    rcases (Meaning.perform_ok supplied performed).2 with kept | ⟨rfl, onward⟩
    · exact follows.after ⟨kept.machine, said kept.machine, speaks.cursor, kept.entry, rfl⟩
    · exact said onward.machine
  · exact Machine.Tells.refl _

theorem tells_execute (whole : now.oneLine = false) {line : Line} (tokens : line.tokens ≠ [])
    (unlimited : now.scope.machine.settings.maxArgs = none → early .incomparable)
    (refused : ∀ limit exception last, now.scope.machine.settings.maxArgs = some limit →
      pieces? limit line.tokens = .ok (piecesOf line.tokens) →
      Reference.resolveAll (piecesOf line.tokens) now.scope = .error (.exception exception) last →
      early exception) :
    (now.execute script line).Tells script early now := by
  have keeps : Keeps (fun _ => False) (Reference.resolveAll (piecesOf line.tokens)) :=
    Reference.keeps_resolveAll _
  have remarks : Remarks (Reference.resolveAll (piecesOf line.tokens)) :=
    Reference.remarks_resolveAll _
  cases now.execution script line with
  | unlimited unset execute =>
      rw [execute]
      exact tells_lineFault (unlimited unset) rfl
  | excess limited execute =>
      rw [execute]
      exact (tells_report _ _ rfl).said
  | @unread fault scope allowed resolved execute =>
      rw [execute]
      obtain ⟨kept, arises⟩ := keeps.raised resolved
      have said : now.scope.machine.Tells script now.scope.frame.cursor.line scope.machine :=
        (remarks.error resolved).tells kept
      cases fault with
      | failure failure =>
          exact Step.tells_silent said (.foreign failure (arises.makesFailures id))
      | halt code => exact Step.tells_silent said (.halted code)
      | interrupted => exact Step.tells_silent said (.interrupted (arises.interrupt id))
      | unreadable text => exact arises.unreadable.elim
      | exception exception =>
          obtain ⟨limit, limited⟩ := allowed.limited_of_error resolved
          exact tells_lineFault
            (refused limit exception scope limited (allowed.fits limited) resolved) rfl
  | unnamed allowed resolved named execute => exact absurd named tokens
  | @unknown args scope name allowed resolved unknown execute =>
      rw [execute]
      refine Step.Tells.after ?_ (tells_scope (keeps.ok resolved) (remarks.ok resolved))
      exact ⟨_, rfl, .reported _ _ rfl (.refl _) rfl rfl⟩
  | @unsupplied args scope spec problem allowed resolved found fails execute =>
      rw [execute]
      exact Step.Tells.after (tells_report _ _ rfl).said
        (tells_scope (keeps.ok resolved) (remarks.ok resolved))
  | @performs args scope last spec flow met performed execute =>
      rw [execute]
      have follows : (follow script spec.name flow { now with scope := last }).Tells script early
          { now with scope } := tells_performed whole met performed
      exact follows.after (tells_scope (keeps.ok met.resolved) (remarks.ok met.resolved))
  | @fails args scope last spec fault met performed execute =>
      rw [execute]
      have fails : (instructionFault { now with scope := last } spec.name
          (Meaning.exceptionCode spec.origin) fault).Tells script early { now with scope } :=
        tells_raised met.found met.supplied performed
      exact fails.after (tells_scope (keeps.ok met.resolved) (remarks.ok met.resolved))

/-! ## One step -/

variable {state : State}

theorem oneLine_told (state : State) (text : String) :
    (state.told text).oneLine = state.oneLine := by
  obtain ⟨machine, -, recorded⟩ :=
    (state.onLine text).record_eq (Line.ofText (state.scope.frame.cursor.line + 1) text)
  unfold told State.recorded
  rw [recorded]
  rfl

/-- What arises before the instruction of the next line is known: the number of arguments cannot be
checked, or one of them cannot be read. -/
def Hinders (script : Script) (state : State) (source : String) (exception : Exception) : Prop :=
  state.scope.machine.settings.maxArgs = none ∨ state.RefusesArgument script source exception

theorem step_told (running : state.control = .running) (whole : state.oneLine = false)
    {text : String} (found : script.line? (state.scope.frame.cursor.line + 1) = some text)
    (executed : LineText.isInstruction text = true) (silent : (state.announced text).2 = none) :
    state.step script = (state.told text).execute script
      (Line.ofText (state.scope.frame.cursor.line + 1) text) := by
  rw [step_running running whole, advance_told found executed silent]

theorem tells_told (running : state.control = .running) (whole : state.oneLine = false)
    {text : String} (found : script.line? (state.scope.frame.cursor.line + 1) = some text)
    (executed : LineText.isInstruction text = true) (silent : (state.announced text).2 = none) :
    (state.step script).Tells script (state.Hinders script text) (state.told text) := by
  have same := state.same_told text
  have settings : (state.told text).scope.machine.settings = state.scope.machine.settings :=
    same.machine.settings
  rw [step_told running whole found executed silent]
  generalize lined : Line.ofText (state.scope.frame.cursor.line + 1) text = line
  have tokens : line.tokens = tokenize text := by rw [← lined, Line.ofText]
  refine tells_execute ((state.oneLine_told text).trans whole) ?_ ?_ ?_
  · rw [tokens]
    exact LineText.tokenize_ne_nil executed
  · intro unlimited
    exact .inl (settings ▸ unlimited)
  · intro limit refused last limited fits failed
    rw [tokens] at fits failed
    rw [settings] at limited
    exact .inr ⟨⟨running, found, executed, silent, limit, limited, fits⟩, last, failed⟩

theorem tells_below {signal : Signal} (leaving : state.control = .leaving signal)
    (whole : state.oneLine = false) {waiting : Suspended} {rest : List Suspended}
    (waits : state.suspended = waiting :: rest) :
    (state.step script).Tells script early (state.below waiting rest) := by
  rw [step_leaving leaving]
  match waiting with
  | .caller frame (.call keyword) =>
      rw [handOver_call waits]
      exact (tells_keepReturned _).said
  | .caller frame (.pass loop) =>
      rw [handOver_pass waits]
      exact Step.Tells.after (tells_afterPass (by exact whole) loop signal) (tells_keepReturned _)
  | .owner cursor loop =>
      rw [handOver_body waits]
      exact tells_afterBody (by exact whole) loop signal

end State

end LineScript

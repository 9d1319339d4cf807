import LineScript.Proofs.Names
import LineScript.Proofs.Passes.Count

/-!
Where a loop is left. A loop whose body follows its header goes on at the last end marker that a pass
has come to, whatever loop that marker belongs to; without such a pass, and after one that leaves
the loop, the end marker is searched for. So a loop goes on after its own end marker exactly if its
last suspended pass has come to that one.
-/

namespace LineScript

open LineScript.Action

/-! ## End markers -/

namespace Instruction

theorem name_of_endLoop : ∀ entry ∈ allEntries,
    ∀ kind ∈ [LoopKind.forLoop, .whileLoop, .doWhileLoop],
      entry.instruction = .endLoop kind → entry.name = kind.closer := by
  decide +kernel

end Instruction

theorem Machine.lookup?_endLoop {machine : Machine} {keyword : String} {spec : Spec Meaning}
    (found : machine.lookup? keyword = some spec) {kind : LoopKind}
    (same : spec.action = .builtin (.endLoop kind)) : Text.upper keyword = kind.closer := by
  rcases lookup?_cases found with ⟨entry, listed, origin, -, name, rfl⟩ | ⟨added, -, rfl⟩
  · rw [← name]
    exact Instruction.name_of_endLoop entry listed kind (by cases kind <;> decide)
      (Meaning.builtin.inj same)
  · cases same

def Script.MarksEnd (script : Script) (line : Nat) : Prop :=
  ∃ kind : LoopKind, script.StandsOn line kind.closer

namespace State

variable {script : Script} {now after : State} {line : Line} {pieces : List Piece}
  {args : List String} {place : Nat} {value : String} {flow : Flow} {meaning : Meaning}

theorem resume_of_follow {inBody : Bool} {number : Nat} {keyword : String}
    (running : now.control = .running) (asks : Asks inBody number pieces meaning flow)
    (followed : now.follow script keyword flow = .next after)
    (leaving : after.control = .leaving (.resume place value)) :
    ∃ kind, meaning = .builtin (.endLoop kind) ∧ place = number := by
  have quiet (goes : (now.follow script keyword flow).Goes script (fun _ => True)
      (fun _ => False) False now) : False := by
    rw [followed] at goes
    cases goes.2 with
    | stays control =>
        rw [control, running] at leaving
        cases leaving
    | leaves control known => exact known
    | enters control =>
        rw [control] at leaving
        cases leaving
  -- Whatever is no signal stays with the frame or starts another one.
  cases asks with
  | next => exact (quiet (Step.goes_next (onward_kept (.refl _)))).elim
  | leave meaning other =>
      cases followed
      cases leaving
      exact absurd rfl (other _ _)
  | resume kind value inside =>
      cases followed
      cases leaving
      exact ⟨kind, rfl, rfl⟩
  | call => exact (quiet (goes_call False.elim keyword _ _ trivial)).elim
  | external kind body planned =>
      refine (quiet ?_).elim
      change (if kind.entersFirst then _ else _ : Step).Goes _ _ _ _ _
      split
      · exact goes_startPass False.elim trivial
      · exact goes_continueExternal False.elim running fun _ _ _ _ => trivial
  | inline kind planned =>
      exact (quiet (goes_openInline False.elim running (fun _ _ => trivial) rfl False.elim)).elim

theorem resume_of_execute (running : now.control = .running)
    (executed : now.execute script line = .next after)
    (leaving : after.control = .leaving (.resume place value)) :
    ∃ kind : LoopKind, line.keyword = kind.closer ∧ place = line.number := by
  rcases performs_or_stays script line running with
    ⟨spec, args, scope, flow, last, met, performed, follows⟩ | stays
  · obtain ⟨asks, -⟩ :=
      Meaning.perform_ok (Machine.lookup?_supplied met.found met.supplied) performed
    obtain ⟨kind, same, number⟩ :=
      resume_of_follow (by exact running) asks (follows.symm.trans executed) leaving
    have name := Machine.lookup?_endLoop met.found same
    rw [Line.keyword, Line.upper_keywordOf] at name
    exact ⟨kind, name, number⟩
  · rw [executed] at stays
    rw [stays.1, running] at leaving
    cases leaving

end State

@[simp] theorem State.control_onMachine (state : State) (change : Machine → Machine) :
    (state.onMachine change).control = state.control :=
  rfl

theorem State.marksEnd_advance {script : Script} {state after : State} {place : Nat}
    {value : String} (running : state.control = .running)
    (stepped : state.advance script = .next after)
    (leaving : after.control = .leaving (.resume place value)) : script.MarksEnd place := by
  have onwards {next : State} (steps : state.advance script = .next next)
      (still : next.control = state.control) : False := by
    rw [Step.next.inj (stepped.symm.trans steps), still, running] at leaving
    cases leaving
  cases state.advances script with
  | ends last advance =>
      rw [Step.next.inj (stepped.symm.trans advance)] at leaving
      cases leaving
  | skips found other advance => exact (onwards advance rfl).elim
  | directs found other filled directive advance =>
      exact (onwards advance (control_onMachine _ _)).elim
  | @executes text found executed =>
      cases heard : (state.announced text).2 with
      | some fault => cases (advance_refused found executed heard).symm.trans stepped
      | none =>
          rw [advance_told found executed heard] at stepped
          have same := state.same_told text
          obtain ⟨kind, keyword, number⟩ :=
            resume_of_execute (same.control.trans running) stepped leaving
          exact ⟨kind, _, Script.mem_statements found executed, number.symm, keyword⟩

namespace Program.Reaches

variable {script : Script} {entry : String} {machine : Machine} {state : State} {place : Nat}
  {value : String}

theorem marksEnd (reached : Reaches script entry machine state)
    (leaving : state.control = .leaving (.resume place value)) : script.MarksEnd place := by
  cases reached with
  | start started =>
      rw [(starts_of_running started).control] at leaving
      cases leaving
  | @step before _ reached stepped =>
      cases control : before.control with
      | running =>
          rw [State.step_running control reached.inPlace.whole] at stepped
          exact State.marksEnd_advance control stepped leaving
      | leaving signal =>
          cases (reached.transition stepped).2 with
          | reads running => cases running.symm.trans control
          | finishes running => cases running.symm.trans control
          | returns left waits ready frame outcome =>
              cases outcome with
              | stays control =>
                  rw [control, ready] at leaving
                  cases leaving
              | leaves control known =>
                  obtain ⟨-, rfl, returned, same⟩ := known
                  rw [control, same] at leaving
                  cases leaving
              | enters control =>
                  rw [control] at leaving
                  cases leaving

end Program.Reaches

/-! ## The line at which a loop is left -/

def Signal.resumed? : Signal → Option Nat
  | resume line _ => some line
  | _ => none

namespace Loop

def lastMarker? (signals : List Signal) : Option Nat :=
  signals.reverse.findSome? Signal.resumed?

/-- The end marker at which a loop is left that has made these passes; if there is none, it is searched
for. -/
def exit? (signals : List Signal) : Option Nat :=
  match signals.getLast? with
  | some (.broken _) => none
  | _ => lastMarker? signals

def endLine? : Loop → Option Nat
  | inline loop => loop.endLine
  | external _ => none

variable {script : Script} {loop current again : Loop} {entered unchecked : Bool}
  {opened owner ready after : State} {signals : List Signal} {checks : List Check}
  {signal : Signal}

theorem lastMarker?_append (signals : List Signal) (signal : Signal) :
    lastMarker? (signals ++ [signal]) = signal.resumed?.or (lastMarker? signals) := by
  rw [lastMarker?, List.reverse_append, List.reverse_singleton, List.singleton_append,
    List.findSome?_cons]
  cases signal <;> rfl

theorem exit?_of_onward (form : loop.isExternal = false)
    (onward : ∀ signal ∈ signals, loop.isEnded signal = false) :
    exit? signals = lastMarker? signals := by
  unfold exit?
  split
  · next value last =>
      have never := onward _ (List.mem_of_getLast? last)
      cases loop <;> cases never
  · rfl

theorem inline_of_form (form : loop.isExternal = false) : ∃ inner, loop = .inline inner := by
  cases loop with
  | inline inner => exact ⟨inner, rfl⟩
  | external other => cases form

theorem Seated.inline (seated : loop.Seated opened current owner)
    (form : loop.isExternal = false) :
    ∃ inner, current = .inline inner ∧ inner.kind = loop.kind := by
  have same : current.isExternal = false := by
    unfold isExternal at form ⊢
    rwa [seated.body]
  obtain ⟨inner, rfl⟩ := inline_of_form same
  exact ⟨inner, rfl, seated.kind⟩

theorem Passes.endLine? (passes : current.Passes unchecked owner again ready checks) :
    again.endLine? = current.endLine? := by
  cases passes with
  | counted later planned => cases current <;> rfl
  | _ => rfl

theorem endLine?_after (form : loop.isExternal = false) :
    (loop.after signal).endLine? = signal.resumed?.or loop.endLine? := by
  obtain ⟨inner, rfl⟩ := inline_of_form form
  cases signal <;> rfl

theorem History.endLine? (running : opened.control = .running) (form : loop.isExternal = false)
    (unended : loop.endLine? = none)
    (history : History script loop entered opened signals checks current owner) :
    current.endLine? = lastMarker? signals := by
  induction history with
  | opens => exact unended
  | pass history begins pass onward ih =>
      obtain ⟨inner, rfl, -⟩ := (begins.seated (history.seated running) opened).inline form
      rw [lastMarker?_append, endLine?_after rfl, begins.passes.endLine?, ih]

theorem Finishes.exits (running : opened.control = .running) (form : loop.isExternal = false)
    (unended : loop.endLine? = none)
    (bounded : ∀ place ∈ lastMarker? signals, place ≤ script.lineCount)
    (finishes : Finishes script loop entered opened signals checks (.next after))
    (other : ∀ value, signals.getLast? ≠ some (.returned value)) :
    after.control = .running ∧
      (exit? signals = some after.scope.frame.cursor.line ∨ exit? signals = none ∧
        script.blockEnd? opened.scope.frame.cursor.line loop.kind.marker loop.kind.closer [] =
          some after.scope.frame.cursor.line) := by
  generalize came : Step.next after = step at finishes
  cases finishes with
  | missing history passes same =>
      obtain ⟨inner, other, -⟩ := (history.seated running).inline form
      have body := passes.form.2
      rw [same, other] at body
      cases body
  | @closes signals checks more current owner ready history closes =>
      have seated := history.seated running
      obtain ⟨inner, rfl, kind⟩ := seated.inline form
      -- The loop has kept the last end marker that resumed it.
      have known : inner.endLine = lastMarker? signals := history.endLine? running form unended
      rw [exit?_of_onward form (history.onward running), ← known, ← kind, ← seated.cursor,
        ← closes.kept.1.cursor]
      cases ready.leaves_leaveLoop script inner inner.endLine with
      | lost unknown missing flag stepped => cases came.trans stepped
      | backward marker above flag stepped => cases came.trans stepped
      | @moves target forward place stepped =>
          cases came.trans stepped
          refine ⟨closes.kept.2.2.trans seated.running, ?_⟩
          change _ = some (Cursor.advance _ _ _).line ∨ _ ∧ _ = some (Cursor.advance _ _ _).line
          rcases place with marked | ⟨unmarked, found⟩
          · have inside := bounded target (known ▸ marked)
            rw [Cursor.line_advance forward inside]
            exact .inl marked
          · rw [Cursor.line_advance forward (Script.blockEnd?_bounds found).2]
            exact .inr ⟨unmarked, found⟩
  | @ends signals checks more current again owner ready begun left signal history begins pass ends =>
      have ended := Finishes.ends history begins pass ends
      rw [← came] at ended
      obtain ⟨inner, rfl, -⟩ := (begins.seated (history.seated running) opened).inline form
      -- Of the passes that end the loop only one with a break lets the frame go on.
      cases signal with
      | resume line value => cases ends
      | continued value => cases ends
      | returned value => exact absurd (List.getLast?_concat ..) (other value)
      | broken value =>
          rcases ended.broken running form with
            ⟨target, last, found, stepped, control, -, line⟩ | ⟨-, failure, last, stopped, -⟩
          · cases stepped
            have searched : exit? (signals ++ [.broken value]) = none := by
              rw [exit?, List.getLast?_concat]
            exact ⟨control, .inr ⟨searched, line ▸ found⟩⟩
          · cases stopped

end Loop

theorem State.Asked.unended {script : Script} {line : Line} {now : State} {spec : Spec Meaning}
    {loop : Loop} {entered : Bool} {after : Scope}
    (asked : now.Asked script line spec (loop.flow entered) after) : loop.endLine? = none := by
  have asks := asked.asks
  generalize came : loop.flow entered = flow at asks
  cases loop with
  | external loop => rfl
  | inline loop =>
      generalize spec.action = meaning at asks
      cases asks with
      | inline kind planned =>
          cases came
          rfl
      | _ => cases came

/-! ## Loops of a program -/

namespace Program

variable {script : Script} {entry : String} {machine : Machine} {now after : State} {line : Line}
  {spec : Spec Meaning} {loop current : Loop} {entered : Bool} {scope : Scope} {owner opened : State}
  {lower : List Suspended} {signals : List Signal} {checks : List Check} {step : Step}

theorem Reaches.unfolds (reached : Reaches script entry machine now)
    (unfolds : Step.Unfolds script lower (now.step script) step) {state : State}
    (stepped : step = .next state) : Reaches script entry machine state := by
  induction unfolds generalizing state with
  | begins => exact reached.step stepped
  | goesOn unfolds above ih => exact (ih rfl).step stepped

theorem Reaches.markers (reached : Reaches script entry machine now)
    (running : opened.control = .running) (form : loop.isExternal = false)
    (starts : now.step script = loop.turn script entered opened)
    (history : Loop.History script loop entered opened signals checks current owner) :
    ∀ place ∈ Loop.lastMarker? signals,
      script.IsBelow opened.scope.frame.cursor.line place ∧ script.MarksEnd place := by
  induction history with
  | opens => exact fun _ member => nomatch member
  | @pass signals checks more current again owner ready begun left signal history begins pass onward
      ih =>
      intro place member
      rw [Loop.lastMarker?_append] at member
      cases signal with
      | resume line value =>
          cases member
          have seated := history.seated running
          obtain ⟨inner, rfl, -⟩ := (begins.seated seated opened).inline form
          have unfolds := starts ▸ begins.unfolds_left seated pass (history.unfolds running)
          have arrived := reached.unfolds unfolds rfl
          obtain ⟨cursor, other, rest, waits, below⟩ := arrived.inPlace.resumes _ _ pass.leaving
          rw [pass.level, begins.pushed] at waits
          cases waits
          rw [begins.passes.kept.1.cursor, seated.cursor] at below
          exact ⟨below, arrived.marksEnd pass.leaving⟩
      | _ => exact ih place member

theorem Reaches.markers_finishes (reached : Reaches script entry machine now)
    (running : opened.control = .running) (form : loop.isExternal = false)
    (starts : now.step script = loop.turn script entered opened)
    (finishes : Loop.Finishes script loop entered opened signals checks step) :
    ∀ place ∈ Loop.lastMarker? signals,
      script.IsBelow opened.scope.frame.cursor.line place ∧ script.MarksEnd place := by
  cases finishes with
  | closes history => exact reached.markers running form starts history
  | missing history => exact reached.markers running form starts history
  | @ends signals checks more current again owner ready begun left signal history begins pass ends =>
      have early := reached.markers running form starts history
      obtain ⟨inner, rfl, -⟩ := (begins.seated (history.seated running) opened).inline form
      rw [Loop.lastMarker?_append]
      cases signal with
      | broken value => exact early
      | returned value => exact early
      | _ => cases ends

/-- The line of an inline loop begins with the first turn of the loop. -/
theorem Reaches.turn_loop (reached : Reaches script entry machine now)
    (next : now.nextLine? script = some line)
    (asked : (now.told line.text).Asked script line spec (loop.flow entered) scope)
    (stepped : ∀ fault last, now.step script ≠ .stop (.failed fault) last) :
    now.step script = loop.turn script entered { now.told line.text with scope } := by
  obtain ⟨running, text, rfl, found, executed⟩ := State.isInstruction_of_nextLine? next
  have starts : loop.flow entered ≠ .next := by cases loop <;> nofun
  have same := now.same_told text
  have kept : (now.told text).scope.Kept scope := asked.kept.resolve_left starts
  cases State.dispatches script reached.inPlace.whole with
  | passes running quiet => cases quiet.symm.trans next
  | resumes leaving quiet => cases quiet.symm.trans next
  | executes again listed number keyword argc steps =>
      cases again.symm.trans next
      rw [show Line.text (.ofText _ text) = text from rfl] at steps asked ⊢
      cases heard : (now.announced text).2 with
      | some fault =>
          rw [heard] at steps
          exact absurd steps (stepped _ _)
      | none =>
          rw [heard] at steps
          rw [steps]
          dsimp only
          rw [asked.execute]
          refine Loop.follow_flow _ _ fun _ => ?_
          change script.entryLine? scope.frame.entry ≠ none
          rw [kept.entry, same.frame]
          exact reached.inPlace.grounded.proper.defined

theorem not_stop_of_unfolds {first : Step} (unfolds : Step.Unfolds script lower first (.next after))
    (fault : Fault) (last : State) : first ≠ .stop (.failed fault) last := by
  rintro rfl
  generalize came : Step.next after = step at unfolds
  induction unfolds generalizing after with
  | begins => cases came
  | goesOn unfolds above ih => exact ih rfl

/-- An inline loop that is done and does not return goes on at the end marker that its passes have come
to last, which is some end marker below the header; if there is none, and after a pass that leaves the
loop, it goes on at the end marker that is found for the header. So it goes on after its own end
marker exactly if the passes have come to that one last. -/
theorem loop_exits (reached : Reaches script entry machine now)
    (next : now.nextLine? script = some line)
    (asked : (now.told line.text).Asked script line spec (loop.flow entered) scope)
    (form : loop.isExternal = false)
    (unfolds : Step.Unfolds script now.suspended (now.step script) (.next after))
    (level : after.suspended.length ≤ now.suspended.length) :
    ∃ signals checks, loop.Finishes script entered { now.told line.text with scope } signals checks
        (.next after) ∧
      ((∃ value, signals.getLast? = some (.returned value)) ∨
        after.control = .running ∧
        (∀ place ∈ Loop.lastMarker? signals,
          script.IsBelow line.number place ∧ script.MarksEnd place) ∧
        (∀ place, Loop.exit? signals = some place → after.scope.frame.cursor.line = place) ∧
        (Loop.exit? signals = none → script.blockEnd? line.number loop.kind.marker
          loop.kind.closer [] = some after.scope.frame.cursor.line) ∧
        (script.blockEnd? line.number loop.kind.marker loop.kind.closer [] =
            some after.scope.frame.cursor.line ↔
          ∀ place ∈ Loop.exit? signals, script.blockEnd? line.number loop.kind.marker
            loop.kind.closer [] = some place)) := by
  have starts := reached.turn_loop next asked (not_stop_of_unfolds unfolds)
  have unended := asked.unended
  obtain ⟨running, text, rfl, found, executed⟩ := State.isInstruction_of_nextLine? next
  have same := now.same_told text
  have kept : (now.told text).scope.Kept scope :=
    asked.kept.resolve_left (by cases loop <;> nofun)
  let opened : State := { now.told text with scope }
  have ready : opened.control = .running := same.control.trans running
  have suspended : opened.suspended = now.suspended := same.suspended
  have here : opened.scope.frame.cursor.line = now.scope.frame.cursor.line + 1 := by
    change scope.frame.cursor.line = _
    rw [kept.cursor, same.frame]
    rfl
  have whole := unfolds
  rw [starts, ← suspended] at whole
  obtain ⟨signals, checks, finishes⟩ :=
    Loop.finishes_of_unfolds ready whole (suspended ▸ level)
  have markers := reached.markers_finishes ready form starts finishes
  refine ⟨signals, checks, finishes, ?_⟩
  by_cases returned : ∃ value, signals.getLast? = some (.returned value)
  · exact .inl returned
  obtain ⟨control, exits⟩ := finishes.exits ready form unended
    (fun place member => (markers place member).1.2) fun value last => returned ⟨value, last⟩
  rw [here] at exits markers
  refine .inr ⟨control, markers, ?_⟩
  rcases exits with marked | ⟨unmarked, searched⟩
  · simp [marked, eq_comm]
  · refine ⟨by simp [unmarked], fun _ => searched, iff_of_true searched ?_⟩
    simp [unmarked]

end Program

/-! ## A loop that is left at another marker -/

def Step.along (script : Script) (lower : Nat) : Nat → Step → Option Step
  | 0, step => some step
  | count + 1, .next state =>
      if lower < state.suspended.length then (state.step script).along script lower count else none
  | _ + 1, .stop _ _ => none

def Step.isNext : Step → Bool
  | .next _ => true
  | .stop _ _ => false

theorem Step.unfolds_of_along {script : Script} {lower : List Suspended} {count : Nat}
    {first step last : Step} (unfolds : Step.Unfolds script lower first step)
    (along : step.along script lower.length count = some last) :
    Step.Unfolds script lower first last := by
  induction count generalizing step with
  | zero =>
      cases along
      exact unfolds
  | succ count ih =>
      cases step with
      | stop ending state => cases along
      | next state =>
          unfold Step.along at along
          split at along
          · next above => exact ih (unfolds.goesOn above) along
          · cases along

namespace Program

def headExample : State :=
  ⟨⟨.plainExample, ⟨"main", [], .empty, ⟨1, some "DEF main"⟩⟩⟩, [], .running, .ground, false⟩

theorem reaches_headExample : Reaches leftExample "main" .plainExample headExample := by
  have found : leftExample.entryLine? "main" = some 1 := by decide +kernel
  refine .start ?_
  rw [start_found found]
  rfl

theorem loop_exits_leftExample :
    ∃ after, Step.Unfolds leftExample [] (headExample.step leftExample) (.next after) ∧
      ∃ signals checks, Loop.Finishes leftExample (.inline ⟨.forLoop, .count 2, 2, none⟩) false
          { headExample.told "FOR \"2\"" with scope := State.headerExample.scope } signals checks
          (.next after) ∧
        ((∃ value, signals.getLast? = some (.returned value)) ∨ after.control = .running) := by
  have ran : ((headExample.step leftExample).along leftExample 0 2).map (fun last =>
      (last.isNext, last.state.suspended)) = some (true, []) := by
    decide +kernel
  obtain ⟨last, along, same⟩ := Option.map_eq_some_iff.mp ran
  simp only [Prod.mk.injEq] at same
  have unfolds : Step.Unfolds leftExample [] (headExample.step leftExample) last :=
    Step.unfolds_of_along .begins along
  have next : headExample.nextLine? leftExample = some (.ofText 2 "FOR \"2\"") := by
    decide +kernel
  cases last with
  | stop ending state => cases same.1
  | next after =>
      have level : after.suspended = [] := same.2
      obtain ⟨signals, checks, finishes, exits⟩ := loop_exits reaches_headExample next
        State.asked_headerExample rfl unfolds (by simp [level])
      exact ⟨after, unfolds, signals, checks, finishes, exits.imp_right (·.1)⟩

def mixedExample : Script :=
  .ofLines "" ["DEF main", "FOR \"1\"", "ENDW", "ENDF", "ENDDEF"]

/-- A loop does not always go on after the end marker that is found for its header. -/
theorem misplaced_mixedExample :
    ¬ ∀ now begun after cursor loop, Reaches mixedExample "main" .plainExample now →
      now.control = .running → now.step mixedExample = .next begun →
      begun.suspended = .owner cursor loop :: now.suspended →
      Step.Unfolds mixedExample now.suspended (now.step mixedExample) (.next after) →
      after.suspended.length ≤ now.suspended.length →
      (∀ value, after.control ≠ .leaving (.returned value)) →
      mixedExample.blockEnd? cursor.line loop.kind.marker loop.kind.closer [] =
        some after.scope.frame.cursor.line := by
  intro own
  have ran : ((stateAfter? mixedExample "main" .plainExample 0).bind fun now =>
      ((now.step mixedExample).along mixedExample now.suspended.length 2).map fun last =>
        ((now.control, now.suspended, (now.step mixedExample).state.suspended), last.isNext,
          last.state.suspended, last.state.control, last.state.scope.frame.cursor.line)) =
      some ((.running, [], [.owner ⟨2, some "FOR \"1\""⟩ ⟨.forLoop, .count 0, 2, none⟩]), true,
        [], .running, 3) := by
    decide +kernel
  obtain ⟨now, found, rest⟩ := Option.bind_eq_some_iff.mp ran
  obtain ⟨last, along, same⟩ := Option.map_eq_some_iff.mp rest
  simp only [Prod.mk.injEq] at same
  obtain ⟨⟨running, alone, pushed⟩, goesOn, level, control, line⟩ := same
  have unfolds := Step.unfolds_of_along .begins along
  cases stepped : now.step mixedExample with
  | stop ending state => simp [stepped, Step.along] at along
  | next begun =>
      cases last with
      | stop ending state => cases goesOn
      | next after =>
          rw [stepped] at pushed
          have claimed := own now begun after _ _ (reaches_of_stateAfter? found) running stepped
            (alone ▸ pushed) unfolds (by simp [alone, show after.suspended = [] from level])
            (by simp [show after.control = .running from control])
          rw [show after.scope.frame.cursor.line = 3 from line] at claimed
          exact absurd claimed (by decide +kernel)

end Program

end LineScript

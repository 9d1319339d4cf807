import LineScript.Proofs.Block.Loop

/-!
Calls of definitions, and the loops whose body is a definition. The frame of the definition has
variables of its own; when it ends, its caller goes on with the variables that it had.
-/

namespace LineScript

open LineScript.Action

structure Definition.StandsAt (script : Script) (settings : Settings) (above : Nat)
    (definition : Definition) : Prop where
  formed : definition.WellFormed settings
  defined : script.entryLine? definition.name ≠ none
  lines : script.HasLines above (definition.body.lines ++ [definition.closer])

/-- The script is printed from the listing, all of whose definitions are well formed. -/
structure Listing.Prints (settings : Settings) (listing : Listing) (script : Script) : Prop where
  formed : listing.WellFormed settings
  printed : script.lines.toList = listing.lines

theorem Listing.Prints.find? {settings : Settings} {listing : Listing} {script : Script}
    (prints : listing.Prints settings script) {name : String} {above : Nat}
    {definition : Definition} (found : listing.find? name = some (above, definition)) :
    definition.name = name ∧ definition.StandsAt script settings above := by
  obtain ⟨formed, rfl, lines⟩ := hasLines_find? prints.formed prints.printed found
  refine ⟨rfl, formed, ?_, lines⟩
  rw [entryLine?_eq prints.formed prints.printed, found]
  exact Option.some_ne_none _

namespace Seat

def calling (seat : Seat) (number : Nat) (text : String) (locals : Locals) (wait : Wait)
    (entry : String) (args : List String) : Seat :=
  ⟨entry, args, .caller ⟨seat.entry, seat.args, locals, ⟨number, some text⟩⟩ wait :: seat.suspended⟩

def Returns (seat : Seat) (number : Nat) (text : String) (wait : Wait) (entry : String)
    (args : List String) : Signal → Store → Step → Prop :=
  fun signal after last => ∃ locals,
    (seat.calling number text after.locals wait entry args).Leaves signal ⟨after.machine, locals⟩
      last

end Seat

section Tasks

variable (script : Script) (settings : Settings) (bound : Nat)

inductive DefinitionTask : Activity → Nat → Definition → Store → Seat.Task Signal → Prop where
  | stands (seat : Seat) (cursor : Cursor) {definition : Definition} {store : Store}
      (ready : store.machine.Ready settings) (entry : seat.entry = definition.name)
      (stands : definition.StandsAt script settings cursor.line) :
      DefinitionTask seat.activity cursor.line definition store
        ⟨seat, seat.Leaves, .next (seat.state cursor store), store⟩

inductive CallTask :
    Activity → Nat → Nat → Definition → List String → Store → Seat.Task Signal → Prop where
  | stands (seat : Seat) (text : String) (wait : Wait) {number above : Nat}
      {definition : Definition} {args : List String} {store : Store}
      (ready : store.machine.Ready settings) (stands : definition.StandsAt script settings above) :
      CallTask seat.activity number above definition args store
        ⟨seat, seat.Returns number text wait definition.name args,
          (seat.state ⟨number, some text⟩ store).enter
            (State.definitionFrame script definition.name args above)
            (.caller (seat.state ⟨number, some text⟩ store).scope.frame wait), store⟩

inductive ExternalPassesTask :
    Activity → Nat → String → ExternalLoop → Bool → Store → Seat.Task Unit → Prop where
  | stands (seat : Seat) {number : Nat} {text : String} {loop : ExternalLoop} {entered : Bool}
      {store : Store} (ready : store.machine.Ready settings) :
      ExternalPassesTask seat.activity number text loop entered store
        ⟨seat, seat.AtLine number,
          (seat.state ⟨number, some text⟩ store).externalPasses script loop entered, store⟩

inductive ExternalPassTask :
    Activity → Nat → String → ExternalLoop → Store → Seat.Task Unit → Prop where
  | stands (seat : Seat) {number : Nat} {text : String} {loop : ExternalLoop} {store : Store}
      (ready : store.machine.Ready settings) :
      ExternalPassTask seat.activity number text loop store
        ⟨seat, seat.AtLine number, (seat.state ⟨number, some text⟩ store).startPass script loop,
          store⟩

inductive FollowTask : Activity → Nat → String → Flow → Store → Seat.Task Unit → Prop where
  | stands (seat : Seat) (keyword : String) {number : Nat} {text : String} {flow : Flow}
      {store : Store} (ready : store.machine.Ready settings) (simple : flow.Simple) :
      FollowTask seat.activity number text flow store
        ⟨seat, seat.AtLine number,
          (seat.state ⟨number, some text⟩ store).follow script keyword flow, store⟩

def DefinitionsAgree (eval : Activity → Nat → Definition → Store →
    Option (Except Fault Signal × Store)) : Prop :=
  ∀ activity above definition store,
    Seat.Meets script bound (DefinitionTask script settings activity above definition store)
      ((eval activity above definition store).map
        fun result => (Exit.rethrown result.1, result.2))

def CallsAgree (call : Activity → Nat → Nat → Definition → List String → Store →
    Option (Except Exit Signal × Store)) : Prop :=
  ∀ activity number above definition args store,
    Seat.Meets script bound (CallTask script settings activity number above definition args store)
      (call activity number above definition args store)

def ExternalPassesAgree (evalPasses : Activity → Nat → String → ExternalLoop → Bool → Store →
    Option (Except Exit Unit × Store)) : Prop :=
  ∀ activity number text loop entered store,
    Seat.Meets script bound
      (ExternalPassesTask script settings activity number text loop entered store)
      (evalPasses activity number text loop entered store)

def ExternalPassAgrees (evalPass : Activity → Nat → String → ExternalLoop → Store →
    Option (Except Exit Unit × Store)) : Prop :=
  ∀ activity number text loop store,
    Seat.Meets script bound (ExternalPassTask script settings activity number text loop store)
      (evalPass activity number text loop store)

def FollowAgrees (follow : Activity → Nat → String → Flow → Store →
    Option (Except Exit Unit × Store)) : Prop :=
  ∀ activity number text flow store,
    Seat.Meets script bound (FollowTask script settings activity number text flow store)
      (follow activity number text flow store)

end Tasks

/-! ## Definitions -/

section Definitions

variable {script : Script} {settings : Settings} {bound : Nat}

theorem definitionsAgree
    {evalThrough : Activity → Nat → Block → String → Action Unit → Store →
      Option (Except Exit Unit × Store)}
    (through : ThroughAgrees script settings bound evalThrough) :
    DefinitionsAgree script settings bound fun activity above definition store => (do
      let (ending, store) ← evalThrough activity above definition.body definition.closer
        (Action.report .info "End of definition" .ok) store
      some ((Exit.caught ending).map (Option.getD · (.returned nullText)), store)) := by
  rintro _ _ definition store _ ⟨seat, cursor, ready, entry, stands⟩
  dsimp only
  obtain ⟨lines, last⟩ := Script.hasLines_append.mp stands.lines
  have closer := (Script.hasLines_cons.mp last).1
  have agrees : seat.Agrees script bound 0
      (fun _ after last => ∃ final, last = .next (seat.leaving final after (.returned nullText)))
      (.next (seat.state cursor store)) store
      (evalThrough seat.activity cursor.line definition.body definition.closer
        (Action.report .info "End of definition" .ok) store) := by
    refine through _ _ _ _ _ _ _ (.stands seat cursor ready
      ⟨entry ▸ stands.defined, stands.formed.body, lines⟩ ?_)
    intro place after here readyAfter
    have found : script.line? (place.line + 1) = some definition.closer := by
      rw [here]
      exact closer
    exact Seat.agrees_endDefinition readyAfter found (entry ▸ stands.formed.closer)
  have mapped (evaluated : Option (Except Exit Unit × Store)) :
      (do
        let (ending, store) ← evaluated
        some ((Exit.caught ending).map (Option.getD · (Signal.returned nullText)), store)).map
        (fun result : Except Fault Signal × Store => (Exit.rethrown result.1, result.2)) =
      evaluated.map fun result => (Exit.rethrown ((Exit.caught result.1).map
        (Option.getD · (.returned nullText))), result.2) := by
    cases evaluated <;> rfl
  -- A definition that reaches its end leaves as one that returns the null text.
  rw [mapped]
  refine agrees.map fun result last kept ends => ⟨kept, ?_⟩
  obtain ⟨ending, after⟩ := result
  match ending with
  | .ok _ => exact ⟨nofun, ends⟩
  | .error (.leaves signal) => exact ends
  | .error (.fails fault) => exact ends

theorem callsAgree
    {eval : Activity → Nat → Definition → Store → Option (Except Fault Signal × Store)}
    (definitions : DefinitionsAgree script settings bound eval) :
    CallsAgree script settings bound fun activity number above definition args => (do
      activity.deepen number
      fun store => do
        let (ending, inner) ← eval ⟨definition.name, args, activity.depth + 1⟩ above definition
          ⟨store.machine, .empty⟩
        some (Exit.rethrown ending, { store with machine := inner.machine }) : Eval Signal) := by
  rintro _ number above definition args store _ ⟨seat, text, wait, ready, stands⟩
  dsimp only
  refine (Seat.agrees_deepen _ _).bind ?_
  rintro _ _ _ - ⟨rfl, rfl⟩
  next _ store =>
  have inside := stands.lines.le_lineCount (by simp)
  have line : (Cursor.start.advance script above).line = above :=
    Cursor.line_advance (Nat.zero_le _) (by omega)
  have agrees := definitions _ _ definition ⟨store.machine, .empty⟩ _ (.stands
    (seat.calling number text store.locals wait definition.name args)
    (Cursor.start.advance script above) ready rfl (line.symm ▸ stands))
  have mapped (evaluated : Option (Except Fault Signal × Store)) :
      (do
        let (ending, inner) ← evaluated
        some (Exit.rethrown ending, { store with machine := inner.machine })) =
      evaluated.map fun result =>
        (Exit.rethrown result.1, { store with machine := result.2.machine }) := by
    cases evaluated <;> rfl
  rw [mapped]
  rw [line] at agrees
  refine agrees.recast fun result last kept ends => ⟨kept, ?_⟩
  obtain ⟨ending, after⟩ := result
  cases ending with
  | ok signal => exact ⟨after.locals, ends⟩
  | error fault => exact ends

end Definitions

/-! ## Calls and passes -/

section Calls

variable {script : Script} {settings : Settings} {bound : Nat} {listing : Listing} {seat : Seat}
  {number : Nat} {text : String} {store : Store}

theorem Seat.agrees_done {action : Action Unit} {scope : Scope}
    (does : action (seat.activity.scope number text store) = .ok () scope)
    (kept : (seat.activity.scope number text store).Kept scope) :
    seat.Agrees script bound 0 (seat.AtLine number)
      (.next { seat.state ⟨number, some text⟩ store with scope }) store
      (seat.activity.act number text action store) := by
  refine agrees_act ?_
  rw [does, state_of_kept kept]
  exact .ok kept ⟨_, rfl⟩

theorem Seat.leads_call {entry keyword : String} {args : List String} {cursor : Cursor}
    {locals : Locals} {signal : Signal} :
    Step.Leads script 1 (.next ((seat.calling number text store.locals (.call keyword) entry
        args).leaving cursor ⟨store.machine, locals⟩ signal))
      (.next ((seat.state ⟨number, some text⟩ store).keepReturned signal.value)) := by
  refine .next ?_
  rw [State.step_leaving rfl, State.handOver_call rfl]
  exact .refl _

theorem Seat.leads_pass {entry : String} {loop : ExternalLoop} {args : List String}
    {cursor : Cursor} {locals : Locals} {signal : Signal} :
    Step.Leads script 1 (.next ((seat.calling number text store.locals (.pass loop) entry
        args).leaving cursor ⟨store.machine, locals⟩ signal))
      (((seat.state ⟨number, some text⟩ store).keepReturned signal.value).afterPass script loop
        signal) := by
  refine .next ?_
  rw [State.step_leaving rfl, State.handOver_pass rfl]
  exact .refl _

theorem followAgrees (prints : listing.Prints settings script)
    {evalPasses : Activity → Nat → String → ExternalLoop → Bool → Store →
      Option (Except Exit Unit × Store)}
    {call : Activity → Nat → Nat → Definition → List String → Store →
      Option (Except Exit Signal × Store)}
    (passes : ExternalPassesAgree script settings bound evalPasses)
    (calls : CallsAgree script settings bound call) :
    FollowAgrees script settings bound fun activity number text flow =>
      match flow with
      | .next => (pure () : Eval Unit)
      | .leave signal => (throw (.leaves signal) : Eval Unit)
      | .call entry args =>
          match listing.find? entry with
          | none =>
              activity.act number text do
                Activity.reportMissing entry
                Activity.keepReturned nullText
          | some (above, definition) => (do
              let signal ← (call activity number above definition args : Eval Signal)
              activity.act number text (Activity.keepReturned signal.value) : Eval Unit)
      | .external loop entered => evalPasses activity number text loop entered
      | .inline _ _ => (pure () : Eval Unit) := by
  rintro _ number text flow store _ ⟨seat, keyword, ready, simple⟩
  dsimp only
  cases flow with
  | next => exact Seat.agrees_now (.refl _) ⟨_, rfl⟩
  | leave signal =>
      exact Seat.agrees_now (.refl _) ⟨fun line value same => simple.2 line value (same ▸ rfl), _, rfl⟩
  | external loop entered => exact passes _ _ _ _ _ _ _ (.stands seat ready)
  | inline loop entered => exact absurd rfl (simple.1 loop entered)
  | call entry args =>
      change seat.Agrees script bound 0 _
        ((seat.state ⟨number, some text⟩ store).call script keyword entry args) store _
      unfold State.call
      dsimp only
      rw [Listing.entryLine?_eq prints.formed prints.printed]
      cases found : listing.find? entry with
      | none =>
          refine Seat.agrees_done rfl ?_
          exact .ofMachine ⟨rfl, rfl, rfl, rfl, rfl, rfl, rfl, List.suffix_rfl⟩
      | some answer =>
          obtain ⟨above, definition⟩ := answer
          obtain ⟨rfl, stands⟩ := prints.find? found
          refine (calls _ _ _ _ _ _ _ (.stands seat text (.call keyword) ready stands)).bind ?_
          rintro signal after _ - ⟨locals, -, cursor, rfl⟩
          refine (Seat.Agrees.after ?_ (.refl _) Seat.leads_call).weaken
          exact Seat.agrees_done rfl (Activity.kept_keepReturned _ _)

def ExternalLoop.Checked (script : Script) (seat : Seat) (number : Nat) (text : String)
    (loop : ExternalLoop) : Option LoopPlan → Store → Step → Prop
  | none, after, last => seat.AtLine number () after last
  | some plan, after, last => last =
      (seat.state ⟨number, some text⟩ after).startPass script { loop with plan }

theorem ExternalLoop.answers_nextPlan (ready : store.machine.Ready settings) (loop : ExternalLoop) :
    seat.Answers number text (loop.Checked script seat number text) store
      ((seat.state ⟨number, some text⟩ store).continueExternal script loop)
      (loop.kind.nextPlan true loop.plan (seat.activity.scope number text store)) := by
  obtain ⟨kind, plan, body⟩ := loop
  match plan with
  | .count 0 => exact .ok (.refl _) ⟨_, rfl⟩
  | .count (left + 1) => exact .ok (.refl _) rfl
  | .condition header => exact Seat.answers_condition ready (fun _ => rfl) fun _ => ⟨_, rfl⟩

theorem externalPassesAgree
    {evalPass : Activity → Nat → String → ExternalLoop → Store → Option (Except Exit Unit × Store)}
    (pass : ExternalPassAgrees script settings bound evalPass) :
    ExternalPassesAgree script settings bound fun activity number text loop entered => (do
      match ← activity.pass number text loop.kind true loop.plan entered with
      | none => pure ()
      | some plan => evalPass activity number text { loop with plan } : Eval Unit) := by
  rintro _ number text loop entered store _ ⟨seat, ready⟩
  dsimp only
  have checked : seat.Agrees script bound 0 (loop.Checked script seat number text)
      ((seat.state ⟨number, some text⟩ store).externalPasses script loop entered) store
      (seat.activity.pass number text loop.kind true loop.plan entered store) := by
    cases entered with
    | true => exact Seat.agrees_now (.refl _) rfl
    | false => exact Seat.agrees_act (loop.answers_nextPlan ready)
  refine checked.bind ?_
  rintro (_ | plan) after last kept goal
  · exact Seat.agrees_now (.refl _) goal
  · rw [show last = _ from goal]
    exact pass _ _ _ _ _ _ (.stands seat (kept.ready ready))

theorem externalPassAgrees (prints : listing.Prints settings script)
    {evalPasses : Activity → Nat → String → ExternalLoop → Bool → Store →
      Option (Except Exit Unit × Store)}
    {call : Activity → Nat → Nat → Definition → List String → Store →
      Option (Except Exit Signal × Store)}
    (calls : CallsAgree script settings bound call)
    (passes : ExternalPassesAgree script settings (bound - 1) evalPasses) :
    ExternalPassAgrees script settings bound fun activity number text loop =>
      match listing.find? loop.body with
      | none =>
          activity.act number text do
            Activity.reportMissing loop.body
            Action.report .error s!"{loop.kind.keyword} statement failed to execute." .loop
      | some (above, definition) => (do
          let signal ← (call activity number above definition [] : Eval Signal)
          activity.act number text (Activity.keepReturned signal.value)
          match signal with
          | .broken _ => activity.act number text (Action.report .info "Break statement" .loop)
          | .continued _ => do
              activity.act number text (Action.report .info "Continue statement" .loop)
              (evalPasses activity number text loop false : Eval Unit)
          | _ => (evalPasses activity number text loop false : Eval Unit) : Eval Unit) := by
  rintro _ number text loop store _ ⟨seat, ready⟩
  dsimp only
  unfold State.startPass
  rw [Listing.entryLine?_eq prints.formed prints.printed]
  cases found : listing.find? loop.body with
  | none =>
      refine Seat.agrees_done rfl ?_
      exact .ofMachine ⟨rfl, rfl, rfl, rfl, rfl, rfl, rfl, List.suffix_rfl⟩
  | some answer =>
      obtain ⟨above, definition⟩ := answer
      obtain ⟨body, stands⟩ := prints.find? found
      dsimp only [Option.map_some]
      rw [← body]
      refine (calls _ _ _ _ _ _ _ (.stands seat text (.pass loop) ready stands)).bind ?_
      rintro signal after _ kept ⟨locals, other, cursor, rfl⟩
      have readyAfter := kept.ready ready
      -- The hand-over to the loop costs a step, so what comes next has a bound of one less.
      refine (Seat.Agrees.after ?_ (.refl _) Seat.leads_pass).weaken
      have returned : seat.Agrees script (bound - 1) 0
          (fun _ later last => last = (seat.state ⟨number, some text⟩ later).afterPass script loop
            signal)
          (((seat.state ⟨number, some text⟩ after).keepReturned signal.value).afterPass script loop
            signal) after
          (seat.activity.act number text (Activity.keepReturned signal.value) after) :=
        Seat.agrees_act (.ok (Activity.kept_keepReturned _ _) rfl)
      refine returned.bind ?_
      rintro _ later _ keptLater rfl
      have readyLater := keptLater.ready readyAfter
      have goes (last : Store) (readyLast : last.machine.Ready settings) :=
        passes _ number text loop false last _ (.stands seat readyLast)
      cases signal with
      | resume line value => exact absurd rfl (other line value)
      | returned value => exact goes later readyLater
      | broken value => exact Seat.agrees_done rfl (Scope.kept_report _ _)
      | continued value =>
          have reported : seat.Agrees script (bound - 1) 0
              (fun _ last step => step = (seat.state ⟨number, some text⟩ last).externalPasses script
                loop false)
              ((seat.state ⟨number, some text⟩ later).afterPass script loop (.continued value)) later
              (seat.activity.act number text (Action.report .info "Continue statement" .loop)
                later) :=
            Seat.agrees_act (.ok (Scope.kept_report _ _) rfl)
          refine reported.bind ?_
          rintro _ last _ keptLast rfl
          exact goes last (keptLast.ready readyLater)

end Calls

end LineScript

import LineScript.Proofs.Argument.Count
import LineScript.Proofs.Events

/-!
Lines that are counted and lines that are executed. A run executes no line but those that are
counted as statements when the script is read, and an instruction receives as many arguments as were
counted. So the body of a loop follows its header exactly if the header was counted as one that
opens a block, and a header that is checked again has a comparison and two values.
-/

namespace LineScript

open LineScript.Action

def Step.Stays (now : State) : Step → Prop
  | .next after => after.control = now.control ∧ after.suspended = now.suspended
  | .stop ending _ => ∃ fault, ending = .failed fault

/-! ## What a line asks for -/

namespace State

variable {script : Script} {line : Line} {now : State} {spec : Spec Meaning} {flow : Flow}
  {after : Scope}

/-- The instruction of a line asks for something when it is done: the arguments have been read, and
the instruction is known and takes so many of them. -/
inductive Asked (script : Script) (line : Line) (now : State) (spec : Spec Meaning) (flow : Flow)
    (after : Scope) : Prop where
  | intro {limit : Int} {args : List String} {scope : Scope}
      (limited : now.scope.machine.settings.maxArgs = some limit)
      (fits : pieces? limit line.tokens = .ok (piecesOf line.tokens))
      (resolved : Reference.resolveAll (piecesOf line.tokens) now.scope = .ok args scope)
      (found : scope.machine.lookup? line.keyword = some spec)
      (supplied : spec.arityProblem? args.length = none)
      (performed : spec.action.perform script now.inBody line.number (piecesOf line.tokens) args
        scope = .ok flow after)

theorem stays_lineFault (now state : State) (fault : Fault) :
    (state.lineFault fault).Stays now := by
  cases fault with
  | exception exception =>
      unfold lineFault
      dsimp only
      split <;> exact ⟨_, rfl⟩
  | _ => exact ⟨_, rfl⟩

theorem stays_instructionFault (running : now.control = .running) (scope : Scope) (name : String)
    (code : Code) (fault : Fault) :
    (instructionFault { now with scope } name code fault).Stays now := by
  cases fault with
  | unreadable text => exact ⟨running.symm, rfl⟩
  | _ => exact ⟨_, rfl⟩

theorem Asked.meets (asked : now.Asked script line spec flow after) :
    ∃ args scope, now.Meets line spec args scope ∧
      now.performed script line spec args scope = .ok flow after := by
  obtain ⟨limited, fits, resolved, found, supplied, performed⟩ := asked
  exact ⟨_, _, ⟨Settings.allows_of_fits limited fits, resolved, found, supplied⟩, performed⟩

theorem Asked.execute (asked : now.Asked script line spec flow after) :
    now.execute script line = State.follow script spec.name flow { now with scope := after } := by
  obtain ⟨args, scope, met, performed⟩ := asked.meets
  rw [met.execute]
  exact congrArg (now.settle script spec) performed

theorem performs_or_stays (script : Script) (line : Line) (running : now.control = .running) :
    (∃ spec args scope flow after, now.Meets line spec args scope ∧
      now.performed script line spec args scope = .ok flow after ∧
      now.execute script line = State.follow script spec.name flow { now with scope := after }) ∨
      (now.execute script line).Stays now := by
  cases now.execution script line with
  | performs met performed execute => exact .inl ⟨_, _, _, _, _, met, performed, execute⟩
  | fails met performed execute =>
      exact .inr (execute ▸ stays_instructionFault running _ _ _ _)
  | unlimited unset execute => exact .inr (execute ▸ stays_lineFault _ _ _)
  | excess limited execute => exact .inr (execute ▸ ⟨rfl, rfl⟩)
  | unread allowed resolved execute => exact .inr (execute ▸ stays_lineFault _ _ _)
  | unnamed allowed resolved tokens execute => exact .inr (execute ▸ stays_lineFault _ _ _)
  | unknown allowed resolved unknown execute => exact .inr (execute ▸ ⟨_, rfl⟩)
  | unsupplied allowed resolved found refused execute => exact .inr (execute ▸ ⟨rfl, rfl⟩)

theorem asked_or_stays (script : Script) (line : Line) (running : now.control = .running)
    {limit : Int} (limited : now.scope.machine.settings.maxArgs = some limit) :
    (∃ spec flow after, now.Asked script line spec flow after) ∨
      (now.execute script line).Stays now := by
  rcases performs_or_stays script line running with
    ⟨spec, args, scope, flow, after, met, performed, -⟩ | stays
  · exact .inl ⟨spec, flow, after, limited, met.allowed.fits limited, met.resolved, met.found,
      met.supplied, performed⟩
  · exact .inr stays

end State

/-! ## Headers of loops -/

theorem Instruction.arity_of_loop : ∀ entry ∈ allEntries,
    ∀ kind ∈ [LoopKind.forLoop, .whileLoop, .doWhileLoop], entry.instruction = .loop kind →
      entry.minArgs = kind.inlineArity ∧ entry.maxArgs = some ((kind.inlineArity : Int) + 1) := by
  decide +kernel

theorem Machine.arity_loop {machine : Machine} {keyword : String} {spec : Spec Meaning}
    (found : machine.lookup? keyword = some spec) {kind : LoopKind}
    (same : spec.action = .builtin (.loop kind)) {supplied : Nat}
    (fits : spec.arityProblem? supplied = none) :
    supplied = kind.inlineArity ∨ supplied = kind.inlineArity + 1 := by
  rcases lookup?_cases found with ⟨entry, listed, origin, -, -, rfl⟩ | ⟨added, -, rfl⟩
  · obtain ⟨least, most⟩ := Instruction.arity_of_loop entry listed kind (by cases kind <;> decide)
      (Meaning.builtin.inj same)
    unfold Spec.arityProblem? at fits
    rw [least, most] at fits
    dsimp only at fits
    split_ifs at fits
    omega
  · cases same

namespace LoopKind

variable {script : Script} {limit : Int} {kind : LoopKind} {external : Bool} {number : Nat}

theorem opens_iff (statement : Statement) (same : statement.keyword = kind.keyword) :
    kind.marker.opens statement = true ↔ statement.argc = kind.inlineArity := by
  simp only [marker, BlockMarker.opens, same, beq_self_eq_true, Bool.true_and, beq_iff_eq,
    Int.ofNat_inj]

/-- A statement with the keyword of a loop stands on the line and has these arguments. It opens a
block if the body of the loop follows it, and names its body if not. -/
structure Header (script : Script) (limit : Int) (kind : LoopKind) (external : Bool) (number : Nat)
    (header : List Piece) : Prop where
  statement : ∃ statement ∈ script.statements, statement.number = number ∧
    statement.keyword = kind.keyword ∧ statement.argc = header.length ∧
    kind.marker.opens statement = !external
  line : ∃ text, script.line? number = some text ∧ pieces? limit (tokenize text) = .ok header
  length : header.length = kind.inlineArity + if external then 1 else 0

def Heads (script : Script) (limit : Int) (kind : LoopKind) (external : Bool) (number : Nat)
    (plan : LoopPlan) : Prop :=
  ∀ header, plan = .condition header →
    kind ≠ .forLoop ∧ kind.Header script limit external number header

theorem heads_of_plans {keyword : String} {header : List Piece} {plan : LoopPlan}
    (listed : ⟨number, keyword, header.length⟩ ∈ script.statements)
    (named : keyword = kind.keyword)
    (line : ∃ text, script.line? number = some text ∧ pieces? limit (tokenize text) = .ok header)
    (length : header.length = kind.inlineArity + if external then 1 else 0)
    (planned : kind.Plans header plan) : kind.Heads script limit external number plan := by
  intro checked same
  subst same
  have opens : kind.marker.opens ⟨number, keyword, header.length⟩ = !external := by
    rw [Bool.eq_iff_iff, opens_iff _ named, length]
    cases external <;> simp
  have header : kind.Header script limit external number header :=
    ⟨⟨_, listed, rfl, named, rfl, opens⟩, line, length⟩
  cases kind with
  | forLoop =>
      obtain ⟨left, same⟩ := planned
      cases same
  | whileLoop =>
      cases planned
      exact ⟨nofun, header⟩
  | doWhileLoop =>
      cases planned
      exact ⟨nofun, header⟩

theorem Heads.next {plan again : LoopPlan} (heads : kind.Heads script limit external number plan)
    (next : plan.Next again) : kind.Heads script limit external number again := by
  cases next with
  | checked header => exact heads
  | counted left => exact fun header same => nomatch same

/-- The comparison of two values that stand in a header, below the name of the body if there is
one. -/
def comparison (external : Bool) (header : List Piece) : Action Bool := do
  let args ← Reference.resolveAll header
  let operands := if external then args.drop 1 else args
  Effect.compare (operands.getD 0 "") (operands.getD 1 "") (operands.getD 2 "")

theorem condition_eq {header : List Piece}
    (enough : 3 + (if external then 1 else 0) ≤ header.length) :
    kind.condition external header = comparison external header := by
  funext scope
  unfold condition comparison
  rw [bind_apply, bind_apply]
  cases resolved : Reference.resolveAll header scope with
  | error fault after => rfl
  | ok args after =>
      have length := Reference.length_resolveAll resolved
      have operands : 3 ≤ (if external then args.drop 1 else args).length := by
        cases external with
        | true =>
            simp only [if_true, List.length_drop] at enough ⊢
            omega
        | false =>
            simp only [Bool.false_eq_true, if_false] at enough ⊢
            omega
      dsimp only
      obtain ⟨first, second, third, rest, same⟩ := exists_three operands
      rw [same]
      rfl

end LoopKind

/-! ## The form of a loop -/

namespace State

variable {script : Script} {line : Line} {now : State} {spec : Spec Meaning} {flow : Flow}
  {after : Scope} {kind : LoopKind} {limit : Int}

/-- The form in which a loop is executed: its body follows the header if that has as many arguments
as a header of this form, and it is named by the first argument if there is one more. -/
inductive Forms (kind : LoopKind) (line : Line) : Flow → Prop where
  | inline {plan : LoopPlan} (exact : (piecesOf line.tokens).length = kind.inlineArity)
      (planned : kind.Plans (piecesOf line.tokens) plan) :
      Forms kind line (.inline ⟨kind, plan, line.number, none⟩ kind.entersFirst)
  | external {plan : LoopPlan} (body : String)
      (more : (piecesOf line.tokens).length = kind.inlineArity + 1)
      (planned : kind.Plans (piecesOf line.tokens) plan) :
      Forms kind line (.external ⟨kind, plan, body⟩ kind.entersFirst)

theorem Asked.kept (asked : now.Asked script line spec flow after) :
    flow = .next ∨ now.scope.Kept after := by
  obtain ⟨limited, fits, resolved, found, supplied, performed⟩ := asked
  have keeps : Keeps (fun _ => False) (Reference.resolveAll (piecesOf line.tokens)) :=
    Reference.keeps_resolveAll _
  have early := keeps.ok resolved
  obtain ⟨-, late | ⟨same, -⟩⟩ :=
    Meaning.perform_ok (Machine.lookup?_supplied found supplied) performed
  · exact .inr (early.trans late)
  · exact .inl same

theorem Asked.asks (asked : now.Asked script line spec flow after) :
    Asks now.inBody line.number (piecesOf line.tokens) spec.action flow := by
  obtain ⟨limited, fits, resolved, found, supplied, performed⟩ := asked
  exact (Meaning.perform_ok (Machine.lookup?_supplied found supplied) performed).1

theorem forms_start {args : List String} {scope : Scope}
    (length : args.length = (piecesOf line.tokens).length)
    (arity : args.length = kind.inlineArity ∨ args.length = kind.inlineArity + 1)
    (result : kind.start line.number (piecesOf line.tokens) args scope = .ok flow after) :
    Forms kind line flow := by
  unfold LoopKind.start at result
  split at result
  · split at result
    · next more =>
        obtain ⟨plan, middle, planned, last⟩ := bind_ok result
        cases last
        exact .external _ (by omega) (LoopKind.plans_plan planned)
    · next few =>
        obtain ⟨plan, middle, planned, last⟩ := bind_ok result
        cases last
        exact .inline (by omega) (LoopKind.plans_plan planned)
  · cases result

theorem Asked.forms (asked : now.Asked script line spec flow after)
    (same : spec.action = .builtin (.loop kind)) :
    line.keyword = kind.keyword ∧ Forms kind line flow := by
  obtain ⟨limited, fits, resolved, found, supplied, performed⟩ := asked
  have keyword : line.keyword = kind.keyword := by
    rw [← Machine.lookup?_loop found same]
    exact (Line.upper_keywordOf _).symm
  have arity := Machine.arity_loop found same supplied
  have length := Reference.length_resolveAll resolved
  rw [same] at performed
  exact ⟨keyword, forms_start length arity performed⟩

theorem Asked.loop (asked : now.Asked script line spec flow after) :
    (∀ loop entered, flow = .inline loop entered → spec.action = .builtin (.loop loop.kind)) ∧
      ∀ loop entered, flow = .external loop entered →
        spec.action = .builtin (.loop loop.kind) := by
  have asks := asked.asks
  generalize spec.action = meaning at asks ⊢
  cases asks with
  | external kind body planned =>
      refine ⟨nofun, fun loop entered same => ?_⟩
      cases same
      rfl
  | inline kind planned =>
      refine ⟨fun loop entered same => ?_, nofun⟩
      cases same
      rfl
  | _ => exact ⟨nofun, nofun⟩

end State

/-! ## The loops that wait -/

def Suspended.Headed (script : Script) (limit : Int) : Suspended → Prop
  | caller _ (.call _) => True
  | caller frame (.pass loop) => loop.kind.Heads script limit true frame.cursor.line loop.plan
  | owner cursor loop => loop.kind.Heads script limit false cursor.line loop.plan

def Flow.Headed (script : Script) (limit : Int) (number : Nat) : Flow → Prop
  | .external loop _ => loop.kind.Heads script limit true number loop.plan
  | .inline loop _ => loop.kind.Heads script limit false number loop.plan ∧ loop.endLine = none
  | _ => True

def State.Headed (script : Script) (limit : Int) (state : State) : Prop :=
  ∀ waiting ∈ state.suspended, waiting.Headed script limit

theorem Suspended.Headed.repeats {script : Script} {limit : Int} {waiting other : Suspended}
    {signal : Signal} (headed : waiting.Headed script limit)
    (repeats : waiting.Repeats signal other) : other.Headed script limit := by
  match waiting, other with
  | .caller frame (.pass loop), .caller place (.pass again) =>
      obtain ⟨cursor, kind, plan⟩ := repeats
      change again.kind.Heads script limit true place.cursor.line again.plan
      rw [kind, cursor]
      exact LoopKind.Heads.next headed plan
  | .owner cursor loop, .owner place again =>
      obtain ⟨rfl, kind, plan, -⟩ := repeats
      have sameKind : (loop.after signal).kind = loop.kind := by cases signal <;> rfl
      have samePlan : (loop.after signal).plan = loop.plan := by cases signal <;> rfl
      change again.kind.Heads script limit false place.line again.plan
      rw [kind, sameKind]
      exact LoopKind.Heads.next headed (samePlan ▸ plan)
  | .caller _ (.call _), _ => exact repeats.elim
  | .caller _ (.pass _), .owner _ _ => exact repeats.elim
  | .caller _ (.pass _), .caller _ (.call _) => exact repeats.elim
  | .owner _ _, .caller _ _ => exact repeats.elim

namespace State

variable {script : Script} {state after : State} {limit : Int}

theorem goes_headed {now : State} {keyword : String} {flow : Flow}
    (running : now.control = .running)
    (headed : flow.Headed script limit now.scope.frame.cursor.line) :
    (now.follow script keyword flow).Goes script (Suspended.Headed script limit) (fun _ => True)
      False now := by
  cases flow with
  | next => exact Step.goes_next (onward_kept (.refl _))
  | leave signal => exact ⟨⟨.refl _, rfl, rfl⟩, .leaves rfl trivial rfl (.refl _)⟩
  | call entry args => exact goes_call False.elim keyword entry args trivial
  | external loop entered =>
      change (if entered then _ else _ : Step).Goes _ _ _ _ _
      split
      · exact goes_startPass False.elim headed
      · refine goes_continueExternal False.elim running fun frame again place next => ?_
        change again.kind.Heads script limit true frame.cursor.line again.plan
        rw [next.1, place]
        exact headed.next next.2
  | inline loop entered =>
      obtain ⟨heads, unended⟩ := headed
      refine goes_openInline False.elim running (fun again next => ?_) unended False.elim
      rcases next with rfl | ⟨kind, plan, -⟩
      · exact heads
      · change again.kind.Heads script limit false now.scope.frame.cursor.line again.plan
        rw [kind]
        exact heads.next plan

theorem Forms.headed {kind : LoopKind} {text : String} {number : Nat} {flow : Flow}
    (forms : Forms kind (.ofText number text) flow) (found : script.line? number = some text)
    (executed : LineText.isInstruction text = true)
    (keyword : LineText.keyword text = kind.keyword)
    (fits : pieces? limit (tokenize text) = .ok (LineText.pieces text)) :
    flow.Headed script limit number := by
  have member : ⟨number, LineText.keyword text, (LineText.pieces text).length⟩ ∈
      script.statements := by
    cases number with
    | zero => cases found
    | succ number => exact Script.mem_statements found executed
  have line : ∃ text', script.line? number = some text' ∧
      pieces? limit (tokenize text') = .ok (LineText.pieces text) := ⟨text, found, fits⟩
  cases forms with
  | inline exact planned => exact ⟨LoopKind.heads_of_plans member keyword line exact planned, rfl⟩
  | external body more planned => exact LoopKind.heads_of_plans member keyword line more planned

theorem Asked.headed {text : String} {now : State} {spec : Spec Meaning} {flow : Flow}
    {number : Nat} {scope : Scope} (asked : now.Asked script (.ofText number text) spec flow scope)
    (limited : now.scope.machine.settings.maxArgs = some limit)
    (here : now.scope.frame.cursor.line = number) (found : script.line? number = some text)
    (executed : LineText.isInstruction text = true) :
    flow.Headed script limit scope.frame.cursor.line := by
  have fits : pieces? limit (tokenize text) = .ok (LineText.pieces text) := by
    obtain ⟨same, fits, -⟩ := asked
    cases limited.symm.trans same
    exact fits
  have headed {kind : LoopKind} (same : spec.action = .builtin (.loop kind)) :
      flow.Headed script limit number := by
    obtain ⟨keyword, forms⟩ := asked.forms same
    exact forms.headed found executed keyword fits
  have place (starts : flow ≠ .next) : scope.frame.cursor.line = number := by
    rw [(asked.kept.resolve_left starts).cursor, here]
  obtain ⟨inlines, externals⟩ := asked.loop
  cases flow with
  | external loop entered =>
      rw [place nofun]
      exact headed (externals loop entered rfl)
  | inline loop entered =>
      rw [place nofun]
      exact headed (inlines loop entered rfl)
  | _ => trivial

end State

/-! ## What a step preserves -/

theorem Outcome.headed {script : Script} {limit : Int} {fresh : Suspended → Prop}
    {exits : Signal → Prop} {now after : State} (outcome : Outcome script fresh exits now after)
    (headed : now.Headed script limit)
    (known : ∀ waiting, fresh waiting → waiting.Headed script limit) :
    after.Headed script limit := by
  unfold State.Headed
  cases outcome with
  | stays control same frame =>
      rw [same]
      exact headed
  | leaves control fitting same frame =>
      rw [same]
      exact headed
  | enters control fitting pushed frame starts room =>
      rw [pushed]
      exact List.forall_mem_cons.mpr ⟨known _ fitting, headed⟩

namespace State

variable {script : Script} {state after : State} {limit : Int}

/-- What the next step does with a line: it executes no line but the next one, which is a statement
of the script. -/
inductive Dispatches (script : Script) (state : State) : Prop where
  | executes {line : Line} {statement : Statement} (next : state.nextLine? script = some line)
      (listed : statement ∈ script.statements) (number : line.number = statement.number)
      (keyword : line.keyword = statement.keyword)
      (argc : (piecesOf line.tokens).length = statement.argc)
      (steps : state.step script = match (state.announced line.text).2 with
        | some fault => (state.told line.text).abort fault
        | none => (state.told line.text).execute script line)
  | passes {machine : Machine} {control : Control} (running : state.control = .running)
      (quiet : state.nextLine? script = none)
      (steps : state.step script = .next
        { (state.moveTo (state.scope.frame.cursor.read script)).onMachine fun _ => machine with
          control })
  | resumes {signal : Signal} (leaving : state.control = .leaving signal)
      (quiet : state.nextLine? script = none)
      (steps : state.step script = state.handOver script signal)

theorem dispatches (script : Script) (whole : state.oneLine = false) :
    state.Dispatches script := by
  cases control : state.control with
  | leaving signal => exact .resumes control (nextLine?_leaving control) (step_leaving control)
  | running =>
      have steps : state.step script = state.advance script := step_running control whole
      cases state.advances script with
      | ends last advance =>
          have passed : state.step script = .next
              { (state.moveTo (state.scope.frame.cursor.read script)).onMachine fun _ =>
                  state.scope.machine with control := .leaving (.returned nullText) } := by
            rw [steps, advance, read_end last]
            rfl
          exact .passes control (nextLine?_end last) passed
      | skips found other advance =>
          have passed : state.step script = .next
              { (state.moveTo (state.scope.frame.cursor.read script)).onMachine fun _ =>
                  state.scope.machine with control := .running } := by
            rw [steps, advance, read_line found, ← control]
            rfl
          exact .passes control (nextLine?_other control found other) passed
      | @directs text found other filled directive advance =>
          have passed : state.step script = .next
              { (state.moveTo (state.scope.frame.cursor.read script)).onMachine fun _ =>
                  Directive.apply state.scope.machine ((state.scope.frame.cursor.line + 1 : Nat))
                    text with control := .running } := by
            rw [steps, advance, read_line found, ← control]
            rfl
          exact .passes control (nextLine?_other control found other) passed
      | executes found executed =>
          obtain ⟨statement, listed, number, keyword, argc⟩ :=
            Script.exists_statement found executed
          refine .executes (nextLine?_instruction control found executed) listed number.symm
            keyword.symm argc.symm ?_
          rw [steps, advance_instruction found executed]
          rfl

theorem Headed.execute {text : String} {number : Nat} {now : State}
    (headed : now.Headed script limit) (running : now.control = .running)
    (limited : now.scope.machine.settings.maxArgs = some limit)
    (here : now.scope.frame.cursor.line = number) (found : script.line? number = some text)
    (executed : LineText.isInstruction text = true)
    (stepped : now.execute script (.ofText number text) = .next after) :
    after.Headed script limit := by
  rcases asked_or_stays script (.ofText number text) running limited with
    ⟨spec, flow, scope, asked⟩ | stays
  · have goes : (now.execute script (.ofText number text)).Goes script
        (Suspended.Headed script limit) (fun _ => True) False { now with scope } := by
      rw [asked.execute]
      exact goes_headed running (asked.headed limited here found executed)
    rw [stepped] at goes
    exact goes.2.headed headed fun _ known => known
  · rw [stepped] at stays
    unfold Headed
    rw [stays.2]
    exact headed

theorem Headed.step (headed : state.Headed script limit) (dispatches : state.Dispatches script)
    (limited : state.scope.machine.settings.maxArgs = some limit)
    (transition : Transition script state after) (stepped : state.step script = .next after) :
    after.Headed script limit := by
  cases dispatches with
  | passes running quiet steps =>
      rw [steps] at stepped
      cases stepped
      exact headed
  | resumes leaving quiet steps =>
      -- The frame that takes over goes on with its loop, whose header has been read before.
      cases transition with
      | reads running => cases running.symm.trans leaving
      | finishes running => cases running.symm.trans leaving
      | returns left waits ready frame outcome =>
          unfold Headed at headed
          rw [waits] at headed
          obtain ⟨waiting, below⟩ := List.forall_mem_cons.mp headed
          exact outcome.headed below fun other repeats => waiting.repeats repeats
  | executes next listed number keyword argc steps =>
      obtain ⟨running, text, rfl, found, executed⟩ := isInstruction_of_nextLine? next
      have same := state.same_told text
      rw [stepped] at steps
      cases heard : (state.announced text).2 with
      | some fault =>
          rw [show Line.text (.ofText _ text) = text from rfl, heard] at steps
          cases steps
      | none =>
          rw [show Line.text (.ofText _ text) = text from rfl, heard] at steps
          refine Headed.execute ?_ (same.control.trans running) ?_ ?_ found executed steps.symm
          · unfold Headed
            rw [same.suspended]
            exact headed
          · rw [same.machine.settings]
            exact limited
          · rw [same.frame]
            rfl

/-! ## The headers that are checked -/

/-- The next step checks the header of a loop before a pass: after another pass, or where the loop
begins. -/
inductive Checks (script : Script) (state : State) : LoopKind → Bool → List Piece → Prop where
  | afterPass {signal : Signal} {frame : Frame} {loop : ExternalLoop} {rest : List Suspended}
      {header : List Piece} (leaving : state.control = .leaving signal)
      (waits : state.suspended = .caller frame (.pass loop) :: rest)
      (planned : loop.plan = .condition header) : Checks script state loop.kind true header
  | afterBody {signal : Signal} {cursor : Cursor} {loop : InlineLoop} {rest : List Suspended}
      {header : List Piece} (leaving : state.control = .leaving signal)
      (waits : state.suspended = .owner cursor loop :: rest)
      (planned : loop.plan = .condition header) : Checks script state loop.kind false header
  | external {line : Line} {spec : Spec Meaning} {loop : ExternalLoop} {entered : Bool}
      {after : Scope} {header : List Piece} (next : state.nextLine? script = some line)
      (asked : (state.told line.text).Asked script line spec (.external loop entered) after)
      (planned : loop.plan = .condition header) : Checks script state loop.kind true header
  | inline {line : Line} {spec : Spec Meaning} {loop : InlineLoop} {entered : Bool}
      {after : Scope} {header : List Piece} (next : state.nextLine? script = some line)
      (asked : (state.told line.text).Asked script line spec (.inline loop entered) after)
      (planned : loop.plan = .condition header) : Checks script state loop.kind false header

theorem Asked.headed_next {line : Line} {spec : Spec Meaning} {flow : Flow} {scope : Scope}
    (next : state.nextLine? script = some line)
    (asked : (state.told line.text).Asked script line spec flow scope)
    (limited : state.scope.machine.settings.maxArgs = some limit) :
    flow.Headed script limit scope.frame.cursor.line := by
  obtain ⟨running, text, rfl, found, executed⟩ := isInstruction_of_nextLine? next
  have same := state.same_told text
  refine asked.headed ?_ ?_ found executed
  · exact (congrArg Settings.maxArgs same.machine.settings).trans limited
  · exact congrArg (fun frame : Frame => frame.cursor.line) same.frame

theorem Headed.heads {kind : LoopKind} {external : Bool} {header : List Piece}
    (headed : state.Headed script limit)
    (limited : state.scope.machine.settings.maxArgs = some limit)
    (checks : state.Checks script kind external header) :
    ∃ number, kind ≠ .forLoop ∧ kind.Header script limit external number header := by
  cases checks with
  | @afterPass signal frame loop rest header leaving waits planned =>
      have heads : loop.kind.Heads script limit true frame.cursor.line loop.plan :=
        headed (.caller frame (.pass loop)) (waits ▸ List.mem_cons_self)
      exact ⟨_, heads header planned⟩
  | @afterBody signal cursor loop rest header leaving waits planned =>
      have heads : loop.kind.Heads script limit false cursor.line loop.plan :=
        headed (.owner cursor loop) (waits ▸ List.mem_cons_self)
      exact ⟨_, heads header planned⟩
  | external next asked planned => exact ⟨_, asked.headed_next next limited _ planned⟩
  | inline next asked planned => exact ⟨_, (asked.headed_next next limited).1 _ planned⟩

end State

namespace Program

variable {script : Script} {entry : String} {machine : Machine} {state : State} {limit : Int}

theorem Reaches.limited (reached : Reaches script entry machine state)
    (limited : machine.settings.maxArgs = some limit) :
    state.scope.machine.settings.maxArgs = some limit :=
  (congrArg Settings.maxArgs reached.follows.settings).trans limited

theorem Reaches.headed (limited : machine.settings.maxArgs = some limit)
    (reached : Reaches script entry machine state) : state.Headed script limit := by
  induction reached with
  | start started =>
      unfold State.Headed
      rw [(starts_of_running started).suspended]
      exact fun _ member => nomatch member
  | step reached stepped headed =>
      exact headed.step (State.dispatches script reached.inPlace.whole) (reached.limited limited)
        (reached.transition stepped).2 stepped

end Program

/-- What is asked for fits the statement of the line: a loop is executed in the form in which its
body follows the header exactly if the statement opens a block. -/
structure Statement.Shapes (statement : Statement) (spec : Spec Meaning) (flow : Flow) : Prop where
  form : ∀ kind, spec.action = .builtin (.loop kind) → statement.keyword = kind.keyword ∧
    ((∃ loop entered, flow = .inline loop entered) ↔ kind.marker.opens statement = true)
  inline : ∀ loop entered, flow = .inline loop entered →
    spec.action = .builtin (.loop loop.kind)

theorem State.Asked.shapes {script : Script} {line : Line} {now : State} {spec : Spec Meaning}
    {flow : Flow} {after : Scope} {statement : Statement}
    (asked : now.Asked script line spec flow after) (keyword : line.keyword = statement.keyword)
    (argc : (piecesOf line.tokens).length = statement.argc) :
    statement.Shapes spec flow where
  form kind same := by
    obtain ⟨name, forms⟩ := asked.forms same
    have named := keyword.symm.trans name
    refine ⟨named, ?_⟩
    rw [LoopKind.opens_iff _ named, ← argc]
    cases forms with
    | inline exact planned => exact iff_of_true ⟨_, _, rfl⟩ exact
    | external body more planned => exact iff_of_false (fun ⟨_, _, same⟩ => nomatch same) (by omega)
  inline := asked.loop.1

namespace Program

/-- What is counted when the script of a text is read agrees with what its runs execute. -/
structure Agrees (file text entry : String) (machine : Machine) (limit : Int) : Prop where
  /-- The arguments of the statements are counted, and as many are extracted. -/
  counted : ∀ statement ∈ (Script.ofText file text).statements, ∃ line,
    (Script.ofText file text).line? statement.number = some line ∧
    argumentCount (text.length + 1) (tokenize line) = statement.argc ∧
    statement.Counts (tokenize line)
  dispatched : ∀ state, Reaches (Script.ofText file text) entry machine state →
    state.Dispatches (Script.ofText file text)
  formed : ∀ state line spec flow after, Reaches (Script.ofText file text) entry machine state →
    state.nextLine? (Script.ofText file text) = some line →
    (state.told line.text).Asked (Script.ofText file text) line spec flow after →
    (state.told line.text).execute (Script.ofText file text) line =
        State.follow (Script.ofText file text) spec.name flow
          { state.told line.text with scope := after } ∧
      ∃ statement ∈ (Script.ofText file text).statements, statement.number = line.number ∧
        statement.Shapes spec flow
  /-- A header that is checked has a comparison and two values, and not too many arguments. -/
  checked : ∀ state kind external header, Reaches (Script.ofText file text) entry machine state →
    state.Checks (Script.ofText file text) kind external header →
    (∃ number, kind.Header (Script.ofText file text) limit external number header) ∧
      kind.condition external header = LoopKind.comparison external header

/-- The lines that are counted as statements are the lines that are executed, with the same
arguments. -/
theorem agrees_ofText (file text entry : String) {machine : Machine} {limit : Int}
    (limited : machine.settings.maxArgs = some limit) :
    Agrees file text entry machine limit where
  counted statement member := by
    obtain ⟨line, found, counts, counted⟩ := Script.statements_counted member
    exact ⟨line, found, counted, counts⟩
  dispatched state reached := State.dispatches _ reached.inPlace.whole
  formed state line spec flow after reached next asked := by
    refine ⟨asked.execute, ?_⟩
    cases State.dispatches _ reached.inPlace.whole with
    | passes running quiet => cases quiet.symm.trans next
    | resumes leaving quiet => cases quiet.symm.trans next
    | executes again listed number keyword argc =>
        cases again.symm.trans next
        exact ⟨_, listed, number.symm, asked.shapes keyword argc⟩
  checked state kind external header reached checks := by
    obtain ⟨number, loops, heads⟩ := (reached.headed limited).heads (reached.limited limited) checks
    have arity : kind.inlineArity = 3 := by
      cases kind with
      | forLoop => exact absurd rfl loops
      | whileLoop => rfl
      | doWhileLoop => rfl
    have length := heads.length
    rw [arity] at length
    exact ⟨⟨number, heads⟩, LoopKind.condition_eq (Nat.le_of_eq length.symm)⟩

theorem agrees_ofText_headerExample :
    Agrees "<string>" "DEF main\n[mode extended]\nWHILE = $x \"a b\"\nENDW\nENDDEF" "main"
      Machine.plainExample Settings.defaultArgs :=
  agrees_ofText _ _ _ rfl

end Program

end LineScript

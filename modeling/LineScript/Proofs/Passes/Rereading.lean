import LineScript.Proofs.Operands
import LineScript.Proofs.Passes.Count

/-!
How often the header of a loop with a condition is read. The arguments of its line are read when the
line is executed, like those of any other line, and anew at each check, which compares what it has
read itself. So the header is read once more than it is checked.
-/

namespace LineScript

open LineScript.Action

theorem State.Asked.resolved {script : Script} {line : Line} {now : State} {spec : Spec Meaning}
    {loop : Loop} {entered : Bool} {after : Scope}
    (asked : now.Asked script line spec (loop.flow entered) after)
    (conditional : loop.kind ≠ .forLoop) :
    ∃ args, Reference.resolveAll (piecesOf line.tokens) now.scope = .ok args after := by
  have action := asked.action
  obtain @⟨limit, args, read, limited, fits, resolved, found, supplied, performed⟩ := asked
  refine ⟨args, resolved.trans ?_⟩
  rw [action] at performed
  change LoopKind.start _ _ _ _ _ = _ at performed
  unfold LoopKind.start at performed
  have plans (amount : String) (header : List Piece) :
      loop.kind.plan amount header = return .condition header := by
    cases kind : loop.kind with
    | forLoop => exact absurd kind conditional
    | _ => rfl
  split at performed
  · rw [plans, plans] at performed
    split at performed <;>
      · obtain ⟨-, rfl⟩ := EStateM.Result.ok.inj performed
        rfl
  · cases performed

theorem Machine.Lasts.stays {property : Machine → Prop} {script : Script} {kept : List Suspended}
    {first state : State} (lasts : Machine.Lasts property) (holds : property first.scope.machine)
    (filled : kept ≠ []) (below : kept <:+ first.suspended)
    (stays : first.Stays script kept state) : property state.scope.machine := by
  induction stays with
  | refl => exact holds
  | @step state after stays room stepped ih =>
      have above : state.suspended ≠ [] := by
        intro empty
        have still := stays.suffix filled below
        rw [empty] at still
        exact filled (List.suffix_nil.mp still)
      have passes : (state.step script).Passes script state := State.passes_above above
      rw [stepped] at passes
      exact lasts.passage ih passes

/-! ## What a check takes -/

/-- The check has read the header of a loop and compares the values that it has read. -/
structure Check.Compares (check : Check) (external : Bool) (header : List Piece)
    (args : List String) (read : Scope) : Prop where
  resolved : Reference.resolveAll header check.before = .ok args read
  compared : ∃ comparison left right,
    (if external then args.drop 1 else args) = [comparison, left, right] ∧
      check.holds = (compareValues comparison left right).getD false
  after : read.Spends check.after 0 fun _ => 0

theorem Check.Reads.compares {check : Check} {loop : Loop} {header : List Piece}
    (reads : check.Reads loop header)
    (length : header.length = 3 + if loop.isExternal then 1 else 0) :
    ∃ args read, check.Compares loop.isExternal header args read := by
  unfold Reads LoopKind.condition at reads
  obtain ⟨args, read, resolved, compared⟩ := bind_ok reads
  have arity := Reference.length_resolveAll resolved
  generalize operands : (if loop.isExternal = true then args.drop 1 else args) = values at compared
  have three : values.length = 3 := by
    rw [← operands]
    split
    · next external =>
        rw [if_pos external] at length
        rw [List.length_drop, arity, length]
    · next inline =>
        rw [if_neg inline] at length
        rw [arity, length]
  obtain ⟨comparison, left, right, rfl⟩ := List.length_eq_three.mp three
  obtain ⟨holds, after⟩ := Effect.compare_ok compared
  exact ⟨args, read, resolved, ⟨comparison, left, right, operands, holds⟩, after⟩

theorem Check.Compares.spends {check : Check} {external : Bool} {header : List Piece}
    {args : List String} {read : Scope} (compares : check.Compares external header args read) :
    check.before.Spends check.after (check.before.machine.linesOf header)
      (check.before.machine.usesOf header) :=
  (Reference.takes_resolveAll header _ _ _ (.refl _) compares.resolved).trans compares.after

/-! ## All checks of a loop -/

namespace Loop

/-- The checks that a loop has made so far. -/
inductive Made (script : Script) (loop : Loop) (entered : Bool) (opened : State) :
    List Check → Prop where
  | turns {signals : List Signal} {checks : List Check} {current : Loop} {owner : State}
      (history : History script loop entered opened signals checks current owner) :
      Made script loop entered opened checks
  | passes {signals : List Signal} {checks more : List Check} {current again : Loop}
      {owner ready : State}
      (history : History script loop entered opened signals checks current owner)
      (passes : current.Passes (entered && signals.isEmpty) owner again ready more) :
      Made script loop entered opened (checks ++ more)
  | closes {signals : List Signal} {checks more : List Check} {current : Loop}
      {owner ready : State}
      (history : History script loop entered opened signals checks current owner)
      (closes : current.Closes (entered && signals.isEmpty) owner ready more) :
      Made script loop entered opened (checks ++ more)

variable {script : Script} {loop current again : Loop} {entered unchecked : Bool}
  {opened owner ready begun : State} {signals : List Signal} {checks more : List Check}
  {step : Step} {header : List Piece} {property : Machine → Prop}

theorem Finishes.made (finishes : Finishes script loop entered opened signals checks step) :
    Made script loop entered opened checks := by
  cases finishes with
  | closes history closes => exact .closes history closes
  | ends history begins => exact .passes history begins.passes
  | missing history passes => exact .passes history passes

theorem Passes.before {check : Check} (passes : current.Passes unchecked owner again ready checks)
    (member : check ∈ checks) : check.before = owner.scope := by
  cases passes with
  | unchecked => cases member
  | counted => cases member
  | checked =>
      rw [List.mem_singleton.mp member]

theorem Closes.before {check : Check} (closes : current.Closes unchecked owner ready checks)
    (member : check ∈ checks) : check.before = owner.scope := by
  cases closes with
  | counted => cases member
  | checked =>
      rw [List.mem_singleton.mp member]

theorem Begins.machine (begins : current.Begins script unchecked owner again ready checks begun) :
    begun.scope.machine = ready.scope.machine := by
  have started := begins.started
  have starting : again.Starts script ready (again.start script ready) := starts_start
  cases starting with
  | enters stepped running pushed machine =>
      cases stepped.symm.trans started
      exact machine
  | refused stepped => cases stepped.symm.trans started
  | missing form undefined stepped =>
      -- Without a definition nothing waits for a pass.
      cases stepped.symm.trans started
      have pushed := congrArg List.length begins.pushed
      rw [List.length_cons] at pushed
      have level : ready.suspended.length = owner.suspended.length + 1 := pushed
      rw [begins.passes.kept.2.1] at level
      omega

theorem History.lasts (lasts : Machine.Lasts property) (holds : property opened.scope.machine)
    (history : History script loop entered opened signals checks current owner) :
    property owner.scope.machine := by
  induction history with
  | opens => exact holds
  | @pass signals checks more current again owner ready begun left signal history begins pass
      onward ih =>
      have begun : property begun.scope.machine :=
        begins.machine ▸ lasts.kept begins.passes.kept.1.machine ih
      have ended : property left.scope.machine :=
        lasts.stays begun begins.filled List.suffix_rfl pass.stays
      exact lasts.kept (same_takeOver _ _ _).machine ended

theorem History.before {check : Check}
    (history : History script loop entered opened signals checks current owner)
    (member : check ∈ checks) : ∃ signals checks current owner,
      History script loop entered opened signals checks current owner ∧
        check.before = owner.scope := by
  induction history with
  | opens => cases member
  | pass history begins pass onward ih =>
      rcases List.mem_append.mp member with early | last
      · exact ih early
      · exact ⟨_, _, _, _, history, begins.passes.before last⟩

theorem Made.before {check : Check} (made : Made script loop entered opened checks)
    (member : check ∈ checks) : ∃ signals checks current owner,
      History script loop entered opened signals checks current owner ∧
        check.before = owner.scope := by
  cases made with
  | turns history => exact history.before member
  | passes history passes =>
      rcases List.mem_append.mp member with early | last
      · exact history.before early
      · exact ⟨_, _, _, _, history, passes.before last⟩
  | closes history closes =>
      rcases List.mem_append.mp member with early | last
      · exact history.before early
      · exact ⟨_, _, _, _, history, closes.before last⟩

theorem Made.reads (running : opened.control = .running) (planned : loop.plan = .condition header)
    (made : Made script loop entered opened checks) :
    ∀ check ∈ checks, check.Reads loop header := by
  cases made with
  | turns history => exact (history.checked running planned).2.2
  | passes history passes =>
      obtain ⟨here, held, reads⟩ := history.checked running planned
      exact (passes.checks_append (history.seated running) here held reads).2
  | closes history closes =>
      obtain ⟨here, held, reads⟩ := history.checked running planned
      obtain ⟨-, check, rfl, -, read, -⟩ := closes.conditional here
      intro other member
      rcases List.mem_append.mp member with early | last
      · exact reads other early
      · rw [List.mem_singleton.mp last]
        exact (history.seated running).reads read

/-! ## Main statement -/

/-- The times that the header of a loop has been read, with the frame of its line before and after:
once when the line was executed, and once for each check. -/
def readings (now opened : State) (checks : List Check) : List (Scope × Scope) :=
  (now.scope, opened.scope) :: checks.map fun check => (check.before, check.after)

def linesTaken (readings : List (Scope × Scope)) : Nat :=
  (readings.map fun reading => reading.2.machine.console.shown.length -
    reading.1.machine.console.shown.length).sum

/-- How often it has been reported on the line that a variable does not exist. -/
def reportsMade (name : String) (readings : List (Scope × Scope)) : Nat :=
  (readings.map fun reading => reading.2.unknowns name - reading.1.unknowns name).sum

/-- How the header of a loop with a condition is read; `opened` is the frame of the line when the
loop has been opened. -/
structure ReadsHeader (script : Script) (line : Line) (loop : Loop) (now opened : State) :
    Prop where
  finished : ∀ signals checks step,
    loop.Finishes script loop.kind.entersFirst opened signals checks step →
    loop.Made script loop.kind.entersFirst opened checks
  executed : ∃ args,
    Reference.resolveAll (piecesOf line.tokens) now.scope = .ok args opened.scope
  /-- A check reads the header and compares the values that it has read; each question among them is
  the line that it has taken itself. -/
  compared : ∀ checks, loop.Made script loop.kind.entersFirst opened checks →
    ∀ check ∈ checks, ∃ args read,
      check.Compares loop.isExternal (piecesOf line.tokens) args read ∧
      ∀ index, (piecesOf line.tokens)[index]? = some .question → args[index]? =
        some (check.before.machine.console.reply
          (check.before.machine.linesOf ((piecesOf line.tokens).take index)))
  /-- Each reading takes the lines that the header asks for, and reports the variables in it that do
  not exist, once for each mention. -/
  spends : ∀ checks, loop.Made script loop.kind.entersFirst opened checks →
    ∀ reading ∈ readings now opened checks,
      reading.1.frame.cursor = now.scope.frame.cursor ∧
      reading.1.Spends reading.2 (reading.1.machine.linesOf (piecesOf line.tokens))
        (reading.1.machine.usesOf (piecesOf line.tokens))
  /-- The questions in the header take a line for each check and one more. -/
  asked : (∀ piece ∈ piecesOf line.tokens, piece.Plain) →
    ∀ checks, loop.Made script loop.kind.entersFirst opened checks →
      linesTaken (readings now opened checks) =
        (checks.length + 1) * (piecesOf line.tokens).count .question
  /-- A variable that does not exist at any reading is reported for each check and once more. -/
  reported : (∀ piece ∈ piecesOf line.tokens, piece.Plain) →
    ∀ name : String, name.toList.head? ≠ some '_' →
    ∀ checks, loop.Made script loop.kind.entersFirst opened checks →
      (∀ reading ∈ readings now opened checks, reading.1.frame.locals.has name = false) →
      reportsMade name (readings now opened checks) =
        (checks.length + 1) * (piecesOf line.tokens).count (.ofVariable name)

theorem sum_readings {now opened : State} {measure : Scope × Scope → Nat} {amount : Nat}
    (same : ∀ reading ∈ readings now opened checks, measure reading = amount) :
    ((readings now opened checks).map measure).sum = (checks.length + 1) * amount := by
  rw [List.map_congr_left same, List.map_const', List.sum_replicate_nat, readings, List.length_cons,
    List.length_map]

end Loop

/-- Whatever the state and whatever the passes do, the header of a loop with a condition is read
exactly once more than it is checked, and each check compares what it has read itself. -/
theorem State.Asked.readsHeader {script : Script} {line : Line} {now : State} {spec : Spec Meaning}
    {loop : Loop} {entered : Bool} {after : Scope} {services : Services}
    (running : now.control = .running)
    (asked : now.Asked script line spec (loop.flow entered) after)
    (conditional : loop.kind ≠ .forLoop) (accepted : Machine.conflict? services = none)
    (layered : now.scope.machine.Layered services) :
    loop.ReadsHeader script line now { now with scope := after } := by
  obtain ⟨planned, length⟩ := asked.plan_condition conditional
  obtain ⟨args, resolved⟩ := asked.resolved conditional
  let opened : State := { now with scope := after }
  have ready : opened.control = .running := running
  have first := Reference.takes_resolveAll _ _ _ _ (.refl _) resolved
  have kept := first.kept.machine
  -- What a question means is the same at each reading, whatever modes the passes switch.
  have lasting {checks : List Check}
      (made : loop.Made script loop.kind.entersFirst opened checks) :
      ∀ check ∈ checks, check.before.machine.Layered services ∧
        check.before.frame.cursor = now.scope.frame.cursor := by
    intro check member
    obtain ⟨signals, earlier, current, owner, history, same⟩ := made.before member
    rw [same]
    exact ⟨history.lasts Machine.lasts_layered (Machine.lasts_layered.kept kept layered),
      (history.seated ready).cursor.trans first.kept.cursor⟩
  have compares {checks : List Check}
      (made : loop.Made script loop.kind.entersFirst opened checks) :
      ∀ check ∈ checks, ∃ args read,
        check.Compares loop.isExternal (piecesOf line.tokens) args read :=
    fun check member => (made.reads ready planned check member).compares length
  have spends {checks : List Check}
      (made : loop.Made script loop.kind.entersFirst opened checks) :
      ∀ reading ∈ Loop.readings now opened checks,
        reading.1.machine.Layered services ∧
        reading.1.frame.cursor = now.scope.frame.cursor ∧
        reading.1.Spends reading.2 (reading.1.machine.linesOf (piecesOf line.tokens))
          (reading.1.machine.usesOf (piecesOf line.tokens)) := by
    refine List.forall_mem_cons.mpr ⟨⟨layered, rfl, first⟩, fun reading member => ?_⟩
    obtain ⟨check, checked, rfl⟩ := List.mem_map.mp member
    obtain ⟨args, read, compares⟩ := compares made check checked
    obtain ⟨layered, place⟩ := lasting made check checked
    exact ⟨layered, place, compares.spends⟩
  exact {
    finished := fun signals checks step finishes => finishes.made
    executed := ⟨args, resolved⟩
    compared := fun checks made check member => by
      obtain ⟨args, read, compares⟩ := compares made check member
      have asks := (lasting made check member).1.asks accepted
      exact ⟨args, read, compares,
        fun index here => Reference.resolveAll_question compares.resolved asks here⟩
    spends := fun checks made reading member => (spends made reading member).2
    asked := fun plain checks made => Loop.sum_readings fun reading member => by
      obtain ⟨layered, -, spends⟩ := spends made reading member
      rw [spends.shown, Nat.add_sub_cancel_left,
        Machine.linesOf_plain plain (layered.asks accepted)]
    reported := fun plain name own checks made unknown => Loop.sum_readings fun reading member => by
      obtain ⟨-, -, spends⟩ := spends made reading member
      rw [spends.reports, unknown reading member, Nat.add_sub_cancel_left,
        Machine.usesOf_plain plain own, if_neg Bool.false_ne_true] }

/-! ## A header that asks -/

def rereadExample : Script :=
  .ofLines "" ["DEF main", "WHILE \"E\" $_ask \"go\"", "PRINT pass", "ENDW", "ENDDEF"]

namespace Loop

def rereadExample : Loop :=
  .inline ⟨.whileLoop, .condition [⟨"E", true⟩, .question, ⟨"go", true⟩], 2, none⟩

end Loop

def State.rereadExample : State :=
  ⟨⟨{ Machine.plainExample with console := .ofReplies [.line "go", .line "stop"] },
    ⟨"main", [], .empty, ⟨2, some "WHILE \"E\" $_ask \"go\""⟩⟩⟩, [], .running, .ground, false⟩

theorem State.pieces_rereadExample :
    piecesOf (Line.ofText 2 "WHILE \"E\" $_ask \"go\"").tokens =
      [⟨"E", true⟩, .question, ⟨"go", true⟩] := by
  decide +kernel

theorem Reference.answered_rereadExample {scope : Scope} {text : String}
    (asks : scope.machine.predefined.lookup? "ask" = some .ask)
    (answered : (scope.machine.console.readLine "").1 = .ok text) :
    resolveAll [⟨"E", true⟩, .question, ⟨"go", true⟩] scope =
      .ok ["E", text, "go"] (scope.asked "") := by
  have quoted (text : String) (scope : Scope) :
      resolvePiece ⟨text, true⟩ scope = .ok text scope := rfl
  have asked : resolvePiece .question scope = .ok text (scope.asked "") := by
    rw [resolvePiece_question asks, readLine_eq, answered]
  simp only [resolveAll, List.mapM_cons, List.mapM_nil, bind_apply, quoted, asked]
  rfl

theorem State.asked_rereadExample :
    State.rereadExample.Asked LineScript.rereadExample
      (.ofText 2 "WHILE \"E\" $_ask \"go\"")
      ⟨"WHILE", 3, some 4, .builtin (.loop .whileLoop), "", "extended"⟩
      (Loop.rereadExample.flow false) (State.rereadExample.scope.asked "") := by
  have fits : pieces? 64 (Line.ofText 2 "WHILE \"E\" $_ask \"go\"").tokens =
      .ok (piecesOf (Line.ofText 2 "WHILE \"E\" $_ask \"go\"").tokens) := by decide +kernel
  have resolved : Reference.resolveAll
      (piecesOf (Line.ofText 2 "WHILE \"E\" $_ask \"go\"").tokens) State.rereadExample.scope =
        .ok ["E", "go", "go"] (State.rereadExample.scope.asked "") := by
    rw [pieces_rereadExample]
    exact Reference.answered_rereadExample rfl rfl
  have keyword : (Line.ofText 2 "WHILE \"E\" $_ask \"go\"").keyword = "WHILE" := by decide +kernel
  refine ⟨rfl, fits, resolved, by rw [keyword]; rfl, by decide +kernel, ?_⟩
  rw [pieces_rereadExample]
  rfl

theorem State.Asked.readsHeader_rereadExample :
    State.rereadExample.control = .running ∧
      Loop.rereadExample.ReadsHeader LineScript.rereadExample
        (.ofText 2 "WHILE \"E\" $_ask \"go\"") State.rereadExample
        { State.rereadExample with scope := State.rereadExample.scope.asked "" } := by
  have layered : State.rereadExample.scope.machine.Layered .empty :=
    ⟨rfl, [(Machine.extendedLayer, Predefined.extended)], rfl, .refl _⟩
  exact ⟨rfl, State.Asked.readsHeader rfl State.asked_rereadExample nofun rfl layered⟩

/-- The first answer is taken before the first check, which compares the second one. -/
theorem State.Asked.lines_rereadExample :
    ¬ ∀ (script : Script) (line : Line) (now : State) (spec : Spec Meaning) (loop : Loop)
      (entered : Bool) (after : Scope), now.control = .running →
      now.Asked script line spec (loop.flow entered) after → loop.kind ≠ .forLoop →
      (∀ piece ∈ piecesOf line.tokens, piece.Plain) →
      (piecesOf line.tokens).count .question = 1 → ∀ signals checks step,
        loop.Finishes script loop.kind.entersFirst { now with scope := after } signals checks step →
        Loop.linesTaken (Loop.readings now { now with scope := after } checks) =
          checks.length := by
  intro once
  let opened : State :=
    { State.rereadExample with scope := State.rereadExample.scope.asked "" }
  let last : Scope := opened.scope.asked ""
  let after : Scope := { last with machine := { last.machine with compareFlag := false } }
  have compared : compareValues "E" "stop" "go" = some false := by decide +kernel
  have fails : LoopKind.whileLoop.condition false [⟨"E", true⟩, .question, ⟨"go", true⟩]
      opened.scope = .ok false after := by
    rw [LoopKind.condition, bind_apply, Reference.answered_rereadExample rfl rfl]
    change Effect.compare "E" "stop" "go" last = _
    rw [Effect.compare, compared]
    rfl
  have finishes : Loop.rereadExample.Finishes LineScript.rereadExample false opened []
      ([] ++ [⟨opened.scope, after, false⟩]) _ :=
    .closes .opens (.checked rfl rfl fails)
  have plain : ∀ piece ∈ piecesOf (Line.ofText 2 "WHILE \"E\" $_ask \"go\"").tokens,
      piece.Plain := by
    rw [State.pieces_rereadExample]
    simp [Piece.Plain.quoted, Piece.Plain.question]
  have lines := once _ _ _ _ _ _ _ rfl State.asked_rereadExample nofun plain
    (by rw [State.pieces_rereadExample]; decide) _ _ _ finishes
  exact absurd lines (by decide)

end LineScript

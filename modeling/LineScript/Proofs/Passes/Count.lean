import LineScript.Proofs.Passes.History

/-!
How often the body of a loop runs. A loop that counts makes the passes that its amount says, read
once, unless a pass ends it; a loop with a condition makes passes as long as the header, read anew,
holds. The body that follows a header ends the loop when it leaves it or returns, the body that is a
definition only when it leaves the loop.
-/

namespace LineScript

open LineScript.Action

/-! ## What the line asks for -/

namespace State.Asked

variable {script : Script} {line : Line} {now : State} {spec : Spec Meaning} {loop : Loop}
  {entered : Bool} {after : Scope}

theorem action (asked : now.Asked script line spec (loop.flow entered) after) :
    spec.action = .builtin (.loop loop.kind) := by
  cases loop with
  | inline loop => exact asked.loop.1 _ _ rfl
  | external loop => exact asked.loop.2 _ _ rfl

theorem plans (asked : now.Asked script line spec (loop.flow entered) after) :
    entered = loop.kind.entersFirst ∧ loop.kind.Plans (piecesOf line.tokens) loop.plan ∧
      (piecesOf line.tokens).length = loop.kind.inlineArity + if loop.isExternal then 1 else 0 := by
  obtain ⟨-, forms⟩ := asked.forms asked.action
  generalize same : loop.kind = kind at forms
  cases loop with
  | inline loop =>
      generalize came : Loop.flow entered (.inline loop) = flow at forms
      cases forms with
      | inline exact planned =>
          cases came
          exact ⟨rfl, planned, exact⟩
      | external => cases came
  | external loop =>
      generalize came : Loop.flow entered (.external loop) = flow at forms
      cases forms with
      | inline => cases came
      | external body more planned =>
          cases came
          exact ⟨rfl, planned, more⟩

theorem plan_condition (asked : now.Asked script line spec (loop.flow entered) after)
    (conditional : loop.kind ≠ .forLoop) :
    loop.plan = .condition (piecesOf line.tokens) ∧
      (piecesOf line.tokens).length = 3 + if loop.isExternal then 1 else 0 := by
  obtain ⟨-, planned, length⟩ := asked.plans
  cases kind : loop.kind with
  | forLoop => exact absurd kind conditional
  | _ =>
      rw [kind] at planned length
      exact ⟨planned, length⟩

theorem amount (asked : now.Asked script line spec (loop.flow entered) after)
    (counting : loop.kind = .forLoop) :
    ∃ args read, Reference.resolveAll (piecesOf line.tokens) now.scope = .ok args read ∧
      loop.plan = .count (Reading.integer (args.getLastD "")).value.toNat := by
  have action := asked.action
  obtain ⟨limited, fits, resolved, found, supplied, performed⟩ := asked
  rw [counting] at action
  have arity := Machine.arity_loop found action supplied
  refine ⟨_, _, resolved, ?_⟩
  rw [action] at performed
  change LoopKind.start _ _ _ _ _ = _ at performed
  unfold LoopKind.start at performed
  split at performed
  · next body rest =>
      split at performed
      · next more =>
          obtain ⟨plan, middle, planned, last⟩ := bind_ok performed
          obtain ⟨value, read, taken, planned⟩ := bind_ok planned
          cases taken
          cases planned
          -- The first of the two arguments names the body.
          have two : rest.length = 1 := by
            simp only [List.length_cons, LoopKind.inlineArity] at arity more
            omega
          obtain ⟨amount, rfl⟩ := List.length_eq_one_iff.mp two
          cases loop with
          | inline loop => cases last
          | external loop =>
              cases last
              rfl
      · next few =>
          obtain ⟨plan, middle, planned, last⟩ := bind_ok performed
          obtain ⟨value, read, taken, planned⟩ := bind_ok planned
          cases taken
          cases planned
          have one : rest = [] := by
            simp only [List.length_cons, LoopKind.inlineArity] at few
            exact List.eq_nil_of_length_eq_zero (by omega)
          subst one
          cases loop with
          | external loop => cases last
          | inline loop =>
              cases last
              rfl
  · cases performed

end State.Asked

/-! ## Counting passes -/

theorem Effect.compareFlag_compare {comparison left right : String} {scope after : Scope}
    {holds : Bool} (compared : compare comparison left right scope = .ok holds after) :
    after.machine.compareFlag = holds := by
  have flagged {result : Bool} {before : Scope} (kept : (do
      Action.onMachine fun machine => { machine with compareFlag := result }
      return result : Action Bool) before = .ok holds after) :
      after.machine.compareFlag = holds := by
    cases kept
    rfl
  unfold compare at compared
  cases known : compareValues comparison left right with
  | some result =>
      rw [known] at compared
      exact flagged compared
  | none =>
      rw [known] at compared
      obtain ⟨_, middle, -, kept⟩ := bind_ok compared
      exact flagged kept

def Check.Reads (check : Check) (loop : Loop) (header : List Piece) : Prop :=
  loop.kind.condition loop.isExternal header check.before = .ok check.holds check.after

namespace Loop

/-- How many passes a loop makes that may make so many, given how its passes end: none comes after one
that ends the loop. -/
def passes (loop : Loop) (amount : Nat) (signals : List Signal) : Nat :=
  match signals.findIdx? loop.isEnded with
  | some index => min amount (index + 1)
  | none => amount

variable {script : Script} {loop current again : Loop} {entered unchecked : Bool}
  {opened owner ready begun : State} {signals : List Signal} {checks more : List Check}
  {signal : Signal} {step : Step} {amount : Nat} {header : List Piece}

theorem passes_of_onward (onward : ∀ signal ∈ signals, loop.isEnded signal = false) :
    loop.passes amount signals = amount := by
  have never : signals.findIdx? loop.isEnded = none := by
    simpa [List.findIdx?_eq_none_iff] using onward
  rw [passes, never]

theorem passes_of_ended (onward : ∀ signal ∈ signals, loop.isEnded signal = false)
    (ends : loop.isEnded signal = true) :
    loop.passes amount (signals ++ [signal]) = min amount (signals.length + 1) := by
  have never : signals.findIdx? loop.isEnded = none := by
    simpa [List.findIdx?_eq_none_iff] using onward
  have found : (signals ++ [signal]).findIdx? loop.isEnded = some signals.length := by
    simp [List.findIdx?_append, never, ends]
  rw [passes, found]

theorem Passes.counted_iff {left : Nat} (planned : current.plan = .count left)
    (passes : current.Passes false owner again ready checks) :
    ∃ fewer, left = fewer + 1 ∧ again.plan = .count fewer ∧ checks = [] := by
  cases passes with
  | unchecked first => cases first
  | counted later same =>
      cases planned.symm.trans same
      exact ⟨_, rfl, plan_withPlan _, rfl⟩
  | checked later same => cases planned.symm.trans same

theorem History.counted (planned : loop.plan = .count amount)
    (history : History script loop false opened signals checks current owner) :
    ∃ left, current.plan = .count left ∧ signals.length + left = amount := by
  induction history with
  | opens => exact ⟨amount, planned, Nat.zero_add _⟩
  | pass history begins pass onward ih =>
      obtain ⟨left, here, total⟩ := ih
      obtain ⟨fewer, rfl, next, -⟩ := begins.passes.counted_iff here
      refine ⟨fewer, plan_after.trans next, ?_⟩
      rw [List.length_append, List.length_singleton]
      omega

theorem History.fewer (planned : loop.plan = .count amount)
    (history : History script loop false opened signals checks current owner)
    (passes : current.Passes false owner again ready more) : signals.length < amount := by
  obtain ⟨left, here, total⟩ := history.counted planned
  obtain ⟨fewer, rfl, -⟩ := passes.counted_iff here
  omega

theorem Begins.hasBody (begins : current.Begins script unchecked owner again ready checks begun) :
    again.HasBody script := by
  intro body known
  cases again with
  | inline again => cases known
  | external again =>
      cases known
      intro undefined
      have started : ready.startPass script again = .next begun := begins.started
      unfold State.startPass at started
      rw [undefined] at started
      cases started
      have pushed := congrArg List.length begins.pushed
      change ready.suspended.length = _ at pushed
      rw [begins.passes.kept.2.1, List.length_cons] at pushed
      omega

theorem Seated.hasBody (seated : loop.Seated opened current owner)
    (present : current.HasBody script) : loop.HasBody script := by
  unfold HasBody at present ⊢
  rwa [← seated.body]

theorem Finishes.none_of_missing (running : opened.control = .running)
    (missing : ¬ loop.HasBody script)
    (finishes : Finishes script loop entered opened signals checks step) : signals = [] := by
  have never {signals : List Signal} {checks : List Check} {current : Loop} {owner : State}
      (history : History script loop entered opened signals checks current owner) :
      signals = [] := by
    cases history with
    | opens => rfl
    | pass history begins pass onward =>
        have seated := begins.seated (history.seated running) opened
        exact absurd (seated.hasBody begins.hasBody) missing
  cases finishes with
  | closes history => exact never history
  | missing history => exact never history
  | ends history begins pass ends =>
      have seated := begins.seated (history.seated running) opened
      exact absurd (seated.hasBody begins.hasBody) missing

theorem Finishes.counted (running : opened.control = .running) (planned : loop.plan = .count amount)
    (present : loop.HasBody script)
    (finishes : Finishes script loop false opened signals checks step) :
    signals.length = loop.passes amount signals := by
  cases finishes with
  | closes history closes =>
      obtain ⟨left, here, total⟩ := history.counted planned
      rw [passes_of_onward (history.onward running)]
      cases closes with
      | counted later same =>
          cases here.symm.trans same
          exact total
      | checked later same => cases here.symm.trans same
  | ends history begins pass ends =>
      have fewer := history.fewer planned begins.passes
      have form := (begins.seated (history.seated running) opened).body
      rw [isEnded_congr form] at ends
      rw [passes_of_ended (history.onward running) ends, List.length_append,
        List.length_singleton]
      omega
  | missing history passes form undefined =>
      have body := (passes.form.2.trans (history.seated running).body).symm
      rw [form] at body
      exact absurd undefined (present _ body)

/-! ## Checking conditions -/

theorem Seated.reads {check : Check} (seated : loop.Seated opened current owner)
    (reads : check.Reads current header) : check.Reads loop header := by
  unfold Check.Reads isExternal at reads ⊢
  rwa [← seated.kind, ← seated.body]

theorem Passes.conditional (planned : current.plan = .condition header)
    (passes : current.Passes unchecked owner again ready checks) :
    again.plan = .condition header ∧ (unchecked = true ∧ checks = [] ∨
      unchecked = false ∧ ∃ check : Check, checks = [check] ∧ check.holds = true ∧
        check.Reads current header) := by
  cases passes with
  | unchecked first => exact ⟨planned, .inl ⟨first, rfl⟩⟩
  | counted later same => cases planned.symm.trans same
  | checked later same holds =>
      cases planned.symm.trans same
      exact ⟨planned, .inr ⟨later, _, rfl, rfl, holds⟩⟩

theorem Closes.conditional (planned : current.plan = .condition header)
    (closes : current.Closes unchecked owner ready checks) :
    unchecked = false ∧ ∃ check : Check, checks = [check] ∧ check.holds = false ∧
      check.Reads current header ∧ ready.scope = check.after := by
  cases closes with
  | counted later same => cases planned.symm.trans same
  | checked later same fails =>
      cases planned.symm.trans same
      exact ⟨later, _, rfl, rfl, fails, rfl⟩

theorem entered_le (later : (entered && signals.isEmpty) = false) :
    entered.toNat ≤ signals.length := by
  cases entered with
  | false => exact Nat.zero_le _
  | true =>
      have filled : signals ≠ [] := by simpa using later
      exact List.length_pos_iff.mpr filled

/-- How a loop with a condition comes to its end: each check but a last one that fails has held, and a
pass has come of it. -/
inductive Ended (script : Script) (loop : Loop) (entered : Bool) (signals : List Signal)
    (checks : List Check) (step : Step) : Prop where
  /-- A check has failed, which is also what the last comparison has given. -/
  | failed (onward : ∀ signal ∈ signals, loop.isEnded signal = false)
      (first : entered.toNat ≤ signals.length)
      (held : checks.map Check.holds =
        List.replicate (signals.length - entered.toNat) true ++ [false])
      (flag : step.state.scope.machine.compareFlag = false)
  | passed {signal : Signal} (last : signals.getLast? = some signal)
      (ends : loop.isEnded signal = true)
      (held : checks.map Check.holds = List.replicate (signals.length - entered.toNat) true)
  | missing (undefined : ¬ loop.HasBody script) (none : signals = [])
      (held : checks.map Check.holds = List.replicate (1 - entered.toNat) true)

theorem flag_close (script : Script) (loop : Loop) (state : State) :
    (loop.close script state).state.scope.machine.compareFlag =
      state.scope.machine.compareFlag := by
  cases loop with
  | external loop => rfl
  | inline loop =>
      change (state.leaveLoop script loop loop.endLine).state.scope.machine.compareFlag = _
      cases state.leaves_leaveLoop script loop loop.endLine with
      | moves forward known stepped =>
          rw [stepped]
          rfl
      | lost unknown missing flag stepped =>
          rw [stepped]
          exact flag
      | backward known above flag stepped =>
          rw [stepped]
          exact flag

theorem flag_check {check : Check} (enough : 3 + (if loop.isExternal then 1 else 0) ≤ header.length)
    (reads : check.Reads loop header) : check.after.machine.compareFlag = check.holds := by
  unfold Check.Reads at reads
  rw [LoopKind.condition_eq enough] at reads
  obtain ⟨args, middle, resolved, compared⟩ := bind_ok reads
  exact Effect.compareFlag_compare compared

theorem Passes.checks_append (seated : loop.Seated opened current owner)
    (here : current.plan = .condition header)
    (held : checks.map Check.holds = List.replicate (signals.length - entered.toNat) true)
    (reads : ∀ check ∈ checks, check.Reads loop header)
    (passes : current.Passes (entered && signals.isEmpty) owner again ready more) :
    (checks ++ more).map Check.holds =
        List.replicate (signals.length + 1 - entered.toNat) true ∧
      ∀ check ∈ checks ++ more, check.Reads loop header := by
  obtain ⟨-, ⟨first, rfl⟩ | ⟨later, check, rfl, holds, read⟩⟩ := passes.conditional here
  · obtain ⟨rfl, rfl⟩ : entered = true ∧ signals = [] := by simpa using first
    exact ⟨by simpa using held, by simpa using reads⟩
  · have before := entered_le later
    refine ⟨?_, ?_⟩
    · rw [List.map_append, held, List.map_singleton, holds, ← List.replicate_succ',
        Nat.sub_add_comm before]
    · intro other member
      rcases List.mem_append.mp member with early | last
      · exact reads other early
      · rw [List.mem_singleton.mp last]
        exact seated.reads read

theorem History.checked (running : opened.control = .running)
    (planned : loop.plan = .condition header)
    (history : History script loop entered opened signals checks current owner) :
    current.plan = .condition header ∧
      checks.map Check.holds = List.replicate (signals.length - entered.toNat) true ∧
      ∀ check ∈ checks, check.Reads loop header := by
  induction history with
  | opens => exact ⟨planned, by simp, fun _ member => nomatch member⟩
  | pass history begins pass onward ih =>
      obtain ⟨here, held, reads⟩ := ih
      have checked := begins.passes.checks_append (history.seated running) here held reads
      rw [List.length_append, List.length_singleton]
      exact ⟨plan_after.trans (begins.passes.conditional here).1, checked⟩

theorem Finishes.conditional (running : opened.control = .running)
    (planned : loop.plan = .condition header)
    (enough : 3 + (if loop.isExternal then 1 else 0) ≤ header.length)
    (finishes : Finishes script loop entered opened signals checks step) :
    (∀ check ∈ checks, check.Reads loop header) ∧
      Ended script loop entered signals checks step := by
  cases finishes with
  | @closes signals checks more current owner ready history closes =>
      obtain ⟨here, held, reads⟩ := history.checked running planned
      -- The check that fails is the last one; each one before it has begun a pass.
      obtain ⟨later, check, rfl, fails, read, scope⟩ := closes.conditional here
      have known := (history.seated running).reads read
      refine ⟨fun other member => ?_, .failed (history.onward running) (entered_le later) ?_ ?_⟩
      · rcases List.mem_append.mp member with early | last
        · exact reads other early
        · rw [List.mem_singleton.mp last]
          exact known
      · rw [List.map_append, held, List.map_singleton, fails]
      · rw [flag_close, scope, flag_check enough known, fails]
  | ends history begins pass ends =>
      obtain ⟨here, early, reads⟩ := history.checked running planned
      obtain ⟨held, reads⟩ := begins.passes.checks_append (history.seated running) here early reads
      have form := (begins.seated (history.seated running) opened).body
      rw [isEnded_congr form] at ends
      refine ⟨reads, .passed (by simp) ends ?_⟩
      rw [held, List.length_append, List.length_singleton]
  | missing history passes form undefined =>
      obtain ⟨here, early, reads⟩ := history.checked running planned
      obtain ⟨held, reads⟩ := passes.checks_append (history.seated running) here early reads
      have missing : ¬ loop.HasBody script := by
        intro present
        have body := (passes.form.2.trans (history.seated running).body).symm
        rw [form] at body
        exact present _ body undefined
      have none := (Finishes.missing history passes form undefined).none_of_missing running missing
      subst none
      exact ⟨reads, .missing missing rfl held⟩

/-! ## The end of a pass that ends the loop -/

theorem Finishes.ended (running : opened.control = .running) (ends : loop.isEnded signal = true)
    (finishes : Finishes script loop entered opened (signals ++ [signal]) checks step) :
    ∃ again owner, loop.Seated opened again owner ∧ step = again.resume script signal owner := by
  generalize came : signals ++ [signal] = all at finishes
  have last : signal ∈ all := came ▸ List.mem_append_right _ (List.mem_singleton_self _)
  cases finishes with
  | closes history closes => simp [history.onward running signal last] at ends
  | missing history passes => simp [history.onward running signal last] at ends
  | ends history begins pass other =>
      obtain ⟨-, rfl⟩ := List.append_singleton_inj.mp came
      exact ⟨_, _, begins.seated (history.seated running) _, rfl⟩

theorem Finishes.broken {value : String} (running : opened.control = .running)
    (form : loop.isExternal = false)
    (finishes : Finishes script loop entered opened (signals ++ [.broken value]) checks step) :
    (∃ target after, script.blockEnd? opened.scope.frame.cursor.line loop.kind.marker
        loop.kind.closer [] = some target ∧ step = .next after ∧ after.control = .running ∧
      after.suspended = opened.suspended ∧ after.scope.frame.cursor.line = target) ∨
    script.blockEnd? opened.scope.frame.cursor.line loop.kind.marker loop.kind.closer [] = none ∧
      ∃ failure last, step = .stop (.failed (.failure failure)) last ∧
        failure.kind = .jumpNotFound := by
  have inlined (again : Loop) (body : again.body? = loop.body?) :
      ∃ inner, again = .inline inner := by
    cases again with
    | inline inner => exact ⟨inner, rfl⟩
    | external other =>
        unfold isExternal at form
        rw [← body] at form
        cases form
  have ends : loop.isEnded (.broken value) = true := by cases loop <;> rfl
  obtain ⟨again, owner, seated, rfl⟩ := finishes.ended running ends
  obtain ⟨inner, rfl⟩ := inlined again seated.body
  have kind : inner.kind = loop.kind := seated.kind
  rw [← kind, ← seated.cursor]
  cases (((owner.report .info "Break statement" .loop).keepReturned value).leaves_leaveLoop
      script inner none) with
  | @moves target forward known stepped =>
      obtain other | ⟨-, found⟩ := known
      · cases other
      exact .inl ⟨target, _, found, stepped, seated.running, seated.suspended,
        Cursor.line_advance forward (Script.blockEnd?_bounds found).2⟩
  | lost unknown missing flag stepped => exact .inr ⟨missing, _, _, stepped, rfl⟩
  | backward known => cases known

theorem Finishes.returned {value : String} (running : opened.control = .running)
    (form : loop.isExternal = false)
    (finishes : Finishes script loop entered opened (signals ++ [.returned value]) checks step) :
    ∃ after, step = .next after ∧ after.control = .leaving (.returned value) ∧
      after.suspended = opened.suspended := by
  have ends : loop.isEnded (.returned value) = true := by
    cases loop with
    | inline loop => rfl
    | external loop => cases form
  obtain ⟨again, owner, seated, rfl⟩ := finishes.ended running ends
  cases again with
  | inline inner => exact ⟨_, rfl, rfl, seated.suspended⟩
  | external other =>
      unfold isExternal at form
      rw [← seated.body] at form
      cases form

/-! ## Main statement -/

/-- How the line of a loop runs the body; `opened` is the frame of the line when the loop has been
opened. -/
structure RunsBody (script : Script) (line : Line) (loop : Loop) (now opened : State) : Prop where
  /-- The passes account for all that the line comes to, unless the line stands in no definition. -/
  accounted : ∀ step, Step.Unfolds script now.suspended (now.execute script line) step →
    loop.Stage script loop.kind.entersFirst opened step ∨
      loop.isExternal = false ∧ script.entryLine? now.scope.frame.entry = none ∧
        ∃ fault last, step = .stop (.failed fault) last
  finished : ∀ after, Step.Unfolds script now.suspended (now.execute script line) (.next after) →
    after.suspended.length ≤ now.suspended.length → ∃ signals checks,
      loop.Finishes script loop.kind.entersFirst opened signals checks (.next after)
  made : (loop.isExternal = false → script.entryLine? now.scope.frame.entry ≠ none) →
    ∀ signals checks step, loop.Finishes script loop.kind.entersFirst opened signals checks step →
      Step.Unfolds script now.suspended (now.execute script line) step
  onward : ∀ signals checks current owner,
    loop.History script loop.kind.entersFirst opened signals checks current owner →
    ∀ signal ∈ signals, loop.isEnded signal = false
  missing : ¬ loop.HasBody script → ∀ signals checks step,
    loop.Finishes script loop.kind.entersFirst opened signals checks step → signals = []
  /-- A loop that counts reads its amount once. It never begins more passes than that, and when it is
  done it has made as many unless a pass has ended it. -/
  counted : loop.kind = .forLoop → ∃ args read,
    Reference.resolveAll (piecesOf line.tokens) now.scope = .ok args read ∧
    (∀ signals checks step, loop.HasBody script →
      loop.Finishes script loop.kind.entersFirst opened signals checks step →
      signals.length =
        loop.passes (Reading.integer (args.getLastD "")).value.toNat signals) ∧
    ∀ signals checks more current again owner ready,
      loop.History script loop.kind.entersFirst opened signals checks current owner →
      current.Passes (loop.kind.entersFirst && signals.isEmpty) owner again ready more →
      signals.length < (Reading.integer (args.getLastD "")).value.toNat
  /-- A loop with a condition makes a pass whenever the header, read anew, holds, and one before the
  first check if it is entered first. -/
  checked : loop.kind ≠ .forLoop → ∀ signals checks step,
    loop.Finishes script loop.kind.entersFirst opened signals checks step →
    (∀ check ∈ checks, check.Reads loop (piecesOf line.tokens)) ∧
      Ended script loop loop.kind.entersFirst signals checks step
  /-- After a pass that leaves an inline loop, the frame of the line is at the end marker of the loop,
  or there is none. -/
  broken : loop.isExternal = false → ∀ signals value checks step,
    loop.Finishes script loop.kind.entersFirst opened (signals ++ [.broken value]) checks step →
    (∃ target after, script.blockEnd? now.scope.frame.cursor.line loop.kind.marker
        loop.kind.closer [] = some target ∧ step = .next after ∧ after.control = .running ∧
      after.suspended = now.suspended ∧ after.scope.frame.cursor.line = target) ∨
    script.blockEnd? now.scope.frame.cursor.line loop.kind.marker loop.kind.closer [] = none ∧
      ∃ failure last, step = .stop (.failed (.failure failure)) last ∧
        failure.kind = .jumpNotFound
  /-- After a pass of an inline loop that returns, the line returns with the same signal. -/
  returned : loop.isExternal = false → ∀ signals value checks step,
    loop.Finishes script loop.kind.entersFirst opened (signals ++ [.returned value]) checks step →
    ∃ after, step = .next after ∧ after.control = .leaving (.returned value) ∧
      after.suspended = now.suspended

end Loop

/-- Whatever the state and whatever the passes do, the line of a loop runs the body as often as the
amount or the condition and the ends of the passes say. -/
theorem State.Asked.runsBody {script : Script} {line : Line} {now : State} {spec : Spec Meaning}
    {loop : Loop} {entered : Bool} {after : Scope} (running : now.control = .running)
    (asked : now.Asked script line spec (loop.flow entered) after) :
    loop.RunsBody script line now { now with scope := after } := by
  obtain ⟨same, -, -⟩ := asked.plans
  subst same
  have starts : loop.flow loop.kind.entersFirst ≠ .next := by cases loop <;> nofun
  have kept : now.scope.Kept after := asked.kept.resolve_left starts
  let opened : State := { now with scope := after }
  have ready : opened.control = .running := running
  -- The line begins with the first turn, unless the definition is missing that it stands in.
  have begins (present : loop.isExternal = false → script.entryLine? now.scope.frame.entry ≠ none) :
      now.execute script line = loop.turn script loop.kind.entersFirst opened := by
    rw [asked.execute]
    exact Loop.follow_flow _ _ (kept.entry ▸ present)
  have lost (form : loop.isExternal = false)
      (missing : script.entryLine? now.scope.frame.entry = none) :
      ∃ fault last, now.execute script line = .stop (.failed fault) last := by
    rw [asked.execute]
    exact Loop.follow_missing _ _ form (kept.entry ▸ missing)
  have stays (form : loop.isExternal = false)
      (missing : script.entryLine? now.scope.frame.entry = none) {step : Step}
      (unfolds : Step.Unfolds script now.suspended (now.execute script line) step) :
      ∃ fault last, step = .stop (.failed fault) last := by
    obtain ⟨fault, last, stopped⟩ := lost form missing
    rw [stopped] at unfolds
    generalize came : Step.stop (.failed fault) last = first at unfolds
    induction unfolds with
    | begins => exact ⟨_, _, came.symm⟩
    | goesOn unfolds above ih =>
        obtain ⟨_, _, stopped⟩ := ih
        cases stopped
  have conditional (other : loop.kind ≠ .forLoop) := asked.plan_condition other
  exact {
    accounted := fun step unfolds => by
      by_cases absent : loop.isExternal = false ∧ script.entryLine? now.scope.frame.entry = none
      · exact .inr ⟨absent.1, absent.2, stays absent.1 absent.2 unfolds⟩
      · rw [begins fun form missing => absent ⟨form, missing⟩] at unfolds
        exact .inl (Loop.stage_of_unfolds ready unfolds)
    finished := fun last unfolds level => by
      by_cases absent : loop.isExternal = false ∧ script.entryLine? now.scope.frame.entry = none
      · obtain ⟨_, _, stopped⟩ := stays absent.1 absent.2 unfolds
        cases stopped
      · rw [begins fun form missing => absent ⟨form, missing⟩] at unfolds
        exact Loop.finishes_of_unfolds ready unfolds level
    made := fun present signals checks step finishes => by
      rw [begins present]
      exact finishes.unfolds ready
    onward := fun signals checks current owner history => history.onward ready
    missing := fun absent signals checks step finishes => finishes.none_of_missing ready absent
    counted := fun counting => by
      obtain ⟨args, read, resolved, planned⟩ := asked.amount counting
      have entered : loop.kind.entersFirst = false := by
        rw [counting]
        rfl
      rw [entered]
      exact ⟨args, read, resolved,
        fun signals checks step present finishes => finishes.counted ready planned present,
        fun signals checks more current again owner ready history passes =>
          history.fewer planned passes⟩
    checked := fun other signals checks step finishes =>
      finishes.conditional ready (conditional other).1 (Nat.le_of_eq (conditional other).2.symm)
    broken := fun form signals value checks step finishes => by
      have ended := finishes.broken ready form
      rwa [show opened.scope.frame.cursor = now.scope.frame.cursor from kept.cursor] at ended
    returned := fun form signals value checks step finishes => by
      have ended := finishes.returned ready form
      exact ended }

/-! ## A loop that is left -/

def leftExample : Script :=
  .ofLines "" ["DEF main", "FOR \"2\"", "BREAK", "ENDF", "PRINT done", "ENDDEF"]

def State.headerExample : State :=
  ⟨⟨.plainExample, ⟨"main", [], .empty, ⟨2, some "FOR \"2\""⟩⟩⟩, [], .running, .ground, false⟩

theorem State.asked_headerExample :
    State.headerExample.Asked leftExample (.ofText 2 "FOR \"2\"")
      ⟨"FOR", 1, some 2, .builtin (.loop .forLoop), "", "extended"⟩
      (Loop.flow false (.inline ⟨.forLoop, .count 2, 2, none⟩)) State.headerExample.scope := by
  have pieces : piecesOf (Line.ofText 2 "FOR \"2\"").tokens = [⟨"2", true⟩] := by decide +kernel
  have fits : pieces? 64 (Line.ofText 2 "FOR \"2\"").tokens =
      .ok (piecesOf (Line.ofText 2 "FOR \"2\"").tokens) := by decide +kernel
  have resolved : Reference.resolveAll (piecesOf (Line.ofText 2 "FOR \"2\"").tokens)
      State.headerExample.scope = .ok ["2"] State.headerExample.scope := by
    rw [pieces]
    rfl
  have keyword : (Line.ofText 2 "FOR \"2\"").keyword = "FOR" := by decide +kernel
  have amount : Reading.integer "2" = ⟨2, []⟩ := by decide +kernel
  refine ⟨rfl, fits, resolved, by rw [keyword]; rfl, by decide +kernel, ?_⟩
  rw [pieces]
  change LoopKind.start .forLoop 2 [⟨"2", true⟩] ["2"] State.headerExample.scope = _
  simp only [LoopKind.start, LoopKind.plan, amount]
  rfl

theorem State.Asked.runsBody_leftExample :
    State.headerExample.control = .running ∧
      Loop.RunsBody leftExample (.ofText 2 "FOR \"2\"") (.inline ⟨.forLoop, .count 2, 2, none⟩)
        State.headerExample State.headerExample :=
  ⟨rfl, State.Asked.runsBody rfl State.asked_headerExample⟩

-- The one pass of the first loop leaves it, and a pass that is repeated counts like any other.
example : (Program.run (.ofLines "" ["DEF main", "FOR 2", "OUT a", "BREAK", "ENDF", "FOR 3",
    "OUT b", "CONTINUE", "ENDF", "FOR -1", "OUT c", "ENDF", "ENDDEF"]) "main" .plainExample 60).map
    (·.machine.output) = some "abbb" := by
  decide +kernel

end LineScript

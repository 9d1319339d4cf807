import LineScript.Proofs.Memory.Access

/-!
Memory in a run. Each instruction that reaches memory adds to the history what it does there, and
whatever else happens, memory holds what the history tells: also when modes change on the way, and
with them the way in which cells are counted.
-/

namespace LineScript

open LineScript.Action

/-! ## What an instruction adds -/

namespace MemoryHistory

def after (history : MemoryHistory) (host : Host) (extended : Bool) :
    Instruction → List String → MemoryHistory
  | .allocate, text :: _ =>
      let amount := (Number.parseInt? text).getD 0
      if 0 ≤ amount ∧ amount ≤ host.cells then .allocated amount.toNat :: history
      else history
  | .free, text :: _ => .released ((Number.parseInt? text).getD 0).toNat :: history
  | .setMemory, text :: value :: _ =>
      match (Number.parseInt? text).bind (history.cell? extended) with
      | some cell => .written cell value :: history
      | none => history
  | _, _ => history

/-- The history after what a name stands for; what extensions add does not reach memory. -/
def afterMeaning (history : MemoryHistory) (host : Host) (extended : Bool) :
    Meaning → List String → MemoryHistory
  | .builtin instruction, args => history.after host extended instruction args
  | .added _, _ => history

variable {history : MemoryHistory} {script : Script} {inBody : Bool} {number : Nat}
  {pieces : List Piece} {args : List String} {scope : Scope}

theorem Remembers.perform_allocate (remembers : history.Remembers scope.machine.memory)
    (text : String) (rest : List String) :
    (history.after scope.machine.host scope.machine.extended .allocate (text :: rest)).Remembers
      (lastScope (Effect.allocate text scope)).machine.memory := by
  rw [Effect.memory_allocate]
  unfold MemoryHistory.after
  dsimp only
  split
  · exact remembers.allocate _
  · exact remembers

theorem Remembers.perform_free (remembers : history.Remembers scope.machine.memory)
    (text : String) (rest : List String) :
    (history.after scope.machine.host scope.machine.extended .free (text :: rest)).Remembers
      (lastScope (Effect.free text scope)).machine.memory := by
  have released := remembers.release (Int.le_max_right ((Number.parseInt? text).getD 0) 0)
  rw [show (max ((Number.parseInt? text).getD 0) 0).toNat =
    ((Number.parseInt? text).getD 0).toNat from by omega] at released
  rw [Effect.memory_free]
  exact released

theorem after_setMemory (history : MemoryHistory) (host : Host) (extended : Bool)
    (text value : String) (rest : List String) :
    history.after host extended .setMemory (text :: value :: rest) =
      match (Number.parseInt? text).bind (history.cell? extended) with
      | some cell => .written cell value :: history
      | none => history :=
  rfl

theorem Remembers.perform_setMemory (remembers : history.Remembers scope.machine.memory)
    (text value : String) (rest : List String) :
    (history.after scope.machine.host scope.machine.extended .setMemory
        (text :: value :: rest)).Remembers
      (lastScope (Effect.setMemory text value scope)).machine.memory := by
  rw [after_setMemory]
  cases parsed : Number.parseInt? text with
  | none =>
      unfold Effect.setMemory
      rw [bind_apply, Effect.cellIndex_malformed parsed]
      exact remembers
  | some address =>
      rw [Effect.setMemory_eq remembers parsed, Option.bind_some]
      cases history.cell? scope.machine.extended address with
      | some cell => exact remembers.write cell value
      | none => exact remembers

theorem after_eq {instruction : Instruction} (apart : .memory ∉ instruction.parts)
    (host : Host) (extended : Bool) : history.after host extended instruction args = history := by
  cases instruction <;> first | rfl | exact absurd (by simp [Instruction.parts]) apart

theorem Remembers.perform (remembers : history.Remembers scope.machine.memory)
    (instruction : Instruction) :
    (history.after scope.machine.host scope.machine.extended instruction args).Remembers
      (lastScope (instruction.perform script inBody number pieces args scope)).machine.memory := by
  -- Three instructions change the memory; with too few arguments they leave it as it was.
  by_cases reaches : .memory ∈ instruction.parts
  · cases instruction with
    | allocate =>
        cases args with
        | nil => exact remembers
        | cons text rest =>
            change (history.after _ _ _ _).Remembers
              (lastScope (Instruction.done (Effect.allocate text) scope)).machine.memory
            rw [Instruction.lastScope_done]
            exact remembers.perform_allocate text rest
    | free =>
        cases args with
        | nil => exact remembers
        | cons text rest =>
            change (history.after _ _ _ _).Remembers
              (lastScope (Instruction.done (Effect.free text) scope)).machine.memory
            rw [Instruction.lastScope_done]
            exact remembers.perform_free text rest
    | setMemory =>
        match args with
        | [] => exact remembers
        | [_] => exact remembers
        | text :: value :: rest =>
            change (history.after _ _ _ _).Remembers
              (lastScope (Instruction.done (Effect.setMemory text value) scope)).machine.memory
            rw [Instruction.lastScope_done]
            exact remembers.perform_setMemory text value rest
    | _ => simp [Instruction.parts] at reaches
  · have same : (lastScope (instruction.perform script inBody number pieces args
        scope)).machine.memory = scope.machine.memory :=
      (Instruction.alters_perform scope).others .memory reaches
    rw [after_eq reaches, same]
    exact remembers

theorem Remembers.performMeaning (remembers : history.Remembers scope.machine.memory)
    (meaning : Meaning) :
    (history.afterMeaning scope.machine.host scope.machine.extended meaning args).Remembers
      (lastScope (meaning.perform script inBody number pieces args scope)).machine.memory := by
  cases meaning with
  | builtin instruction => exact remembers.perform instruction
  | added behavior =>
      have same : (lastScope (Meaning.perform script inBody number pieces args (.added behavior)
          scope)).machine.memory = scope.machine.memory :=
        (Meaning.alters_added behavior scope).others .memory (by decide)
      exact same ▸ remembers

end MemoryHistory

/-! ## Runs -/

/-- What is done to memory on the way from the one step to the other leads from the one history to
the other. -/
inductive Step.Recalls (script : Script) :
    MemoryHistory → Step → MemoryHistory → Step → Prop where
  | refl (history : MemoryHistory) (step : Step) : Recalls script history step history step
  | carries {history after : MemoryHistory} {state : State} {line : Line} {spec : Spec Meaning}
      {args : List String} {scope : Scope} {last : Step}
      (carries : state.Carries script line spec args scope)
      (later : Recalls script
        (history.afterMeaning state.scope.machine.host state.scope.machine.extended spec.action
          args)
        (state.step script) after last) :
      Recalls script history (.next state) after last
  | idles {history after : MemoryHistory} {state : State} {last : Step}
      (idles : ¬ ∃ line spec args scope, state.Carries script line spec args scope)
      (later : Recalls script history (state.step script) after last) :
      Recalls script history (.next state) after last

namespace State

variable {script : Script} {state : State} {line : Line} {spec : Spec Meaning}
  {args : List String} {scope : Scope} {history : MemoryHistory}

theorem Carries.extended (carries : state.Carries script line spec args scope) :
    scope.machine.extended = state.scope.machine.extended :=
  carries.met.alters.steady.extended.trans (state.same_told line.text).machine.extended

theorem Carries.remembers (carries : state.Carries script line spec args scope)
    (remembers : history.Remembers state.scope.machine.memory) :
    history.Remembers scope.machine.memory :=
  carries.before.memory ▸ remembers

theorem Carries.steps_done (carries : state.Carries script line spec args scope)
    {instruction : Instruction} (builtin : spec.action = .builtin instruction)
    {effect : Action Unit} {after : Scope}
    (performs : instruction.perform script (state.told line.text).inBody line.number
      (piecesOf line.tokens) args = Instruction.done effect)
    (result : effect scope = .ok () after) :
    state.step script = .next { state.told line.text with scope := after } := by
  rw [carries.steps, carries.met.execute]
  unfold performed
  rw [builtin, Meaning.perform, performs]
  unfold Instruction.done
  rw [bind_apply, result]
  rfl

end State

namespace Step

variable {script : Script} {count : Nat} {first last : Step} {history after : MemoryHistory}

theorem Leads.recalls (leads : Leads script count first last) (before : MemoryHistory) :
    ∃ after, Recalls script before first after last := by
  induction leads generalizing before with
  | refl step => exact ⟨before, .refl before step⟩
  | @next count state last later ih =>
      by_cases carried : ∃ line spec args scope, state.Carries script line spec args scope
      · obtain ⟨line, spec, args, scope, carries⟩ := carried
        obtain ⟨after, recalls⟩ := ih
          (before.afterMeaning state.scope.machine.host state.scope.machine.extended spec.action
            args)
        exact ⟨after, .carries carries recalls⟩
      · obtain ⟨after, recalls⟩ := ih before
        exact ⟨after, .idles carried recalls⟩

theorem Recalls.remembers (recalls : Recalls script history first after last)
    (begins : history.Remembers first.state.scope.machine.memory) :
    after.Remembers last.state.scope.machine.memory := by
  -- What memory holds is carried along the run: until its instruction a line leaves memory alone,
  -- and so does all that comes of the line afterwards.
  induction recalls with
  | refl => exact begins
  | @carries history after state line spec args scope last carries later ih =>
      have told : history.Remembers scope.machine.memory := carries.remembers begins
      refine ih ?_
      rw [carries.after.memory, ← carries.extended, ← carries.before.host]
      exact told.performMeaning spec.action
  | @idles history after state last idles later ih =>
      have idle := (State.carries_or_idle script state).resolve_left idles
      exact ih (idle.memory ▸ begins)

end Step

namespace State

variable {script : Script} {state first mid : State} {line : Line} {spec : Spec Meaning}
  {rest : List String} {scope : Scope} {before history : MemoryHistory} {text : String}
  {amount : Int} {last : Step} {count : Nat}

/-- What the lines of a program do with memory that has the history. -/
structure Addresses (script : Script) (state : State) (history : MemoryHistory) : Prop where
  /-- A cell is changed if it is there; otherwise there is one error. -/
  writes {line : Line} {spec : Spec Meaning} {scope : Scope} {text value : String}
      {rest : List String} {address : Int}
      (carries : state.Carries script line spec (text :: value :: rest) scope)
      (builtin : spec.action = .builtin .setMemory)
      (parsed : Number.parseInt? text = some address) :
    state.step script = .next { state.told line.text with
      scope := match history.cell? state.scope.machine.extended address with
        | some cell => scope.withMemory
            ⟨state.scope.machine.memory.cells.setIfInBounds cell value⟩
        | none => scope.report (.missingCell address) }
  /-- What is read is what has been written last, or else there is one error. -/
  reads {line : Line} {spec : Spec Meaning} {scope : Scope} {name text : String}
      {rest : List String} {address : Int}
      (carries : state.Carries script line spec (name :: text :: rest) scope)
      (builtin : spec.action = .builtin .getMemory)
      (parsed : Number.parseInt? text = some address) :
    state.step script = .next { state.told line.text with
      scope := match history.cell? state.scope.machine.extended address with
        | some cell => (scope.setVariable name (history.lastWritten cell)).2
        | none => ((scope.report (.missingCell address)).setVariable name nullText).2 }
  /-- In extended mode, an argument reads a cell in the same way, always counted from zero. -/
  mentions {scope after : Scope} {text found : String} {index : Int}
      (memory : scope.machine.memory = state.scope.machine.memory)
      (mode : scope.machine.extended = true)
      (resolved : Reference.resolve text scope = .ok found after)
      (parsed : Number.parseInt? found = some index) :
    Reference.resolve ("#" ++ text) scope = match history.cell? true index with
      | some cell => .ok (history.lastWritten cell) after
      | none => .ok nullText (after.report (.missingCell index))
  literal {scope : Scope} (mode : scope.machine.extended = false) (text : String) :
    Reference.resolve ("#" ++ text) scope = .ok ("#" ++ text) scope
  /-- Cells are released from the end, with a warning for each that is not there. -/
  releases {line : Line} {spec : Spec Meaning} {scope : Scope} {text : String}
      {rest : List String} {amount : Int}
      (carries : state.Carries script line spec (text :: rest) scope)
      (builtin : spec.action = .builtin .free)
      (parsed : Number.parseInt? text = some amount) :
    ∃ memory : Memory,
      memory.cells.toList = state.scope.machine.memory.cells.toList.rdrop
        (min (max amount 0) history.size).toNat ∧
      state.step script = .next { state.told line.text with
        scope := (scope.withMemory memory).reportAll
          (List.replicate (max 0 (amount - history.size)).toNat .missingRelease) }
  restores {line other : Line} {spec freeing : Spec Meaning} {scope ended : Scope}
      {text again : String} {rest more : List String} {amount : Int} {mid later : State}
      (carries : state.Carries script line spec (text :: rest) scope)
      (builtin : spec.action = .builtin .allocate)
      (parsed : Number.parseInt? text = some amount) (natural : 0 ≤ amount)
      (stepped : state.step script = .next mid)
      (same : later.scope.machine.memory = mid.scope.machine.memory)
      (frees : later.Carries script other freeing (again :: more) ended)
      (builtinFree : freeing.action = .builtin .free)
      (parsedAgain : Number.parseInt? again = some amount) :
    (later.step script).state.scope.machine.memory = state.scope.machine.memory

theorem Carries.release (carries : state.Carries script line spec (text :: rest) scope)
    (builtin : spec.action = .builtin .free) (parsed : Number.parseInt? text = some amount) :
    state.step script = .next { state.told line.text with
      scope := (scope.withMemory (state.scope.machine.memory.release (max amount 0))).reportAll
        (List.replicate
          (amount - state.scope.machine.memory.releasable (max amount 0)).toNat
          .missingRelease) } := by
  have freed := Effect.free_took (Effect.take_parsed parsed scope)
  rw [carries.before.memory] at freed
  exact carries.steps_done builtin rfl freed

theorem Carries.allocate (carries : state.Carries script line spec (text :: rest) scope)
    (builtin : spec.action = .builtin .allocate) (parsed : Number.parseInt? text = some amount)
    (natural : 0 ≤ amount) (stepped : state.step script = .next mid) :
    mid.scope.machine.memory = state.scope.machine.memory.allocate amount "0" := by
  by_cases room : amount ≤ scope.machine.host.cells
  · have allocated := Effect.allocate_parsed parsed natural room
    rw [carries.before.memory] at allocated
    have added := carries.steps_done builtin rfl allocated
    rw [stepped] at added
    cases added
    rfl
  · -- The run ends with the line.
    obtain ⟨fault, refused⟩ := Effect.allocate_refused parsed natural (Int.not_le.mp room)
    have failed : (state.told line.text).performed script line spec (text :: rest) scope =
        .error (.exception (.memory fault)) scope := by
      unfold performed
      rw [builtin]
      change Instruction.done (Effect.allocate text) scope = _
      unfold Instruction.done
      rw [bind_apply, refused]
    rw [carries.steps, carries.met.execute, failed] at stepped
    cases stepped

theorem addresses_of_remembers (remembers : history.Remembers state.scope.machine.memory) :
    state.Addresses script history where
  writes carries builtin parsed := by
    have wrote := Effect.setMemory_eq (carries.remembers remembers) parsed
    rw [carries.extended, carries.before.memory] at wrote
    exact carries.steps_done builtin rfl (wrote _)
  reads carries builtin parsed := by
    have read := Effect.getMemory_eq (carries.remembers remembers) parsed
    rw [carries.extended] at read
    exact carries.steps_done builtin rfl (read _)
  mentions memory mode resolved parsed :=
    Reference.resolve_cell_eq mode (memory ▸ remembers) resolved parsed
  literal mode _ := Reference.resolve_cell_compat mode
  releases {_ _ _ _ _ amount} carries builtin parsed := by
    have beyond : (amount - state.scope.machine.memory.releasable (max amount 0)).toNat =
        (max 0 (amount - history.size)).toNat := by
      unfold Memory.releasable
      rw [remembers.size]
      omega
    have released := carries.release builtin parsed
    rw [beyond] at released
    refine ⟨state.scope.machine.memory.release (max amount 0), ?_, released⟩
    rw [Memory.toList_release, remembers.size]
  restores carries builtin parsed natural stepped same frees builtinFree parsedAgain := by
    have added := carries.allocate builtin parsed natural stepped
    rw [frees.release builtinFree parsedAgain]
    change (Scope.reportAll _ _).machine.memory = _
    rw [Scope.memory_reportAll]
    change Memory.release _ _ = _
    rw [same, added, Int.max_eq_left natural, Memory.release_allocate natural]

/-- In every run, memory holds what the history of the run tells, and the lines find it there. -/
theorem addresses_of_leads (begins : before.Remembers first.scope.machine.memory)
    (leads : Step.Leads script count (.next first) last) :
    ∃ after, Step.Recalls script before (.next first) after last ∧
      after.Remembers last.state.scope.machine.memory ∧
      ∀ state, last = .next state → state.Addresses script after := by
  obtain ⟨after, recalls⟩ := leads.recalls before
  have remembers : after.Remembers last.state.scope.machine.memory := recalls.remembers begins
  refine ⟨after, recalls, remembers, ?_⟩
  rintro state rfl
  exact addresses_of_remembers remembers

def cellsExample : State :=
  { scope := ⟨{ Machine.plainExample with memory := ⟨#["0", "a"]⟩ },
      ⟨"main", [], .ofList [("x", "0")], .start⟩⟩
    suspended := []
    control := .running
    floor := .ground
    oneLine := false }

theorem addresses_of_leads_cellsExample :
    MemoryHistory.Remembers [.written 1 "a", .allocated 2] cellsExample.scope.machine.memory ∧
      ∃ after, Step.Recalls (.ofLines "<string>" ["SETM 0 b"]) [.written 1 "a", .allocated 2]
          (.next cellsExample) after (cellsExample.step (.ofLines "<string>" ["SETM 0 b"])) ∧
        after.content 0 = some "b" ∧ after.content 1 = some "a" := by
  have begins : MemoryHistory.Remembers [.written 1 "a", .allocated 2]
      cellsExample.scope.machine.memory :=
    (MemoryHistory.remembers_empty.allocate 2).write 1 "a"
  obtain ⟨after, recalls, remembers, -⟩ := addresses_of_leads begins
    (.next (.refl (cellsExample.step (.ofLines "<string>" ["SETM 0 b"]))))
  have memory : (cellsExample.step (.ofLines "<string>" ["SETM 0 b"])).state.scope.machine.memory =
      ⟨#["b", "a"]⟩ := by decide +kernel
  rw [memory] at remembers
  exact ⟨begins, after, recalls, (remembers 0).symm, (remembers 1).symm⟩

end State

end LineScript

import LineScript.Proofs.Block.Semantics
import LineScript.Proofs.Program

/-!
A frame that executes the lines of a block, with the frames that wait below it. What the lines mean
is compared with where the steps of the run lead: beyond the lines, to a signal of the frame, or to
the end of the run.
-/

namespace LineScript

open LineScript.Action

/-! ## Evaluations one after another -/

namespace Eval

variable {α β : Type} {first : Eval α} {next : α → Eval β} {store : Store}

theorem bind_apply (first : Eval α) (next : α → Eval β) (store : Store) :
    (first >>= next) store =
      match first store with
      | none => none
      | some (.ok value, after) => next value after
      | some (.error exit, after) => some (.error exit, after) := by
  change Option.bind (first store) _ = _
  cases first store with
  | none => rfl
  | some result =>
      obtain ⟨ending, after⟩ := result
      cases ending <;> rfl

theorem bind_some {result : Except Exit β × Store}
    (evaluated : (first >>= next) store = some result) :
    (∃ exit after, first store = some (.error exit, after) ∧ result = (.error exit, after)) ∨
      ∃ value after, first store = some (.ok value, after) ∧ next value after = some result := by
  rw [bind_apply] at evaluated
  split at evaluated
  · cases evaluated
  · next value after early => exact .inr ⟨value, after, early, evaluated⟩
  · next exit after early =>
      cases evaluated
      exact .inl ⟨exit, after, early, rfl⟩

end Eval

/-! ## Frames that wait -/

def Suspended.rootLocals : List Suspended → Locals → Locals
  | [], locals => locals
  | .caller frame _ :: rest, _ => rootLocals rest frame.locals
  | .owner _ _ :: rest, locals => rootLocals rest locals

theorem State.locals_outermost (state : State) :
    state.outermost.locals = Suspended.rootLocals state.suspended state.scope.frame.locals := by
  unfold outermost
  generalize state.scope.frame = frame
  induction state.suspended generalizing frame with
  | nil => rfl
  | cons waiting rest ih =>
      rw [List.foldl_cons, ih]
      cases waiting <;> rfl

/-- A frame that executes lines: what it has from its caller, and the frames that wait for it. -/
structure Seat where
  entry : String
  args : List String
  suspended : List Suspended

/-- The machine is as scripts of definitions expect it: no extension has a say, and it is in
extended mode. -/
structure Machine.Ready (settings : Settings) (machine : Machine) : Prop where
  bare : machine.Bare
  extended : machine.extended = true
  settings : machine.settings = settings

theorem Machine.Kept.ready {settings : Settings} {first second : Machine}
    (kept : first.Kept second) (ready : first.Ready settings) : second.Ready settings :=
  ⟨kept.bare ready.bare, kept.extended.trans ready.extended, kept.settings.trans ready.settings⟩

namespace Seat

variable {script : Script} {seat : Seat} {α β : Type} {finish : α → Store → Step → Prop}

def activity (seat : Seat) : Activity :=
  ⟨seat.entry, seat.args, seat.suspended.length + 1⟩

def state (seat : Seat) (cursor : Cursor) (store : Store) : State :=
  ⟨⟨store.machine, ⟨seat.entry, seat.args, store.locals, cursor⟩⟩, seat.suspended, .running,
    .ground, false⟩

def leaving (seat : Seat) (cursor : Cursor) (store : Store) (signal : Signal) : State :=
  { seat.state cursor store with control := .leaving signal }

theorem depth_state (cursor : Cursor) (store : Store) :
    (seat.state cursor store).depth = seat.activity.depth := by
  change 0 + seat.suspended.length + 1 = seat.suspended.length + 1
  rw [Nat.zero_add]

theorem scope_of_kept {number : Nat} {text : String} {store : Store} {scope : Scope}
    (kept : (seat.activity.scope number text store).Kept scope) :
    seat.activity.scope number text scope.store = scope := by
  obtain ⟨machine, entry, args, locals, cursor⟩ := scope
  obtain ⟨-, rfl, rfl, rfl⟩ := kept
  rfl

theorem state_of_kept {number : Nat} {text : String} {store : Store} {scope : Scope}
    (kept : (seat.activity.scope number text store).Kept scope) :
    { seat.state ⟨number, some text⟩ store with scope := scope } =
      seat.state ⟨number, some text⟩ scope.store := by
  rw [← scope_of_kept kept]
  rfl

def Leaves (seat : Seat) (signal : Signal) (store : Store) (last : Step) : Prop :=
  (∀ line value, signal ≠ .resume line value) ∧
    ∃ cursor, last = .next (seat.leaving cursor store signal)

/-- Where the lines of a frame come to: what follows them, a signal of the frame, or a fault that
ends the run. -/
def Ends (seat : Seat) (finish : α → Store → Step → Prop) :
    Except Exit α × Store → Step → Prop
  | (.ok value, store), last => finish value store last
  | (.error (.leaves signal), store), last => seat.Leaves signal store last
  | (.error (.fails fault), store), last => ∃ state, last = .stop (.failed fault) state ∧
      state.scope.machine = store.machine ∧
      state.outermost.locals = Suspended.rootLocals seat.suspended store.locals

/-- The run goes from the start to where the lines come to, in no fewer steps than given. -/
structure Brings (script : Script) (seat : Seat) (least : Nat) (finish : α → Store → Step → Prop)
    (start : Step) (store : Store) (result : Except Exit α × Store) : Prop where
  kept : store.machine.Kept result.2.machine
  leads : ∃ count last, least ≤ count ∧ start.Leads script count last ∧ seat.Ends finish result last

/-- What lines mean agrees with the run: it comes to where the lines come to, and the lines come to
an end if the run does so in fewer steps than the bound. -/
structure Agrees (script : Script) (seat : Seat) (bound least : Nat)
    (finish : α → Store → Step → Prop) (start : Step) (store : Store)
    (evaluated : Option (Except Exit α × Store)) : Prop where
  sound : ∀ result, evaluated = some result → seat.Brings script least finish start store result
  complete : ∀ fuel < bound, start.run script fuel ≠ none → ∃ result, evaluated = some result

def AtLine (seat : Seat) (number : Nat) : Unit → Store → Step → Prop :=
  fun _ store last => ∃ text, last = .next (seat.state ⟨number, text⟩ store)

variable {start : Step} {store : Store} {bound least : Nat}
  {evaluated : Option (Except Exit α × Store)}

theorem agrees_some {result : Except Exit α × Store}
    (brings : seat.Brings script least finish start store result) :
    seat.Agrees script bound least finish start store (some result) := by
  refine ⟨fun other same => ?_, fun _ _ _ => ⟨result, rfl⟩⟩
  cases same
  exact brings

theorem agrees_now {result : Except Exit α × Store} (kept : store.machine.Kept result.2.machine)
    (ends : seat.Ends finish result start) :
    seat.Agrees script bound 0 finish start store (some result) :=
  agrees_some ⟨kept, 0, start, Nat.le_refl 0, .refl start, ends⟩

theorem Agrees.weaken (agrees : seat.Agrees script bound least finish start store evaluated) :
    seat.Agrees script bound 0 finish start store evaluated := by
  refine ⟨fun result same => ?_, agrees.complete⟩
  obtain ⟨kept, count, last, -, leads, ends⟩ := agrees.sound result same
  exact ⟨kept, count, last, Nat.zero_le count, leads, ends⟩

theorem Agrees.after {count : Nat} {early : Step} {before : Store}
    (agrees : seat.Agrees script (bound - count) 0 finish start store evaluated)
    (kept : before.machine.Kept store.machine) (leads : early.Leads script count start) :
    seat.Agrees script bound count finish early before evaluated := by
  refine ⟨fun result same => ?_, fun fuel small stops => ?_⟩
  · obtain ⟨keptLate, other, last, -, late, ends⟩ := agrees.sound result same
    exact ⟨kept.trans keptLate, count + other, last, Nat.le_add_right count other,
      leads.trans late, ends⟩
  · obtain ⟨within, ends⟩ := leads.stops stops
    exact agrees.complete (fuel - count) (by omega) ends

theorem Agrees.bind {middle : β → Store → Step → Prop} {first : Eval β} {next : β → Eval α}
    (early : seat.Agrees script bound least middle start store (first store))
    (later : ∀ value after last, store.machine.Kept after.machine → middle value after last →
      seat.Agrees script (bound - least) 0 finish last after (next value after)) :
    seat.Agrees script bound least finish start store ((first >>= next) store) := by
  refine ⟨fun result evaluated => ?_, fun fuel small stops => ?_⟩
  · rcases Eval.bind_some evaluated with ⟨exit, after, left, rfl⟩ | ⟨value, after, done, late⟩
    · obtain ⟨kept, count, last, enough, leads, ends⟩ := early.sound _ left
      refine ⟨kept, count, last, enough, leads, ?_⟩
      cases exit <;> exact ends
    · obtain ⟨kept, count, last, enough, leads, ends⟩ := early.sound _ done
      obtain ⟨keptLate, other, final, -, late, ends⟩ :=
        (later value after last kept ends).sound result late
      exact ⟨kept.trans keptLate, count + other, final, Nat.le_add_right_of_le enough,
        leads.trans late, ends⟩
  · obtain ⟨⟨ending, after⟩, done⟩ := early.complete fuel small stops
    obtain ⟨kept, count, last, enough, leads, ends⟩ := early.sound _ done
    rw [Eval.bind_apply, done]
    cases ending with
    | error exit => exact ⟨_, rfl⟩
    | ok value =>
        obtain ⟨within, stopsLate⟩ := leads.stops stops
        exact (later value after last kept ends).complete (fuel - count) (by omega) stopsLate

/-- Lines to be compared with their run: the frame that executes them, where its run starts, and
where it comes to when it has executed them. -/
structure Task (α : Type) where
  seat : Seat
  finish : α → Store → Step → Prop
  start : Step
  store : Store

def Meets (script : Script) (bound : Nat) (tasks : Task α → Prop)
    (evaluated : Option (Except Exit α × Store)) : Prop :=
  ∀ task, tasks task →
    task.seat.Agrees script bound 0 task.finish task.start task.store evaluated

theorem meets_zero {γ : Type} {tasks : Task α → Prop} {raw : Option γ}
    {read : γ → Except Exit α × Store}
    (each : ∀ result, raw = some result → Meets script 0 tasks (some (read result))) :
    Meets script 0 tasks (raw.map read) := by
  intro task member
  refine ⟨fun result same => ?_, fun fuel small => absurd small (Nat.not_lt_zero fuel)⟩
  obtain ⟨inner, evaluated, rfl⟩ := Option.map_eq_some_iff.mp same
  exact (each inner evaluated task member).sound (read inner) rfl

theorem meets_some {tasks : Task α → Prop} {evaluated : Option (Except Exit α × Store)}
    (each : ∀ result, evaluated = some result → Meets script 0 tasks (some result)) :
    Meets script 0 tasks evaluated := by
  have same : Meets script 0 tasks (evaluated.map id) := meets_zero each
  rwa [Option.map_id] at same

end Seat

end LineScript

import LineScript.Proofs.Destination

/-!
The inputs of operations. An operation is a function of as many texts as it has inputs, and its line
supplies exactly so many, in the short form as in the long one: the short form is the long one with
the value of the destination written out.
-/

namespace LineScript

open LineScript.Action

def Curried (α : Type) : ℕ → Type
  | 0 => α
  | n + 1 => String → Curried α n

namespace Curried

variable {α : Type}

def at? : {n : ℕ} → Curried α n → List String → Option α
  | 0, value, [] => some value
  | 0, _, _ :: _ => none
  | _ + 1, _, [] => none
  | _ + 1, function, text :: rest => at? (function text) rest

theorem isSome_at? {n : ℕ} (function : Curried α n) (inputs : List String) :
    (function.at? inputs).isSome = true ↔ inputs.length = n := by
  induction inputs generalizing n with
  | nil =>
      cases n with
      | zero => exact iff_of_true rfl rfl
      | succ n => simp [at?]
  | cons text rest ih =>
      cases n with
      | zero => simp [at?]
      | succ n => rw [at?, ih, List.length_cons, Nat.add_right_cancel_iff]

end Curried

namespace Operation

def function : (op : Operation) → Curried (Except String (Computed String)) op.arity
  | arithmetic operator => fun left right => .ok (calculate operator left right)
  | substring => fun text start length => .ok (substringOf text start length)
  | characterAt => fun text index => .ok (characterOf text index)
  | trim => fun text => .ok (.plain (Text.squeeze text))
  | replace => fun text old new => .ok (replaceIn text old new)
  | countMatches => fun text pattern => countIn text pattern
  | find => fun text value => .ok (.plain (positionIn text value))
  | concatenate => fun left right => .ok (.plain (left ++ right))
  | size => fun text => .ok (.plain (toString text.length))
  | round => fun value places => .ok (roundTo value places)
  | absolute => fun value =>
      .ok ((Reading.decimal value).andThen fun number => decimalText number.abs "ABS")
  | minimum => fun left right => .ok (pick Number.Decimal.min "MIN" left right)
  | maximum => fun left right => .ok (pick Number.Decimal.max "MAX" left right)
  | elementary function => fun input => .ok (evaluate function input)
  | upperCase => fun text => .ok (.plain (Text.upper text))
  | lowerCase => fun text => .ok (.plain (Text.lower text))
  | toBinary => fun text =>
      .ok ((Reading.integer text).andThen fun n => .plain (Number.toBinary n))
  | ofBinary => fun text => .ok (readBinary text)

theorem eval_eq (op : Operation) (inputs : List String) :
    op.eval inputs = (op.function.at? inputs).getD (.ok (.plain nullText)) := by
  rcases inputs with _ | ⟨first, _ | ⟨second, _ | ⟨third, _ | ⟨fourth, rest⟩⟩⟩⟩ <;> cases op <;> rfl

theorem at?_function {op : Operation} {inputs : List String}
    (delivered : inputs.length = op.arity) :
    op.function.at? inputs = some (op.eval inputs) := by
  obtain ⟨value, same⟩ :=
    Option.isSome_iff_exists.mp ((op.function.isSome_at? inputs).mpr delivered)
  rw [eval_eq, same, Option.getD_some]

theorem arity_pos (op : Operation) : 0 < op.arity := by
  cases op <;> exact Nat.succ_pos _

end Operation

/-! ## Short and long forms -/

namespace Scope

variable {scope : Scope} {destination value : String} {inputs rest : List String} {count : ℕ}

theorem operands_long (supplied : inputs.length = count) :
    scope.operands destination inputs count = (inputs, scope) := by
  rw [operands, if_pos supplied.ge, List.take_of_length_le supplied.le]

theorem operands_short (held : scope.frame.locals.get? destination = some value)
    (missing : inputs.length + 1 = count) :
    scope.operands destination inputs count = (value :: inputs, scope) := by
  rw [operands, if_neg (by omega), getVariable, held]
  dsimp only
  rw [List.take_of_length_le (by omega)]

theorem length_operands (scope : Scope) (destination : String) (positive : 0 < count)
    (supplied : count ≤ rest.length + 1) :
    (scope.operands destination rest count).1.length = count := by
  rw [operands]
  split
  · next enough => exact List.length_take_of_le enough
  · simp only [getVariable]
    split <;> (simp only [List.length_cons, List.length_take]; omega)

theorem operands_scope (declared : scope.frame.locals.has destination = true) :
    (scope.operands destination rest count).2 = scope := by
  obtain ⟨value, held⟩ := Option.isSome_iff_exists.mp declared
  rw [operands]
  split
  · rfl
  · rw [getVariable, held]

end Scope

/-! ## The instructions that are operations -/

def Operation.names : List String :=
  ["ADD", "SUB", "MUL", "DIV", "SUBSTR", "CHARAT", "TRIM", "RPLC", "COUNT", "FIND", "CON", "SIZE",
    "ROUND", "ABS", "MIN", "MAX", "SIN", "COS", "TAN", "ASIN", "ACOS", "ATAN", "LOG", "MATH_LN",
    "EPOW", "TENPOW", "TORAD", "TODEG", "FLR", "CEIL", "SQRT", "CASEU", "CASEL", "TOBIN",
    "BINTOINT"]

namespace Instruction

def operation? : Instruction → Option Operation
  | operation op => some op
  | _ => none

theorem operation?_eq_some {instruction : Instruction} {op : Operation}
    (same : instruction.operation? = some op) : instruction = operation op := by
  cases instruction <;> cases same
  rfl

/-- An operation is registered with as many arguments as it has inputs, the destination standing
for one of them, or with one more. -/
theorem arities_of_operation : ∀ entry ∈ allEntries, entry.instruction.operation?.all fun op =>
    entry.minArgs == op.arity && entry.maxArgs == some ((op.arity : Int) + 1) := by
  decide +kernel

theorem operation_of_named : ∀ entry ∈ allEntries, entry.name ∈ Operation.names →
    entry.instruction.operation?.isSome := by
  decide +kernel

end Instruction

namespace Machine

variable {machine : Machine} {keyword : String} {spec : Spec Meaning} {op : Operation}

theorem lookup?_arities (found : machine.lookup? keyword = some spec)
    (builtin : spec.action = .builtin (.operation op)) (count : ℕ) :
    spec.arityProblem? count = none ↔ count = op.arity ∨ count = op.arity + 1 := by
  rcases lookup?_cases found with ⟨entry, listed, origin, -, -, rfl⟩ | ⟨added, -, rfl⟩
  · have carried : entry.instruction = .operation op := Meaning.builtin.inj builtin
    have arities := Instruction.arities_of_operation entry listed
    rw [carried, Instruction.operation?, Option.all_some, Bool.and_eq_true, beq_iff_eq,
      beq_iff_eq] at arities
    obtain ⟨least, most⟩ := arities
    unfold Spec.arityProblem?
    dsimp only
    rw [least, most]
    dsimp only
    split_ifs <;> simp <;> omega
  · cases builtin

theorem lookup?_named {instruction : Instruction} (named : Text.upper keyword ∈ Operation.names)
    (found : machine.lookup? keyword = some spec) (builtin : spec.action = .builtin instruction) :
    ∃ op, instruction = .operation op := by
  rcases lookup?_cases found with ⟨entry, listed, origin, -, name, rfl⟩ | ⟨added, -, rfl⟩
  · obtain rfl : entry.instruction = instruction := Meaning.builtin.inj builtin
    obtain ⟨op, carried⟩ := Option.isSome_iff_exists.mp
      (Instruction.operation_of_named entry listed (name ▸ named))
    exact ⟨op, Instruction.operation?_eq_some carried⟩
  · cases builtin

end Machine

/-! ## Carrying out an operation -/

def Scope.stored (scope : Scope) (name : String) (computed : Computed String) : Scope :=
  (scope.reportAll computed.notes).assign name computed.value

theorem Scope.locals_reportAll (scope : Scope) (notes : List Note) :
    (scope.reportAll notes).frame.locals = scope.frame.locals := by
  induction notes generalizing scope with
  | nil => rfl
  | cons note rest ih => exact ih (scope.report note)

theorem Effect.operate_apply {op : Operation} {scope : Scope} {destination : String}
    {rest : List String} (declared : scope.frame.locals.has destination = true) :
    operate op destination rest scope =
      match op.eval (scope.operands destination rest op.arity).1 with
      | .ok computed => .ok () (scope.stored destination computed)
      | .error reason => .error (.exception (.limit reason)) scope := by
  unfold operate
  rw [onScope_bind, Scope.operands_scope declared]
  cases op.eval (scope.operands destination rest op.arity).1 with
  | error reason => rfl
  | ok computed =>
      have here : (scope.reportAll computed.notes).frame.locals.has destination = true := by
        rw [Scope.locals_reportAll, declared]
      change EStateM.Result.ok () (((scope.reportAll computed.notes).setVariable destination
        computed.value).2) = _
      rw [Scope.setVariable_declared here]
      rfl

namespace State

variable {script : Script} {line : Line} {now : State} {spec : Spec Meaning} {args : List String}
  {scope : Scope} {op : Operation} {destination : String} {rest inputs : List String}
  {computed : Computed String}

/-- Nothing happens but that a computed value is stored in a variable with what there is to say
about it. -/
def Computes (script : Script) (now : State) (line : Line) (scope : Scope) (destination : String)
    (computed : Computed String) : Prop :=
  now.execute script line = .next { now with scope := scope.stored destination computed }

theorem Meets.operates (met : now.Meets line spec (destination :: rest) scope)
    (builtin : spec.action = .builtin (.operation op))
    (declared : scope.frame.locals.has destination = true)
    (delivered : (scope.operands destination rest op.arity).1 = inputs)
    (evaluated : op.eval inputs = .ok computed) :
    now.Computes script line scope destination computed := by
  have performed : (Instruction.operation op).perform script now.inBody line.number
      (piecesOf line.tokens) (destination :: rest) scope =
      .ok .next (scope.stored destination computed) := by
    change (Effect.operate op destination rest >>= fun _ => pure Flow.next) scope = _
    rw [bind_apply, Effect.operate_apply declared, delivered, evaluated]
    rfl
  rw [Computes, met.executed builtin, performed]
  rfl

/-- A line comes to an operation with certain inputs and with a destination that exists. -/
structure Applies (now : State) (line : Line) (op : Operation) (inputs : List String)
    (scope : Scope) (destination : String) : Prop where
  meets : ∃ spec rest, now.Meets line spec (destination :: rest) scope ∧
    spec.action = .builtin (.operation op) ∧ (scope.operands destination rest op.arity).1 = inputs
  declared : scope.frame.locals.has destination = true

theorem Applies.computes (applies : now.Applies line op inputs scope destination)
    (script : Script) (evaluated : op.eval inputs = .ok computed) :
    now.Computes script line scope destination computed := by
  obtain ⟨spec, rest, met, builtin, delivered⟩ := applies.meets
  exact met.operates builtin applies.declared delivered evaluated

theorem meets_core {keyword : String} {pieces : List Piece} {core : Spec Instruction}
    (allowed : now.scope.machine.settings.Allows line.tokens) (named : line.keyword = keyword)
    (split : piecesOf line.tokens = pieces)
    (resolved : Reference.resolveAll pieces now.scope = .ok args scope)
    (found : Instruction.core.get? keyword = some core)
    (supplied : core.arityProblem? args.length = none) :
    now.Meets line (Machine.specWith .builtin core) args scope :=
  ⟨allowed, split ▸ resolved, named ▸ Machine.lookup?_core found, supplied⟩

theorem Meets.delivers (met : now.Meets line spec (destination :: rest) scope)
    (builtin : spec.action = .builtin (.operation op)) :
    (scope.operands destination rest op.arity).1.length = op.arity := by
  have count := (Machine.lookup?_arities met.found builtin _).mp met.supplied
  rw [List.length_cons] at count
  exact scope.length_operands destination op.arity_pos (by omega)

/-- The instruction of an operation takes its inputs in a short and in a long form. -/
structure TwoForms (state : State) (keyword : String) (spec : Spec Meaning) (op : Operation) :
    Prop where
  admitted : ∀ count : ℕ, spec.arityProblem? count = none ↔ count = op.arity ∨ count = op.arity + 1
  /-- Without its first input, the instruction does what it does with the value of the destination
  in its place. -/
  agree : ∀ (script : Script) (short long : Line) (pieces piecesLong : List Piece)
    (destination value : String) (inputs : List String), short.keyword = keyword →
    long.keyword = keyword → state.scope.frame.locals.get? destination = some value →
    inputs.length + 1 = op.arity →
      state.dispatch script short pieces (destination :: inputs) =
        state.dispatch script long piecesLong (destination :: value :: inputs)
  delivers : ∀ args : List String, spec.arityProblem? args.length = none →
    ∃ destination rest, args = destination :: rest ∧
      op.function.at? (state.scope.operands destination rest op.arity).1 =
        some (op.eval (state.scope.operands destination rest op.arity).1)

/-- The short and the long form of every operation agree, and both supply all inputs. -/
theorem twoForms_of_operation {state : State} {keyword : String} {spec : Spec Meaning}
    {instruction : Instruction} (named : Text.upper keyword ∈ Operation.names)
    (found : state.scope.machine.lookup? keyword = some spec)
    (builtin : spec.action = .builtin instruction) :
    ∃ op, instruction = .operation op ∧ state.TwoForms keyword spec op := by
  obtain ⟨op, rfl⟩ := Machine.lookup?_named named found builtin
  have admitted := Machine.lookup?_arities found builtin
  refine ⟨op, rfl, admitted, ?_, fun args supplied => ?_⟩
  · intro script short long pieces piecesLong destination value inputs shortName longName held
      missing
    have declared : state.scope.frame.locals.has destination = true :=
      Option.isSome_iff_exists.mpr ⟨value, held⟩
    have missingLong : (value :: inputs).length = op.arity := missing
    have fits : spec.arityProblem? (destination :: inputs).length = none :=
      (admitted _).mpr (.inl missing)
    have fitsLong : spec.arityProblem? (destination :: value :: inputs).length = none :=
      (admitted _).mpr (.inr (congrArg (· + 1) missing))
    -- The short form takes the destination's own value for the input it leaves out.
    have performed : spec.action.perform script state.inBody short.number pieces
        (destination :: inputs) state.scope = spec.action.perform script state.inBody long.number
          piecesLong (destination :: value :: inputs) state.scope := by
      rw [builtin]
      change (Effect.operate op destination inputs >>= fun _ => pure Flow.next) state.scope =
        (Effect.operate op destination (value :: inputs) >>= fun _ => pure Flow.next) state.scope
      rw [bind_apply, bind_apply, Effect.operate_apply declared, Effect.operate_apply declared,
        Scope.operands_short held missing, Scope.operands_long missingLong]
    unfold dispatch
    rw [shortName, longName, found]
    dsimp only
    rw [fits, fitsLong]
    dsimp only
    rw [performed]
  · have count := (admitted _).mp supplied
    have positive := op.arity_pos
    obtain ⟨destination, rest, rfl⟩ := exists_one (show 1 ≤ args.length by omega)
    rw [List.length_cons] at count
    refine ⟨destination, rest, rfl, Operation.at?_function ?_⟩
    exact state.scope.length_operands destination positive (by omega)

theorem twoForms_of_operation_addExample :
    Text.upper "ADD" ∈ Operation.names ∧
      itemsExample.scope.machine.lookup? "ADD" =
        some ⟨"ADD", 2, some 3, .builtin (.operation (.arithmetic .add)), "", "core"⟩ ∧
      itemsExample.TwoForms "ADD"
        ⟨"ADD", 2, some 3, .builtin (.operation (.arithmetic .add)), "", "core"⟩
        (.arithmetic .add) := by
  have named : Text.upper "ADD" ∈ Operation.names := by decide +kernel
  have found : itemsExample.scope.machine.lookup? "ADD" =
      some ⟨"ADD", 2, some 3, .builtin (.operation (.arithmetic .add)), "", "core"⟩ :=
    Machine.lookup?_core (by rfl : Instruction.core.get? "ADD" = some ⟨_, _, _, _, _, _⟩)
  obtain ⟨op, same, forms⟩ := twoForms_of_operation named found rfl
  cases same
  exact ⟨named, found, forms⟩

end State

end LineScript

import LineScript.Proofs.Operation.Arithmetic

/-!
The form of the numbers that operations store. A number is stored as NULL or without superfluous
zeros. Where the smaller or the greater of two numbers is stored, it has not been rounded before,
and a negative number that is rounded to zero only then leaves its sign behind.
-/

namespace LineScript

open LineScript.Number

def NumberText (text : String) : Prop :=
  text = nullText ∨ CanonicalText text

theorem Computed.value_andThen {α β : Type} (first : Computed α) (next : α → Computed β) :
    (first.andThen next).value = (next first.value).value :=
  rfl

namespace Operation

def IsNumeric : Operation → Prop
  | arithmetic _ | round | absolute | minimum | maximum => True
  | _ => False

def chosen? : Operation → List String → Option Decimal
  | minimum, [left, right] => some ((Reading.decimal left).value.min (Reading.decimal right).value)
  | maximum, [left, right] => some ((Reading.decimal left).value.max (Reading.decimal right).value)
  | _, _ => none

def LeavesSign (op : Operation) (inputs : List String) : Prop :=
  ∃ d, op.chosen? inputs = some d ∧ Sinks d.value

/-! ## Results -/

theorem value_decimalText_error (fault : DecimalFault) (what : String) :
    (decimalText (.error fault) what).value = nullText :=
  rfl

theorem numberText_settled {r : Decimal} (settled : r.Settled) (what : String) :
    NumberText (decimalText (.ok r) what).value := by
  obtain ⟨text, stored, writes⟩ := decimalText_settled settled what
  rw [stored]
  exact .inr writes.canonical

/-- A result is stored in its form whether or not there is one. -/
theorem numberText_result {result : Except DecimalFault Decimal}
    (settles : ∀ r, result = .ok r → r.Settled) (what : String) :
    NumberText (decimalText result what).value := by
  cases result with
  | error fault => exact .inl (value_decimalText_error fault what)
  | ok r => exact numberText_settled (settles r rfl) what

theorem numberText_calculate (operator : Arithmetic) (left right : String) :
    NumberText (calculate operator left right).value := by
  obtain ⟨d, finishes⟩ := operator.apply_finish (Reading.decimal left).value
    (Reading.decimal right).value
  rw [calculate, Computed.value_andThen, Computed.value_andThen]
  split
  · exact .inl rfl
  · rw [finishes]
    exact numberText_result (fun _ => Decimal.settled_of_finish) _

theorem numberText_roundTo (value places : String) :
    NumberText (roundTo value places).value := by
  simp only [roundTo, Computed.value_andThen]
  exact numberText_result (fun _ => Decimal.settled_of_roundTo) _

theorem numberText_absolute (value : String) : NumberText
    ((Reading.decimal value).andThen fun number => decimalText number.abs "ABS").value := by
  rw [Computed.value_andThen]
  exact numberText_result (fun _ => Decimal.settled_of_finish) _

/-! ## Choices -/

theorem value_pick (choose : Decimal → Decimal → Decimal) (what left right : String) :
    (pick choose what left right).value =
      (decimalText (.ok (choose (Reading.decimal left).value (Reading.decimal right).value))
        what).value := by
  rw [pick, Computed.value_andThen, Computed.value_andThen]

variable {choose : Decimal → Decimal → Decimal} {left right : String}

theorem value_pick_of_sinks
    (sinks : Sinks (choose (Reading.decimal left).value (Reading.decimal right).value).value)
    (what : String) : (pick choose what left right).value = "-0" := by
  rw [value_pick]
  unfold decimalText
  rw [Except.bind, Decimal.format_of_sinks sinks]
  rfl

theorem numberText_pick
    (stays : ¬ Sinks (choose (Reading.decimal left).value (Reading.decimal right).value).value)
    (what : String) : NumberText (pick choose what left right).value := by
  rw [value_pick]
  unfold decimalText
  rw [Except.bind]
  rcases Decimal.format_of_not_sinks stays with failed | ⟨text, formatted, canonical⟩
  · rw [failed]
    exact .inl rfl
  · rw [formatted]
    exact .inr canonical

theorem eval_numeric {op : Operation} {inputs : List String} (numeric : op.IsNumeric)
    (supplied : inputs.length = op.arity) :
    ∃ computed, op.eval inputs = .ok computed ∧
      (op.LeavesSign inputs → computed.value = "-0") ∧
      (¬ op.LeavesSign inputs → NumberText computed.value) := by
  cases op with
  | arithmetic operator =>
      obtain ⟨left, right, rfl⟩ := List.length_eq_two.mp supplied
      exact ⟨_, rfl, fun ⟨_, chosen, _⟩ => (nomatch chosen), fun _ =>
        numberText_calculate operator left right⟩
  | round =>
      obtain ⟨value, places, rfl⟩ := List.length_eq_two.mp supplied
      exact ⟨_, rfl, fun ⟨_, chosen, _⟩ => (nomatch chosen), fun _ =>
        numberText_roundTo value places⟩
  | absolute =>
      obtain ⟨value, rfl⟩ := List.length_eq_one_iff.mp supplied
      exact ⟨_, rfl, fun ⟨_, chosen, _⟩ => (nomatch chosen), fun _ => numberText_absolute value⟩
  | minimum =>
      obtain ⟨left, right, rfl⟩ := List.length_eq_two.mp supplied
      refine ⟨_, rfl, fun ⟨d, chosen, sinks⟩ => ?_, fun stays => ?_⟩
      · cases chosen
        exact value_pick_of_sinks sinks "MIN"
      · exact numberText_pick (fun sinks => stays ⟨_, rfl, sinks⟩) "MIN"
  | maximum =>
      obtain ⟨left, right, rfl⟩ := List.length_eq_two.mp supplied
      refine ⟨_, rfl, fun ⟨d, chosen, sinks⟩ => ?_, fun stays => ?_⟩
      · cases chosen
        exact value_pick_of_sinks sinks "MAX"
      · exact numberText_pick (fun sinks => stays ⟨_, rfl, sinks⟩) "MAX"
  | _ => exact numeric.elim

end Operation

/-! ## Lines -/

namespace State

variable {line : Line} {now : State} {spec : Spec Meaning} {scope : Scope} {op : Operation}
  {destination : String} {rest : List String}

/-- Whatever its inputs are, an operation that gives a number stores NULL or the text of a number
without superfluous zeros, unless it chooses a negative number that is rounded to zero only when it
is stored. -/
theorem stores_numberText (script : Script)
    (met : now.Meets line spec (destination :: rest) scope)
    (builtin : spec.action = .builtin (.operation op)) (numeric : op.IsNumeric)
    (declared : scope.frame.locals.has destination = true) :
    ∃ computed, now.Computes script line scope destination computed ∧
      (op.LeavesSign (scope.operands destination rest op.arity).1 → computed.value = "-0") ∧
      (¬ op.LeavesSign (scope.operands destination rest op.arity).1 →
        NumberText computed.value) := by
  obtain ⟨computed, evaluated, leaves, stays⟩ :=
    Operation.eval_numeric numeric (met.delivers builtin)
  exact ⟨computed, met.operates builtin declared rfl evaluated, leaves, stays⟩

def sunkenExample : Decimal := ⟨true, 1, -2000000⟩

theorem sinks_sunkenExample : Sinks sunkenExample.value := by
  have positive := ten_zpow_pos (-2000000)
  have value : sunkenExample.value = -10 ^ (-2000000 : ℤ) := by
    rw [sunkenExample, Decimal.value_mk, if_pos rfl, Nat.cast_one, one_mul]
  have far : (10 : ℚ) ^ (-2000000 + 1 : ℤ) ≤ 10 ^ Decimal.tiny := ten_zpow_le_iff.mpr (by decide)
  rw [zpow_add_one₀ (by norm_num)] at far
  rw [value]
  constructor <;> linarith

theorem meets_sunkenExample : itemsExample.Meets (.ofText 1 "MIN x -1E-2000000 5")
    ⟨"MIN", 2, some 3, .builtin (.operation .minimum), "", "core"⟩ ["x", "-1E-2000000", "5"]
    itemsExample.scope := by
  have split : piecesOf (Line.ofText 1 "MIN x -1E-2000000 5").tokens =
      [⟨"x", false⟩, ⟨"-1E-2000000", false⟩, ⟨"5", false⟩] := by decide +kernel
  exact meets_core (by decide +kernel) (by decide +kernel) split (by with_unfolding_all rfl)
    (by rfl : Instruction.core.get? "MIN" = some ⟨_, _, _, _, _, _⟩) (by decide +kernel)

theorem leavesSign_sunkenExample : Operation.minimum.LeavesSign ["-1E-2000000", "5"] := by
  have left : Decimal.parse? "-1E-2000000" = some sunkenExample := by decide +kernel
  have right : Decimal.parse? "5" = some ⟨false, 5, 0⟩ := by decide +kernel
  refine ⟨sunkenExample, ?_, sinks_sunkenExample⟩
  rw [Operation.chosen?, Reading.decimal_eq left, Reading.decimal_eq right]
  decide +kernel

theorem stores_numberText_sunkenExample :
    itemsExample.Meets (.ofText 1 "MIN x -1E-2000000 5")
        ⟨"MIN", 2, some 3, .builtin (.operation .minimum), "", "core"⟩ ["x", "-1E-2000000", "5"]
        itemsExample.scope ∧
      Operation.minimum.IsNumeric ∧ itemsExample.scope.frame.locals.has "x" = true ∧
      ∃ computed, itemsExample.Computes (.ofLines "<string>" [])
        (.ofText 1 "MIN x -1E-2000000 5") itemsExample.scope "x" computed ∧
        computed.value = "-0" := by
  have declared : itemsExample.scope.frame.locals.has "x" = true := by decide +kernel
  obtain ⟨computed, computes, leaves, -⟩ := stores_numberText (.ofLines "<string>" [])
    meets_sunkenExample rfl trivial declared
  exact ⟨meets_sunkenExample, trivial, declared, computed, computes,
    leaves leavesSign_sunkenExample⟩

/-- The smaller of two numbers can be stored as a negative zero. -/
theorem not_stores_numberText :
    ¬ ∀ (script : Script) (line : Line) (now : State) (spec : Spec Meaning) (scope : Scope)
        (op : Operation) (destination : String) (rest : List String) (computed : Computed String),
      now.Meets line spec (destination :: rest) scope →
        spec.action = .builtin (.operation op) → op.IsNumeric →
        scope.frame.locals.has destination = true →
        now.Computes script line scope destination computed → NumberText computed.value := by
  intro claimed
  have declared : itemsExample.scope.frame.locals.has "x" = true := by decide +kernel
  have supplied : ["-1E-2000000", "5"].length = Operation.minimum.arity := rfl
  obtain ⟨computed, evaluated, leaves, -⟩ := Operation.eval_numeric (by trivial) supplied
  have form := claimed (.ofLines "<string>" []) _ _ _ _ _ _ _ computed meets_sunkenExample rfl
    trivial declared (meets_sunkenExample.operates rfl declared rfl evaluated)
  rw [leaves leavesSign_sunkenExample] at form
  rcases form with null | canonical
  · exact absurd null (by decide)
  · exact not_canonicalText_negativeZero canonical

end State

end LineScript

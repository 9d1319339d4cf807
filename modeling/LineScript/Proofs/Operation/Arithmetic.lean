import LineScript.Proofs.Number.Format
import LineScript.Proofs.Operation.Inputs

/-!
Arithmetic on texts. What is stored is the exact result, rounded once to 28 significant digits, if
its leading digit is in the range; beyond the range and for a division by zero NULL is stored, with
one error.
-/

namespace LineScript

open LineScript.Number

namespace Arithmetic

variable {operator : Arithmetic} {a b r : Decimal}

def exact : Arithmetic → ℚ → ℚ → ℚ
  | add, x, y => x + y
  | sub, x, y => x - y
  | mul, x, y => x * y
  | div, x, y => x / y

def Undefined (operator : Arithmetic) (b : Decimal) : Prop :=
  operator = .div ∧ b.value = 0

theorem apply_eq (a : Decimal) (defined : ¬ operator.Undefined b) :
    ∃ d : Decimal, operator.apply a b = d.finish ∧
      rounded d.value = rounded (operator.exact a.value b.value) := by
  cases operator with
  | add => exact a.add_eq b
  | sub => exact a.sub_eq b
  | mul =>
      obtain ⟨product, multiplied, same⟩ := a.mul_eq b
      exact ⟨product, multiplied, congrArg rounded same⟩
  | div =>
      refine a.div_eq ?_
      rw [← Bool.not_eq_true, ← Decimal.value_eq_zero_iff]
      exact fun zero => defined ⟨rfl, zero⟩

theorem apply_finish (operator : Arithmetic) (a b : Decimal) :
    ∃ d : Decimal, operator.apply a b = d.finish := by
  cases operator with
  | add | sub | mul => exact ⟨_, rfl⟩
  | div =>
      change ∃ d : Decimal, a.div b = d.finish
      unfold Decimal.div
      dsimp only
      split <;> exact ⟨_, rfl⟩

end Arithmetic

/-! ## Texts of results -/

theorem Reading.decimal_eq {text : String} {d : Decimal} (read : Decimal.parse? text = some d) :
    Reading.decimal text = .plain d := by
  rw [Reading.decimal, read, Reading.orElse]

theorem Reading.integer_eq {text : String} {n : ℤ} (read : parseInt? text = some n) :
    Reading.integer text = .plain n := by
  rw [Reading.integer, read, Reading.orElse]

theorem Reading.integer_toString (n : ℤ) :
    Reading.integer (toString n) = ⟨counted n, if n.natAbs < 10 ^ digitLimit then []
      else [⟨.error, Reading.malformed (toString n), .malformedValue⟩]⟩ := by
  rw [Reading.integer, parseInt?_toString, counted]
  split <;> rfl

namespace Operation

variable {operator : Arithmetic} {a b : Decimal} {left right : String}

def outOfRange (what : String) (fault : DecimalFault) : Computed String :=
  .withError nullText s!"{what} is out of range ({fault.name})." .mathDomain

def divisionByZero : Computed String :=
  .withError nullText "Division by zero." .divisionByZero

theorem decimalText_finish_of_overflows {d : Decimal} (beyond : Overflows (rounded d.value))
    (what : String) : decimalText d.finish what = outOfRange what .overflow := by
  rw [Decimal.finish_of_overflows beyond]
  rfl

theorem decimalText_settled {r : Decimal} (settled : r.Settled) (what : String) :
    ∃ text, decimalText (.ok r) what = .plain text ∧ Writes text r.value := by
  obtain ⟨text, formatted, writes⟩ := settled.format_writes
  refine ⟨text, ?_, writes⟩
  unfold decimalText
  rw [Except.bind, formatted]

theorem decimalText_finish {d : Decimal} (within : ¬ Overflows (rounded d.value)) (what : String) :
    ∃ text, decimalText d.finish what = .plain text ∧ Writes text (rounded d.value) := by
  obtain ⟨r, finished, value, settled⟩ := Decimal.finish_of_not_overflows within
  rw [finished, ← value]
  exact decimalText_settled settled what

theorem calculate_eq (leftRead : Decimal.parse? left = some a)
    (rightRead : Decimal.parse? right = some b) :
    calculate operator left right =
      if operator == .div && b.isZero then divisionByZero
      else decimalText (operator.apply a b) operator.name := by
  rw [calculate, Reading.decimal_eq leftRead, Reading.decimal_eq rightRead]
  rfl

theorem calculate_of_undefined (leftRead : Decimal.parse? left = some a)
    (rightRead : Decimal.parse? right = some b) (undefined : operator.Undefined b) :
    calculate operator left right = divisionByZero := by
  obtain ⟨rfl, zero⟩ := undefined
  rw [calculate_eq leftRead rightRead, Decimal.value_eq_zero_iff.mp zero]
  rfl

theorem calculate_of_defined (leftRead : Decimal.parse? left = some a)
    (rightRead : Decimal.parse? right = some b) (defined : ¬ operator.Undefined b) :
    (Overflows (rounded (operator.exact a.value b.value)) →
      calculate operator left right = outOfRange operator.name .overflow) ∧
    (¬ Overflows (rounded (operator.exact a.value b.value)) →
      ∃ text, calculate operator left right = .plain text ∧
        Writes text (rounded (operator.exact a.value b.value))) := by
  have divides : (operator == .div && b.isZero) = false := by
    rw [← Bool.not_eq_true, Bool.and_eq_true, beq_iff_eq, ← Decimal.value_eq_zero_iff]
    exact defined
  obtain ⟨d, applied, same⟩ := operator.apply_eq a defined
  rw [calculate_eq leftRead rightRead, divides, if_neg Bool.false_ne_true, applied, ← same]
  exact ⟨fun beyond => decimalText_finish_of_overflows beyond _, fun within =>
    decimalText_finish within _⟩

end Operation

/-! ## Lines -/

namespace State

variable {line : Line} {now : State} {spec : Spec Meaning} {scope : Scope} {operator : Arithmetic}
  {destination left right : String} {rest : List String} {a b : Decimal}

theorem Meets.calculates (script : Script)
    (met : now.Meets line spec (destination :: rest) scope)
    (builtin : spec.action = .builtin (.operation (.arithmetic operator)))
    (declared : scope.frame.locals.has destination = true)
    (delivered : (scope.operands destination rest 2).1 = [left, right]) :
    now.Computes script line scope destination (Operation.calculate operator left right) :=
  met.operates builtin declared delivered rfl

/-- Arithmetic stores the exact result, rounded to 28 significant digits. -/
theorem arithmetic_rounds (script : Script)
    (met : now.Meets line spec (destination :: rest) scope)
    (builtin : spec.action = .builtin (.operation (.arithmetic operator)))
    (declared : scope.frame.locals.has destination = true)
    (delivered : (scope.operands destination rest 2).1 = [left, right])
    (leftRead : Decimal.parse? left = some a) (rightRead : Decimal.parse? right = some b) :
    let x := operator.exact a.value b.value
    let result := significant 28 x
    (operator.Undefined b → now.Computes script line scope destination Operation.divisionByZero) ∧
      (¬ operator.Undefined b →
        (InRange result → ∃ text, now.Computes script line scope destination (.plain text) ∧
          Denotes text result) ∧
        (999999 < Int.log 10 |result| → now.Computes script line scope destination
          (Operation.outOfRange operator.name .overflow))) ∧
      ∀ m k : ℤ, |m| < 10 ^ 28 → x = m * 10 ^ k → result = x := by
  have computes := met.calculates script builtin declared delivered
  intro x result
  refine ⟨fun undefined => ?_, fun defined => ?_, fun m k fits written => ?_⟩
  · rwa [Operation.calculate_of_undefined leftRead rightRead undefined] at computes
  · obtain ⟨beyond, within⟩ := Operation.calculate_of_defined leftRead rightRead defined
    refine ⟨fun range => ?_, fun large => ?_⟩
    · have same : rounded x = result := rounded_eq_significant range.least
      obtain ⟨text, stored, writes⟩ := within (by rw [same]; exact range.not_overflows)
      exact ⟨text, stored ▸ computes, same ▸ writes.denotes⟩
    · have same : rounded x = result := rounded_eq_significant (le_trans (by decide) large.le)
      rwa [← beyond (by rw [same]; exact overflows_iff.mpr large)]
  · exact significant_of_fits fits written

theorem arithmetic_rounds_quotientExample :
    itemsExample.Meets (.ofText 1 "DIV x 1 8")
        ⟨"DIV", 2, some 3, .builtin (.operation (.arithmetic .div)), "", "core"⟩ ["x", "1", "8"]
        itemsExample.scope ∧
      itemsExample.scope.frame.locals.has "x" = true ∧
      (itemsExample.scope.operands "x" ["1", "8"] 2).1 = ["1", "8"] ∧
      Decimal.parse? "1" = some ⟨false, 1, 0⟩ ∧ Decimal.parse? "8" = some ⟨false, 8, 0⟩ ∧
      ∃ text, itemsExample.Computes (.ofLines "<string>" []) (.ofText 1 "DIV x 1 8")
        itemsExample.scope "x" (.plain text) ∧ Denotes text (1 / 8) := by
  have split : piecesOf (Line.ofText 1 "DIV x 1 8").tokens =
      [⟨"x", false⟩, ⟨"1", false⟩, ⟨"8", false⟩] := by decide +kernel
  have met : itemsExample.Meets (.ofText 1 "DIV x 1 8")
      ⟨"DIV", 2, some 3, .builtin (.operation (.arithmetic .div)), "", "core"⟩ ["x", "1", "8"]
      itemsExample.scope :=
    meets_core (by decide +kernel) (by decide +kernel) split (by with_unfolding_all rfl)
      (by rfl : Instruction.core.get? "DIV" = some ⟨_, _, _, _, _, _⟩) (by decide +kernel)
  have declared : itemsExample.scope.frame.locals.has "x" = true := by decide +kernel
  have one : Decimal.parse? "1" = some ⟨false, 1, 0⟩ := by decide +kernel
  have eight : Decimal.parse? "8" = some ⟨false, 8, 0⟩ := by decide +kernel
  have quotient : Arithmetic.div.exact (⟨false, 1, 0⟩ : Decimal).value
      (⟨false, 8, 0⟩ : Decimal).value = 1 / 8 := by
    norm_num [Arithmetic.exact, Decimal.value_mk]
  have defined : ¬ Arithmetic.div.Undefined ⟨false, 8, 0⟩ := fun undefined =>
    absurd undefined.2 (Decimal.value_ne_zero rfl)
  obtain ⟨-, rounds, exact⟩ :=
    arithmetic_rounds (.ofLines "<string>" []) met rfl declared rfl one eight
  have same := exact 125 (-3) (by decide) (by rw [quotient]; norm_num)
  rw [same, quotient] at rounds
  have leading : Int.log 10 |(1 / 8 : ℚ)| = -1 := by
    apply le_antisymm
    · exact Int.lt_add_one_iff.mp ((log_lt_iff (by norm_num)).mpr (by norm_num))
    · exact (le_log_iff (by norm_num)).mpr (by norm_num)
  exact ⟨met, declared, rfl, one, eight, (rounds defined).1 (.inr (by rw [leading]; decide))⟩

end State

end LineScript

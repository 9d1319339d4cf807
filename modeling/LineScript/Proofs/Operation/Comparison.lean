import LineScript.Proofs.Operation.Arithmetic

/-!
Numbers as texts. A number that fits the precision and the range is the number that its text
denotes, and so is every result of arithmetic; two such numbers are equal if and only if their texts
are, which is what a comparison for equality asks.
-/

namespace LineScript

open LineScript.Number

/-! ## Numbers that are kept as they are -/

namespace Number.Decimal

variable {d : Decimal}

/-- At most 28 significant digits suffice for the number, and its leading digit is in the range. -/
structure Representable (d : Decimal) : Prop where
  short : ∃ m k : ℤ, |m| < 10 ^ 28 ∧ d.value = m * 10 ^ k
  range : InRange d.value

theorem Representable.format_writes (fits : d.Representable) :
    ∃ text, d.format = .ok text ∧ Writes text d.value := by
  obtain ⟨m, k, few, written⟩ := fits.short
  have whole : significant precision d.value = d.value := significant_of_fits few written
  have same : rounded d.value = d.value :=
    (rounded_eq_significant (by rw [whole]; exact fits.range.least)).trans whole
  exact format_writes_of_rounded same fits.range.not_overflows

def IsResult (d : Decimal) : Prop :=
  ∃ (operator : Arithmetic) (a b : Decimal), operator.apply a b = .ok d

theorem IsResult.settled (result : d.IsResult) : d.Settled := by
  obtain ⟨operator, a, b, applied⟩ := result
  obtain ⟨exact, finishes⟩ := operator.apply_finish a b
  exact settled_of_finish (finishes.symm.trans applied)

theorem format_writes_of_kept (kept : d.Representable ∨ d.IsResult) :
    ∃ text, d.format = .ok text ∧ Writes text d.value :=
  kept.elim Representable.format_writes fun result => result.settled.format_writes

end Number.Decimal

/-! ## Comparing -/

namespace State

variable {line : Line} {now : State} {spec : Spec Meaning} {scope : Scope}
  {name left right : String} {rest : List String} {result : Bool}

theorem Meets.compares (script : Script)
    (met : now.Meets line spec (name :: left :: right :: rest) scope)
    (builtin : spec.action = .builtin .compare)
    (compared : compareValues name left right = some result) :
    now.execute script line = .next { now with
      scope := { scope with machine := { scope.machine with compareFlag := result } } } := by
  have performed : Instruction.compare.perform script now.inBody line.number
      (piecesOf line.tokens) (name :: left :: right :: rest) scope =
      .ok .next { scope with machine := { scope.machine with compareFlag := result } } := by
    change ((Effect.compare name left right >>= fun _ => pure ()) >>= fun _ => pure Flow.next)
      scope = _
    unfold Effect.compare
    rw [compared]
    rfl
  rw [met.executed builtin, performed]
  rfl

end State

theorem compareValues_equal (left right : String) :
    compareValues "EQL" left right = some (left == right) := by
  have known : Comparison.ofName? "EQL" = some .equal := by decide +kernel
  rw [compareValues, known]
  rfl

/-- The text of a number denotes it, and comparing texts for equality decides whether numbers are
equal, however they are represented. -/
theorem compare_equal_decides {c d : Decimal} (first : c.Representable ∨ c.IsResult)
    (second : d.Representable ∨ d.IsResult) :
    ∃ left right, c.format = .ok left ∧ d.format = .ok right ∧ Denotes left c.value ∧
      Denotes right d.value ∧ (left = right ↔ c.value = d.value) ∧
      ∀ (script : Script) (line : Line) (now : State) (spec : Spec Meaning) (scope : Scope),
        now.Meets line spec ["EQL", left, right] scope → spec.action = .builtin .compare →
          now.execute script line = .next { now with
            scope := { scope with
              machine := { scope.machine with compareFlag := decide (c.value = d.value) } } } := by
  obtain ⟨left, formatted, writes⟩ := Decimal.format_writes_of_kept first
  obtain ⟨right, formattedOther, writesOther⟩ := Decimal.format_writes_of_kept second
  have decides := writes.eq_iff writesOther
  refine ⟨left, right, formatted, formattedOther, writes.denotes, writesOther.denotes, decides, ?_⟩
  intro script line now spec scope met builtin
  refine met.compares script builtin ?_
  rw [compareValues_equal, beq_eq_decide, decide_eq_decide.mpr decides]

theorem compare_equal_decides_hundredExample :
    (⟨false, 100, 0⟩ : Decimal).Representable ∧ (⟨false, 1, 2⟩ : Decimal).IsResult ∧
      ∃ text, (⟨false, 100, 0⟩ : Decimal).format = .ok text ∧
        (⟨false, 1, 2⟩ : Decimal).format = .ok text ∧ Denotes text 100 := by
  have hundred : (⟨false, 100, 0⟩ : Decimal).value = 100 := by norm_num [Decimal.value_mk]
  have hundredOther : (⟨false, 1, 2⟩ : Decimal).value = 100 := by norm_num [Decimal.value_mk]
  have fits : (⟨false, 100, 0⟩ : Decimal).Representable :=
    ⟨⟨1, 2, by decide, by rw [hundred]; norm_num⟩,
      .inr (by rw [Decimal.log_value rfl]; decide +kernel)⟩
  have result : (⟨false, 1, 2⟩ : Decimal).IsResult :=
    ⟨.mul, ⟨false, 1, 1⟩, ⟨false, 1, 1⟩, by decide +kernel⟩
  obtain ⟨left, right, formatted, formattedOther, denotes, -, decides, -⟩ :=
    compare_equal_decides (.inl fits) (.inr result)
  obtain rfl := decides.mpr (hundred.trans hundredOther.symm)
  exact ⟨fits, result, left, formatted, formattedOther, hundred ▸ denotes⟩

end LineScript

import LineScript.Proofs.Number.Arithmetic
import LineScript.Proofs.Number.Positional

/-!
The texts that a script stores for numbers. The text of a number denotes its value, rounded, and has
no superfluous zeros; the same value has the same text, however it is represented. Only a negative
number so small that it is rounded to zero keeps its sign.
-/

namespace LineScript.Number

def Denotes (text : String) (x : ℚ) : Prop :=
  ∃ d, Decimal.parse? text = some d ∧ d.value = x

theorem Denotes.unique {text : String} {x y : ℚ} (first : Denotes text x)
    (second : Denotes text y) : x = y := by
  obtain ⟨d, read, rfl⟩ := first
  obtain ⟨e, readOther, rfl⟩ := second
  rw [Option.some.inj (read.symm.trans readOther)]

namespace Decimal

variable {d e r : Decimal}

/-! ## The shortest coefficient -/

def Trimmed (d : Decimal) : Prop :=
  d.coefficient % 10 ≠ 0

theorem Trimmed.isZero (trimmed : d.Trimmed) : d.isZero = false := by
  refine beq_eq_false_iff_ne.mpr fun zero => trimmed ?_
  rw [zero]

theorem Trimmed.eq_of_value_eq (first : d.Trimmed) (second : e.Trimmed) (same : d.value = e.value) :
    d = e := by
  wlog order : d.exponent ≤ e.exponent generalizing d e
  · exact (this second first same.symm (le_of_not_ge order)).symm
  have nonzero := value_ne_zero first.isZero
  have sign : d.negative = e.negative := by
    rcases h : d.negative, g : e.negative with ⟨_ | _, _ | _⟩
    · rfl
    · exact absurd (le_antisymm (same ▸ value_nonpos g) (value_nonneg h)) nonzero
    · exact absurd (le_antisymm (value_nonpos h) (same ▸ value_nonneg g)) nonzero
    · rfl
  have magnitude : d.coefficient = e.coefficient * 10 ^ (e.exponent - d.exponent).toNat := by
    have scaled := congrArg (|·|) same
    rw [abs_value, abs_value, ten_zpow_split order, ← mul_assoc,
      mul_left_inj' (ten_zpow_pos _).ne'] at scaled
    exact_mod_cast scaled
  -- With the smaller exponent the coefficient would be a multiple of ten.
  have exponents : d.exponent = e.exponent := by
    by_contra different
    obtain ⟨k, shift⟩ := Nat.exists_eq_succ_of_ne_zero
      (show (e.exponent - d.exponent).toNat ≠ 0 by omega)
    refine first ?_
    rw [magnitude, shift, Nat.pow_succ, ← Nat.mul_assoc, Nat.mul_mod_left]
  rw [exponents, sub_self, Int.toNat_zero, Nat.pow_zero, Nat.mul_one] at magnitude
  obtain ⟨negative, coefficient, exponent⟩ := d
  obtain ⟨negativeOther, coefficientOther, exponentOther⟩ := e
  simp_all

def shortest (r : Decimal) : Decimal :=
  if r.isZero then { r with exponent := 0 }
  else
    let (coefficient, exponent) := stripZeros maxExponent precision r.coefficient r.exponent
    ⟨r.negative, coefficient, exponent⟩

theorem normalize_eq (d : Decimal) : d.normalize = d.finish.map shortest :=
  rfl

/-- Stripping divides by a power of ten, until a digit is left that is not zero, the limit is
reached or the fuel is spent. -/
theorem stripZeros_spec (limit : ℤ) (fuel coefficient : ℕ) (exponent : ℤ) :
    ∃ k ≤ fuel, coefficient = (stripZeros limit fuel coefficient exponent).1 * 10 ^ k ∧
      (stripZeros limit fuel coefficient exponent).2 = exponent + k ∧
      (k = fuel ∨ (stripZeros limit fuel coefficient exponent).1 % 10 ≠ 0 ∨
        limit ≤ (stripZeros limit fuel coefficient exponent).2) := by
  induction fuel generalizing coefficient exponent with
  | zero => exact ⟨0, le_rfl, by simp [stripZeros], by simp [stripZeros], .inl rfl⟩
  | succ fuel ih =>
      rw [stripZeros]
      split
      · next more =>
          rw [Bool.and_eq_true, beq_iff_eq] at more
          obtain ⟨k, spent, whole, raised, ends⟩ := ih (coefficient / 10) (exponent + 1)
          refine ⟨k + 1, by omega, ?_, by rw [raised]; push_cast; ring, ?_⟩
          · rw [Nat.pow_succ, ← Nat.mul_assoc, ← whole]
            omega
          · exact ends.imp_left (congrArg (· + 1))
      · next last =>
          refine ⟨0, Nat.zero_le _, by simp, by simp, .inr ?_⟩
          simp only [Bool.and_eq_true, beq_iff_eq, decide_eq_true_eq, not_and, not_lt] at last
          by_cases zero : coefficient % 10 = 0
          · exact .inr (last zero)
          · exact .inl zero

theorem shortest_spec (settled : r.Settled) (nonzero : r.isZero = false) :
    r.shortest.Settled ∧ r.shortest.Trimmed ∧ r.shortest.value = r.value := by
  obtain ⟨k, -, whole, raised, ends⟩ :=
    stripZeros_spec maxExponent precision r.coefficient r.exponent
  have shape : r.shortest = ⟨r.negative, (stripZeros maxExponent precision r.coefficient
      r.exponent).1, (stripZeros maxExponent precision r.coefficient r.exponent).2⟩ :=
    if_neg (by rw [nonzero]; exact Bool.false_ne_true)
  rw [shape]
  generalize stripZeros maxExponent precision r.coefficient r.exponent = stripped at *
  obtain ⟨coefficient, exponent⟩ := stripped
  obtain ⟨negative, original, place⟩ := r
  dsimp only at whole raised ends ⊢
  obtain ⟨short, least, most⟩ := settled
  have some : coefficient ≠ 0 := by
    rintro rfl
    simp [isZero, whole] at nonzero
  have range := most nonzero
  have same : (⟨negative, coefficient, exponent⟩ : Decimal).value =
      (⟨negative, original, place⟩ : Decimal).value := by
    rw [whole, raised, value_shift]
  rw [← log_value nonzero, ← same, log_value (beq_eq_false_iff_ne.mpr some)] at range
  refine ⟨⟨?_, fun _ => ?_, fun _ => range⟩, ?_, same⟩
  · refine lt_of_le_of_lt ?_ short
    dsimp only
    rw [whole]
    exact Nat.le_mul_of_pos_right _ (Nat.pow_pos (by decide))
  · have := least nonzero
    dsimp only at this ⊢
    omega
  rcases ends with spent | done | limit
  · -- All the digits that there can be were zeros.
    dsimp only at short
    rw [whole, spent] at short
    exact absurd short (not_lt.mpr (Nat.le_mul_of_pos_left _ (Nat.pos_of_ne_zero some)))
  · exact done
  · -- At the limit of the range there is one digit.
    unfold adjusted at range
    dsimp only at range
    have count := digitCount_pos coefficient
    have single := lt_ten_pow_digitCount coefficient
    rw [show digitCount coefficient = 1 by omega] at single
    rw [Trimmed, Nat.mod_eq_of_lt (by simpa using single)]
    exact some

/-! ## Texts -/

theorem cut_negative (d : Decimal) : d.cut.negative = d.negative := by
  unfold cut
  dsimp only
  split <;> rfl

theorem format_of_value_eq_zero (zero : d.value = 0) : d.format = .ok "0" :=
  if_pos (value_eq_zero_iff.mp zero)

theorem format_eq (nonzero : d.isZero = false) :
    d.format = d.finish.map fun r => r.shortest.fixed := by
  rw [format, nonzero, if_neg Bool.false_ne_true, normalize_eq]
  cases d.finish <;> rfl

theorem format_of_overflows (beyond : Overflows (rounded d.value)) :
    d.format = .error .overflow := by
  rw [format_eq (isZero_of_rounded_ne_zero beyond.ne_zero), finish_of_overflows beyond]
  rfl

theorem format_of_rounded_eq_zero (nonzero : d.isZero = false) (vanishes : rounded d.value = 0) :
    d.format = .ok (if d.negative then "-0" else "0") := by
  have zero : d.cut.isZero = true := by rw [← value_eq_zero_iff, value_cut, vanishes]
  have shown : d.cut.shortest.fixed = if d.negative then "-0" else "0" := by
    rw [shortest, if_pos zero, cut_negative, isZero_iff.mp zero]
    cases d.negative <;> decide +kernel
  rw [format_eq nonzero, finish_cut nonzero, if_neg (vanishes ▸ not_overflows_zero), ← shown]
  rfl

theorem format_of_rounded_ne_zero (within : ¬ Overflows (rounded d.value))
    (some : rounded d.value ≠ 0) :
    ∃ s : Decimal, d.format = .ok s.fixed ∧ s.Settled ∧ s.Trimmed ∧ s.value = rounded d.value := by
  have nonzero := isZero_of_rounded_ne_zero some
  obtain ⟨r, finished, value, settled⟩ := finish_of_not_overflows within
  have nonzeroResult : r.isZero = false := by
    rwa [← Bool.not_eq_true, ← value_eq_zero_iff, value]
  obtain ⟨kept, trimmed, same⟩ := shortest_spec settled nonzeroResult
  exact ⟨r.shortest, by rw [format_eq nonzero, finished]; rfl, kept, trimmed, same.trans value⟩

theorem Settled.denotes_fixed (settled : d.Settled) (trimmed : d.Trimmed) :
    Denotes d.fixed d.value := by
  have least := settled.least trimmed.isZero
  refine ⟨_, parse?_fixed ?_ fun some => ?_, d.value_numeral⟩
  · exact le_trans (by decide) least
  · exact (settled.most some).trans (by decide)

end Decimal

/-! ## The text of a value -/

/-- The text is the one that a script stores for the number: "0", or the digits of the shortest
form. -/
def Writes (text : String) (x : ℚ) : Prop :=
  (x = 0 ∧ text = "0") ∨
    ∃ d : Decimal, d.Settled ∧ d.Trimmed ∧ d.value = x ∧ d.fixed = text

section Writes

variable {text other : String} {x y : ℚ}

theorem denotes_zero : Denotes "0" 0 :=
  ⟨.zero, by decide +kernel, Decimal.value_eq_zero_iff.mpr rfl⟩

theorem Writes.denotes (writes : Writes text x) : Denotes text x := by
  rcases writes with ⟨rfl, rfl⟩ | ⟨d, settled, trimmed, rfl, rfl⟩
  · exact denotes_zero
  · exact settled.denotes_fixed trimmed

theorem Writes.canonical (writes : Writes text x) : CanonicalText text := by
  rcases writes with ⟨-, rfl⟩ | ⟨d, -, trimmed, -, rfl⟩
  · exact .zero
  · rw [d.fixed_eq]
    exact .numeral (Decimal.canonical_numeral trimmed.isZero fun _ => trimmed)

theorem Writes.unique (first : Writes text x) (second : Writes other x) : text = other := by
  rcases first with ⟨zero, rfl⟩ | ⟨d, -, trimmed, rfl, rfl⟩ <;>
    rcases second with ⟨zeroOther, rfl⟩ | ⟨e, -, trimmedOther, same, rfl⟩
  · rfl
  · exact absurd (same.trans zero) (Decimal.value_ne_zero trimmedOther.isZero)
  · exact absurd zeroOther (Decimal.value_ne_zero trimmed.isZero)
  · rw [trimmed.eq_of_value_eq trimmedOther same.symm]

theorem Writes.eq_iff (first : Writes text x) (second : Writes other y) : text = other ↔ x = y :=
  ⟨fun same => first.denotes.unique (same ▸ second.denotes), fun same =>
    first.unique (same ▸ second)⟩

end Writes

namespace Decimal

variable {d : Decimal}

theorem format_writes (d : Decimal) (within : ¬ Overflows (rounded d.value))
    (kept : d.value = 0 ∨ rounded d.value ≠ 0) :
    ∃ text, d.format = .ok text ∧ Writes text (rounded d.value) := by
  rcases kept with zero | some
  · exact ⟨"0", format_of_value_eq_zero zero, .inl ⟨by rw [zero, rounded_zero], rfl⟩⟩
  · obtain ⟨s, formatted, settled, trimmed, value⟩ := format_of_rounded_ne_zero within some
    exact ⟨s.fixed, formatted, .inr ⟨s, settled, trimmed, value, rfl⟩⟩

theorem format_writes_of_rounded (same : rounded d.value = d.value)
    (within : ¬ Overflows d.value) : ∃ text, d.format = .ok text ∧ Writes text d.value := by
  have shown := d.format_writes (by rwa [same]) (by rw [same]; exact em _)
  rwa [same] at shown

theorem Settled.format_writes (settled : d.Settled) :
    ∃ text, d.format = .ok text ∧ Writes text d.value :=
  format_writes_of_rounded settled.rounded_value settled.not_overflows

theorem format_of_sinks (sinks : Sinks d.value) : d.format = .ok "-0" := by
  obtain ⟨below, vanishes⟩ := sinks_iff.mp sinks
  have nonzero : d.isZero = false := by
    rw [← Bool.not_eq_true, ← value_eq_zero_iff]
    exact below.ne
  have negative : d.negative = true := by
    by_contra positive
    exact absurd (value_nonneg (Bool.eq_false_of_not_eq_true positive)) (not_le.mpr below)
  rw [format_of_rounded_eq_zero nonzero vanishes, negative, if_pos rfl]

theorem format_of_not_sinks (stays : ¬ Sinks d.value) :
    d.format = .error .overflow ∨ ∃ text, d.format = .ok text ∧ CanonicalText text := by
  by_cases beyond : Overflows (rounded d.value)
  · exact .inl (format_of_overflows beyond)
  right
  by_cases kept : d.value = 0 ∨ rounded d.value ≠ 0
  · obtain ⟨text, formatted, writes⟩ := d.format_writes beyond kept
    exact ⟨text, formatted, writes.canonical⟩
  obtain ⟨some, vanishes⟩ := not_or.mp kept
  rw [not_not] at vanishes
  have positive : d.negative = false := by
    by_contra negative
    exact stays (sinks_iff.mpr ⟨lt_of_le_of_ne (value_nonpos (by simpa using negative)) some,
      vanishes⟩)
  have nonzero : d.isZero = false := by
    rwa [← Bool.not_eq_true, ← value_eq_zero_iff]
  refine ⟨"0", ?_, .zero⟩
  rw [format_of_rounded_eq_zero nonzero vanishes, positive, if_neg Bool.false_ne_true]

end Decimal

end LineScript.Number

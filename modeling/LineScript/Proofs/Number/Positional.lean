import LineScript.Number.Integer
import LineScript.Proofs.Number.Numeral

/-!
Decimals and integers in positional notation. The text of a decimal is a numeral that denotes the
same number, and no zero of it is superfluous if the last digit of the coefficient is not one. The
text of an integer is a numeral without a fraction, and it is read as the integer unless it has more
digits than an integer text may have.
-/

namespace LineScript.Number

namespace Decimal

variable {d : Decimal}

/-! ## The digits of a coefficient -/

theorem digits_ne_nil (n : ℕ) : digits n ≠ [] :=
  Nat.toDigits_ne_nil

theorem ofDigitChars_digits (n : ℕ) : Nat.ofDigitChars 10 (digits n) 0 = n :=
  Nat.ofDigitChars_ten_toDigits

theorem isDigit_digits {n : ℕ} : ∀ c ∈ digits n, c.isDigit = true :=
  fun _ listed => Nat.isDigit_of_mem_toDigits (by decide) le_rfl listed

theorem isDigit_zeros {n : ℕ} : ∀ c ∈ zeros n, c.isDigit = true :=
  fun _ listed => List.eq_of_mem_replicate listed ▸ rfl

theorem ofDigitChars_zeros_append (n : ℕ) (chars : List Char) :
    Nat.ofDigitChars 10 (zeros n ++ chars) 0 = Nat.ofDigitChars 10 chars 0 := by
  rw [Nat.ofDigitChars_append, zeros, Nat.ofDigitChars_replicate_zero, Nat.mul_zero]

theorem head?_digits {n : ℕ} (nonzero : n ≠ 0) : (digits n).head? ≠ some '0' := by
  induction n using Nat.strongRecOn with
  | ind n ih =>
      rw [digits, Nat.toDigits_eq_if (by decide)]
      split
      · simpa using nonzero
      · have shorter := ih (n / 10) (by omega) (by omega)
        rwa [List.head?_append_of_ne_nil _ Nat.toDigits_ne_nil]

theorem getLast?_digits (n : ℕ) : (digits n).getLast? = some (Nat.digitChar (n % 10)) := by
  rw [digits, Nat.toDigits_eq_if (by decide)]
  split
  · next less => rw [Nat.mod_eq_of_lt less, List.getLast?_singleton]
  · rw [List.getLast?_concat]

/-! ## The digits on both sides of the point -/

/-- The digits with zeros before them, so that some are left before the point. -/
def padded (chars : List Char) (places : ℕ) : List Char :=
  zeros (places + 1 - chars.length) ++ chars

theorem lt_length_padded (chars : List Char) (places : ℕ) :
    places < (padded chars places).length := by
  rw [padded, List.length_append, zeros, List.length_replicate]
  omega

theorem eq_zero_of_padded {n : ℕ} {whole fraction : List Char} (nonzero : n ≠ 0)
    (joined : whole ++ fraction = padded (digits n) fraction.length)
    (zero : whole.head? = some '0') : whole = ['0'] := by
  obtain ⟨rest, rfl⟩ : ∃ rest, whole = '0' :: rest := by
    cases whole with
    | nil => cases zero
    | cons c rest => exact ⟨rest, congrArg (· :: rest) (Option.some.inj zero)⟩
  rcases Nat.lt_or_ge fraction.length (digits n).length with long | short
  · rw [padded, Nat.sub_eq_zero_of_le long] at joined
    exact absurd (congrArg List.head? joined.symm) (head?_digits nonzero)
  · have lengths := congrArg List.length joined
    rw [padded, List.length_append, List.length_append, zeros, List.length_replicate,
      List.length_cons] at lengths
    rw [List.length_eq_zero_iff.mp (by omega : rest.length = 0)]

def numeral (d : Decimal) : Numeral :=
  if d.exponent ≥ 0 then ⟨d.negative, digits d.coefficient ++ zeros d.exponent.toNat, []⟩
  else
    let places := (-d.exponent).toNat
    let chars := padded (digits d.coefficient) places
    ⟨d.negative, chars.take (chars.length - places), chars.drop (chars.length - places)⟩

theorem numeral_of_nonneg (whole : 0 ≤ d.exponent) :
    d.numeral = ⟨d.negative, digits d.coefficient ++ zeros d.exponent.toNat, []⟩ :=
  if_pos whole

/-- The digits of a number below one unit on both sides of the point: as many after it as the
exponent says, and some before it. -/
structure Splits (d : Decimal) (whole fraction : List Char) : Prop where
  numeral : d.numeral = ⟨d.negative, whole, fraction⟩
  fixed : d.fixed = String.ofList (signChars d.negative ++ (whole ++ '.' :: fraction))
  begun : whole ≠ []
  ended : fraction ≠ []
  places : (fraction.length : ℤ) = -d.exponent
  joined : whole ++ fraction = padded (digits d.coefficient) fraction.length

theorem exists_splits (below : d.exponent < 0) : ∃ whole fraction, d.Splits whole fraction := by
  have long := lt_length_padded (digits d.coefficient) (-d.exponent).toNat
  have fixed : d.fixed = String.ofList (signChars d.negative ++
      withPoint (digits d.coefficient) (-d.exponent).toNat) := by
    rw [Decimal.fixed, if_neg (not_le.mpr below)]
  have places : (List.drop ((padded (digits d.coefficient) (-d.exponent).toNat).length -
      (-d.exponent).toNat) (padded (digits d.coefficient) (-d.exponent).toNat)).length =
      (-d.exponent).toNat := by
    rw [List.length_drop]
    omega
  refine ⟨_, _, if_neg (not_le.mpr below), fixed, ?_, ?_, ?_, ?_⟩
  · rw [Ne, List.take_eq_nil_iff, not_or]
    exact ⟨by omega, List.ne_nil_of_length_pos (by omega)⟩
  · exact List.ne_nil_of_length_pos (by omega)
  · omega
  · rw [List.take_append_drop, places]

theorem fixed_eq (d : Decimal) : d.fixed = d.numeral.text := by
  rcases le_or_gt 0 d.exponent with whole | below
  · rw [numeral_of_nonneg whole, fixed, if_pos whole, Numeral.text, Numeral.chars, List.isEmpty_nil,
      if_pos rfl, List.append_nil]
  · obtain ⟨whole, fraction, split⟩ := exists_splits below
    rw [split.numeral, split.fixed, Numeral.text, Numeral.chars,
      List.isEmpty_eq_false_iff.mpr split.ended, if_neg Bool.false_ne_true]

theorem numeral_digits (d : Decimal) : ∃ before after,
    d.numeral.whole ++ d.numeral.fraction =
      zeros before ++ (digits d.coefficient ++ zeros after) := by
  rcases le_or_gt 0 d.exponent with whole | below
  · rw [numeral_of_nonneg whole]
    exact ⟨0, d.exponent.toNat, List.append_nil _⟩
  · obtain ⟨whole, fraction, split⟩ := exists_splits below
    rw [split.numeral]
    exact ⟨_, 0, split.joined.trans (congrArg _ (List.append_nil _).symm)⟩

theorem readable_numeral (d : Decimal) : d.numeral.Readable := by
  refine ⟨?_, ?_⟩
  · rcases le_or_gt 0 d.exponent with whole | below
    · rw [numeral_of_nonneg whole]
      exact List.append_ne_nil_of_left_ne_nil (digits_ne_nil _) _
    · obtain ⟨whole, fraction, split⟩ := exists_splits below
      rw [split.numeral]
      exact split.begun
  · obtain ⟨before, after, joined⟩ := d.numeral_digits
    rw [joined, List.forall_mem_append, List.forall_mem_append]
    exact ⟨isDigit_zeros, isDigit_digits, isDigit_zeros⟩

/-! ## The number of a numeral -/

theorem value_numeral (d : Decimal) : d.numeral.decimal.value = d.value := by
  rcases le_or_gt 0 d.exponent with whole | below
  · have raised : -(([] : List Char).length : ℤ) + d.exponent.toNat = d.exponent := by
      rw [List.length_nil]
      omega
    rw [numeral_of_nonneg whole, Numeral.decimal, List.append_nil, Nat.ofDigitChars_append,
      ofDigitChars_digits, zeros, Nat.ofDigitChars_replicate_zero, Nat.mul_comm, value_shift,
      raised]
  · obtain ⟨whole, fraction, split⟩ := exists_splits below
    rw [split.numeral, Numeral.decimal]
    dsimp only
    rw [split.joined, padded, ofDigitChars_zeros_append, ofDigitChars_digits, split.places, neg_neg]

theorem exponent_numeral (d : Decimal) : d.numeral.decimal.exponent = Min.min d.exponent 0 := by
  rcases le_or_gt 0 d.exponent with whole | below
  · rw [numeral_of_nonneg whole, min_eq_right whole]
    rfl
  · obtain ⟨whole, fraction, split⟩ := exists_splits below
    rw [split.numeral, min_eq_left below.le, ← neg_neg d.exponent, ← split.places]
    rfl

theorem parse?_fixed (least : readTiny ≤ d.exponent)
    (most : d.isZero = false → d.adjusted ≤ readLimit) :
    parse? d.fixed = some d.numeral.decimal := by
  rw [fixed_eq]
  refine d.readable_numeral.parse?_text ?_ fun some => ?_
  · rw [exponent_numeral]
    exact le_min least (by decide)
  · have nonzero : d.isZero = false := by
      rw [← Bool.not_eq_true, ← value_eq_zero_iff, ← value_numeral]
      exact value_ne_zero some
    rw [← log_value some, value_numeral, log_value nonzero]
    exact most nonzero

/-! ## Superfluous zeros -/

theorem canonical_numeral (nonzero : d.isZero = false)
    (short : d.exponent < 0 → d.coefficient % 10 ≠ 0) : d.numeral.Canonical := by
  have some : d.coefficient ≠ 0 := beq_eq_false_iff_ne.mp nonzero
  refine ⟨d.readable_numeral, fun zero => ?_, ?_, ?_⟩
  · rcases le_or_gt 0 d.exponent with whole | below
    · rw [numeral_of_nonneg whole, List.head?_append_of_ne_nil _ (digits_ne_nil _)] at zero
      exact absurd zero (head?_digits some)
    · obtain ⟨whole, fraction, split⟩ := exists_splits below
      rw [split.numeral] at zero ⊢
      exact eq_zero_of_padded some split.joined zero
  · rcases le_or_gt 0 d.exponent with whole | below
    · rw [numeral_of_nonneg whole]
      exact nofun
    · obtain ⟨whole, fraction, split⟩ := exists_splits below
      rw [split.numeral]
      dsimp only
      rw [← List.getLast?_append_of_ne_nil whole split.ended, split.joined, padded,
        List.getLast?_append_of_ne_nil _ (digits_ne_nil _), getLast?_digits]
      simpa using short below
  · obtain ⟨before, after, joined⟩ := d.numeral_digits
    obtain ⟨c, rest, same⟩ := List.exists_cons_of_ne_nil (digits_ne_nil d.coefficient)
    refine ⟨c, ?_, fun zero => head?_digits some ?_⟩
    · rw [joined, same]
      exact List.mem_append_right _ (List.mem_append_left _ List.mem_cons_self)
    · rw [same, zero]
      rfl

end Decimal

/-! ## Integers -/

def Numeral.ofInt (n : ℤ) : Numeral :=
  ⟨decide (n < 0), Decimal.digits n.natAbs, []⟩

theorem Numeral.readable_ofInt (n : ℤ) : (Numeral.ofInt n).Readable where
  begun := Decimal.digits_ne_nil n.natAbs
  digits := by
    rw [ofInt, List.append_nil]
    exact Decimal.isDigit_digits

theorem Numeral.text_ofInt (n : ℤ) : (Numeral.ofInt n).text = toString n := by
  rw [Int.toString_eq_repr, Int.repr_eq_if, Numeral.text, Numeral.chars, Numeral.ofInt]
  dsimp only
  rw [List.isEmpty_nil, if_pos rfl, List.append_nil]
  split
  · next whole =>
      rw [decide_eq_false (not_lt.mpr whole), ← Int.natAbs_of_nonneg whole, Int.toNat_natCast,
        Int.natAbs_natCast, Nat.repr_eq_ofList_toDigits]
      rfl
  · next negative =>
      rw [decide_eq_true (not_le.mp negative), ← Int.ofNat_natAbs_of_nonpos (not_le.mp negative).le,
        Int.toNat_natCast, Nat.repr_eq_ofList_toDigits]
      exact String.ofList_append

theorem Numeral.Readable.signedInt?_chars {numeral : Numeral} (readable : numeral.Readable)
    (whole : numeral.fraction = []) :
    signedInt? numeral.chars =
      if digitLimit < numeral.whole.length then none
      else
        let size : ℤ := Nat.ofDigitChars 10 numeral.whole 0
        some (if numeral.negative then -size else size) := by
  obtain ⟨negative, digits, fraction⟩ := numeral
  obtain ⟨c, more, rfl⟩ := List.exists_cons_of_ne_nil readable.begun
  cases whole
  have all : ∀ d ∈ c :: more, d.isDigit = true := List.append_nil (c :: more) ▸ readable.digits
  have split : readDigits (c :: more) = (digitOf c :: more.map digitOf, []) := by
    rw [← List.append_nil (c :: more)]
    exact readDigits_append all nofun
  unfold signedInt? Numeral.chars
  dsimp only
  rw [List.isEmpty_nil, if_pos rfl, List.append_nil,
    readSign_signChars negative (all c List.mem_cons_self)]
  dsimp only
  rw [split]
  dsimp only
  rw [← List.map_cons, ofDigits_map, List.length_map]

/-- The number that the text of an integer counts as where a number is needed: zero if it has too
many digits. -/
def counted (n : ℤ) : ℤ :=
  if n.natAbs < 10 ^ digitLimit then n else 0

theorem parseInt?_toString (n : ℤ) :
    parseInt? (toString n) = if n.natAbs < 10 ^ digitLimit then some n else none := by
  have short : (Decimal.digits n.natAbs).length ≤ digitLimit ↔ n.natAbs < 10 ^ digitLimit :=
    Nat.length_toDigits_le_iff (by decide) (by decide)
  have readable := Numeral.readable_ofInt n
  have signed : (if n < 0 then -(n.natAbs : ℤ) else n.natAbs) = n := by omega
  rw [parseInt?, ← Numeral.text_ofInt, readable.clean?_text, Option.bind_some,
    readable.signedInt?_chars rfl, Numeral.ofInt]
  dsimp only
  rw [Decimal.ofDigitChars_digits]
  simp only [decide_eq_true_eq, signed]
  by_cases few : n.natAbs < 10 ^ digitLimit
  · rw [if_pos few, if_neg (not_lt.mpr (short.mpr few))]
  · rw [if_neg few, if_pos (not_le.mp (mt short.mp few))]

end LineScript.Number

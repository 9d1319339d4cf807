import LineScript.Number.Bits
import LineScript.Proofs.Number.Numeral
import Mathlib.Data.Int.ModEq

/-!
Binary numerals of 32-bit words. A row of at most 32 binary digits is read as the number of that
word in two's complement. A number is written as its word if it is negative, and the word of a row
is written as the row without its leading zeros.
-/

namespace LineScript.Number

/-- A row of at least one and at most 32 binary digits. -/
structure BinaryRow (digits : List Char) : Prop where
  begun : digits ≠ []
  short : digits.length ≤ 32
  binary : ∀ c ∈ digits, c = '0' ∨ c = '1'

/-- The digits without the zeros before the first other one; of a row of zeros one is left. -/
def withoutLeadingZeros (digits : List Char) : List Char :=
  match digits.dropWhile (· == '0') with
  | [] => ['0']
  | rest => rest

variable {digits : List Char} {text : String} {n : ℤ}

/-! ## The digits of a number -/

theorem binaryDigits_eq (n : ℕ) : binaryDigits n = Nat.toDigits 2 n := by
  have digit : ∀ bit < 2, [if bit == 1 then '1' else '0'] = [Nat.digitChar bit] := by decide
  induction n using Nat.strongRecOn with
  | ind n ih =>
      rw [binaryDigits, Nat.toDigits_eq_if (by decide)]
      split
      · next small => exact digit n small
      · next large => rw [ih (n / 2) (by omega), digit (n % 2) (Nat.mod_lt n (by decide))]

theorem ofBinaryDigits_eq (binary : ∀ c ∈ digits, c = '0' ∨ c = '1') :
    ofBinaryDigits digits = Nat.ofDigitChars 2 digits 0 := by
  rw [ofBinaryDigits, Nat.ofDigitChars_eq_foldl]
  refine List.foldl_ext _ _ _ fun n c listed => ?_
  rcases binary c listed with rfl | rfl <;> rfl

theorem binary_toDigits (n : ℕ) : ∀ c ∈ Nat.toDigits 2 n, c = '0' ∨ c = '1' := by
  have digit : ∀ bit < 2, Nat.digitChar bit = '0' ∨ Nat.digitChar bit = '1' := by decide
  induction n using Nat.strongRecOn with
  | ind n ih =>
      rw [Nat.toDigits_eq_if (by decide)]
      split
      · next small => exact List.forall_mem_singleton.mpr (digit n small)
      · next large =>
          rw [List.forall_mem_append, List.forall_mem_singleton]
          exact ⟨ih (n / 2) (by omega), digit (n % 2) (Nat.mod_lt n (by decide))⟩

theorem toDigits_ofDigitChars_pos {n : ℕ} (positive : 0 < n)
    (binary : ∀ c ∈ digits, c = '0' ∨ c = '1') :
    Nat.toDigits 2 (Nat.ofDigitChars 2 digits n) = Nat.toDigits 2 n ++ digits := by
  have digit : ∀ bit < 2, (Nat.digitChar bit).toNat - '0'.toNat = bit := by decide
  induction digits generalizing n with
  | nil => rw [Nat.ofDigitChars_nil, List.append_nil]
  | cons c rest ih =>
      obtain ⟨bit, small, rfl⟩ : ∃ bit < 2, c = Nat.digitChar bit := by
        rcases binary c List.mem_cons_self with rfl | rfl
        · exact ⟨0, by decide, rfl⟩
        · exact ⟨1, by decide, rfl⟩
      have others : ∀ d ∈ rest, d = '0' ∨ d = '1' :=
        fun other listed => binary other (List.mem_cons_of_mem _ listed)
      rw [Nat.ofDigitChars_cons, digit bit small, ih (by omega) others,
        ← Nat.toDigits_append_toDigits (by decide) positive small, Nat.toDigits_of_lt_base small,
        List.append_assoc, List.singleton_append]

theorem toDigits_ofDigitChars (binary : ∀ c ∈ digits, c = '0' ∨ c = '1') :
    Nat.toDigits 2 (Nat.ofDigitChars 2 digits 0) = withoutLeadingZeros digits := by
  induction digits with
  | nil => rfl
  | cons c rest ih =>
      have others : ∀ d ∈ rest, d = '0' ∨ d = '1' :=
        fun other listed => binary other (List.mem_cons_of_mem c listed)
      rcases binary c List.mem_cons_self with rfl | rfl
      · exact ih others
      · exact toDigits_ofDigitChars_pos Nat.one_pos others

theorem ofDigitChars_lt (binary : ∀ c ∈ digits, c = '0' ∨ c = '1') :
    Nat.ofDigitChars 2 digits 0 < 2 ^ digits.length := by
  have digit : ∀ c, c = '0' ∨ c = '1' → c.toNat - '0'.toNat < 2 := by
    rintro c (rfl | rfl) <;> decide
  induction digits using List.reverseRecOn with
  | nil => decide
  | append_singleton rest c ih =>
      rw [List.forall_mem_append, List.forall_mem_singleton] at binary
      have front := ih binary.1
      have last := digit c binary.2
      rw [Nat.ofDigitChars_append, Nat.ofDigitChars_cons, Nat.ofDigitChars_nil, List.length_append,
        List.length_singleton, pow_succ]
      omega

/-! ## Words -/

theorem pow2_eq (exponent : ℕ) : pow2 exponent = 2 ^ exponent := rfl

/-- The number of a word in two's complement is the only one of a word's size that is congruent to
it. -/
theorem eq_bmod_iff {w : ℤ} :
    w = n.bmod (2 ^ 32) ↔ -2 ^ 31 ≤ w ∧ w < 2 ^ 31 ∧ w ≡ n [ZMOD 2 ^ 32] := by
  rw [eq_comm, Int.bmod_eq_iff (by decide), Int.modEq_comm, Int.modEq_iff_dvd]
  norm_num

/-- The word of a number: the number itself, or its two's complement if it is negative. -/
def wordOf (n : ℤ) : ℕ :=
  (if n < 0 then n % 2 ^ 32 else n).toNat

theorem toBinary_eq (n : ℤ) : toBinary n = String.ofList (Nat.toDigits 2 (wordOf n)) := by
  rw [toBinary, binaryDigits_eq]
  rfl

theorem wordOf_lt (n : ℤ) : wordOf n < 2 ^ 32 ↔ n < 2 ^ 32 := by
  unfold wordOf
  split <;> omega

theorem bmod_wordOf (n : ℤ) : (wordOf n : ℤ).bmod (2 ^ 32) = n.bmod (2 ^ 32) := by
  unfold wordOf
  split
  · rw [Int.toNat_of_nonneg (by omega)]
    exact Int.emod_bmod n (2 ^ 32)
  · rw [Int.toNat_of_nonneg (by omega)]

theorem wordOf_bmod {word : ℕ} (small : word < 2 ^ 32) :
    wordOf ((word : ℤ).bmod (2 ^ 32)) = word := by
  unfold wordOf
  rw [Int.bmod_def]
  split_ifs <;> omega

/-! ## Reading a row -/

theorem binaryRow_iff : BinaryRow digits ↔
    (digits.isEmpty || digits.length > 32 || !digits.all fun c => c == '0' || c == '1') = false := by
  simp only [Bool.or_eq_false_iff, Bool.not_eq_false', List.isEmpty_eq_false_iff, List.all_eq_true,
    decide_eq_false_iff_not, gt_iff_lt, not_lt, Bool.or_eq_true, beq_iff_eq]
  exact ⟨fun row => ⟨⟨row.begun, row.short⟩, row.binary⟩, fun ⟨⟨begun, short⟩, binary⟩ =>
    ⟨begun, short, binary⟩⟩

theorem BinaryRow.ofBinary?_eq (row : BinaryRow (Text.stripChars text.toList)) :
    ofBinary? text =
      some (Int.bmod (Nat.ofDigitChars 2 (Text.stripChars text.toList) 0) (2 ^ 32)) := by
  have small := ofDigitChars_lt row.binary
  have size : 2 ^ (Text.stripChars text.toList).length ≤ 2 ^ 32 :=
    Nat.pow_le_pow_right (by decide) row.short
  have half (less : (Text.stripChars text.toList).length ≠ 32) :
      2 ^ (Text.stripChars text.toList).length ≤ 2 ^ 31 :=
    Nat.pow_le_pow_right (by decide) (by have short := row.short; omega)
  unfold ofBinary?
  dsimp only
  rw [binaryRow_iff.mp row, if_neg Bool.false_ne_true, ofBinaryDigits_eq row.binary, pow2_eq,
    pow2_eq, Int.bmod_def]
  generalize Nat.ofDigitChars 2 (Text.stripChars text.toList) 0 = value at small
  simp only [Bool.and_eq_true, beq_iff_eq, decide_eq_true_eq, Option.some.injEq]
  split_ifs <;> omega

theorem ofBinary?_isSome :
    (ofBinary? text).isSome = true ↔ BinaryRow (Text.stripChars text.toList) := by
  refine ⟨fun read => ?_, fun row => by rw [row.ofBinary?_eq, Option.isSome_some]⟩
  rw [binaryRow_iff, ← Bool.not_eq_true]
  intro wrong
  unfold ofBinary? at read
  dsimp only at read
  rw [if_pos wrong] at read
  exact absurd read Bool.false_ne_true

theorem stripChars_binary (binary : ∀ c ∈ digits, c = '0' ∨ c = '1') :
    Text.stripChars digits = digits := by
  refine Text.stripChars_of_solid fun c listed => ?_
  rcases binary c listed with rfl | rfl <;> decide +kernel

/-! ## Both ways -/

theorem stripChars_toBinary (n : ℤ) :
    Text.stripChars (toBinary n).toList = Nat.toDigits 2 (wordOf n) := by
  rw [toBinary_eq, String.toList_ofList, stripChars_binary (binary_toDigits _)]

theorem binaryRow_toDigits {word : ℕ} : BinaryRow (Nat.toDigits 2 word) ↔ word < 2 ^ 32 := by
  have short := Nat.length_toDigits_le_iff (b := 2) (n := word) (k := 32) (by decide) (by decide)
  exact ⟨fun row => short.mp row.short,
    fun small => ⟨Nat.toDigits_ne_nil, short.mpr small, binary_toDigits word⟩⟩

theorem ofBinary?_toBinary (small : n < 2 ^ 32) :
    ofBinary? (toBinary n) = some (n.bmod (2 ^ 32)) := by
  have row : BinaryRow (Text.stripChars (toBinary n).toList) := by
    rw [stripChars_toBinary, binaryRow_toDigits, wordOf_lt]
    exact small
  rw [row.ofBinary?_eq, stripChars_toBinary, Nat.ofDigitChars_toDigits (by decide) (by decide),
    bmod_wordOf]

theorem ofBinary?_toBinary_of_le (large : 2 ^ 32 ≤ n) : ofBinary? (toBinary n) = none := by
  rw [← Option.not_isSome_iff_eq_none, ofBinary?_isSome, stripChars_toBinary, binaryRow_toDigits,
    wordOf_lt]
  exact not_lt.mpr large

theorem BinaryRow.toBinary_eq (row : BinaryRow text.toList) :
    ∃ v, ofBinary? text = some v ∧
      toBinary v = String.ofList (withoutLeadingZeros text.toList) := by
  have stripped := stripChars_binary row.binary
  have read := BinaryRow.ofBinary?_eq (stripped.symm ▸ row)
  have small : Nat.ofDigitChars 2 text.toList 0 < 2 ^ 32 :=
    (ofDigitChars_lt row.binary).trans_le (Nat.pow_le_pow_right (by decide) row.short)
  refine ⟨_, read, ?_⟩
  rw [stripped, Number.toBinary_eq, wordOf_bmod small, toDigits_ofDigitChars row.binary]

end LineScript.Number

import LineScript.Number.DecimalText
import LineScript.Proofs.Number.Decimal
import LineScript.Proofs.Text.Blank

/-!
Numbers in positional notation. Every decimal that is written so has a numeral, and reading a
numeral gives the number that was written.
-/

namespace LineScript.Number

/-- A number in positional notation: its sign, and its digits before and after the point. -/
structure Numeral where
  negative : Bool
  whole : List Char
  fraction : List Char

namespace Numeral

/-- The numeral as it is written, with a point only before digits. -/
def chars (numeral : Numeral) : List Char :=
  Decimal.signChars numeral.negative ++
    (numeral.whole ++ if numeral.fraction.isEmpty then [] else '.' :: numeral.fraction)

def text (numeral : Numeral) : String :=
  String.ofList numeral.chars

def decimal (numeral : Numeral) : Decimal :=
  ⟨numeral.negative, Nat.ofDigitChars 10 (numeral.whole ++ numeral.fraction) 0,
    -numeral.fraction.length⟩

/-- A numeral has a digit before the point and nothing but digits. -/
structure Readable (numeral : Numeral) : Prop where
  begun : numeral.whole ≠ []
  digits : ∀ c ∈ numeral.whole ++ numeral.fraction, c.isDigit = true

/-- Moreover no zero is superfluous, and the number is not zero. -/
structure Canonical (numeral : Numeral) : Prop extends numeral.Readable where
  leads : numeral.whole.head? = some '0' → numeral.whole = ['0']
  ends : numeral.fraction.getLast? ≠ some '0'
  nonzero : ∃ c ∈ numeral.whole ++ numeral.fraction, c ≠ '0'

end Numeral

/-- The text of zero, or of another number without superfluous zeros. -/
inductive CanonicalText : String → Prop
  | zero : CanonicalText "0"
  | numeral {numeral : Numeral} (canonical : numeral.Canonical) : CanonicalText numeral.text

theorem not_canonicalText_negativeZero : ¬ CanonicalText "-0" := by
  intro canonical
  generalize same : "-0" = text at canonical
  cases canonical with
  | zero => exact absurd same (by decide)
  | @numeral numeral canonical =>
      have chars : ['-', '0'] = numeral.chars := by
        have texts := congrArg String.toList same
        rwa [Numeral.text, String.toList_ofList, String.toList_ofList] at texts
      obtain ⟨negative, whole, fraction⟩ := numeral
      obtain ⟨c, more, rfl⟩ := List.exists_cons_of_ne_nil canonical.begun
      cases negative with
      | false =>
          have first : '-' = c := (List.cons.inj chars).1
          exact absurd (canonical.digits c (by simp)) (first ▸ by decide)
      | true =>
          obtain ⟨rfl, rest⟩ := List.cons.inj (List.cons.inj chars).2
          obtain ⟨rfl, point⟩ := List.append_eq_nil_iff.mp rest.symm
          dsimp only at point
          split at point
          · next none =>
              obtain ⟨d, listed, other⟩ := canonical.nonzero
              dsimp only at listed
              rw [List.isEmpty_iff.mp none] at listed
              exact other (List.mem_singleton.mp listed)
          · cases point

/-! ## Reading digits -/

def digitOf (c : Char) : ℕ :=
  c.toNat - 48

theorem isDigit_iff {c : Char} : c.isDigit = true ↔ 48 ≤ c.toNat ∧ c.toNat ≤ 57 := by
  unfold Char.isDigit
  rw [Bool.and_eq_true, decide_eq_true_eq, decide_eq_true_eq, ge_iff_le, UInt32.le_iff_toNat_le,
    UInt32.le_iff_toNat_le]
  rfl

theorem digitValue?_digit {c : Char} (digit : c.isDigit = true) :
    Text.digitValue? c = some (digitOf c) := by
  obtain ⟨least, most⟩ := isDigit_iff.mp digit
  have range : ('0' ≤ c && c ≤ '9') = true := by
    simpa [Char.isDigit, Char.le_def] using digit
  rw [Text.digitValue?, if_pos (by omega), if_pos range]
  rfl

theorem not_blank_digit {c : Char} (digit : c.isDigit = true) : Text.isBlank c = false := by
  obtain ⟨least, most⟩ := isDigit_iff.mp digit
  unfold Text.isBlank Text.isAsciiBlank
  rw [if_pos (by omega)]
  simp only [Bool.or_eq_false_iff, Bool.and_eq_false_iff, decide_eq_false_iff_not]
  omega

theorem readDigits_append {digits rest : List Char} (all : ∀ c ∈ digits, c.isDigit = true)
    (ends : ∀ c, rest.head? = some c → Text.digitValue? c = none) :
    readDigits (digits ++ rest) = (digits.map digitOf, rest) := by
  induction digits with
  | nil =>
      cases rest with
      | nil => rfl
      | cons c rest => simp [readDigits, ends c rfl]
  | cons c digits ih =>
      have digit := digitValue?_digit (all c List.mem_cons_self)
      rw [List.cons_append, readDigits, digit]
      dsimp only
      rw [ih fun other listed => all other (List.mem_cons_of_mem c listed)]
      rfl

theorem ofDigits_map (digits : List Char) :
    ofDigits (digits.map digitOf) = Nat.ofDigitChars 10 digits 0 := by
  rw [ofDigits_eq_foldl, List.foldl_map, Nat.ofDigitChars_eq_foldl]
  rfl

theorem readSign_signChars (negative : Bool) {c : Char} (digit : c.isDigit = true)
    (rest : List Char) :
    readSign (Decimal.signChars negative ++ c :: rest) = (negative, c :: rest) := by
  cases negative with
  | true => rfl
  | false =>
      unfold readSign Decimal.signChars
      split
      · next same =>
          cases same
          exact absurd digit (by decide)
      · next same =>
          cases same
          exact absurd digit (by decide)
      · rfl

/-! ## Reading numerals -/

theorem Decimal.parse?_of_literal {text : String} {chars : List Char} {literal : Literal}
    {d : Decimal} (cleaned : clean? text = some chars) (read : Literal.parse? chars = some literal)
    (same : ⟨literal.negative, literal.coefficient, literal.scale⟩ = d)
    (least : Decimal.readTiny ≤ d.exponent)
    (most : (if d.isZero then d.exponent else d.adjusted) ≤ Decimal.readLimit) :
    Decimal.parse? text = some d := by
  subst same
  unfold Decimal.parse?
  rw [cleaned, Option.bind_some, read, Option.bind_some]
  dsimp only
  rw [if_pos]
  rw [Bool.and_eq_true, decide_eq_true_eq, decide_eq_true_eq]
  exact ⟨least, most⟩

namespace Numeral

variable {numeral : Numeral}

theorem Readable.solid (readable : numeral.Readable) :
    ∀ c ∈ numeral.chars, Text.isBlank c = false ∧ c ≠ '_' := by
  have digits {c : Char} (digit : c.isDigit = true) : Text.isBlank c = false ∧ c ≠ '_' :=
    ⟨not_blank_digit digit, fun same => absurd (same ▸ digit) (by decide)⟩
  intro c listed
  unfold chars at listed
  rw [List.mem_append, List.mem_append] at listed
  rcases listed with sign | whole | rest
  · unfold Decimal.signChars at sign
    split at sign
    · rw [List.mem_singleton.mp sign]
      decide +kernel
    · cases sign
  · exact digits (readable.digits c (List.mem_append_left _ whole))
  · split at rest
    · cases rest
    · rcases List.mem_cons.mp rest with rfl | fraction
      · decide +kernel
      · exact digits (readable.digits c (List.mem_append_right _ fraction))

theorem Readable.clean?_text (readable : numeral.Readable) :
    clean? numeral.text = some numeral.chars := by
  have stripped : Text.stripChars numeral.chars = numeral.chars :=
    Text.stripChars_of_solid fun c listed => (readable.solid c listed).1
  have nonempty : numeral.chars.isEmpty = false := by
    rw [List.isEmpty_eq_false_iff]
    simp [chars, readable.begun]
  have plain : numeral.chars.contains '_' = false := by
    rw [← Bool.not_eq_true, List.contains_iff_mem]
    exact fun listed => (readable.solid '_' listed).2 rfl
  unfold clean? text
  dsimp only
  rw [String.toList_ofList, stripped, nonempty, plain]
  rfl

theorem Readable.parse?_chars (readable : numeral.Readable) :
    Literal.parse? numeral.chars =
      some ⟨numeral.negative, numeral.whole.map digitOf, numeral.fraction.map digitOf, 0⟩ := by
  obtain ⟨negative, whole, fraction⟩ := numeral
  obtain ⟨c, more, rfl⟩ := List.exists_cons_of_ne_nil readable.begun
  have digits := readable.digits
  have first : c.isDigit = true := digits c (by simp)
  have wholes : ∀ d ∈ c :: more, d.isDigit = true := fun d listed =>
    digits d (List.mem_append_left _ listed)
  unfold Literal.parse? chars
  dsimp only
  rw [List.cons_append, readSign_signChars negative first, ← List.cons_append]
  dsimp only
  cases fraction with
  | nil =>
      rw [List.isEmpty_nil, if_pos rfl, readDigits_append wholes (by simp)]
      rfl
  | cons d rest =>
      have fractions : ∀ e ∈ d :: rest, e.isDigit = true := fun e listed =>
        digits e (List.mem_append_right _ listed)
      have point : ∀ e, ('.' :: d :: rest).head? = some e → Text.digitValue? e = none := by
        intro e same
        cases same
        decide +kernel
      have read : Literal.readFraction ('.' :: d :: rest) = ((d :: rest).map digitOf, []) := by
        change readDigits (d :: rest) = _
        rw [← List.append_nil (d :: rest), readDigits_append fractions (by simp), List.append_nil]
      rw [List.isEmpty_cons, if_neg Bool.false_ne_true, readDigits_append wholes point]
      dsimp only
      rw [read]
      rfl

theorem decimal_eq (numeral : Numeral) :
    numeral.decimal = ⟨numeral.negative,
      ofDigits (numeral.whole.map digitOf ++ numeral.fraction.map digitOf),
      0 - (numeral.fraction.map digitOf).length⟩ := by
  rw [← List.map_append, ofDigits_map, List.length_map, zero_sub]
  rfl

theorem Readable.parse?_text (readable : numeral.Readable)
    (least : Decimal.readTiny ≤ numeral.decimal.exponent)
    (most : numeral.decimal.isZero = false → numeral.decimal.adjusted ≤ Decimal.readLimit) :
    Decimal.parse? numeral.text = some numeral.decimal := by
  refine Decimal.parse?_of_literal readable.clean?_text readable.parse?_chars
    numeral.decimal_eq.symm least ?_
  cases zero : numeral.decimal.isZero with
  | true =>
      have whole : numeral.decimal.exponent = -numeral.fraction.length := rfl
      rw [if_pos rfl, whole]
      unfold Decimal.readLimit
      omega
  | false => exact most zero

end Numeral

end LineScript.Number

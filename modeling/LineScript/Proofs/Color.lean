import LineScript.Color
import LineScript.Proofs.Text.Blank
import Mathlib.Data.Bool.AllAny
import Mathlib.Data.List.Basic

/-!
Colours and their hexadecimal texts. A text that shows six digits is read as a colour whose text has
these digits in upper case, and no other text is read as a colour. The text of a colour is read as
the colour.
-/

namespace LineScript.Color

def hexAlphabet : List Char :=
  "0123456789abcdefABCDEF".toList

def doubled (digits : List Char) : List Char :=
  digits.flatMap fun c => [c, c]

/-- Between blanks, and after the marks `0x` and `#`, which may be missing, a text has six
hexadecimal digits, or three that stand for two each. -/
structure Shows (text : String) (digits : List Char) : Prop where
  hex : ∀ c ∈ digits, c ∈ hexAlphabet
  six : digits.length = 6
  written : ∃ mark ∈ [[], ['0', 'x'], ['0', 'X']], ∃ hash ∈ [[], ['#']], ∃ shown,
    Text.stripChars text.toList = mark ++ (hash ++ shown) ∧
      (digits = shown ∨ shown.length = 3 ∧ digits = doubled shown)

variable {text : String} {chars digits : List Char} {color : Color}

/-! ## Digits -/

theorem hexValue?_upperHexDigit : ∀ n < 16, hexValue? (upperHexDigit n) = some n := by
  decide

theorem exists_hexValue : ∀ c ∈ hexAlphabet, ∃ n < 16,
    hexValue? c = some n ∧ upperHexDigit n = c.toUpper :=
  List.all_iff_forall_prop.mp (by decide +kernel)

theorem mem_hexAlphabet {c : Char} {n : ℕ} (value : hexValue? c = some n) : c ∈ hexAlphabet := by
  have ascii : ∀ k < 128, (hexValue? (Char.ofNat k)).isSome = true →
      Char.ofNat k ∈ hexAlphabet := by
    decide +kernel
  have upTo (last : Char) (before : c ≤ last) : c.toNat ≤ last.toNat := before
  have small : c.toNat < 128 := by
    unfold hexValue? at value
    simp only [Bool.and_eq_true, decide_eq_true_eq] at value
    split_ifs at value with decimal lower upper
    · exact Nat.lt_of_le_of_lt (upTo '9' decimal.2) (by decide)
    · exact Nat.lt_of_le_of_lt (upTo 'f' lower.2) (by decide)
    · exact Nat.lt_of_le_of_lt (upTo 'F' upper.2) (by decide)
  rw [← Char.ofNat_toNat c] at value ⊢
  exact ascii c.toNat small (Option.isSome_of_eq_some value)

theorem hexComponent_eq {x y : ℕ} (first : x < 16) (second : y < 16) :
    hexComponent (16 * x + y : ℕ) = [upperHexDigit x, upperHexDigit y] := by
  have below (n : ℕ) (small : n < 16) : hexNumeral n = [upperHexDigit n] := by
    rw [hexNumeral, if_pos small]
  unfold hexComponent
  rw [if_neg (by omega), Int.natAbs_natCast]
  rcases Nat.eq_zero_or_pos x with rfl | positive
  · rw [Nat.mul_zero, Nat.zero_add, below y second]
    rfl
  · rw [hexNumeral, if_neg (by omega), below _ (by omega), Nat.mul_add_div (by decide),
      Nat.div_eq_of_lt second, Nat.mul_add_mod, Nat.mod_eq_of_lt second, Nat.add_zero]
    rfl

/-! ## Components -/

structure Denote (first second : Char) (component : UInt8) : Prop where
  reads : ∃ x y, hexValue? first = some x ∧ hexValue? second = some y ∧
    (16 * x + y).toUInt8 = component
  writes : hexComponent component.toNat = [first.toUpper, second.toUpper]

theorem exists_denote {first second : Char} (high : first ∈ hexAlphabet)
    (low : second ∈ hexAlphabet) : ∃ component, Denote first second component := by
  obtain ⟨x, xSmall, xValue, xUpper⟩ := exists_hexValue first high
  obtain ⟨y, ySmall, yValue, yUpper⟩ := exists_hexValue second low
  refine ⟨(16 * x + y).toUInt8, ⟨x, y, xValue, yValue, rfl⟩, ?_⟩
  have size : (16 * x + y).toUInt8.toNat = 16 * x + y := Nat.mod_eq_of_lt (by omega)
  rw [size, hexComponent_eq xSmall ySmall, xUpper, yUpper]

theorem exists_digits (component : UInt8) : ∃ first ∈ hexAlphabet, ∃ second ∈ hexAlphabet,
    hexComponent component.toNat = [first, second] ∧ Denote first second component := by
  have upper : ∀ n < 16, upperHexDigit n ∈ hexAlphabet ∧
      (upperHexDigit n).toUpper = upperHexDigit n := by decide
  have small := component.toNat_lt
  obtain ⟨high, highUpper⟩ := upper (component.toNat / 16) (by omega)
  obtain ⟨low, lowUpper⟩ := upper (component.toNat % 16) (by omega)
  have halves : 16 * (component.toNat / 16) + component.toNat % 16 = component.toNat :=
    Nat.div_add_mod _ 16
  have written := hexComponent_eq (x := component.toNat / 16) (y := component.toNat % 16)
    (by omega) (by omega)
  rw [halves] at written
  refine ⟨_, high, _, low, written, ⟨_, _, hexValue?_upperHexDigit _ (by omega),
    hexValue?_upperHexDigit _ (by omega), ?_⟩, ?_⟩
  · rw [halves]
    exact component.ofNat_toNat
  · rw [written, highUpper, lowUpper]

section

variable {a b c d e f : Char} {red green blue : UInt8}

theorem Denote.ofHexDigits?_eq (first : Denote a b red) (second : Denote c d green)
    (third : Denote e f blue) : ofHexDigits? [a, b, c, d, e, f] = some ⟨red, green, blue⟩ := by
  obtain ⟨x, y, xValue, yValue, rfl⟩ := first.reads
  obtain ⟨z, u, zValue, uValue, rfl⟩ := second.reads
  obtain ⟨v, w, vValue, wValue, rfl⟩ := third.reads
  unfold ofHexDigits?
  dsimp only
  rw [xValue, yValue, zValue, uValue, vValue, wValue]
  rfl

theorem Denote.toHex_eq (first : Denote a b red) (second : Denote c d green)
    (third : Denote e f blue) :
    toHex ⟨red, green, blue⟩ = String.ofList ([a, b, c, d, e, f].map Char.toUpper) := by
  rw [toHex, hexText, first.writes, second.writes, third.writes]
  rfl

end

/-! ## Six digits -/

theorem exists_ofHexDigits? (hex : ∀ c ∈ digits, c ∈ hexAlphabet) (six : digits.length = 6) :
    ∃ color, ofHexDigits? digits = some color ∧
      color.toHex = String.ofList (digits.map Char.toUpper) := by
  match digits, six with
  | [a, b, c, d, e, f], _ =>
      simp only [List.forall_mem_cons] at hex
      obtain ⟨ha, hb, hc, hd, he, hf, -⟩ := hex
      obtain ⟨red, first⟩ := exists_denote ha hb
      obtain ⟨green, second⟩ := exists_denote hc hd
      obtain ⟨blue, third⟩ := exists_denote he hf
      exact ⟨_, first.ofHexDigits?_eq second third, first.toHex_eq second third⟩

theorem hex_of_ofHexDigits? (read : ofHexDigits? digits = some color) :
    (∀ c ∈ digits, c ∈ hexAlphabet) ∧ digits.length = 6 := by
  unfold ofHexDigits? at read
  split at read
  · next a b c d e f =>
      simp only [bind, Option.bind_eq_some_iff] at read
      obtain ⟨x, ha, y, hb, z, hc, u, hd, v, he, w, hf, -⟩ := read
      simp only [List.forall_mem_cons]
      exact ⟨⟨mem_hexAlphabet ha, mem_hexAlphabet hb, mem_hexAlphabet hc, mem_hexAlphabet hd,
        mem_hexAlphabet he, mem_hexAlphabet hf, nofun⟩, rfl⟩
  · cases read

/-! ## Marks -/

theorem exists_marks (chars : List Char) : ∃ mark ∈ [[], ['0', 'x'], ['0', 'X']],
    ∃ hash ∈ [[], ['#']], chars = mark ++ (hash ++ dropColorMark (dropHexMark chars)) := by
  have hashed (rest : List Char) : ∃ hash ∈ [[], ['#']], rest = hash ++ dropColorMark rest := by
    unfold dropColorMark
    split
    · exact ⟨['#'], by decide, rfl⟩
    · exact ⟨[], by decide, rfl⟩
  have marked : ∃ mark ∈ [[], ['0', 'x'], ['0', 'X']], chars = mark ++ dropHexMark chars := by
    unfold dropHexMark
    split
    · exact ⟨['0', 'x'], by decide, rfl⟩
    · exact ⟨['0', 'X'], by decide, rfl⟩
    · exact ⟨[], by decide, rfl⟩
  obtain ⟨mark, listed, begun⟩ := marked
  obtain ⟨hash, hashListed, rest⟩ := hashed (dropHexMark chars)
  exact ⟨mark, listed, hash, hashListed, rest ▸ begun⟩

theorem dropHexMark_eq_self (second : ∀ c ∈ chars, c ∈ hexAlphabet ∨ c = '#') :
    dropHexMark chars = chars := by
  unfold dropHexMark
  split
  · exact absurd (second 'x' (by simp)) (by decide)
  · exact absurd (second 'X' (by simp)) (by decide)
  · rfl

theorem dropColorMark_eq_self (hex : ∀ c ∈ chars, c ∈ hexAlphabet) :
    dropColorMark chars = chars := by
  unfold dropColorMark
  split
  · exact absurd (hex '#' (by simp)) (by decide)
  · rfl

theorem drop_marks {mark hash shown : List Char} (marked : mark ∈ [[], ['0', 'x'], ['0', 'X']])
    (hashed : hash ∈ [[], ['#']]) (hex : ∀ c ∈ shown, c ∈ hexAlphabet) :
    dropColorMark (dropHexMark (mark ++ (hash ++ shown))) = shown := by
  have hashDropped : dropColorMark (hash ++ shown) = shown := by
    simp only [List.mem_cons, List.not_mem_nil, or_false] at hashed
    rcases hashed with rfl | rfl
    · exact dropColorMark_eq_self hex
    · rfl
  have digits : ∀ c ∈ hash ++ shown, c ∈ hexAlphabet ∨ c = '#' := by
    simp only [List.mem_cons, List.not_mem_nil, or_false] at hashed
    rintro c listed
    rcases List.mem_append.mp listed with front | back
    · rcases hashed with rfl | rfl
      · cases front
      · exact .inr (List.mem_singleton.mp front)
    · exact .inl (hex c back)
  have markDropped : dropHexMark (mark ++ (hash ++ shown)) = hash ++ shown := by
    simp only [List.mem_cons, List.not_mem_nil, or_false] at marked
    rcases marked with rfl | rfl | rfl
    · exact dropHexMark_eq_self digits
    · rfl
    · rfl
  rw [markDropped, hashDropped]

/-! ## Reading -/

theorem ofHex?_eq {shown : List Char}
    (rest : dropColorMark (dropHexMark (Text.stripChars text.toList)) = shown) :
    ofHex? text = ofHexDigits? (if shown.length = 3 then doubled shown else shown) := by
  unfold ofHex?
  rw [rest]
  split
  · rfl
  · next other =>
      rw [if_neg fun three => ?_]
      obtain ⟨r, g, b, rfl⟩ := List.length_eq_three.mp three
      exact other r g b rfl

theorem mem_doubled {c : Char} : c ∈ doubled chars ↔ c ∈ chars := by
  simp [doubled]

theorem Shows.exists_ofHex? (shows : Shows text digits) :
    ∃ color, ofHex? text = some color ∧ color.toHex = String.ofList (digits.map Char.toUpper) := by
  obtain ⟨mark, marked, hash, hashed, shown, written, form⟩ := shows.written
  have hex : ∀ c ∈ shown, c ∈ hexAlphabet := by
    rcases form with rfl | ⟨-, rfl⟩
    · exact shows.hex
    · exact fun c listed => shows.hex c (mem_doubled.mpr listed)
  have sixDigits : (if shown.length = 3 then doubled shown else shown) = digits := by
    rcases form with rfl | ⟨three, same⟩
    · rw [if_neg (by have six := shows.six; omega)]
    · rw [if_pos three, same]
  have rest := drop_marks marked hashed hex
  rw [← written] at rest
  rw [ofHex?_eq rest, sixDigits]
  exact exists_ofHexDigits? shows.hex shows.six

theorem exists_shows (read : ofHex? text = some color) : ∃ digits, Shows text digits := by
  obtain ⟨mark, marked, hash, hashed, written⟩ := exists_marks (Text.stripChars text.toList)
  rw [ofHex?_eq rfl] at read
  obtain ⟨hex, six⟩ := hex_of_ofHexDigits? read
  refine ⟨_, hex, six, mark, marked, hash, hashed, _, written, ?_⟩
  split
  · next three => exact .inr ⟨three, rfl⟩
  · exact .inl rfl

theorem ofHex?_toHex (color : Color) : ofHex? color.toHex = some color := by
  obtain ⟨a, ha, b, hb, redDigits, red⟩ := exists_digits color.red
  obtain ⟨c, hc, d, hd, greenDigits, green⟩ := exists_digits color.green
  obtain ⟨e, he, f, hf, blueDigits, blue⟩ := exists_digits color.blue
  have digits : color.toHex.toList = [a, b, c, d, e, f] := by
    rw [toHex, hexText, redDigits, greenDigits, blueDigits, String.toList_ofList]
    rfl
  have hex : ∀ x ∈ [a, b, c, d, e, f], x ∈ hexAlphabet := by
    simp only [List.forall_mem_cons]
    exact ⟨ha, hb, hc, hd, he, hf, nofun⟩
  have stripped : Text.stripChars color.toHex.toList = [a, b, c, d, e, f] := by
    have solid : ∀ c ∈ hexAlphabet, Text.isBlank c = false :=
      List.all_iff_forall_prop.mp (by decide +kernel)
    rw [digits]
    exact Text.stripChars_of_solid fun c listed => solid c (hex c listed)
  have rest : dropColorMark (dropHexMark [a, b, c, d, e, f]) = [a, b, c, d, e, f] :=
    drop_marks (List.mem_cons_self (a := [])) (List.mem_cons_self (a := [])) hex
  rw [← stripped] at rest
  rw [ofHex?_eq rest, stripped, if_neg (by simp)]
  exact red.ofHexDigits?_eq green blue

end LineScript.Color

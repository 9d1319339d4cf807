import LineScript.Text.Blank
import Mathlib.Data.List.TakeWhile

/-!
Blanks: which characters they are, and what is left of a text without the blanks at its ends.
-/

namespace LineScript.Text

variable {chars gap : List Char}

def blankCodes : List ℕ :=
  [9, 10, 11, 12, 13, 28, 29, 30, 31, 32, 133, 160, 5760, 8192, 8193, 8194, 8195, 8196, 8197, 8198,
    8199, 8200, 8201, 8202, 8232, 8233, 8239, 8287, 12288]

theorem isBlank_iff (c : Char) : isBlank c = true ↔ c.toNat ∈ blankCodes := by
  unfold isBlank isAsciiBlank inSpans blankSpans blankCodes
  split <;> simp <;> omega

theorem dropWhile_eq_self (first : ∀ c, chars.head? = some c → isBlank c = false) :
    chars.dropWhile isBlank = chars := by
  cases chars with
  | nil => rfl
  | cons c rest => exact List.dropWhile_cons_of_neg (by simp [first c rfl])

/-! ## The end of a text -/

def trimEnd (chars : List Char) : List Char :=
  (chars.reverse.dropWhile isBlank).reverse

theorem stripChars_eq (chars : List Char) : stripChars chars = trimEnd (chars.dropWhile isBlank) :=
  rfl

theorem trimEnd_eq_self (last : ∀ c, chars.getLast? = some c → isBlank c = false) :
    trimEnd chars = chars := by
  have ends : chars.reverse.dropWhile isBlank = chars.reverse :=
    dropWhile_eq_self fun c final => last c (by rwa [List.head?_reverse] at final)
  rw [trimEnd, ends, List.reverse_reverse]

theorem trimEnd_append (front chars : List Char) :
    trimEnd (front ++ chars) =
      if trimEnd chars = [] then trimEnd front else front ++ trimEnd chars := by
  unfold trimEnd
  rw [List.reverse_append, List.dropWhile_append]
  by_cases blank : chars.reverse.dropWhile isBlank = []
  · simp [blank]
  · simp [blank]

theorem trimEnd_append_of_last {front : List Char}
    (last : ∀ c, front.getLast? = some c → isBlank c = false) (chars : List Char) :
    trimEnd (front ++ chars) = front ++ trimEnd chars := by
  rw [trimEnd_append, trimEnd_eq_self last]
  split_ifs with blank
  · rw [blank, List.append_nil]
  · rfl

theorem trimEnd_gap (blank : ∀ c ∈ gap, isBlank c = true) : trimEnd gap = [] := by
  rw [trimEnd, List.dropWhile_eq_nil_iff.mpr (by simpa using blank), List.reverse_nil]

/-! ## Both ends of a text -/

theorem stripChars_eq_self (first : ∀ c, chars.head? = some c → isBlank c = false)
    (last : ∀ c, chars.getLast? = some c → isBlank c = false) : stripChars chars = chars := by
  rw [stripChars_eq, dropWhile_eq_self first, trimEnd_eq_self last]

theorem stripChars_of_solid (solid : ∀ c ∈ chars, isBlank c = false) : stripChars chars = chars :=
  stripChars_eq_self (fun c first => solid c (List.mem_of_head? first))
    (fun c last => solid c (List.mem_of_getLast? last))

theorem stripChars_gap (blank : ∀ c ∈ gap, isBlank c = true) : stripChars gap = [] := by
  rw [stripChars_eq, List.dropWhile_eq_nil_iff.mpr blank]
  rfl

theorem length_stripChars_le (chars : List Char) : (stripChars chars).length ≤ chars.length := by
  have front := (List.dropWhile_sublist isBlank (l := chars)).length_le
  have back := (List.dropWhile_sublist isBlank (l := (chars.dropWhile isBlank).reverse)).length_le
  rw [List.length_reverse] at back
  rw [stripChars, trimChars, List.length_reverse]
  exact Nat.le_trans back front

theorem stripChars_cons_append {c : Char} (solid : isBlank c = false) (first chars : List Char) :
    stripChars (c :: first ++ chars) =
      if trimEnd chars = [] then trimEnd (c :: first) else c :: first ++ trimEnd chars := by
  rw [stripChars_eq, dropWhile_eq_self (by rintro d ⟨⟩; exact solid), trimEnd_append]

end LineScript.Text

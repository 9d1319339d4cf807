import LineScript.Proofs.Color
import LineScript.Proofs.Operation.Arithmetic

/-!
Colours on texts. A colour is written from three numbers, each brought into the range of a
component, with one error for each that is out of range; reading the text gives the three numbers
as they were brought into range.
-/

namespace LineScript

open LineScript.Number

/-! ## Components -/

def Color.clamp (n : ℤ) : ℤ :=
  min (max n 0) 255

def Color.Outside (n : ℤ) : Prop :=
  n < 0 ∨ 255 < n

instance (n : ℤ) : Decidable (Color.Outside n) :=
  inferInstanceAs (Decidable (n < 0 ∨ 255 < n))

def Color.outsideNote (n : ℤ) : Note :=
  ⟨.error, if n.natAbs < 10 ^ digitLimit then s!"Color component {n} is outside 0-255."
    else Reading.malformed (toString n), .malformedValue⟩

def Color.outsideNotes (numbers : List ℤ) : List Note :=
  (numbers.filter fun n => Color.Outside n).map Color.outsideNote

theorem Scope.has_assign {scope : Scope} {name value other : String}
    (declared : scope.frame.locals.has other = true) :
    (scope.assign name value).frame.locals.has other = true := by
  unfold Locals.has at declared ⊢
  rw [assign, Locals.get?_insert]
  split
  · rfl
  · exact declared

theorem Action.setVariable_apply {scope : Scope} {name value : String}
    (declared : scope.frame.locals.has name = true) :
    setVariable name value scope = .ok () (scope.assign name value) := by
  change EStateM.Result.ok () (scope.setVariable name value).2 = _
  rw [Scope.setVariable_declared declared]

namespace Effect

open Color

theorem colorComponent_toString (n : ℤ) :
    colorComponent (toString n) = ⟨clamp (counted n), outsideNotes [n]⟩ := by
  have size : 10 ^ 3 ≤ 10 ^ digitLimit := Nat.pow_le_pow_right (by decide) (by decide)
  rw [colorComponent, Reading.integer_toString, counted]
  by_cases few : n.natAbs < 10 ^ digitLimit
  · by_cases inside : 0 ≤ n ∧ n ≤ 255
    · have within : ¬ Outside n := by unfold Outside; omega
      have kept : clamp n = n := by unfold clamp; omega
      simp [Computed.andThen, few, inside, Computed.plain, outsideNotes, within, kept]
    · have outside : Outside n := by unfold Outside; omega
      simp [Computed.andThen, few, inside, Computed.withError, outsideNotes, outside, outsideNote,
        clamp]
  · have outside : Outside n := by unfold Outside; omega
    simp [Computed.andThen, few, Computed.plain, outsideNotes, outside, outsideNote, clamp]

theorem outsideNotes_append (front back : List ℤ) :
    outsideNotes (front ++ back) = outsideNotes front ++ outsideNotes back := by
  rw [outsideNotes, List.filter_append, List.map_append]
  rfl

theorem rgbToHex_apply {scope : Scope} {destination : String} (r g b : ℤ)
    (declared : scope.frame.locals.has destination = true) :
    rgbToHex destination (toString r) (toString g) (toString b) scope =
      .ok () (scope.stored destination
        ⟨hexText (clamp (counted r)) (clamp (counted g)) (clamp (counted b)),
          outsideNotes [r, g, b]⟩) := by
  have notes : scope.reportAll (outsideNotes [r, g, b]) =
      ((scope.reportAll (outsideNotes [r])).reportAll (outsideNotes [g])).reportAll
        (outsideNotes [b]) := by
    rw [show [r, g, b] = [r] ++ [g] ++ [b] from rfl, outsideNotes_append, outsideNotes_append,
      Scope.reportAll_append, Scope.reportAll_append]
  have here : (scope.reportAll (outsideNotes [r, g, b])).frame.locals.has destination = true := by
    rw [Scope.locals_reportAll, declared]
  unfold rgbToHex
  rw [colorComponent_toString, colorComponent_toString, colorComponent_toString]
  change Action.setVariable destination _ (((scope.reportAll (outsideNotes [r])).reportAll
    (outsideNotes [g])).reportAll (outsideNotes [b])) = _
  rw [← notes, Action.setVariable_apply here]
  rfl

theorem hexToRgb_apply {scope : Scope} {x y z text : String} {color : Color}
    (read : ofHex? text = some color) (declaredRed : scope.frame.locals.has x = true)
    (declaredGreen : scope.frame.locals.has y = true)
    (declaredBlue : scope.frame.locals.has z = true) :
    hexToRgb x y z text scope =
      .ok () (((scope.assign x (toString color.red.toNat)).assign y
        (toString color.green.toNat)).assign z (toString color.blue.toNat)) := by
  unfold hexToRgb
  rw [Action.bind_apply, colorOf_some read]
  dsimp only
  rw [Action.bind_apply, Action.setVariable_apply declaredRed]
  dsimp only
  rw [Action.bind_apply, Action.setVariable_apply (Scope.has_assign declaredGreen)]
  exact Action.setVariable_apply (Scope.has_assign (Scope.has_assign declaredBlue))

end Effect

namespace State

open Color

variable {script : Script} {r g b : ℤ}

/-- A line that writes a colour of three numbers stores its text with as many errors as there are
numbers out of range, and a line that reads this text stores the three numbers as `shown` gives
them. -/
def Exchanges (script : Script) (shown : ℤ → ℤ) (r g b : ℤ) : Prop :=
  ∀ (now : State) (line : Line) (spec : Spec Meaning) (scope : Scope) (destination : String),
    now.Meets line spec [destination, toString r, toString g, toString b] scope →
    spec.action = .builtin .rgbToHex → scope.frame.locals.has destination = true →
    ∃ written, now.Computes script line scope destination written ∧
      written.notes = outsideNotes [r, g, b] ∧
      ∀ (later : State) (again : Line) (specAgain : Spec Meaning) (scopeAgain : Scope)
        (x y z : String),
        later.Meets again specAgain [x, y, z, written.value] scopeAgain →
        specAgain.action = .builtin .hexToRgb → scopeAgain.frame.locals.has x = true →
        scopeAgain.frame.locals.has y = true → scopeAgain.frame.locals.has z = true →
        later.execute script again = .next { later with
          scope := ((scopeAgain.assign x (toString (shown r))).assign y
            (toString (shown g))).assign z (toString (shown b)) }

theorem exists_component (n : ℤ) : ∃ component : UInt8, (component.toNat : ℤ) = clamp n := by
  have range : 0 ≤ clamp n ∧ clamp n ≤ 255 := by unfold clamp; omega
  refine ⟨(clamp n).toNat.toUInt8, ?_⟩
  have size : (clamp n).toNat.toUInt8.toNat = (clamp n).toNat := Nat.mod_eq_of_lt (by omega)
  rw [size, Int.toNat_of_nonneg range.1]

theorem Meets.writes_color {now : State} {line : Line} {spec : Spec Meaning} {scope : Scope}
    {destination : String}
    (met : now.Meets line spec [destination, toString r, toString g, toString b] scope)
    (builtin : spec.action = .builtin .rgbToHex)
    (declared : scope.frame.locals.has destination = true) (script : Script) :
    now.Computes script line scope destination
      ⟨hexText (clamp (counted r)) (clamp (counted g)) (clamp (counted b)),
        outsideNotes [r, g, b]⟩ := by
  have performed : Instruction.rgbToHex.perform script now.inBody line.number
      (piecesOf line.tokens) [destination, toString r, toString g, toString b] scope =
      .ok .next (scope.stored destination
        ⟨hexText (clamp (counted r)) (clamp (counted g)) (clamp (counted b)),
          outsideNotes [r, g, b]⟩) := by
    change (Effect.rgbToHex destination _ _ _ >>= fun _ => pure Flow.next) scope = _
    rw [Action.bind_apply, Effect.rgbToHex_apply r g b declared]
    rfl
  rw [Computes, met.executed builtin, performed]
  rfl

theorem Meets.reads_color {later : State} {again : Line} {spec : Spec Meaning} {scope : Scope}
    {x y z : String} {color : Color} (met : later.Meets again spec [x, y, z, color.toHex] scope)
    (builtin : spec.action = .builtin .hexToRgb) (hasRed : scope.frame.locals.has x = true)
    (hasGreen : scope.frame.locals.has y = true) (hasBlue : scope.frame.locals.has z = true)
    (script : Script) :
    later.execute script again = .next { later with
      scope := ((scope.assign x (toString color.red.toNat)).assign y
        (toString color.green.toNat)).assign z (toString color.blue.toNat) } := by
  have performed : Instruction.hexToRgb.perform script later.inBody again.number
      (piecesOf again.tokens) [x, y, z, color.toHex] scope =
      .ok .next (((scope.assign x (toString color.red.toNat)).assign y
        (toString color.green.toNat)).assign z (toString color.blue.toNat)) := by
    change (Effect.hexToRgb x y z _ >>= fun _ => pure Flow.next) scope = _
    rw [Action.bind_apply, Effect.hexToRgb_apply (ofHex?_toHex color) hasRed hasGreen hasBlue]
    rfl
  rw [met.executed builtin, performed]
  rfl

/-- Three numbers are read back as components; one with too many digits counts as zero. -/
theorem exchanges_counted (script : Script) (r g b : ℤ) :
    Exchanges script (fun n => clamp (counted n)) r g b := by
  intro now line spec scope destination met builtin declared
  obtain ⟨red, redValue⟩ := exists_component (counted r)
  obtain ⟨green, greenValue⟩ := exists_component (counted g)
  obtain ⟨blue, blueValue⟩ := exists_component (counted b)
  refine ⟨_, met.writes_color builtin declared script, rfl, ?_⟩
  intro later again specAgain scopeAgain x y z metAgain builtinAgain hasRed hasGreen hasBlue
  dsimp only at metAgain ⊢
  rw [← redValue, ← greenValue, ← blueValue] at metAgain ⊢
  have met : later.Meets again specAgain [x, y, z, (⟨red, green, blue⟩ : Color).toHex] scopeAgain :=
    metAgain
  exact met.reads_color builtinAgain hasRed hasGreen hasBlue script

theorem Computes.value_eq {now : State} {line : Line} {scope : Scope} {destination : String}
    {first second : Computed String} (one : now.Computes script line scope destination first)
    (other : now.Computes script line scope destination second) : first.value = second.value := by
  have stored (computed : Computed String) :
      (scope.stored destination computed).frame.locals.get? destination = some computed.value := by
    rw [Scope.stored, Scope.assign, Locals.get?_insert, beq_self_eq_true, if_pos rfl]
  have scopes : scope.stored destination first = scope.stored destination second :=
    congrArg State.scope (Step.next.inj (one.symm.trans other))
  have values := stored first
  rw [scopes, stored second] at values
  exact (Option.some.inj values).symm

/-- A text is read as a colour exactly if it shows six digits, which are those of the colour, and
three numbers are read back as components from the text of a colour. -/
theorem exchanges_colors (script : Script) :
    (∀ text, (ofHex? text).isSome = true ↔ ∃ digits, Shows text digits) ∧
    (∀ text digits, Shows text digits → ∃ color, ofHex? text = some color ∧
      color.toHex = String.ofList (digits.map Char.toUpper)) ∧
    ∀ r g b : ℤ, Exchanges script (fun n => clamp (counted n)) r g b := by
  refine ⟨fun text => ⟨fun read => ?_, fun ⟨digits, shows⟩ => ?_⟩,
    fun text digits shows => shows.exists_ofHex?, exchanges_counted script⟩
  · obtain ⟨color, same⟩ := Option.isSome_iff_exists.mp read
    exact exists_shows same
  · obtain ⟨color, same, -⟩ := shows.exists_ofHex?
    exact Option.isSome_of_eq_some same

theorem exchanges_colors_outsideExample :
    itemsExample.Meets (.ofText 1 "RGBTOHEX x 300 -5 16")
      ⟨"RGBTOHEX", 4, some 4, .builtin .rgbToHex, "", "core"⟩ ["x", "300", "-5", "16"]
      itemsExample.scope ∧
    itemsExample.scope.frame.locals.has "x" = true ∧
    Shows " 0x#0aF " ['0', '0', 'a', 'a', 'F', 'F'] ∧
    (∃ color, ofHex? " 0x#0aF " = some color ∧ color.toHex = "00AAFF") ∧
    ∃ written, itemsExample.Computes (.ofLines "<string>" []) (.ofText 1 "RGBTOHEX x 300 -5 16")
      itemsExample.scope "x" written ∧ written.notes = [outsideNote 300, outsideNote (-5)] := by
  have split : piecesOf (Line.ofText 1 "RGBTOHEX x 300 -5 16").tokens =
      [⟨"x", false⟩, ⟨"300", false⟩, ⟨"-5", false⟩, ⟨"16", false⟩] := by decide +kernel
  have met : itemsExample.Meets (.ofText 1 "RGBTOHEX x 300 -5 16")
      ⟨"RGBTOHEX", 4, some 4, .builtin .rgbToHex, "", "core"⟩ ["x", "300", "-5", "16"]
      itemsExample.scope :=
    meets_core (by decide +kernel) (by decide +kernel) split (by with_unfolding_all rfl)
      (by rfl : Instruction.core.get? "RGBTOHEX" = some ⟨_, _, _, _, _, _⟩) rfl
  have declared : itemsExample.scope.frame.locals.has "x" = true := by decide +kernel
  have shows : Shows " 0x#0aF " ['0', '0', 'a', 'a', 'F', 'F'] :=
    ⟨List.all_iff_forall_prop.mp rfl, rfl, ['0', 'x'], by decide, ['#'], by decide,
      ['0', 'a', 'F'], by decide +kernel, .inr ⟨rfl, rfl⟩⟩
  obtain ⟨-, reads, exchanges⟩ := exchanges_colors (.ofLines "<string>" [])
  obtain ⟨written, computes, notes, -⟩ := exchanges 300 (-5) 16 _ _ _ _ "x" met rfl declared
  exact ⟨met, declared, shows, reads _ _ shows, written, computes, notes⟩

def holdingExample (value : String) : State :=
  { itemsExample with
    scope := ⟨itemsExample.scope.machine,
      ⟨"main", [], .ofList [("x", "0"), ("n", value)], .start⟩⟩ }

theorem meets_writingExample (value : String) :
    (holdingExample value).Meets (.ofText 1 "RGBTOHEX x $n 0 0")
      ⟨"RGBTOHEX", 4, some 4, .builtin .rgbToHex, "", "core"⟩ ["x", value, "0", "0"]
      (holdingExample value).scope := by
  have split : piecesOf (Line.ofText 1 "RGBTOHEX x $n 0 0").tokens =
      [⟨"x", false⟩, ⟨"$n", false⟩, ⟨"0", false⟩, ⟨"0", false⟩] := by decide +kernel
  have allowed : Machine.plainExample.settings.Allows
      (Line.ofText 1 "RGBTOHEX x $n 0 0").tokens := by decide +kernel
  exact meets_core allowed (by decide +kernel) split (by with_unfolding_all rfl)
    (by rfl : Instruction.core.get? "RGBTOHEX" = some ⟨_, _, _, _, _, _⟩) rfl

theorem meets_readingExample (value : String) :
    (holdingExample value).Meets (.ofText 1 "HEXTORGB x n n 000000")
      ⟨"HEXTORGB", 4, some 4, .builtin .hexToRgb, "", "core"⟩ ["x", "n", "n", "000000"]
      (holdingExample value).scope := by
  have split : piecesOf (Line.ofText 1 "HEXTORGB x n n 000000").tokens =
      [⟨"x", false⟩, ⟨"n", false⟩, ⟨"n", false⟩, ⟨"000000", false⟩] := by decide +kernel
  have allowed : Machine.plainExample.settings.Allows
      (Line.ofText 1 "HEXTORGB x n n 000000").tokens := by decide +kernel
  exact meets_core allowed (by decide +kernel) split (by with_unfolding_all rfl)
    (by rfl : Instruction.core.get? "HEXTORGB" = some ⟨_, _, _, _, _, _⟩) rfl

/-- A number with too many digits is not brought into range. -/
theorem not_exchanges_clamped :
    ¬ ∀ (script : Script) (r g b : ℤ), Exchanges script clamp r g b := by
  intro all
  let limit : ℕ := 10 ^ digitLimit
  have size : 10 ^ 3 ≤ limit := Nat.pow_le_pow_right (by decide) (by decide)
  have most : clamp limit = 255 := by unfold clamp; omega
  -- A number of so many digits is not read as one, and counts as zero and not as the greatest.
  have uncounted : counted limit = 0 := by
    rw [counted, Int.natAbs_natCast]
    exact if_neg (lt_irrefl limit)
  have zero : counted 0 = 0 := by
    unfold counted
    split <;> rfl
  let script : Script := .ofLines "<string>" []
  have met := meets_writingExample (toString (limit : ℤ))
  have black : Color.black.toHex = "000000" := by decide +kernel
  have stored := met.writes_color (g := 0) (b := 0) rfl rfl script
  rw [uncounted, zero] at stored
  obtain ⟨written, computes, -, reads⟩ := all script limit 0 0 _ _ _ _ "x" met rfl rfl
  have same : written.value = Color.black.toHex := computes.value_eq stored
  have metAgain := meets_readingExample ""
  rw [← black] at metAgain
  have claimed := reads _ _ _ _ "x" "n" "n" (same ▸ metAgain) rfl rfl rfl rfl
  have actual := metAgain.reads_color rfl rfl rfl rfl script
  have scopes := congrArg State.scope (Step.next.inj (claimed.symm.trans actual))
  have values := congrArg (fun scope : Scope => scope.frame.locals.get? "x") scopes
  simp only [Scope.assign, Locals.get?_insert, most] at values
  exact absurd values (by decide +kernel)

end State

end LineScript

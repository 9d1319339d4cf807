import LineScript.Machine.Flow
import LineScript.Proofs.Effect
import LineScript.Proofs.Script
import LineScript.Proofs.Text.Upper

/-!
What carrying out an instruction can lead to. The table of instructions makes sure that an
instruction finds the arguments it reads; most instructions go on with the next line, and the others
leave the frame, jump forward or ask for a definition or a loop to be started.
-/

namespace LineScript

open LineScript.Action

/-! ## Moving in the script -/

theorem findClosing_mem {opener : BlockMarker} {closer : String} {alternates : List String}
    {depth : Int} {statements : List Statement} {target : Nat}
    (found : findClosing opener closer alternates depth statements = some target) :
    ∃ statement ∈ statements, statement.number = target := by
  induction statements generalizing depth with
  | nil => simp [findClosing] at found
  | cons statement rest ih =>
      unfold findClosing at found
      split at found
      · cases found
        exact ⟨statement, List.mem_cons_self, rfl⟩
      · have below : ∃ depth, findClosing opener closer alternates depth rest = some target := by
          split at found
          · exact ⟨_, found⟩
          · split at found <;> exact ⟨_, found⟩
        obtain ⟨depth, found⟩ := below
        obtain ⟨later, member, number⟩ := ih found
        exact ⟨later, List.mem_cons_of_mem statement member, number⟩

theorem Script.blockEnd?_bounds {script : Script} {line : Nat} {opener : BlockMarker}
    {closer : String} {alternates : List String} {target : Nat}
    (found : script.blockEnd? line opener closer alternates = some target) :
    line < target ∧ target ≤ script.lineCount := by
  obtain ⟨statement, member, rfl⟩ := findClosing_mem found
  rw [List.mem_filter] at member
  have bounds := number_of_mem_statements member.1
  have after : (statement.number : Int) > line := by simpa using member.2
  omega

namespace Cursor

variable {script : Script} {cursor : Cursor} {target : Nat}

theorem advance_forward (later : cursor.line < target) (bound : target ≤ script.lineCount) :
    cursor.advance script target = ⟨target, script.line? target⟩ := by
  rw [advance, if_neg (by omega), if_pos bound]

theorem line_advance (later : cursor.line ≤ target) (bound : target ≤ script.lineCount) :
    (cursor.advance script target).line = target := by
  rcases Nat.eq_or_lt_of_le later with equal | less
  · rw [advance, if_pos (by omega), equal]
  · rw [advance_forward less bound]

theorem line_le_advance : cursor.line ≤ (cursor.advance script target).line := by
  unfold advance
  split
  · exact Nat.le_refl _
  · split
    · exact Nat.le_of_lt (Nat.lt_of_not_le ‹_›)
    · exact Nat.le_max_left _ _

theorem advance_within (within : cursor.line ≤ script.lineCount) :
    (cursor.advance script target).line ≤ script.lineCount := by
  unfold advance
  split
  · exact within
  · split
    · assumption
    · exact Nat.max_le.mpr ⟨within, Nat.le_refl _⟩

end Cursor

def Scope.movedTo (scope : Scope) (cursor : Cursor) : Scope :=
  { scope with frame := { scope.frame with cursor } }

/-- The frame is in the same definition, at the same line or below it. -/
structure Frame.Onward (script : Script) (before after : Frame) : Prop where
  entry : after.entry = before.entry
  args : after.args = before.args
  forward : before.cursor.line ≤ after.cursor.line
  within : before.cursor.line ≤ script.lineCount → after.cursor.line ≤ script.lineCount

/-- What holds of a scope after an instruction that may move forward. -/
structure Scope.Onward (script : Script) (before after : Scope) : Prop where
  machine : before.machine.Kept after.machine
  frame : before.frame.Onward script after.frame
  declared : ∀ name, after.frame.locals.has name = true →
    before.frame.locals.has name = true ∨ before.machine.predefined.contains name = false

namespace Frame

variable {script : Script} {first second third : Frame}

theorem Onward.refl (frame : Frame) : frame.Onward script frame :=
  ⟨rfl, rfl, Nat.le_refl _, id⟩

theorem Onward.trans (early : first.Onward script second) (late : second.Onward script third) :
    first.Onward script third :=
  ⟨late.entry.trans early.entry, late.args.trans early.args,
    Nat.le_trans early.forward late.forward, fun within => late.within (early.within within)⟩

end Frame

namespace Scope

variable {script : Script} {first second third : Scope}

theorem Kept.onward (kept : first.Kept second) : first.Onward script second :=
  ⟨kept.machine, ⟨kept.entry, kept.args, Nat.le_of_eq (congrArg _ kept.cursor.symm),
    fun within => kept.cursor ▸ within⟩, kept.declared⟩

theorem Onward.trans (early : first.Onward script second) (late : second.Onward script third) :
    first.Onward script third := by
  refine ⟨early.machine.trans late.machine, early.frame.trans late.frame, fun name present => ?_⟩
  rcases late.declared name present with known | free
  · exact early.declared name known
  · exact .inr (early.machine.predefined ▸ free)

theorem onward_movedTo (scope : Scope) (target : Nat) :
    scope.Onward script (scope.movedTo (scope.frame.cursor.advance script target)) :=
  ⟨.refl _, ⟨rfl, rfl, Cursor.line_le_advance, Cursor.advance_within⟩, fun _ => .inl⟩

end Scope

namespace Effect

variable {script : Script} {scope : Scope}

theorem jumpTo_forward {target : Nat} (forward : scope.frame.cursor.line ≤ target) :
    jumpTo script target scope = .ok () (scope.movedTo (scope.frame.cursor.advance script target)) := by
  have moved : scope.frame.cursor.advanceTo script target =
      .ok (scope.frame.cursor.advance script target) := by
    rw [Cursor.advanceTo, if_neg (by omega), Int.toNat_natCast]
  unfold jumpTo
  rw [Action.get_bind, moved]
  rfl

theorem jumpTo_backward {target : Nat} (backward : target < scope.frame.cursor.line) :
    jumpTo script target scope =
      .error (.exception (.backwardMove ⟨scope.frame.cursor.line, target⟩)) scope := by
  have refused : scope.frame.cursor.advanceTo script target =
      .error ⟨scope.frame.cursor.line, target⟩ := by
    rw [Cursor.advanceTo, if_pos (by omega)]
  unfold jumpTo
  rw [Action.get_bind, refused]
  rfl

def jumpFailure (scope : Scope) (closer : String) : Failure :=
  scope.failure .jumpNotFound s!"Could not find {closer} to jump to." .jumpNotFound

theorem jumpOut_found {opener : BlockMarker} {closer : String} {alternates : List String}
    {target : Nat}
    (found : script.blockEnd? scope.frame.cursor.line opener closer alternates = some target) :
    jumpOut script opener closer alternates scope =
      .ok target (scope.movedTo (scope.frame.cursor.advance script target)) := by
  have forward : scope.frame.cursor.line ≤ target := Nat.le_of_lt (Script.blockEnd?_bounds found).1
  unfold jumpOut
  rw [Action.get_bind, found]
  change EStateM.bind (jumpTo script target) _ scope = _
  rw [EStateM.bind, jumpTo_forward forward]
  rfl

theorem jumpOut_lost {opener : BlockMarker} {closer : String} {alternates : List String}
    (lost : script.blockEnd? scope.frame.cursor.line opener closer alternates = none) :
    jumpOut script opener closer alternates scope =
      .error (.failure (jumpFailure scope closer))
        (scope.reportFailure s!"Could not find {closer} to jump to." .jumpNotFound) := by
  unfold jumpOut
  rw [Action.get_bind, lost]
  rfl

theorem jumpOut_bind_found {α : Type} {opener : BlockMarker} {closer : String}
    {alternates : List String} {target : Nat} {next : Nat → Action α}
    (found : script.blockEnd? scope.frame.cursor.line opener closer alternates = some target) :
    (jumpOut script opener closer alternates >>= next) scope =
      next target (scope.movedTo (scope.frame.cursor.advance script target)) := by
  change EStateM.bind (jumpOut script opener closer alternates) next scope = _
  rw [EStateM.bind, jumpOut_found found]

theorem jumpOut_bind_lost {α : Type} {opener : BlockMarker} {closer : String}
    {alternates : List String} {next : Nat → Action α}
    (lost : script.blockEnd? scope.frame.cursor.line opener closer alternates = none) :
    (jumpOut script opener closer alternates >>= next) scope =
      .error (.failure (jumpFailure scope closer))
        (scope.reportFailure s!"Could not find {closer} to jump to." .jumpNotFound) := by
  change EStateM.bind (jumpOut script opener closer alternates) next scope = _
  rw [EStateM.bind, jumpOut_lost lost]

end Effect

/-! ## The table -/

namespace Instruction

def allEntries : List Entry :=
  coreEntries ++ extendedEntries ++ graphicsEntries

/-- How many arguments an instruction reads without asking whether they are there. -/
def needed : Instruction → Nat
  | set => 2
  | operation _ => 1
  | compare => 3
  | definition => 1
  | random => 3
  | rgbToHex => 4
  | hexToRgb => 4
  | allocate => 1
  | free => 1
  | setMemory => 2
  | getMemory => 2
  | push => 1
  | pop => 1
  | enqueue => 1
  | dequeue => 1
  | call => 1
  | loop _ => 1
  | sleep => 1
  | color => 1
  | fill => 1
  | line => 4
  | rectangle => 4
  | windowSize => 2
  | saveImage => 1
  | _ => 0

theorem needed_le_minArgs : ∀ entry ∈ allEntries, (entry.instruction.needed : Int) ≤ entry.minArgs := by
  decide +kernel

theorem mem_of_get? {origin : String} {entries : List Entry} {keyword : String}
    {named : ∀ entry ∈ entries, entry.name = Text.upper entry.name} {spec : Spec Instruction}
    (found : (tableOf origin entries named).get? keyword = some spec) :
    ∃ entry ∈ entries, entry.name = Text.upper keyword ∧
      spec = ⟨entry.name, entry.minArgs, entry.maxArgs, entry.instruction, "", origin⟩ := by
  have member : (Text.upper keyword, spec) ∈ (tableOf origin entries named).entries :=
    mem_of_lookup found
  obtain ⟨entry, listed, equal⟩ := List.mem_map.mp member
  obtain ⟨name, rfl⟩ := Prod.mk.inj equal
  exact ⟨entry, listed, name, rfl⟩

end Instruction

namespace Machine

variable {machine : Machine} {keyword : String} {spec : Spec Meaning}

/-- What a name stands for is an instruction of the table or one that an extension adds. -/
theorem lookup?_cases (found : machine.lookup? keyword = some spec) :
    (∃ entry ∈ Instruction.allEntries, ∃ origin ∈ Meaning.builtinOrigins,
      entry.name = Text.upper keyword ∧
      spec = ⟨entry.name, entry.minArgs, entry.maxArgs, .builtin entry.instruction, "", origin⟩) ∨
    ∃ added, machine.services.instructions.get? keyword = some added ∧
      spec = specWith .added added := by
  unfold lookup? at found
  rw [Option.or_eq_some_iff] at found
  rcases found with builtin | ⟨-, added⟩
  · left
    obtain ⟨inner, chosen, rfl⟩ := Option.map_eq_some_iff.mp builtin
    rw [Option.or_eq_some_iff, Option.or_eq_some_iff] at chosen
    rcases chosen with (core | ⟨-, extended⟩) | ⟨-, graphics⟩
    · obtain ⟨entry, listed, name, rfl⟩ := Instruction.mem_of_get? core
      exact ⟨entry, by simp [Instruction.allEntries, listed], "core", by decide, name, rfl⟩
    · obtain ⟨-, extended⟩ := Option.ite_none_right_eq_some.mp extended
      obtain ⟨entry, listed, name, rfl⟩ := Instruction.mem_of_get? extended
      exact ⟨entry, by simp [Instruction.allEntries, listed], "extended", by decide, name, rfl⟩
    · obtain ⟨-, graphics⟩ := Option.ite_none_right_eq_some.mp graphics
      obtain ⟨entry, listed, name, rfl⟩ := Instruction.mem_of_get? graphics
      exact ⟨entry, by simp [Instruction.allEntries, listed], "graphics", by decide, name, rfl⟩
  · right
    obtain ⟨inner, found, rfl⟩ := Option.map_eq_some_iff.mp added
    exact ⟨inner, found, rfl⟩

end Machine

theorem InstructionTable.upper_of_get? {α : Type} {table : InstructionTable α} {keyword : String}
    {spec : Spec α} (found : table.get? keyword = some spec) :
    Text.upper spec.name = Text.upper keyword :=
  (table.named _ (mem_of_lookup found)).symm

theorem Spec.le_of_arityProblem? {α : Type} {spec : Spec α} {supplied : Int}
    (fits : spec.arityProblem? supplied = none) : spec.minArgs ≤ supplied := by
  unfold Spec.arityProblem? at fits
  split at fits
  · cases fits
  · omega

/-! ## Carrying out an instruction -/

theorem exists_one {args : List String} (supplied : 1 ≤ args.length) :
    ∃ first rest, args = first :: rest :=
  List.exists_cons_of_length_pos supplied

theorem exists_two {args : List String} (supplied : 2 ≤ args.length) :
    ∃ first second rest, args = first :: second :: rest := by
  obtain ⟨first, rest, rfl⟩ := exists_one (Nat.le_trans (by decide) supplied)
  obtain ⟨second, rest, rfl⟩ := exists_one (Nat.le_of_succ_le_succ supplied)
  exact ⟨first, second, rest, rfl⟩

theorem exists_three {args : List String} (supplied : 3 ≤ args.length) :
    ∃ first second third rest, args = first :: second :: third :: rest := by
  obtain ⟨first, rest, rfl⟩ := exists_one (Nat.le_trans (by decide) supplied)
  obtain ⟨second, third, rest, rfl⟩ := exists_two (Nat.le_of_succ_le_succ supplied)
  exact ⟨first, second, third, rest, rfl⟩

theorem exists_four {args : List String} (supplied : 4 ≤ args.length) :
    ∃ first second third fourth rest, args = first :: second :: third :: fourth :: rest := by
  obtain ⟨first, rest, rfl⟩ := exists_one (Nat.le_trans (by decide) supplied)
  obtain ⟨second, third, fourth, rest, rfl⟩ := exists_three (Nat.le_of_succ_le_succ supplied)
  exact ⟨first, second, third, fourth, rest, rfl⟩

namespace Instruction

/-- The arguments that an instruction names are all there; others may follow them. -/
inductive Given : Instruction → List String → Prop
  | print {args : List String} : Given print args
  | out {args : List String} : Given out args
  | new {args : List String} : Given new args
  | set {rest : List String} (name value : String) : Given set (name :: value :: rest)
  | delete {args : List String} : Given delete args
  | operation {rest : List String} (op : Operation) (destination : String) :
      Given (operation op) (destination :: rest)
  | compare {rest : List String} (comparison left right : String) :
      Given compare (comparison :: left :: right :: rest)
  | ifBlock {args : List String} : Given ifBlock args
  | elseBlock {args : List String} : Given elseBlock args
  | endIf {args : List String} : Given endIf args
  | ret {args : List String} : Given ret args
  | endDefinition {args : List String} : Given endDefinition args
  | definition {rest : List String} (name : String) : Given definition (name :: rest)
  | random {rest : List String} (destination low high : String) :
      Given random (destination :: low :: high :: rest)
  | rgbToHex {rest : List String} (destination red green blue : String) :
      Given rgbToHex (destination :: red :: green :: blue :: rest)
  | hexToRgb {rest : List String} (red green blue text : String) :
      Given hexToRgb (red :: green :: blue :: text :: rest)
  | allocate {rest : List String} (amount : String) : Given allocate (amount :: rest)
  | free {rest : List String} (amount : String) : Given free (amount :: rest)
  | setMemory {rest : List String} (address value : String) :
      Given setMemory (address :: value :: rest)
  | getMemory {rest : List String} (destination address : String) :
      Given getMemory (destination :: address :: rest)
  | push {rest : List String} (value : String) : Given push (value :: rest)
  | pop {rest : List String} (destination : String) : Given pop (destination :: rest)
  | enqueue {rest : List String} (value : String) : Given enqueue (value :: rest)
  | dequeue {rest : List String} (destination : String) : Given dequeue (destination :: rest)
  | call {rest : List String} (entry : String) : Given call (entry :: rest)
  | halt {args : List String} : Given halt args
  | loop {rest : List String} (kind : LoopKind) (body : String) : Given (loop kind) (body :: rest)
  | endLoop {args : List String} (kind : LoopKind) : Given (endLoop kind) args
  | breakLoop {args : List String} : Given breakLoop args
  | continueLoop {args : List String} : Given continueLoop args
  | sleep {rest : List String} (milliseconds : String) : Given sleep (milliseconds :: rest)
  | noop {args : List String} : Given noop args
  | color {rest : List String} (text : String) : Given color (text :: rest)
  | fill {rest : List String} (text : String) : Given fill (text :: rest)
  | line {rest : List String} (x y x1 y1 : String) : Given line (x :: y :: x1 :: y1 :: rest)
  | rectangle {rest : List String} (x y width height : String) :
      Given rectangle (x :: y :: width :: height :: rest)
  | windowSize {rest : List String} (width height : String) :
      Given windowSize (width :: height :: rest)
  | saveImage {rest : List String} (path : String) : Given saveImage (path :: rest)

/-- The instructions that rest on storage, on patterns, on drawing, on the clock or on files. -/
def isRisky : Instruction → Bool
  | operation .countMatches => true
  | allocate => true
  | sleep => true
  | line => true
  | rectangle => true
  | saveImage => true
  | _ => false

/-- The instructions after which the next line follows unless they end early. -/
def isOrdinary : Instruction → Bool
  | ifBlock => false
  | elseBlock => false
  | ret => false
  | endDefinition => false
  | call => false
  | halt => false
  | loop _ => false
  | endLoop _ => false
  | breakLoop => false
  | continueLoop => false
  | _ => true

def Mishap (instruction : Instruction) (fault : Fault) : Prop :=
  (instruction.isRisky = true ∧ Raises fault) ∨ (instruction = halt ∧ fault = .halt Signal.haltCode)

variable {instruction : Instruction} {args : List String}

theorem given (supplied : instruction.needed ≤ args.length) : instruction.Given args := by
  cases instruction with
  | operation _ | definition | allocate | free | push | pop | enqueue | dequeue | call | loop _
    | sleep | color | fill | saveImage =>
      obtain ⟨first, rest, rfl⟩ := exists_one supplied
      constructor
  | set | setMemory | getMemory | windowSize =>
      obtain ⟨first, second, rest, rfl⟩ := exists_two supplied
      constructor
  | compare | random =>
      obtain ⟨first, second, third, rest, rfl⟩ := exists_three supplied
      constructor
  | rgbToHex | hexToRgb | line | rectangle =>
      obtain ⟨first, second, third, fourth, rest, rfl⟩ := exists_four supplied
      constructor
  | _ => constructor

theorem keeps_raises {α : Type} {action : Action α} (keeps : Keeps Raises action)
    (risky : instruction.isRisky = true) : Keeps instruction.Mishap action :=
  keeps.weaken fun _ raises => .inl ⟨risky, raises⟩

theorem keeps_operate (op : Operation) (destination : String) (rest : List String) :
    Keeps (operation op).Mishap (Effect.operate op destination rest) := by
  by_cases counts : op = .countMatches
  · exact keeps_raises (Effect.keeps_operate_raises op destination rest) (by rw [counts]; rfl)
  · exact Effect.keeps_operate counts destination rest

theorem perform_short {script : Script} {inBody : Bool} {number : Nat} {pieces : List Piece}
    (short : args.length < instruction.needed) :
    instruction.perform script inBody number pieces args = Action.raise .missingArgument := by
  cases instruction with
  | operation _ | definition | allocate | free | push | pop | enqueue | dequeue | call | loop _
    | sleep | color | fill | saveImage =>
      obtain rfl := List.length_eq_zero_iff.mp (Nat.lt_one_iff.mp short)
      rfl
  | set | setMemory | getMemory | windowSize =>
      match args with
      | [] | [_] => rfl
      | _ :: _ :: rest => exact absurd short (by simp [needed])
  | compare | random =>
      match args with
      | [] | [_] | [_, _] => rfl
      | _ :: _ :: _ :: rest => exact absurd short (by simp [needed])
  | rgbToHex | hexToRgb | line | rectangle =>
      match args with
      | [] | [_] | [_, _] | [_, _, _] => rfl
      | _ :: _ :: _ :: _ :: rest => exact absurd short (by simp [needed])
  | _ => cases short

theorem perform_ordinary (ordinary : instruction.isOrdinary = true)
    (supplied : instruction.needed ≤ args.length) :
    ∃ effect, Keeps instruction.Mishap effect ∧ ∀ script inBody number pieces,
      instruction.perform script inBody number pieces args = done effect := by
  cases given supplied with
  | print => exact ⟨_, Effect.keeps_write _ _ _, fun _ _ _ _ => rfl⟩
  | out => exact ⟨_, Effect.keeps_write _ _ _, fun _ _ _ _ => rfl⟩
  | new =>
      exact ⟨_, keeps_forM (fun _ => Effect.keeps_declare _) args, fun _ _ _ _ => rfl⟩
  | set name value => exact ⟨_, keeps_setVariable _ _, fun _ _ _ _ => rfl⟩
  | delete => exact ⟨_, keeps_forM (fun _ => Effect.keeps_remove _) args, fun _ _ _ _ => rfl⟩
  | @operation rest op destination =>
      exact ⟨_, keeps_operate op destination rest, fun _ _ _ _ => rfl⟩
  | compare comparison left right =>
      exact ⟨_, keeps_bind (Effect.keeps_compare _ _ _) fun _ => keeps_pure _, fun _ _ _ _ => rfl⟩
  | endIf => exact ⟨pure (), keeps_pure _, fun _ _ _ _ => rfl⟩
  | noop => exact ⟨pure (), keeps_pure _, fun _ _ _ _ => rfl⟩
  | definition name =>
      refine ⟨do
        let entry := (← get).frame.entry
        Action.report .error s!"Definition {name} starts before {entry} has ended."
          .unexpectedEndOfDefinition, ?_, fun _ _ _ _ => rfl⟩
      exact keeps_get fun scope => keeps_report _ _ _ scope
  | random destination low high => exact ⟨_, Effect.keeps_random _ _ _, fun _ _ _ _ => rfl⟩
  | rgbToHex destination red green blue =>
      exact ⟨_, Effect.keeps_rgbToHex _ _ _ _, fun _ _ _ _ => rfl⟩
  | hexToRgb red green blue text => exact ⟨_, Effect.keeps_hexToRgb _ _ _ _, fun _ _ _ _ => rfl⟩
  | allocate amount => exact ⟨_, keeps_raises (Effect.keeps_allocate _) rfl, fun _ _ _ _ => rfl⟩
  | free amount => exact ⟨_, Effect.keeps_free _, fun _ _ _ _ => rfl⟩
  | setMemory address value => exact ⟨_, Effect.keeps_setMemory _ _, fun _ _ _ _ => rfl⟩
  | getMemory destination address => exact ⟨_, Effect.keeps_getMemory _ _, fun _ _ _ _ => rfl⟩
  | push value =>
      refine ⟨_, ?_, fun _ _ _ _ => rfl⟩
      exact keeps_store fun _ => ⟨rfl, rfl, rfl, rfl, rfl, rfl, rfl, rfl⟩
  | pop destination => exact ⟨_, Effect.keeps_pop _, fun _ _ _ _ => rfl⟩
  | enqueue value =>
      refine ⟨_, ?_, fun _ _ _ _ => rfl⟩
      exact keeps_store fun _ => ⟨rfl, rfl, rfl, rfl, rfl, rfl, rfl, rfl⟩
  | dequeue destination => exact ⟨_, Effect.keeps_dequeue _, fun _ _ _ _ => rfl⟩
  | sleep milliseconds => exact ⟨_, keeps_raises (Effect.keeps_sleep _) rfl, fun _ _ _ _ => rfl⟩
  | color text => exact ⟨_, Effect.keeps_setPen _, fun _ _ _ _ => rfl⟩
  | fill text => exact ⟨_, Effect.keeps_fillCanvas _, fun _ _ _ _ => rfl⟩
  | line x y x1 y1 => exact ⟨_, keeps_raises (Effect.keeps_draw _ _ _ _ _) rfl, fun _ _ _ _ => rfl⟩
  | rectangle x y width height =>
      exact ⟨_, keeps_raises (Effect.keeps_draw _ _ _ _ _) rfl, fun _ _ _ _ => rfl⟩
  | windowSize width height => exact ⟨_, Effect.keeps_resizeCanvas _ _, fun _ _ _ _ => rfl⟩
  | saveImage path => exact ⟨_, keeps_raises (Effect.keeps_saveImage _) rfl, fun _ _ _ _ => rfl⟩
  | _ => cases ordinary

end Instruction

/-- The plan is one of a loop with the given header: passes are counted or the header is read
again. -/
def LoopKind.Plans (kind : LoopKind) (header : List Piece) (plan : LoopPlan) : Prop :=
  match kind with
  | .forLoop => ∃ left, plan = .count left
  | _ => plan = .condition header

/-- The code of the instruction asks for a call some time. -/
def InstructionBehavior.Calls (behavior : InstructionBehavior) : Prop :=
  ∃ sight locals args entry given, (behavior.respond sight locals args).2 = .calls entry given

def Meaning.Calls : Meaning → Prop
  | builtin instruction => instruction = .call
  | added behavior => behavior.Calls

inductive Asks (inBody : Bool) (line : Nat) (pieces : List Piece) : Meaning → Flow → Prop where
  | next (meaning : Meaning) : Asks inBody line pieces meaning .next
  | leave (meaning : Meaning) {signal : Signal} (other : ∀ line value, signal ≠ .resume line value) :
      Asks inBody line pieces meaning (.leave signal)
  | resume (kind : LoopKind) (value : String) (inside : inBody = true) :
      Asks inBody line pieces (.builtin (.endLoop kind)) (.leave (.resume line value))
  | call (meaning : Meaning) (calls : meaning.Calls) (entry : String) (args : List String) :
      Asks inBody line pieces meaning (.call entry args)
  | external (kind : LoopKind) {plan : LoopPlan} (body : String)
      (planned : kind.Plans pieces plan) :
      Asks inBody line pieces (.builtin (.loop kind))
        (.external ⟨kind, plan, body⟩ kind.entersFirst)
  | inline (kind : LoopKind) {plan : LoopPlan} (planned : kind.Plans pieces plan) :
      Asks inBody line pieces (.builtin (.loop kind))
        (.inline ⟨kind, plan, line, none⟩ kind.entersFirst)

namespace LoopKind

variable {kind : LoopKind} {faults : Fault → Prop}

theorem keeps_plan (amount : String) (header : List Piece) :
    Keeps faults (kind.plan amount header) := by
  cases kind with
  | forLoop => exact keeps_bind (keeps_take _) fun _ => keeps_pure _
  | _ => exact keeps_pure _

theorem plans_plan {amount : String} {header : List Piece} {scope after : Scope}
    {plan : LoopPlan} (result : kind.plan amount header scope = .ok plan after) :
    kind.Plans header plan := by
  cases kind with
  | forLoop =>
      obtain ⟨number, middle, -, last⟩ := bind_ok result
      cases last
      exact ⟨_, rfl⟩
  | whileLoop =>
      cases result
      rfl
  | doWhileLoop =>
      cases result
      rfl

theorem keeps_start {line : Nat} {header : List Piece} {args : List String}
    (supplied : 1 ≤ args.length) : Keeps faults (kind.start line header args) := by
  obtain ⟨first, rest, rfl⟩ := exists_one supplied
  unfold start
  dsimp only
  split
  · exact keeps_bind (keeps_plan _ _) fun _ => keeps_pure _
  · exact keeps_bind (keeps_plan _ _) fun _ => keeps_pure _

theorem asks_start {inBody : Bool} {line : Nat} {header : List Piece} {args : List String}
    {scope after : Scope} {flow : Flow} (supplied : 1 ≤ args.length)
    (result : kind.start line header args scope = .ok flow after) :
    Asks inBody line header (.builtin (.loop kind)) flow := by
  obtain ⟨first, rest, rfl⟩ := exists_one supplied
  unfold start at result
  dsimp only at result
  split at result
  · obtain ⟨plan, middle, planned, last⟩ := bind_ok result
    cases last
    exact .external kind first (plans_plan planned)
  · obtain ⟨plan, middle, planned, last⟩ := bind_ok result
    cases last
    exact .inline kind (plans_plan planned)

theorem keeps_condition (external : Bool) (header : List Piece) :
    Keeps faults (kind.condition external header) := by
  refine keeps_bind (Reference.keeps_resolveAll header) fun args => ?_
  split
  · exact Effect.keeps_compare _ _ _
  · exact keeps_bind (keeps_report _ _ _) fun _ => keeps_pure _

end LoopKind

namespace Instruction

variable {instruction : Instruction} {script : Script} {inBody : Bool} {number : Nat}
  {pieces : List Piece} {args : List String} {scope after : Scope} {flow : Flow} {fault : Fault}

def isJump : Instruction → Bool
  | ifBlock => true
  | elseBlock => true
  | _ => false

theorem endOfDefinition_closes (closes : ∀ name ∈ args.head?, name = scope.frame.entry) :
    endOfDefinition args scope =
      .ok (.leave (.returned nullText)) (scope.report ⟨.info, "End of definition", .ok⟩) := by
  cases args with
  | nil => rfl
  | cons name rest =>
      have same : (name == scope.frame.entry) = true := by
        rw [closes name rfl, beq_self_eq_true]
      change (if (name == scope.frame.entry) = true then _ else _ : Action Flow) scope = _
      rw [if_pos same]
      rfl

theorem endOfDefinition_other {name : String} {rest : List String}
    (other : name ≠ scope.frame.entry) :
    endOfDefinition (name :: rest) scope =
      .ok .next (scope.report ⟨.error,
        s!"Unexpected end of definition {name} inside {scope.frame.entry}.",
        .unexpectedEndOfDefinition⟩) := by
  change (if (name == scope.frame.entry) = true then _ else _ : Action Flow) scope = _
  rw [if_neg (by simpa using other)]
  rfl

theorem endOfDefinition_cases (args : List String) (scope : Scope) :
    ∃ flow note, (flow = .next ∨ flow = .leave (.returned nullText)) ∧
      endOfDefinition args scope = .ok flow (scope.report note) := by
  by_cases closes : ∀ name ∈ args.head?, name = scope.frame.entry
  · exact ⟨_, _, .inr rfl, endOfDefinition_closes closes⟩
  · cases args with
    | nil => simp at closes
    | cons name rest =>
        exact ⟨_, _, .inl rfl, endOfDefinition_other (by simpa using closes)⟩

theorem perform_ifBlock_taken (taken : Effect.branchTaken scope args = true) :
    ifBlock.perform script inBody number pieces args scope = .ok .next scope := by
  change (if (!Effect.branchTaken scope args) = true then _ else _ : Action Flow) scope = _
  rw [if_neg (by simp [taken])]
  rfl

theorem perform_ifBlock_skipped (skipped : Effect.branchTaken scope args = false) :
    ifBlock.perform script inBody number pieces args scope =
      (do
        let _ ← Effect.jumpOut script ifMarker "ENDIF" ["ELSE"]
        return .next : Action Flow) scope := by
  change (if (!Effect.branchTaken scope args) = true then _ else _ : Action Flow) scope = _
  rw [if_pos (by simp [skipped])]

theorem perform_ifBlock_found (skipped : Effect.branchTaken scope args = false) {target : Nat}
    (found : script.blockEnd? scope.frame.cursor.line ifMarker "ENDIF" ["ELSE"] = some target) :
    ifBlock.perform script inBody number pieces args scope =
      .ok .next (scope.movedTo (scope.frame.cursor.advance script target)) := by
  rw [perform_ifBlock_skipped skipped, Effect.jumpOut_bind_found found]
  rfl

theorem perform_elseBlock_found {target : Nat}
    (found : script.blockEnd? scope.frame.cursor.line ifMarker "ENDIF" [] = some target) :
    elseBlock.perform script inBody number pieces args scope =
      .ok .next (scope.movedTo (scope.frame.cursor.advance script target)) := by
  change (Effect.jumpOut script ifMarker "ENDIF" [] >>= fun _ => pure Flow.next) scope = _
  rw [Effect.jumpOut_bind_found found]
  rfl

theorem perform_jump (jump : instruction.isJump = true) :
    instruction.perform script inBody number pieces args scope = .ok .next scope ∨
    ∃ alternates, instruction.perform script inBody number pieces args scope =
      (do
        let _ ← Effect.jumpOut script ifMarker "ENDIF" alternates
        return .next : Action Flow) scope := by
  cases instruction with
  | ifBlock =>
      cases taken : Effect.branchTaken scope args with
      | true => exact .inl (perform_ifBlock_taken taken)
      | false => exact .inr ⟨["ELSE"], perform_ifBlock_skipped taken⟩
  | elseBlock => exact .inr ⟨[], rfl⟩
  | _ => cases jump

/-- A jump goes to a line below, or it is lost with a message. -/
theorem perform_jump_cases (jump : instruction.isJump = true) :
    (∃ cursor, scope.Onward script (scope.movedTo cursor) ∧
      instruction.perform script inBody number pieces args scope =
        .ok .next (scope.movedTo cursor)) ∨
    instruction.perform script inBody number pieces args scope =
      .error (.failure (Effect.jumpFailure scope "ENDIF"))
        (scope.reportFailure "Could not find ENDIF to jump to." .jumpNotFound) := by
  rcases perform_jump jump with stays | ⟨alternates, jumps⟩
  · exact .inl ⟨scope.frame.cursor, (Scope.Kept.refl scope).onward, stays⟩
  rw [jumps]
  cases found : script.blockEnd? scope.frame.cursor.line ifMarker "ENDIF" alternates with
  | none => exact .inr (Effect.jumpOut_bind_lost found)
  | some line => exact .inl ⟨_, scope.onward_movedTo line, Effect.jumpOut_bind_found found⟩

/-- An instruction that does not jump leaves the frame at its line. -/
theorem keeps_perform (still : instruction.isJump = false)
    (supplied : instruction.needed ≤ args.length) :
    Keeps instruction.Mishap (instruction.perform script inBody number pieces args) := by
  by_cases ordinary : instruction.isOrdinary = true
  · obtain ⟨effect, keeps, performs⟩ := perform_ordinary ordinary supplied
    rw [performs]
    exact keeps_bind keeps fun _ => keeps_pure _
  cases given supplied with
  | ifBlock => cases still
  | elseBlock => cases still
  | ret => exact keeps_pure _
  | endDefinition =>
      intro scope
      obtain ⟨flow, note, -, closed⟩ := endOfDefinition_cases args scope
      change KeepsAt _ (endOfDefinition args) scope
      rw [KeepsAt, closed]
      exact scope.kept_report note
  | call entry => exact keeps_pure _
  | halt => exact keeps_bind (keeps_report _ _ _) fun _ => keeps_throw (.inr ⟨rfl, rfl⟩)
  | loop kind => exact LoopKind.keeps_start supplied
  | endLoop kind =>
      change Keeps _ (if inBody = true then _ else _)
      split
      · exact keeps_get fun scope => keeps_pure _ scope
      · exact keeps_bind (keeps_report _ _ _) fun _ => keeps_pure _
  | breakLoop => exact keeps_get fun scope => keeps_pure _ scope
  | continueLoop => exact keeps_get fun scope => keeps_pure _ scope
  | _ => exact absurd rfl ordinary

theorem perform_next (onward : instruction.isOrdinary = true ∨ instruction.isJump = true)
    (supplied : instruction.needed ≤ args.length)
    (result : instruction.perform script inBody number pieces args scope = .ok flow after) :
    flow = .next := by
  rcases onward with ordinary | jump
  · obtain ⟨effect, -, performs⟩ := perform_ordinary ordinary supplied
    rw [performs] at result
    obtain ⟨_, middle, -, last⟩ := bind_ok result
    cases last
    rfl
  · rcases perform_jump_cases jump with ⟨cursor, -, moved⟩ | lost
    · cases moved.symm.trans result
      rfl
    · cases lost.symm.trans result

theorem asks_perform (supplied : instruction.needed ≤ args.length)
    (result : instruction.perform script inBody number pieces args scope = .ok flow after) :
    Asks inBody number pieces (.builtin instruction) flow := by
  by_cases onward : instruction.isOrdinary = true ∨ instruction.isJump = true
  · rw [perform_next onward supplied result]
    exact .next _
  cases given supplied with
  | ret =>
      cases result
      exact .leave _ nofun
  | endDefinition =>
      obtain ⟨flow, note, asked, closed⟩ := endOfDefinition_cases args scope
      cases closed.symm.trans result
      rcases asked with rfl | rfl
      · exact .next _
      · exact .leave _ nofun
  | call entry =>
      cases result
      exact .call (.builtin .call) rfl _ _
  | halt => cases result
  | loop kind => exact LoopKind.asks_start supplied result
  | endLoop kind =>
      change (if inBody = true then _ else _ : Action Flow) scope = _ at result
      split at result
      · cases result
        exact .resume kind _ ‹_›
      · cases result
        exact .next _
  | breakLoop =>
      cases result
      exact .leave _ nofun
  | continueLoop =>
      cases result
      exact .leave _ nofun
  | ifBlock => exact absurd (.inr rfl) onward
  | elseBlock => exact absurd (.inr rfl) onward
  | _ => exact absurd (.inl rfl) onward

theorem perform_place (supplied : instruction.needed ≤ args.length)
    (result : instruction.perform script inBody number pieces args scope = .ok flow after) :
    scope.Kept after ∨ (flow = .next ∧ scope.Onward script after) := by
  by_cases jump : instruction.isJump = true
  · rcases perform_jump_cases jump with ⟨cursor, onward, moved⟩ | lost
    · cases moved.symm.trans result
      exact .inr ⟨rfl, onward⟩
    · cases lost.symm.trans result
  · exact .inl ((keeps_perform (by simpa using jump) supplied).ok result)

def Fails (scope : Scope) (instruction : Instruction) (fault : Fault) : Prop :=
  instruction.Mishap fault ∨
    (instruction.isJump = true ∧ fault = .failure (Effect.jumpFailure scope "ENDIF"))

theorem perform_raised (supplied : instruction.needed ≤ args.length)
    (result : instruction.perform script inBody number pieces args scope = .error fault after) :
    scope.Kept after ∧ Arises (instruction.Fails scope) scope fault := by
  by_cases jump : instruction.isJump = true
  · rcases perform_jump_cases jump with ⟨cursor, -, moved⟩ | lost
    · cases moved.symm.trans result
    · cases lost.symm.trans result
      exact ⟨scope.kept_report _, .inl (.inr ⟨jump, rfl⟩)⟩
  · obtain ⟨kept, arises⟩ := (keeps_perform (by simpa using jump) supplied).raised result
    exact ⟨kept, arises.weaken fun _ => .inl⟩

end Instruction

/-! ## Carrying out what a name stands for -/

namespace Effect

variable {behavior : InstructionBehavior} {args : List String}

theorem keeps_carryOut {faults : Fault → Prop} (deed : Deed) : Keeps faults (carryOut deed) := by
  unfold carryOut
  split
  case h_2 => exact keeps_report _ _ _
  case h_3 => exact keeps_setVariable _ _
  all_goals exact keeps_store fun _ => ⟨rfl, rfl, rfl, rfl, rfl, rfl, rfl, rfl⟩

theorem keeps_conclude (verdict : Verdict) : Keeps (· ≠ .interrupted) (conclude verdict) := by
  cases verdict with
  | unreadable text => exact keeps_throw nofun
  | troubled trouble => exact keeps_throw (by cases trouble <;> nofun)
  | _ => exact keeps_pure _

theorem keeps_extend : Keeps (· ≠ .interrupted) (extend behavior args) :=
  keeps_bind keeps_observe fun _ => keeps_get fun scope =>
    keeps_bind (keeps_forM keeps_carryOut _) (fun _ => keeps_conclude _) scope

theorem forM_carryOut (deeds : List Deed) (scope : Scope) :
    ∃ after, deeds.forM carryOut scope = .ok () after := by
  induction deeds generalizing scope with
  | nil => exact ⟨scope, rfl⟩
  | cons deed rest ih =>
      have carried : ∃ middle, carryOut deed scope = .ok () middle := by
        cases deed <;> exact ⟨_, rfl⟩
      obtain ⟨middle, carried⟩ := carried
      obtain ⟨after, others⟩ := ih middle
      refine ⟨after, ?_⟩
      change (carryOut deed >>= fun _ => rest.forM carryOut) scope = _
      rw [bind_apply, carried]
      exact others

/-- Whatever the code of an extension does, how it ends is a matter of its verdict. -/
theorem extend_concludes (behavior : InstructionBehavior) (args : List String) (scope : Scope) :
    let response := behavior.respond scope.machine.sight scope.frame.locals args
    ∃ after, response.1.forM carryOut scope.looked = .ok () after ∧
      extend behavior args scope = conclude response.2 after := by
  obtain ⟨after, carried⟩ :=
    forM_carryOut (behavior.respond scope.machine.sight scope.frame.locals args).1 scope.looked
  refine ⟨after, carried, ?_⟩
  change ((behavior.respond scope.machine.sight scope.frame.locals args).1.forM carryOut >>=
    fun _ => conclude _) scope.looked = _
  rw [bind_apply, carried]

theorem asks_extend {inBody : Bool} {number : Nat} {pieces : List Piece} {scope after : Scope}
    {flow : Flow} (result : extend behavior args scope = .ok flow after) :
    Asks inBody number pieces (.added behavior) flow := by
  obtain ⟨middle, -, concludes⟩ := extend_concludes behavior args scope
  rw [concludes] at result
  cases verdict : (behavior.respond scope.machine.sight scope.frame.locals args).2 with
  | calls entry given =>
      rw [verdict] at result
      cases result
      have calls : behavior.Calls := ⟨_, _, _, entry, given, verdict⟩
      exact .call (.added behavior) calls entry given
  | _ =>
      rw [verdict] at result
      cases result <;> first | exact .next _ | exact .leave _ nofun

end Effect

namespace Meaning

variable {meaning : Meaning} {script : Script} {inBody : Bool} {number : Nat}
  {pieces : List Piece} {args : List String} {scope after : Scope} {flow : Flow} {fault : Fault}

def Supplied (meaning : Meaning) (args : List String) : Prop :=
  ∀ instruction, meaning = .builtin instruction → instruction.needed ≤ args.length

theorem perform_ok (supplied : meaning.Supplied args)
    (result : meaning.perform script inBody number pieces args scope = .ok flow after) :
    Asks inBody number pieces meaning flow ∧
      (scope.Kept after ∨ (flow = .next ∧ scope.Onward script after)) := by
  cases meaning with
  | builtin instruction =>
      have enough := supplied instruction rfl
      exact ⟨Instruction.asks_perform enough result, Instruction.perform_place enough result⟩
  | added behavior =>
      exact ⟨Effect.asks_extend result, .inl (Effect.keeps_extend.ok result)⟩

def Fails (scope : Scope) : Meaning → Fault → Prop
  | builtin instruction => instruction.Fails scope
  | added _ => (· ≠ .interrupted)

theorem perform_raised (supplied : meaning.Supplied args)
    (result : meaning.perform script inBody number pieces args scope = .error fault after) :
    scope.Kept after ∧ Arises (meaning.Fails scope) scope fault := by
  cases meaning with
  | builtin instruction => exact Instruction.perform_raised (supplied instruction rfl) result
  | added behavior => exact Effect.keeps_extend.raised result

theorem perform_error (supplied : meaning.Supplied args)
    (result : meaning.perform script inBody number pieces args scope = .error fault after) :
    scope.Kept after ∧ ∀ instruction, meaning = .builtin instruction → scope.machine.Plain →
      instruction.Fails scope fault := by
  obtain ⟨kept, arises⟩ := perform_raised supplied result
  refine ⟨kept, fun instruction same plain => ?_⟩
  cases same
  exact arises.ofPlain plain

end Meaning

namespace Machine

variable {machine : Machine} {keyword : String} {spec : Spec Meaning}

theorem lookup?_supplied (found : machine.lookup? keyword = some spec) {args : List String}
    (fits : spec.arityProblem? args.length = none) : spec.action.Supplied args := by
  intro instruction same
  have enough := Spec.le_of_arityProblem? fits
  rcases lookup?_cases found with ⟨entry, listed, origin, -, -, rfl⟩ | ⟨added, -, rfl⟩
  · cases same
    have needed := Instruction.needed_le_minArgs entry listed
    exact Int.ofNat_le.mp (Int.le_trans needed enough)
  · cases same

theorem lookup?_core {spec : Spec Instruction}
    (found : Instruction.core.get? keyword = some spec) :
    machine.lookup? keyword = some (specWith .builtin spec) := by
  unfold lookup?
  rw [found]
  rfl

theorem lookup?_extended (extended : machine.extended = true)
    (absent : Instruction.core.get? keyword = none) {spec : Spec Instruction}
    (found : Instruction.extended.get? keyword = some spec) :
    machine.lookup? keyword = some (specWith .builtin spec) := by
  unfold lookup?
  rw [absent, if_pos extended, found]
  rfl

theorem Bare.lookup? (bare : machine.Bare) (found : machine.lookup? keyword = some spec) :
    ∃ entry ∈ Instruction.allEntries, ∃ origin ∈ Meaning.builtinOrigins,
      entry.name = Text.upper keyword ∧
      spec = ⟨entry.name, entry.minArgs, entry.maxArgs, .builtin entry.instruction, "",
        origin⟩ := by
  rcases lookup?_cases found with builtin | ⟨added, listed, -⟩
  · exact builtin
  · rw [bare.services] at listed
    cases listed

end Machine

namespace Instruction

theorem name_of_loop : ∀ entry ∈ allEntries, ∀ kind ∈ [LoopKind.forLoop, .whileLoop, .doWhileLoop],
    entry.instruction = .loop kind → entry.name = kind.keyword := by
  decide +kernel

end Instruction

namespace Instruction

def callNames : List String :=
  ["CALL", "DO"]

theorem mem_callNames : ∀ entry ∈ allEntries, entry.instruction = .call →
    entry.name ∈ callNames := by
  decide +kernel

end Instruction

/-- An instruction with the name may call a definition: one of the language, or one of an extension
whose code asks for a call. -/
def Services.MayCall (services : Services) (name : String) : Prop :=
  name ∈ Instruction.callNames ∨
    ∃ spec, services.instructions.get? name = some spec ∧ spec.action.Calls

theorem Machine.lookup?_upper {machine : Machine} {keyword : String} {spec : Spec Meaning}
    (found : machine.lookup? keyword = some spec) : Text.upper spec.name = Text.upper keyword := by
  rcases lookup?_cases found with ⟨entry, listed, origin, -, name, rfl⟩ | ⟨added, listed, rfl⟩
  · dsimp only
    rw [name, Text.upper_upper]
  · have same : Text.upper added.name = Text.upper keyword := InstructionTable.upper_of_get? listed
    exact same

theorem Machine.lookup?_calls {machine : Machine} {keyword : String} {spec : Spec Meaning}
    (found : machine.lookup? keyword = some spec) (calls : spec.action.Calls) :
    machine.services.MayCall spec.name := by
  rcases lookup?_cases found with ⟨entry, listed, origin, -, name, rfl⟩ | ⟨added, listed, rfl⟩
  · exact .inl (Instruction.mem_callNames entry listed calls)
  · have same : Text.upper added.name = Text.upper keyword := InstructionTable.upper_of_get? listed
    refine .inr ⟨added, ?_, calls⟩
    rw [← listed]
    exact congrArg (machine.services.instructions.entries.lookup ·) same

theorem Machine.lookup?_loop {machine : Machine} {keyword : String} {spec : Spec Meaning}
    (found : machine.lookup? keyword = some spec) {kind : LoopKind}
    (same : spec.action = .builtin (.loop kind)) : Text.upper keyword = kind.keyword := by
  rcases lookup?_cases found with ⟨entry, listed, origin, -, name, rfl⟩ | ⟨added, -, rfl⟩
  · rw [← name]
    exact Instruction.name_of_loop entry listed kind (by cases kind <;> decide)
      (Meaning.builtin.inj same)
  · cases same

theorem Line.upper_keywordOf (tokens : List String) :
    Text.upper (Line.keywordOf tokens) = Line.keywordOf tokens := by
  unfold Line.keywordOf
  split
  · decide
  · exact Text.upper_upper _

end LineScript

import LineScript.Proofs.Footprint
import LineScript.Proofs.Operands
import Mathlib.Logic.Function.Iterate

/-!
The value of a text. What is asked for on the way to it can be told from the text and the mode
alone: a text that has been fetched is an index, a truth value, a row of characters or the value
itself, and never stands for something else again. Nothing changes on the way but that messages are
added and lines are read.
-/

namespace LineScript

open LineScript.Action

/-! ## Cutting a text -/

namespace Text

variable {mark : Char} {chars before after : List Char}

theorem cut_of_notMem (absent : mark ∉ chars) : cut mark chars = (chars, none) := by
  induction chars with
  | nil => rfl
  | cons c rest ih =>
      rw [List.mem_cons, not_or] at absent
      have other : (c == mark) = false := beq_eq_false_iff_ne.mpr fun same => absent.1 same.symm
      rw [cut, other, ih absent.2]
      rfl

theorem cut_append (absent : mark ∉ before) :
    cut mark (before ++ mark :: after) = (before, some after) := by
  induction before with
  | nil =>
      rw [List.nil_append, cut, beq_self_eq_true]
      rfl
  | cons c rest ih =>
      rw [List.mem_cons, not_or] at absent
      have other : (c == mark) = false := beq_eq_false_iff_ne.mpr fun same => absent.1 same.symm
      rw [List.cons_append, cut, other, ih absent.2]
      rfl

theorem append_of_cut (found : (cut mark chars).2 = some after) :
    chars = (cut mark chars).1 ++ mark :: after := by
  induction chars with
  | nil => cases found
  | cons c rest ih =>
      rw [cut] at found ⊢
      cases here : c == mark with
      | true =>
          rw [here] at found
          rw [beq_iff_eq.mp here, Option.some.inj found]
          rfl
      | false =>
          rw [here] at found
          exact congrArg (c :: ·) (ih found)

end Text

/-! ## What a text stands for -/

namespace Reference

/-- The characters that make a text stand for something when it begins with them. -/
def marks (extended : Bool) : List Char :=
  if extended then ['$', '#', '%', '!', '@'] else ['$']

def size : Reference → Nat
  | literal _ | predefined _ | named _ | pointless _ | exhausted => 1
  | cell index | argument index => index.size + 1
  | character index target => index.size + target.size + 1
  | negation of => of.size + 1

def names : Reference → List String
  | literal _ | predefined _ | pointless _ | exhausted => []
  | named name => [name]
  | cell index | argument index => index.names
  | character index target => index.names ++ target.names
  | negation of => of.names

variable {extended : Bool} {chars : List Char}

theorem ofChars_unmarked (free : ∀ mark ∈ marks extended, chars.head? ≠ some mark) :
    ofChars extended chars = literal (String.ofList chars) := by
  cases chars with
  | nil => rw [ofChars, String.ofList_nil]
  | cons c rest =>
      have other (mark : Char) (member : mark ∈ marks extended) : c ≠ mark :=
        fun same => free mark member (same ▸ rfl)
      rw [ofChars]
      · cases extended with
        | false => rfl
        | true =>
            simp [other '#' (by simp [marks]), other '%' (by simp [marks]),
              other '!' (by simp [marks]), other '@' (by simp [marks])]
      all_goals
        intros
        refine other '$' ?_ ‹_›
        cases extended <;> simp [marks]

theorem ofChars_predefined (name : List Char) :
    ofChars extended ('$' :: '_' :: name) = predefined (String.ofList name) := by
  rw [ofChars]

theorem ofChars_named {name : List Char} (own : name.head? ≠ some '_') :
    ofChars extended ('$' :: name) = named (String.ofList name) := by
  rw [ofChars]
  rintro rest rfl
  exact own rfl

theorem ofChars_cell : ofChars true ('#' :: chars) = cell (ofChars true chars) := by
  rw [ofChars] <;> simp

theorem ofChars_negation : ofChars true ('!' :: chars) = negation (ofChars true chars) := by
  rw [ofChars] <;> simp

theorem ofChars_argument : ofChars true ('@' :: chars) = argument (ofChars true chars) := by
  rw [ofChars] <;> simp

theorem ofChars_percent : ofChars true ('%' :: chars) =
    match (Text.cut '.' chars).2 with
    | some target => character (ofChars true (Text.cut '.' chars).1) (ofChars true target)
    | none => pointless (String.ofList chars) := by
  rw [ofChars]
  · simp only [Bool.not_true, Bool.false_eq_true, if_false, Char.reduceBEq, beq_self_eq_true,
      if_true]
    split
    · next found => rw [found]
    · next found => rw [found]
  · simp
  · simp

theorem size_pos (reference : Reference) : 1 ≤ reference.size := by
  cases reference <;> simp [size]

/-- There are no more texts on the way than the text has characters, and one. -/
theorem size_ofChars_le (extended : Bool) (chars : List Char) :
    (ofChars extended chars).size ≤ chars.length + 1 := by
  fun_induction ofChars extended chars with
  | case5 c rest _ _ _ _ _ target found ihIndex ihTarget =>
      have whole := congrArg List.length (Text.append_of_cut found)
      rw [List.length_append, List.length_cons] at whole
      simp only [size, List.length_cons]
      omega
  | _ => simp_all [size]

theorem upTo_eq {reference : Reference} {marks : Nat} (small : reference.size ≤ marks + 1) :
    reference.upTo marks = reference := by
  induction reference generalizing marks with
  | cell index ih | negation index ih | argument index ih =>
      have positive := index.size_pos
      simp only [size] at small
      rw [upTo, if_neg (by omega), ih (by omega)]
  | character index target ihIndex ihTarget =>
      have positive := index.size_pos
      simp only [size] at small
      rw [upTo, if_neg (by omega), ihIndex (by omega), ihTarget (by omega)]
  | _ => rfl

theorem infix_of_mem_names {name : String} (member : name ∈ (ofChars extended chars).names) :
    name.toList <:+: chars := by
  fun_induction ofChars extended chars with
  | case2 rest own =>
      rw [List.mem_singleton.mp member, String.toList_ofList]
      exact (List.suffix_cons _ _).isInfix
  | case5 c rest _ _ _ _ _ target found ihIndex ihTarget =>
      rw [Text.append_of_cut found]
      rcases List.mem_append.mp member with early | late
      · exact (ihIndex early).trans (List.infix_cons (List.prefix_append _ _).isInfix)
      · exact (ihTarget late).trans
          (List.infix_cons (List.suffix_append_of_suffix (List.suffix_cons _ _)).isInfix)
  | case4 | case7 | case8 => exact List.infix_cons (‹_ → _› member)
  | _ => cases member

end Reference

/-! ## What the host can follow -/

namespace Action

variable {α β : Type}

/-- The action does not come upon too many marks. -/
def Copes (action : Action α) : Prop :=
  ∀ scope after, action scope ≠ .error (.exception .tooManyMarks) after

theorem copes_pure (value : α) : Copes (pure value : Action α) :=
  fun _ _ => nofun

theorem copes_bind {first : Action α} {next : α → Action β} (copes : Copes first)
    (copesNext : ∀ value, Copes (next value)) : Copes (first >>= next) := by
  intro scope after cut
  rw [bind_apply] at cut
  cases result : first scope with
  | ok value middle =>
      rw [result] at cut
      exact copesNext value middle after cut
  | error fault last =>
      rw [result] at cut
      cases cut
      exact copes scope _ result

theorem copes_get {next : Scope → Action α} (copes : ∀ scope, Copes (next scope)) :
    Copes (get >>= next) :=
  fun scope => copes scope scope

theorem copes_instead (level : Level) (text : String) (code : Code) (value : α) : Copes (do
    Action.report level text code
    return value) :=
  fun _ _ => nofun

theorem copes_observe : Copes observe :=
  fun _ _ => nofun

theorem copes_readLine (prompt : String) : Copes (readLine prompt) := by
  intro scope after
  rw [readLine_eq]
  rcases (scope.machine.console.readLine prompt).1 with (_ | _) | _ <;> nofun

theorem copes_confirm (question : String) : Copes (confirm question) := by
  intro scope after
  rw [confirm_eq]
  rcases (scope.machine.console.readLine (question ++ " [y/n] ")).1 with (_ | _) | _ <;> nofun

end Action

namespace Reference

variable {scope : Scope} {text : String}

theorem copes_evalPredefined (meaning : Predefined) : Copes (evalPredefined meaning) := by
  cases meaning with
  | computed behavior =>
      refine copes_bind copes_observe fun sight => ?_
      split
      · exact copes_pure _
      · next trouble _ => cases trouble <;> exact fun _ _ => nofun
  | ask => exact copes_readLine ""
  | promptedAsk => exact copes_readLine "> "
  | confirmation => exact copes_bind (copes_confirm _) fun _ => copes_pure _
  | _ => exact fun _ _ => nofun

theorem copes_indexOf (text : String) : Copes (indexOf text) := by
  unfold indexOf
  split
  · exact copes_pure _
  · exact copes_instead _ _ _ _

theorem copes_cellAt (index : Int) : Copes (cellAt index) := by
  refine copes_get fun scope => ?_
  dsimp only
  split
  · exact copes_pure _
  · exact copes_instead _ _ _ _

theorem copes_characterAt (text : String) (index : Int) : Copes (characterAt text index) := by
  unfold characterAt
  split
  · exact copes_pure _
  · exact copes_instead _ _ _ _

theorem copes_argumentAt (index : Int) : Copes (argumentAt index) := by
  refine copes_get fun scope => ?_
  dsimp only
  split
  · exact copes_pure _
  · exact copes_instead _ _ _ _

/-- A reference that is not cut has a value however many marks there are. -/
theorem copes_eval {reference : Reference} (whole : ¬ reference.Cut) : Copes reference.eval := by
  induction reference with
  | literal text => exact copes_pure text
  | predefined name =>
      refine copes_get fun scope => ?_
      split
      · exact copes_evalPredefined _
      · exact copes_pure _
  | named name => exact fun _ _ => nofun
  | cell index ih =>
      refine copes_bind (ih whole) fun _ => copes_bind (copes_indexOf _) fun found => ?_
      cases found with
      | some index => exact copes_cellAt index
      | none => exact copes_pure _
  | character index target ihIndex ihTarget =>
      have whole := not_or.mp whole
      refine copes_bind (ihIndex whole.1) fun _ => copes_bind (copes_indexOf _) fun found => ?_
      refine copes_bind (ihTarget whole.2) fun text => ?_
      cases found with
      | some index => exact copes_characterAt text index
      | none => exact copes_pure _
  | pointless text => exact copes_instead _ _ _ _
  | negation reference ih => exact copes_bind (ih whole) fun _ => copes_pure _
  | argument index ih =>
      refine copes_bind (ih whole) fun _ => copes_bind (copes_indexOf _) fun found => ?_
      cases found with
      | some index => exact copes_argumentAt index
      | none => exact copes_pure _
  | exhausted => exact absurd trivial whole

theorem copes_resolve (text : String) : Copes (resolve text) :=
  copes_get fun _ => copes_eval (not_cut_ofChars _ _)

theorem curtails_read (text : String) : Curtails (read text) (resolve text) :=
  fun scope => curtails_within scope.machine.host _ scope

theorem read_unbounded (unbounded : scope.machine.host.marks = none) :
    read text scope = resolve text scope := by
  change ((ofChars scope.machine.extended text.toList).within scope.machine.host).eval scope = _
  rw [within, unbounded]
  rfl

theorem read_short {marks : Nat} (bounded : scope.machine.host.marks = some marks)
    (short : text.length ≤ marks) : read text scope = resolve text scope := by
  have small := size_ofChars_le scope.machine.extended text.toList
  rw [String.length_toList] at small
  change ((ofChars scope.machine.extended text.toList).within scope.machine.host).eval scope = _
  rw [within, bounded]
  dsimp only
  rw [upTo_eq (by omega)]
  rfl

end Reference

/-! ## What is fetched -/

theorem Memory.get?_of_exists (memory : Memory) (index : Int) :
    (if memory.exists? index then memory.get? index else none) =
      if index < 0 then none else memory.cells.toList[index.toNat]? := by
  by_cases inside : memory.exists? index = true
  · have bounds : 0 ≤ index ∧ index < memory.size := by simpa [exists?] using inside
    rw [if_pos inside, if_neg (Int.not_lt.mpr bounds.1), get?, position?,
      if_neg (Int.not_lt.mpr bounds.1), if_pos inside, Option.bind_some, Array.getElem?_toList]
  · rw [if_neg inside]
    split
    · rfl
    · next valid =>
        have beyond : ¬ index < memory.size := fun below =>
          inside (by simpa [exists?] using ⟨Int.not_lt.mp valid, below⟩)
        rw [List.getElem?_eq_none]
        simp only [Array.length_toList]
        simp only [size] at beyond
        omega

namespace Reference

/-- The item with an index; one that is not there is reported. Without an index there is none. -/
def pick (items : List String) (missing : Int → String) : Option Int → Action String
  | none => return nullText
  | some index =>
      match if index < 0 then none else items[index.toNat]? with
      | some item => return item
      | none => do
          Action.report .error (missing index) .indexOutOfRange
          return nullText

theorem cellAt_eq (index : Int) (scope : Scope) : cellAt index scope =
    pick scope.machine.memory.cells.toList
      (fun index => s!"Memory address {index} does not exist.") (some index) scope := by
  unfold cellAt pick
  rw [get_bind]
  exact Memory.get?_of_exists scope.machine.memory index ▸ rfl

theorem characterAt_eq (text : String) (index : Int) : characterAt text index =
    pick (text.toList.map String.singleton) (fun index => s!"Index {index} is out of bounds.")
      (some index) := by
  unfold characterAt pick
  dsimp only
  rw [List.getElem?_map]
  by_cases negative : index < 0
  · rw [if_pos negative, if_pos negative]
  · rw [if_neg negative, if_neg negative]
    cases text.toList[index.toNat]? <;> rfl

theorem argumentAt_eq (index : Int) (scope : Scope) : argumentAt index scope =
    pick scope.frame.args (fun index => s!"Argument {index} was not passed.") (some index)
      scope := rfl

end Reference

theorem Action.bind_eq {α β : Type} {relation : Scope → Scope → Prop} {action : Action α}
    (respects : Respects relation action) {first second : α → Action β} {scope : Scope}
    (same : ∀ value after, relation scope after → first value after = second value after) :
    (action >>= first) scope = (action >>= second) scope := by
  rw [bind_apply, bind_apply]
  cases result : action scope with
  | ok value after => exact same value after (respects.ok result)
  | error fault after => rfl

namespace Reference

variable {scope : Scope} {text : String}

theorem resolve_bind {β : Type} (text : String) (next : String → Action β) (scope : Scope) :
    (resolve text >>= next) scope =
      ((ofChars scope.machine.extended text.toList).eval >>= next) scope := by
  rw [bind_apply, bind_apply]
  rfl

theorem resolve_unmarked (free : ∀ mark ∈ marks scope.machine.extended,
    text.toList.head? ≠ some mark) : resolve text scope = .ok text scope := by
  change (ofChars scope.machine.extended text.toList).eval scope = _
  rw [ofChars_unmarked free, String.ofList_toList]
  rfl

theorem resolve_predefined (name : String) (scope : Scope) :
    resolve ("$_" ++ name) scope = match scope.machine.predefined.lookup? name with
      | some meaning => evalPredefined meaning scope
      | none => .ok ("$_" ++ name) scope := by
  have chars : ("$_" ++ name).toList = '$' :: '_' :: name.toList := String.toList_append
  change (ofChars scope.machine.extended ("$_" ++ name).toList).eval scope = _
  rw [chars, ofChars_predefined, String.ofList_toList, eval, get_bind]
  cases scope.machine.predefined.lookup? name <;> rfl

theorem resolve_named {name : String} (own : name.toList.head? ≠ some '_') (scope : Scope) :
    resolve ("$" ++ name) scope = match scope.frame.locals.get? name with
      | some value => .ok value scope
      | none => .ok nullText (scope.report (Scope.unknownVariable name)) := by
  have chars : ("$" ++ name).toList = '$' :: name.toList := String.toList_append
  change (ofChars scope.machine.extended ("$" ++ name).toList).eval scope = _
  rw [chars, ofChars_named own, String.ofList_toList]
  change EStateM.Result.ok (scope.getVariable name).1 (scope.getVariable name).2 = _
  unfold Scope.getVariable
  cases scope.frame.locals.get? name <;> rfl

theorem read_named {name : String} (own : name.toList.head? ≠ some '_') (scope : Scope) :
    read ("$" ++ name) scope = resolve ("$" ++ name) scope := by
  have chars : ("$" ++ name).toList = '$' :: name.toList := String.toList_append
  have here : (ofChars scope.machine.extended ("$" ++ name).toList).within scope.machine.host =
      ofChars scope.machine.extended ("$" ++ name).toList := by
    rw [chars, ofChars_named own, within]
    split <;> rfl
  exact congrArg (fun reference => reference.eval scope) here

theorem resolve_cell (mode : scope.machine.extended = true) :
    resolve ("#" ++ text) scope = (do
      pick scope.machine.memory.cells.toList
        (fun index => s!"Memory address {index} does not exist.")
        (← indexOf (← resolve text))) scope := by
  have chars : ("#" ++ text).toList = '#' :: text.toList := String.toList_append
  change (ofChars scope.machine.extended ("#" ++ text).toList).eval scope = _
  rw [chars, resolve_bind, mode, ofChars_cell]
  refine bind_eq (Scope.letsRead_alters.eval _) fun value middle early => ?_
  refine bind_eq (Scope.letsRead_alters.indexOf value) fun found after late => ?_
  have memory : after.machine.memory = scope.machine.memory :=
    (early.trans late).others .memory (by simp)
  cases found with
  | none => rfl
  | some index => rw [← memory, ← cellAt_eq]

theorem resolve_argument (mode : scope.machine.extended = true) :
    resolve ("@" ++ text) scope = (do
      pick scope.frame.args (fun index => s!"Argument {index} was not passed.")
        (← indexOf (← resolve text))) scope := by
  have chars : ("@" ++ text).toList = '@' :: text.toList := String.toList_append
  change (ofChars scope.machine.extended ("@" ++ text).toList).eval scope = _
  rw [chars, resolve_bind, mode, ofChars_argument]
  refine bind_eq (Scope.letsRead_alters.eval _) fun value middle early => ?_
  refine bind_eq (Scope.letsRead_alters.indexOf value) fun found after late => ?_
  cases found with
  | none => rfl
  | some index => rw [← (early.trans late).steady.args, ← argumentAt_eq]

theorem resolve_character {index target : String} (mode : scope.machine.extended = true)
    (plain : '.' ∉ index.toList) :
    resolve ("%" ++ index ++ "." ++ target) scope = (do
      let found ← indexOf (← resolve index)
      let text ← resolve target
      pick (text.toList.map String.singleton) (fun index => s!"Index {index} is out of bounds.")
        found) scope := by
  have chars : ("%" ++ index ++ "." ++ target).toList =
      '%' :: (index.toList ++ '.' :: target.toList) := by
    simp only [String.toList_append, List.append_assoc]
    rfl
  change (ofChars scope.machine.extended ("%" ++ index ++ "." ++ target).toList).eval scope = _
  rw [chars, resolve_bind, mode, ofChars_percent, Text.cut_append plain]
  refine bind_eq (Scope.letsRead_alters.eval _) fun value middle early => ?_
  refine bind_eq (Scope.letsRead_alters.indexOf value) fun found after late => ?_
  rw [resolve_bind, (early.trans late).steady.extended, mode]
  refine bind_eq (Scope.letsRead_alters.eval _) fun text last _ => ?_
  cases found with
  | none => rfl
  | some index => rw [← characterAt_eq]

theorem resolve_pointless (mode : scope.machine.extended = true) (plain : '.' ∉ text.toList) :
    resolve ("%" ++ text) scope = .ok nullText (scope.report
      ⟨.error, s!"Malformed character reference '%{text}'.", .malformedValue⟩) := by
  have chars : ("%" ++ text).toList = '%' :: text.toList := String.toList_append
  change (ofChars scope.machine.extended ("%" ++ text).toList).eval scope = _
  rw [chars, mode, ofChars_percent, Text.cut_of_notMem plain, String.ofList_toList]
  rfl

theorem resolve_negation (mode : scope.machine.extended = true) :
    resolve ("!" ++ text) scope = (do return boolText (!isTruthy (← resolve text))) scope := by
  have chars : ("!" ++ text).toList = '!' :: text.toList := String.toList_append
  change (ofChars scope.machine.extended ("!" ++ text).toList).eval scope = _
  rw [chars, resolve_bind, mode, ofChars_negation]
  rfl

end Reference

theorem isTruthy_boolText (value : Bool) : isTruthy (boolText value) = value := by
  cases value <;> rfl

namespace Reference

theorem resolve_negations {scope : Scope} (mode : scope.machine.extended = true) (text : String)
    (count : Nat) :
    resolve (String.ofList (List.replicate (count + 1) '!') ++ text) scope =
      (do return boolText (not^[count + 1] (isTruthy (← resolve text)))) scope := by
  induction count with
  | zero => exact resolve_negation mode
  | succ count ih =>
      have marked : String.ofList (List.replicate (count + 1 + 1) '!') ++ text =
          "!" ++ (String.ofList (List.replicate (count + 1) '!') ++ text) := by
        refine String.toList_inj.mp ?_
        simp only [String.toList_append, String.toList_ofList, List.replicate_succ (n := count + 1)]
        rfl
      rw [marked, resolve_negation mode, bind_apply, ih, bind_apply, bind_apply]
      cases resolve text scope with
      | error fault after => rfl
      | ok value after =>
          change EStateM.Result.ok (boolText (!isTruthy (boolText _))) after =
            .ok (boolText (not^[count + 1 + 1] _)) after
          rw [isTruthy_boolText, Function.iterate_succ_apply' not (count + 1)]

end Reference

/-! ## What is left alone -/

namespace Console

/-- The later console has shown further prompts, and as many replies have been taken. Besides, there
have been looks outside. -/
def Reads (before after : Console) : Prop :=
  ∃ prompts looks, after.shown = prompts ++ before.shown ∧
    after.replies = before.replies.drop prompts.length ∧
    after.moments = before.moments.after looks

theorem reads_readLine (console : Console) (prompt : String) :
    console.Reads (console.readLine prompt).2 := by
  have still : console.moments.after 0 = console.moments := rfl
  refine ⟨[prompt], 0, ?_⟩
  unfold readLine
  split <;> simp_all

theorem Reads.trans {first second third : Console} (early : first.Reads second)
    (late : second.Reads third) : first.Reads third := by
  obtain ⟨prompts, looks, shown, replies, moments⟩ := early
  obtain ⟨others, more, shownLate, repliesLate, momentsLate⟩ := late
  refine ⟨others ++ prompts, more + looks, ?_, ?_, ?_⟩
  · rw [shownLate, shown, List.append_assoc]
  · rw [repliesLate, replies, List.drop_drop, List.length_append, Nat.add_comm]
  · rw [momentsLate, moments]
    funext index
    exact congrArg first.moments (Nat.add_assoc index more looks)

end Console

/-- Nothing has happened between the two scopes but that messages have been added and lines have
been read. -/
structure Scope.Consults (before after : Scope) : Prop where
  rest : after = { before with machine := { before.machine with
    log := after.machine.log, console := after.machine.console } }
  log : ∃ messages, after.machine.log.newest = messages ++ before.machine.log.newest
  console : before.machine.console.Reads after.machine.console

theorem Scope.letsRead_consults : LetsRead Consults where
  refl scope := ⟨rfl, ⟨[], rfl⟩, [], 0, rfl, rfl, rfl⟩
  report scope note := ⟨rfl, ⟨[_], rfl⟩, [], 0, rfl, rfl, rfl⟩
  asked scope prompt := ⟨rfl, ⟨[], rfl⟩, scope.machine.console.reads_readLine prompt⟩
  looked scope := ⟨rfl, ⟨[], rfl⟩, [], 1, rfl, rfl, rfl⟩
  trans first second third early late := by
    obtain ⟨messages, split⟩ := early.log
    obtain ⟨more, splitLate⟩ := late.log
    refine ⟨late.rest.trans ?_, ⟨more ++ messages, ?_⟩, early.console.trans late.console⟩
    · rw [early.rest]
    · rw [splitLate, split, List.append_assoc]

def Scope.withLocals (locals : Locals) (scope : Scope) : Scope :=
  { scope with frame := { scope.frame with locals } }

namespace Action

variable {α β : Type} {mine locals : Locals}

def Ignores (mine locals : Locals) (action : Action α) : Prop :=
  ∀ scope, scope.frame.locals = mine →
    action (scope.withLocals locals) = mapScope (·.withLocals locals) (action scope) ∧
      (lastScope (action scope)).frame.locals = mine

theorem ignores_pure (value : α) : Ignores mine locals (pure value : Action α) :=
  fun _ same => ⟨rfl, same⟩

theorem ignores_bind {first : Action α} {next : α → Action β} (ignores : Ignores mine locals first)
    (ignoresNext : ∀ value, Ignores mine locals (next value)) :
    Ignores mine locals (first >>= next) := by
  intro scope same
  obtain ⟨other, mine⟩ := ignores scope same
  rw [bind_apply, bind_apply, other]
  cases result : first scope with
  | error fault after =>
      rw [result] at mine
      exact ⟨rfl, mine⟩
  | ok value after =>
      rw [result] at mine
      exact ignoresNext value after mine

theorem ignores_get {next : Scope → Action α}
    (same : ∀ scope, next (scope.withLocals locals) = next scope)
    (ignores : ∀ scope, Ignores mine locals (next scope)) : Ignores mine locals (get >>= next) := by
  intro scope known
  rw [get_bind, get_bind, same]
  exact ignores scope scope known

theorem ignores_observe : Ignores mine locals observe :=
  fun _ same => ⟨rfl, same⟩

theorem ignores_throw (fault : Fault) : Ignores mine locals (throw fault : Action α) :=
  fun _ same => ⟨rfl, same⟩

theorem ignores_instead (level : Level) (text : String) (code : Code) (value : α) :
    Ignores mine locals (do
      Action.report level text code
      return value) :=
  fun _ same => ⟨rfl, same⟩

theorem ignores_readLine (prompt : String) : Ignores mine locals (readLine prompt) := by
  intro scope same
  have answer : ((scope.withLocals locals).machine.console.readLine prompt).1 =
      (scope.machine.console.readLine prompt).1 := rfl
  rw [lastScope_readLine, readLine_eq, readLine_eq, answer]
  refine ⟨?_, same⟩
  cases (scope.machine.console.readLine prompt).1 <;> rfl

theorem ignores_confirm (question : String) : Ignores mine locals (confirm question) := by
  intro scope same
  have answer : ((scope.withLocals locals).machine.console.readLine (question ++ " [y/n] ")).1 =
      (scope.machine.console.readLine (question ++ " [y/n] ")).1 := rfl
  rw [lastScope_confirm, confirm_eq, confirm_eq, answer]
  refine ⟨?_, same⟩
  cases (scope.machine.console.readLine (question ++ " [y/n] ")).1 <;> rfl

end Action

namespace Reference

variable {mine locals : Locals}

theorem ignores_evalPredefined (meaning : Predefined) :
    Ignores mine locals (evalPredefined meaning) := by
  cases meaning with
  | computed behavior =>
      refine ignores_bind ignores_observe fun sight => ?_
      split
      · exact ignores_pure _
      · exact ignores_throw _
  | ask => exact ignores_readLine ""
  | promptedAsk => exact ignores_readLine "> "
  | confirmation => exact ignores_bind (ignores_confirm _) fun _ => ignores_pure _
  | _ => exact fun _ same => ⟨rfl, same⟩

theorem ignores_indexOf (text : String) : Ignores mine locals (indexOf text) := by
  unfold indexOf
  split
  · exact ignores_pure _
  · exact ignores_instead _ _ _ _

theorem ignores_cellAt (index : Int) : Ignores mine locals (cellAt index) := by
  refine ignores_get (fun _ => rfl) fun scope => ?_
  dsimp only
  split
  · exact ignores_pure _
  · exact ignores_instead _ _ _ _

theorem ignores_characterAt (text : String) (index : Int) :
    Ignores mine locals (characterAt text index) := by
  unfold characterAt
  split
  · exact ignores_pure _
  · exact ignores_instead _ _ _ _

theorem ignores_argumentAt (index : Int) : Ignores mine locals (argumentAt index) := by
  refine ignores_get (fun _ => rfl) fun scope => ?_
  dsimp only
  split
  · exact ignores_pure _
  · exact ignores_instead _ _ _ _

/-- Only the variables that the reference asks for matter, not those that their values mention. -/
theorem ignores_eval {reference : Reference}
    (same : ∀ name ∈ reference.names, locals.get? name = mine.get? name) :
    Ignores mine locals reference.eval := by
  induction reference with
  | literal text => exact ignores_pure text
  | predefined name =>
      refine ignores_get (fun _ => rfl) fun scope => ?_
      split
      · exact ignores_evalPredefined _
      · exact ignores_pure _
  | named name =>
      rintro scope rfl
      have here := same name (List.mem_singleton.mpr rfl)
      have other : (scope.withLocals locals).frame.locals.get? name =
          scope.frame.locals.get? name := here
      change EStateM.Result.ok ((scope.withLocals locals).getVariable name).1
          ((scope.withLocals locals).getVariable name).2 =
        .ok (scope.getVariable name).1 ((scope.getVariable name).2.withLocals locals) ∧
        (scope.getVariable name).2.frame.locals = scope.frame.locals
      unfold Scope.getVariable
      rw [other]
      cases scope.frame.locals.get? name <;> exact ⟨rfl, rfl⟩
  | cell index ih =>
      refine ignores_bind (ih same) fun _ => ignores_bind (ignores_indexOf _) fun found => ?_
      cases found with
      | some index => exact ignores_cellAt index
      | none => exact ignores_pure _
  | character index target ihIndex ihTarget =>
      have known := List.forall_mem_append.mp same
      refine ignores_bind (ihIndex known.1) fun _ =>
        ignores_bind (ignores_indexOf _) fun found => ?_
      refine ignores_bind (ihTarget known.2) fun text => ?_
      cases found with
      | some index => exact ignores_characterAt text index
      | none => exact ignores_pure _
  | pointless text => exact ignores_instead _ _ _ _
  | negation reference ih => exact ignores_bind (ih same) fun _ => ignores_pure _
  | argument index ih =>
      refine ignores_bind (ih same) fun _ => ignores_bind (ignores_indexOf _) fun found => ?_
      cases found with
      | some index => exact ignores_argumentAt index
      | none => exact ignores_pure _
  | exhausted => exact ignores_throw _

end Reference

/-! ## Main statement -/

/-- How texts get their values in a scope. -/
structure Scope.Resolves (before : Scope) : Prop where
  /-- Every text has a value unless a prompt is left without an answer: somebody interrupts, or what
  is typed is no text. -/
  ends : ∀ text, (∃ value after, Reference.resolve text before = .ok value after) ∨
    ∃ cause after, Reference.resolve text before = .error (.ofInterrupted cause) after ∧
      .broken cause ∈ before.machine.console.replies
  /-- No more texts have a value on the way than the text has characters, and one. -/
  bounded : ∀ text : String,
    (Reference.ofChars before.machine.extended text.toList).size ≤ text.length + 1
  consults : ∀ text, before.Consults (lastScope (Reference.resolve text before))
  unmarked : ∀ text : String, (∀ mark ∈ Reference.marks before.machine.extended,
    text.toList.head? ≠ some mark) → Reference.resolve text before = .ok text before
  named : ∀ name : String, name.toList.head? ≠ some '_' →
    Reference.resolve ("$" ++ name) before = match before.frame.locals.get? name with
      | some value => .ok value before
      | none => .ok nullText (before.report (unknownVariable name))
  predefined : ∀ name, Reference.resolve ("$_" ++ name) before =
    match before.machine.predefined.lookup? name with
      | some meaning => Reference.evalPredefined meaning before
      | none => .ok ("$_" ++ name) before
  /-- What follows the mark has a value; that value is an index, and the cell with this index is the
  value of the whole as it stands. -/
  cell : before.machine.extended = true → ∀ text, Reference.resolve ("#" ++ text) before = (do
    Reference.pick before.machine.memory.cells.toList
      (fun index => s!"Memory address {index} does not exist.")
      (← Reference.indexOf (← Reference.resolve text))) before
  argument : before.machine.extended = true → ∀ text, Reference.resolve ("@" ++ text) before = (do
    Reference.pick before.frame.args (fun index => s!"Argument {index} was not passed.")
      (← Reference.indexOf (← Reference.resolve text))) before
  character : before.machine.extended = true → ∀ index target : String, '.' ∉ index.toList →
    Reference.resolve ("%" ++ index ++ "." ++ target) before = (do
      let found ← Reference.indexOf (← Reference.resolve index)
      let text ← Reference.resolve target
      Reference.pick (text.toList.map String.singleton)
        (fun index => s!"Index {index} is out of bounds.") found) before
  pointless : before.machine.extended = true → ∀ text : String, '.' ∉ text.toList →
    Reference.resolve ("%" ++ text) before = .ok nullText (before.report
      ⟨.error, s!"Malformed character reference '%{text}'.", .malformedValue⟩)
  negations : before.machine.extended = true → ∀ text count, 1 ≤ count →
    Reference.resolve (String.ofList (List.replicate count '!') ++ text) before =
      (do return boolText (not^[count] (isTruthy (← Reference.resolve text)))) before
  /-- Variables whose names do not stand in the text do not matter, even if the values that are
  fetched mention them. -/
  blind : ∀ (text : String) locals, (∀ name : String, name.toList <:+: text.toList →
      locals.get? name = before.frame.locals.get? name) →
    Reference.resolve text (before.withLocals locals) =
      mapScope (·.withLocals locals) (Reference.resolve text before)
  /-- An argument of a program is read so, unless there are more marks in it than the host can
  follow. -/
  read : ∀ text : String, Reference.read text before = Reference.resolve text before ∨
    ∃ marks after, before.machine.host.marks = some marks ∧ marks < text.length ∧
      Reference.read text before = .error (.exception .tooManyMarks) after ∧ before.Consults after

/-- Without extensions every text has a value in every scope. -/
theorem Scope.resolves (before : Scope)
    (builtin : ∀ name behavior,
      before.machine.predefined.lookup? name ≠ some (.computed behavior)) :
    before.Resolves where
  ends text := by
    have keeps : Keeps (fun _ => False) (Reference.resolve text) := Reference.keeps_resolve text
    cases resolved : Reference.resolve text before with
    | ok value after => exact .inl ⟨value, after, rfl⟩
    | error fault after =>
        rcases (keeps.raised resolved).2 with
          impossible | ⟨cause, rfl, typed⟩ | ⟨found, -⟩ | bounded
        · exact impossible.elim
        · exact .inr ⟨cause, after, rfl, typed⟩
        · exact absurd found (builtin _ _)
        · exact absurd resolved (Reference.copes_resolve text before after)
  bounded text := Reference.size_ofChars_le _ _
  consults text := letsRead_consults.resolve text before
  unmarked text := Reference.resolve_unmarked
  named name own := Reference.resolve_named own before
  predefined name := Reference.resolve_predefined name before
  cell mode text := Reference.resolve_cell mode
  argument mode text := Reference.resolve_argument mode
  character mode index target := Reference.resolve_character mode
  pointless mode text := Reference.resolve_pointless mode
  negations mode text count positive := by
    obtain ⟨fewer, rfl⟩ := Nat.exists_eq_add_of_le' positive
    exact Reference.resolve_negations mode text fewer
  blind text locals same := by
    have ignores : Ignores before.frame.locals locals
        (Reference.ofChars before.machine.extended text.toList).eval :=
      Reference.ignores_eval fun name member => same name (Reference.infix_of_mem_names member)
    exact (ignores before rfl).1
  read text := by
    cases bounded : before.machine.host.marks with
    | none => exact .inl (Reference.read_unbounded bounded)
    | some marks =>
        by_cases long : marks < text.length
        · refine (Reference.curtails_read text before).imp_right fun ⟨after, cut⟩ => ?_
          have consults := letsRead_consults.read text before
          rw [cut] at consults
          exact ⟨marks, after, rfl, long, cut, consults⟩
        · exact .inl (Reference.read_short bounded (Nat.le_of_not_lt long))

theorem Scope.resolves_mentionExample :
    Scope.Resolves ⟨Machine.plainExample,
      ⟨"main", ["#0"], .ofList [("x", "$y"), ("y", "1")], .start⟩⟩ :=
  Scope.resolves _ fun _ _ => Machine.plain_plainExample.not_computed

end LineScript

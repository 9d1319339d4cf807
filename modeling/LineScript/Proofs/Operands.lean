import LineScript.Proofs.Modes
import Mathlib.Algebra.GroupWithZero.Nat

/-!
What the arguments of a line take when they are read: a line from the console for each question among
them, and a report for each variable that does not exist. How many of both there are shows in the
arguments as they are written and in the modes.
-/

namespace LineScript

open LineScript.Action

def Console.reply (console : Console) (index : Nat) : String :=
  match console.replies[index]? with
  | some (.line text) => text
  | _ => ""

/-- How often it has been reported on the line of the frame that a variable does not exist. -/
def Scope.unknowns (scope : Scope) (name : String) : Nat :=
  scope.machine.log.newest.count
    ((Scope.unknownVariable name).onLine scope.frame.cursor.line)

/-! ## What an argument asks for -/

def Predefined.asks : Predefined → Bool
  | ask | promptedAsk | confirmation => true
  | _ => false

namespace Reference

def lines (names : Layers Predefined) : Reference → Nat
  | literal _ | named _ | pointless _ | exhausted => 0
  | predefined name => ((names.lookup? name).map fun meaning => meaning.asks.toNat).getD 0
  | cell index | argument index => index.lines names
  | character index target => index.lines names + target.lines names
  | negation of => of.lines names

def uses (name : String) : Reference → Nat
  | literal _ | predefined _ | pointless _ | exhausted => 0
  | named other => if other = name then 1 else 0
  | cell index | argument index => index.uses name
  | character index target => index.uses name + target.uses name
  | negation of => of.uses name

end Reference

def Piece.reference (extended : Bool) (piece : Piece) : Reference :=
  if piece.quoted then .literal piece.text else .ofChars extended piece.text.toList

namespace Machine

def linesOf (machine : Machine) (pieces : List Piece) : Nat :=
  (pieces.map fun piece => (piece.reference machine.extended).lines machine.predefined).sum

def usesOf (machine : Machine) (pieces : List Piece) (name : String) : Nat :=
  (pieces.map fun piece => (piece.reference machine.extended).uses name).sum

theorem Kept.linesOf {before after : Machine} (kept : before.Kept after) :
    after.linesOf = before.linesOf := by
  unfold Machine.linesOf
  rw [kept.extended, kept.predefined]

end Machine

/-! ## What an action takes -/

/-- Between the two scopes so many lines have been read, and for each variable that does not exist it
has been reported so often; nothing has changed in the frame. -/
structure Scope.Spends (before after : Scope) (lines : Nat) (uses : String → Nat) : Prop where
  kept : before.Kept after
  frame : after.frame = before.frame
  shown : after.machine.console.shown.length = before.machine.console.shown.length + lines
  replies : after.machine.console.replies = before.machine.console.replies.drop lines
  reports : ∀ name, after.unknowns name =
    before.unknowns name + if before.frame.locals.has name then 0 else uses name

namespace Scope

variable {first second third : Scope} {early late lines : Nat} {uses more : String → Nat}

theorem spends_refl (scope : Scope) : scope.Spends scope 0 fun _ => 0 :=
  ⟨.refl _, rfl, rfl, rfl, fun _ => by rw [ite_self, Nat.add_zero]⟩

theorem Spends.trans (before : first.Spends second early uses)
    (after : second.Spends third late more) :
    first.Spends third (early + late) fun name => uses name + more name where
  kept := before.kept.trans after.kept
  frame := after.frame.trans before.frame
  shown := by rw [after.shown, before.shown, Nat.add_assoc]
  replies := by rw [after.replies, before.replies, List.drop_drop]
  reports name := by
    rw [after.reports, before.reports, before.frame]
    split <;> omega

theorem spends_looked (scope : Scope) : scope.Spends scope.looked 0 fun _ => 0 :=
  ⟨scope.kept_looked, rfl, rfl, rfl, fun _ => by rw [ite_self, Nat.add_zero]; rfl⟩

theorem spends_report {note : Note} (other : note.code.number ≠ Code.unknownVariable.number)
    (scope : Scope) :
    scope.Spends (scope.report note) 0 fun _ => 0 where
  kept := scope.kept_report note
  frame := rfl
  shown := rfl
  replies := rfl
  reports name := by
    rw [ite_self, Nat.add_zero]
    exact List.count_cons_of_ne fun same => other (congrArg Message.code same)

theorem spends_getVariable (name : String) (scope : Scope) :
    scope.Spends (scope.getVariable name).2 0 fun other => if name = other then 1 else 0 := by
  unfold getVariable
  cases found : scope.frame.locals.get? name with
  | some value =>
      dsimp only
      refine ⟨.refl _, rfl, rfl, rfl, fun other => ?_⟩
      by_cases same : name = other
      · subst same
        have known : scope.frame.locals.has name = true := by rw [Locals.has, found]; rfl
        rw [if_pos known, Nat.add_zero]
      · rw [if_neg same, ite_self, Nat.add_zero]
  | none =>
      refine ⟨scope.kept_report _, rfl, rfl, rfl, fun other => ?_⟩
      change List.count ((unknownVariable other).onLine scope.frame.cursor.line)
        ((unknownVariable name).onLine scope.frame.cursor.line :: scope.machine.log.newest) = _
      rw [List.count_cons]
      by_cases same : name = other
      · subst same
        have unknown : scope.frame.locals.has name = false := by rw [Locals.has, found]; rfl
        rw [if_pos (beq_self_eq_true _), if_neg (Bool.eq_false_iff.mp unknown), if_pos rfl]
        rfl
      · have apart : ((unknownVariable name).onLine scope.frame.cursor.line ==
            (unknownVariable other).onLine scope.frame.cursor.line) = false := by
          refine beq_eq_false_iff_ne.mpr fun alike => same ?_
          have texts := congrArg (fun message => message.text.toList) alike
          exact String.toList_inj.mp
            (by simpa [Note.onLine, unknownVariable, String.toList_append, toString] using texts)
        rw [apart, if_neg same, ite_self]
        rfl

theorem spends_asked {prompt text : String} {scope : Scope}
    (answered : (scope.machine.console.readLine prompt).1 = .ok text) :
    scope.Spends (scope.asked prompt) 1 (fun _ => 0) ∧
      text = scope.machine.console.reply 0 := by
  have read : (scope.machine.console.readLine prompt).2 =
        { scope.machine.console with
          replies := scope.machine.console.replies.drop 1
          shown := prompt :: scope.machine.console.shown } ∧
      text = scope.machine.console.reply 0 := by
    unfold Console.readLine Console.reply at *
    split at answered <;> simp_all
  refine ⟨⟨scope.kept_asked prompt, rfl, ?_, ?_, ?_⟩, read.2⟩
  · change (scope.machine.console.readLine prompt).2.shown.length = _
    rw [read.1, List.length_cons]
  · change (scope.machine.console.readLine prompt).2.replies = _
    rw [read.1]
  · intro name
    rw [ite_self, Nat.add_zero]
    rfl

end Scope

/-- In the modes of the machine, the action takes so many lines and asks so often for each variable
when it gives a value. -/
def Action.Takes {α : Type} (machine : Machine) (lines : Nat) (uses : String → Nat)
    (action : Action α) : Prop :=
  ∀ before after value, machine.Kept before.machine → action before = .ok value after →
    before.Spends after lines uses

namespace Action

variable {α β : Type} {machine : Machine} {early late : Nat} {uses more : String → Nat}

theorem takes_pure (value : α) : Takes machine 0 (fun _ => 0) (pure value : Action α) := by
  intro before after value kept result
  cases result
  exact before.spends_refl

theorem takes_throw (fault : Fault) : Takes machine early uses (throw fault : Action α) :=
  fun _ _ _ _ result => nomatch result

theorem takes_bind {first : Action α} {next : α → Action β} (takes : Takes machine early uses first)
    (takesNext : ∀ value, Takes machine late more (next value)) :
    Takes machine (early + late) (fun name => uses name + more name) (first >>= next) := by
  intro before after value kept result
  obtain ⟨_, middle, begun, ended⟩ := bind_ok result
  have spends := takes _ _ _ kept begun
  exact spends.trans (takesNext _ _ _ _ (kept.trans spends.kept.machine) ended)

theorem takes_then {first : Action α} {next : α → Action β} (takes : Takes machine early uses first)
    (takesNext : ∀ value, Takes machine 0 (fun _ => 0) (next value)) :
    Takes machine early uses (first >>= next) :=
  takes_bind takes takesNext

theorem takes_after {first : Action α} {next : α → Action β}
    (takes : Takes machine 0 (fun _ => 0) first)
    (takesNext : ∀ value, Takes machine late more (next value)) :
    Takes machine late more (first >>= next) := by
  have whole := takes_bind takes takesNext
  simpa only [Nat.zero_add] using whole

theorem takes_get {next : Scope → Action α}
    (takes : ∀ scope : Scope, machine.Kept scope.machine → Takes machine early uses (next scope)) :
    Takes machine early uses (get >>= next) :=
  fun before after value kept result => takes before kept before after value kept result

theorem takes_observe : Takes machine 0 (fun _ => 0) observe := by
  intro before after value kept result
  cases result
  exact before.spends_looked

theorem takes_report {level : Level} {text : String} {code : Code}
    (other : code.number ≠ Code.unknownVariable.number) :
    Takes machine 0 (fun _ => 0) (report level text code) := by
  intro before after value kept result
  cases result
  exact before.spends_report other

theorem takes_readLine (prompt : String) : Takes machine 1 (fun _ => 0) (readLine prompt) := by
  intro before after value kept result
  rw [readLine_eq] at result
  cases answered : (before.machine.console.readLine prompt).1 with
  | ok text =>
      rw [answered] at result
      cases result
      exact (Scope.spends_asked answered).1
  | error interrupted =>
      rw [answered] at result
      cases result

theorem takes_confirm (question : String) : Takes machine 1 (fun _ => 0) (confirm question) := by
  intro before after value kept result
  rw [confirm_eq] at result
  cases answered : (before.machine.console.readLine (question ++ " [y/n] ")).1 with
  | ok text =>
      rw [answered] at result
      obtain ⟨-, rfl⟩ := EStateM.Result.ok.inj result
      exact (Scope.spends_asked answered).1
  | error interrupted =>
      rw [answered] at result
      cases result

end Action

namespace Reference

variable {machine : Machine}

theorem takes_evalPredefined (meaning : Predefined) :
    Takes machine meaning.asks.toNat (fun _ => 0) (evalPredefined meaning) := by
  cases meaning with
  | ask => exact takes_readLine ""
  | promptedAsk => exact takes_readLine "> "
  | confirmation => exact takes_then (takes_confirm _) fun _ => takes_pure _
  | computed behavior =>
      refine takes_then takes_observe fun sight => ?_
      split
      · exact takes_pure _
      · exact takes_throw _
  | _ => first
    | exact takes_pure _
    | exact takes_get fun scope _ => takes_pure _
    | exact takes_then takes_observe fun sight => takes_pure _

theorem takes_indexOf (text : String) : Takes machine 0 (fun _ => 0) (indexOf text) := by
  unfold indexOf
  split
  · exact takes_pure _
  · exact takes_then (takes_report (by decide)) fun _ => takes_pure _

theorem takes_cellAt (index : Int) : Takes machine 0 (fun _ => 0) (cellAt index) := by
  refine takes_get fun scope _ => ?_
  dsimp only
  split
  · exact takes_pure _
  · exact takes_then (takes_report (by decide)) fun _ => takes_pure _

theorem takes_characterAt (text : String) (index : Int) :
    Takes machine 0 (fun _ => 0) (characterAt text index) := by
  unfold characterAt
  split
  · exact takes_pure _
  · exact takes_then (takes_report (by decide)) fun _ => takes_pure _

theorem takes_argumentAt (index : Int) : Takes machine 0 (fun _ => 0) (argumentAt index) := by
  refine takes_get fun scope _ => ?_
  dsimp only
  split
  · exact takes_pure _
  · exact takes_then (takes_report (by decide)) fun _ => takes_pure _

theorem takes_eval (reference : Reference) :
    Takes machine (reference.lines machine.predefined) (fun name => reference.uses name)
      reference.eval := by
  induction reference with
  | literal text => exact takes_pure text
  | named name =>
      intro before after value kept result
      cases result
      exact before.spends_getVariable name
  | predefined name =>
      refine takes_get fun scope kept => ?_
      rw [kept.predefined]
      unfold lines
      cases found : machine.predefined.lookup? name with
      | some meaning => exact takes_evalPredefined meaning
      | none => exact takes_pure _
  | cell index ih =>
      refine takes_then ih fun _ => takes_then (takes_indexOf _) fun found => ?_
      cases found with
      | some index => exact takes_cellAt index
      | none => exact takes_pure _
  | character index target ihIndex ihTarget =>
      refine takes_bind ihIndex fun _ => takes_after (takes_indexOf _) fun found => ?_
      refine takes_then ihTarget fun text => ?_
      cases found with
      | some index => exact takes_characterAt text index
      | none => exact takes_pure _
  | pointless text => exact takes_then (takes_report (by decide)) fun _ => takes_pure _
  | negation reference ih => exact takes_then ih fun _ => takes_pure _
  | argument index ih =>
      refine takes_then ih fun _ => takes_then (takes_indexOf _) fun found => ?_
      cases found with
      | some index => exact takes_argumentAt index
      | none => exact takes_pure _
  | exhausted => exact takes_throw _

theorem within_predefined (host : Host) (name : String) :
    (predefined name).within host = predefined name := by
  unfold within
  split <;> rfl

theorem within_literal (host : Host) (text : String) :
    (literal text).within host = literal text := by
  unfold within
  split <;> rfl

theorem resolvePiece_eq (piece : Piece) (scope : Scope) :
    resolvePiece piece scope =
      ((piece.reference scope.machine.extended).within scope.machine.host).eval scope := by
  unfold resolvePiece Piece.reference
  split
  · rw [within_literal]
    rfl
  · rfl

theorem takes_resolvePiece (piece : Piece) :
    Takes machine ((piece.reference machine.extended).lines machine.predefined)
      (fun name => (piece.reference machine.extended).uses name) (resolvePiece piece) := by
  intro before after value kept result
  rw [resolvePiece_eq, kept.extended] at result
  exact takes_eval _ _ _ _ kept ((curtails_within _ _).ok result)

theorem takes_resolveAll (pieces : List Piece) :
    Takes machine (machine.linesOf pieces) (machine.usesOf pieces) (resolveAll pieces) := by
  induction pieces with
  | nil => exact takes_pure []
  | cons piece rest ih =>
      rw [resolveAll, List.mapM_cons]
      have takes := takes_bind (takes_resolvePiece piece) fun value =>
        takes_then ih fun values => takes_pure (value :: values)
      exact takes

theorem resolveAll_getElem {pieces : List Piece} {args : List String} {before after : Scope}
    (resolved : resolveAll pieces before = .ok args after) {index : Nat} {piece : Piece}
    (here : pieces[index]? = some piece) : ∃ value middle last uses,
      before.Spends middle (before.machine.linesOf (pieces.take index)) uses ∧
        resolvePiece piece middle = .ok value last ∧ args[index]? = some value := by
  induction pieces generalizing index args before with
  | nil => cases here
  | cons other rest ih =>
      rw [resolveAll, List.mapM_cons] at resolved
      obtain ⟨value, middle, first, resolved⟩ := bind_ok resolved
      obtain ⟨values, last, others, resolved⟩ := bind_ok resolved
      cases resolved
      cases index with
      | zero =>
          cases here
          exact ⟨value, before, middle, _, before.spends_refl, first, rfl⟩
      | succ index =>
          have spends := takes_resolvePiece other before middle value (.refl _) first
          obtain ⟨found, there, final, uses, early, read, arg⟩ := ih others here
          rw [spends.kept.machine.linesOf] at early
          exact ⟨found, there, final, _, spends.trans early, read, arg⟩

end Reference

/-! ## Arguments that every mode reads alike -/

namespace Piece

def ofVariable (name : String) : Piece := ⟨"$" ++ name, false⟩

def question : Piece := ofVariable "_ask"

/-- The argument is read alike in every mode. -/
inductive Plain : Piece → Prop where
  | quoted (text : String) : Plain ⟨text, true⟩
  | unmarked {text : String}
      (free : ∀ mark ∈ ['$', '#', '%', '!', '@'], text.toList.head? ≠ some mark) :
      Plain ⟨text, false⟩
  | named {name : String} (own : name.toList.head? ≠ some '_') : Plain (ofVariable name)
  | question : Plain question

theorem ofVariable_inj {name other : String} :
    ofVariable name = ofVariable other ↔ name = other := by
  refine ⟨fun same => String.toList_inj.mp ?_, fun same => same ▸ rfl⟩
  have texts := congrArg (fun piece => piece.text.toList) same
  simpa [ofVariable, String.toList_append] using texts

theorem quoted_ne (text name : String) : Piece.mk text true ≠ ofVariable name :=
  fun same => nomatch congrArg Piece.quoted same

theorem unmarked_ne {text : String}
    (free : ∀ mark ∈ ['$', '#', '%', '!', '@'], text.toList.head? ≠ some mark) (name : String) :
    Piece.mk text false ≠ ofVariable name := by
  intro same
  have texts : text = "$" ++ name := congrArg Piece.text same
  exact free '$' (by decide) (by rw [texts, String.toList_append]; rfl)

theorem reference_question (extended : Bool) : question.reference extended = .predefined "ask" := by
  change Reference.ofChars extended ('$' :: '_' :: "ask".toList) = _
  rw [Reference.ofChars, String.ofList_toList]

theorem reference_variable {name : String} (own : name.toList.head? ≠ some '_') (extended : Bool) :
    (ofVariable name).reference extended = .named name := by
  have chars : ("$" ++ name).toList = '$' :: name.toList := by rw [String.toList_append]; rfl
  change Reference.ofChars extended ("$" ++ name).toList = _
  rw [chars]
  cases split : name.toList with
  | nil => rw [Reference.ofChars, ← split, String.ofList_toList]; simp
  | cons c rest =>
      rw [split] at own
      have other : c ≠ '_' := fun same => own (same ▸ rfl)
      rw [Reference.ofChars, ← split, String.ofList_toList]
      simpa using other

theorem reference_unmarked {text : String}
    (free : ∀ mark ∈ ['$', '#', '%', '!', '@'], text.toList.head? ≠ some mark) (extended : Bool) :
    (Piece.mk text false).reference extended = .literal text := by
  change Reference.ofChars extended text.toList = _
  cases split : text.toList with
  | nil =>
      have empty : text = "" := String.toList_inj.mp split
      rw [Reference.ofChars, empty]
  | cons c rest =>
      rw [split] at free
      have other (mark : Char) (member : mark ∈ ['$', '#', '%', '!', '@']) : c ≠ mark :=
        fun same => free mark member (same ▸ rfl)
      rw [Reference.ofChars, ← split, String.ofList_toList]
      all_goals simp_all

end Piece

namespace Machine

variable {machine : Machine} {pieces : List Piece} {name : String}

theorem Layered.asks {services : Services} (layered : machine.Layered services)
    (accepted : conflict? services = none) : machine.predefined.lookup? "ask" = some .ask := by
  rw [predefined_modes accepted layered]
  obtain ⟨extended, graphics⟩ := machine.modes
  cases extended <;> cases graphics <;> rfl

theorem lines_plain {piece : Piece} (plain : piece.Plain)
    (asks : machine.predefined.lookup? "ask" = some .ask) :
    (piece.reference machine.extended).lines machine.predefined =
      if piece = .question then 1 else 0 := by
  cases plain with
  | quoted text => exact (if_neg (Piece.quoted_ne _ _)).symm
  | unmarked free =>
      rw [Piece.reference_unmarked free]
      exact (if_neg (Piece.unmarked_ne free _)).symm
  | @named name own =>
      have other : name ≠ "_ask" := fun same => own (same ▸ rfl)
      rw [Piece.reference_variable own]
      exact (if_neg (mt Piece.ofVariable_inj.mp other)).symm
  | question =>
      rw [Piece.reference_question, Reference.lines, asks, if_pos rfl]
      rfl

theorem uses_plain {piece : Piece} (plain : piece.Plain) (own : name.toList.head? ≠ some '_') :
    (piece.reference machine.extended).uses name =
      if piece = .ofVariable name then 1 else 0 := by
  cases plain with
  | quoted text => exact (if_neg (Piece.quoted_ne _ _)).symm
  | unmarked free =>
      rw [Piece.reference_unmarked free]
      exact (if_neg (Piece.unmarked_ne free _)).symm
  | named known =>
      rw [Piece.reference_variable known]
      exact if_congr Piece.ofVariable_inj.symm rfl rfl
  | question =>
      have other : "_ask" ≠ name := fun same => own (same ▸ rfl)
      rw [Piece.reference_question]
      exact (if_neg (mt Piece.ofVariable_inj.mp other)).symm

theorem linesOf_plain (plain : ∀ piece ∈ pieces, piece.Plain)
    (asks : machine.predefined.lookup? "ask" = some .ask) :
    machine.linesOf pieces = pieces.count .question := by
  induction pieces with
  | nil => rfl
  | cons piece rest ih =>
      obtain ⟨here, others⟩ := List.forall_mem_cons.mp plain
      simp only [List.count_cons, beq_iff_eq, ← ih others, ← lines_plain here asks]
      exact Nat.add_comm _ _

theorem usesOf_plain (plain : ∀ piece ∈ pieces, piece.Plain)
    (own : name.toList.head? ≠ some '_') :
    machine.usesOf pieces name = pieces.count (.ofVariable name) := by
  induction pieces with
  | nil => rfl
  | cons piece rest ih =>
      obtain ⟨here, others⟩ := List.forall_mem_cons.mp plain
      have once : (piece.reference machine.extended).uses name =
          if piece = .ofVariable name then 1 else 0 := uses_plain here own
      simp only [List.count_cons, beq_iff_eq, ← ih others, ← once]
      exact Nat.add_comm _ _

end Machine

theorem Reference.resolvePiece_question {scope : Scope}
    (asks : scope.machine.predefined.lookup? "ask" = some .ask) :
    resolvePiece .question scope = Action.readLine "" scope := by
  rw [resolvePiece_eq, Piece.reference_question, within_predefined, eval, get_bind, asks]
  rfl

theorem Reference.resolveAll_question {pieces : List Piece} {args : List String}
    {before after : Scope} (resolved : resolveAll pieces before = .ok args after)
    (asks : before.machine.predefined.lookup? "ask" = some .ask) {index : Nat}
    (here : pieces[index]? = some .question) : args[index]? =
      some (before.machine.console.reply (before.machine.linesOf (pieces.take index))) := by
  obtain ⟨value, middle, last, uses, early, read, arg⟩ := resolveAll_getElem resolved here
  rw [resolvePiece_question (early.kept.machine.predefined ▸ asks), readLine_eq] at read
  cases answered : (middle.machine.console.readLine "").1 with
  | error interrupted =>
      rw [answered] at read
      cases read
  | ok text =>
      rw [answered] at read
      obtain ⟨rfl, -⟩ := EStateM.Result.ok.inj read
      rw [arg, (Scope.spends_asked answered).2]
      unfold Console.reply
      rw [early.replies, List.getElem?_drop, Nat.add_zero]

/-! ## Comparing -/

theorem Effect.compare_ok {comparison left right : String} {scope after : Scope} {holds : Bool}
    (compared : compare comparison left right scope = .ok holds after) :
    holds = (compareValues comparison left right).getD false ∧
      scope.Spends after 0 fun _ => 0 := by
  have flagged {result : Bool} {before last : Scope} (kept : (do
      Action.onMachine fun machine => { machine with compareFlag := result }
      return result : Action Bool) before = .ok holds last) :
      holds = result ∧ before.Spends last 0 fun _ => 0 := by
    cases kept
    exact ⟨rfl, .ofMachine ⟨rfl, rfl, rfl, rfl, rfl, rfl, rfl, List.suffix_rfl⟩, rfl, rfl, rfl,
      fun _ => by rw [ite_self, Nat.add_zero]; rfl⟩
  unfold compare at compared
  cases known : compareValues comparison left right with
  | some result =>
      rw [known] at compared
      exact flagged compared
  | none =>
      rw [known] at compared
      obtain ⟨_, middle, reported, kept⟩ := bind_ok compared
      obtain ⟨rfl, spends⟩ := flagged kept
      cases reported
      refine ⟨rfl, (scope.spends_report ?_).trans spends⟩
      change Code.malformedValue.number ≠ Code.unknownVariable.number
      decide

end LineScript

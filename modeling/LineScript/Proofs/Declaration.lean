import LineScript.Proofs.Remark
import LineScript.Proofs.Resolution

/-!
Reading what has been declared. After a declaration about which there is nothing to say the variable
has the declared value, and a dollar sign before its name gives it back, whatever the name is made
of. The mark of predefined variables is the exception: a name that begins with an underscore can be
declared as long as no predefined variable is meant, but behind a dollar sign it is read as the name
of a predefined variable.
-/

namespace LineScript

open LineScript.Action

namespace Effect

/-- The name in a declaration: what stands before the first comma. -/
def declaredName (declaration : String) : String :=
  String.ofList (Text.cut ',' declaration.toList).1

/-- The value in a declaration: what the text after the first comma stands for, or zero. -/
def declaredValue (declaration : String) : Action String :=
  match (Text.cut ',' declaration.toList).2 with
  | some text => Reference.read (String.ofList text)
  | none => return "0"

def assignDeclared (declaration : String) : Action Unit := do
  let value ← declaredValue declaration
  modify fun scope => scope.assign (declaredName declaration) value

theorem declare_eq (declaration : String) : declare declaration = (do
    if (Text.cut ',' declaration.toList).1.isEmpty then
      Action.report .error s!"Malformed declaration '{declaration}'." .malformedValue
    else if isPredefined (← get).machine (Text.cut ',' declaration.toList).1 then
      Action.report .error
        s!"Variable {declaredName declaration} is a predefined variable and cannot be declared."
        .predefinedName
    else
      if (← get).frame.locals.has (declaredName declaration) then
        Action.report .warning s!"Variable {declaredName declaration} already exists."
          .variableExists
      assignDeclared declaration) := by
  unfold declare assignDeclared declaredValue declaredName
  obtain ⟨chars, value⟩ := Text.cut ',' declaration.toList
  cases value <;> rfl

/-- What a declaration comes to: it is refused, or the variable is given its value, with a warning
if there has been one of the name. -/
inductive Declared (declaration : String) (before : Scope) :
    EStateM.Result Fault Scope Unit → Prop where
  | refused {note : Note} (grave : note.level ≠ .info) :
      Declared declaration before (.ok () (before.report note))
  | replaced {note : Note} (grave : note.level ≠ .info) :
      Declared declaration before (assignDeclared declaration (before.report note))
  | added (free : isPredefined before.machine (declaredName declaration).toList = false)
      (fresh : before.frame.locals.has (declaredName declaration) = false) :
      Declared declaration before (assignDeclared declaration before)

theorem declared (declaration : String) (before : Scope) :
    Declared declaration before (declare declaration before) := by
  have name : (declaredName declaration).toList = (Text.cut ',' declaration.toList).1 :=
    String.toList_ofList
  rw [declare_eq]
  split
  · exact .refused fun same => nomatch same
  rw [get_bind]
  split
  · exact .refused fun same => nomatch same
  next free =>
    rw [get_bind]
    split
    · exact .replaced fun same => nomatch same
    · next fresh =>
        exact .added (name ▸ Bool.eq_false_iff.mpr free) (Bool.eq_false_iff.mpr fresh)

theorem assignDeclared_ok {declaration : String} {before after : Scope}
    (assigned : assignDeclared declaration before = .ok () after) :
    ∃ value middle, declaredValue declaration before = .ok value middle ∧
      after = middle.assign (declaredName declaration) value := by
  obtain ⟨value, middle, found, ended⟩ := bind_ok assigned
  cases ended
  exact ⟨value, middle, found, rfl⟩

theorem consults_declaredValue (declaration : String) :
    Respects Scope.Consults (declaredValue declaration) := by
  unfold declaredValue
  split
  · exact Scope.letsRead_consults.read _
  · exact Scope.letsRead_consults.pure _

end Effect

/-! ## Declarations about which there is nothing to say -/

namespace Scope

def Quiet (before after : Scope) : Prop :=
  before.machine.log.Gains (fun message => message.level = .info) after.machine.log

theorem get?_assign (scope : Scope) (name value : String) :
    (scope.assign name value).frame.locals.get? name = some value := by
  change (scope.frame.locals.insert name value).get? name = _
  rw [Locals.get?_insert, beq_self_eq_true, if_pos rfl]

variable {first second third : Scope}

theorem Quiet.parts {fits others : Message → Prop} (quiet : first.Quiet third)
    (early : first.machine.log.Gains fits second.machine.log)
    (late : second.machine.log.Gains others third.machine.log) :
    first.Quiet second ∧ second.Quiet third := by
  obtain ⟨messages, whole, infos⟩ := quiet
  obtain ⟨before, split, -⟩ := early
  obtain ⟨after, splitLate, -⟩ := late
  rw [splitLate, split, ← List.append_assoc] at whole
  rw [← List.append_cancel_right whole] at infos
  exact ⟨⟨before, split, fun message member => infos message (List.mem_append_right _ member)⟩,
    ⟨after, splitLate, fun message member => infos message (List.mem_append_left _ member)⟩⟩

theorem not_quiet_report {scope : Scope} {note : Note} (grave : note.level ≠ .info) :
    ¬ scope.Quiet (scope.report note) := by
  rintro ⟨messages, whole, infos⟩
  change [note.onLine scope.frame.cursor.line] ++ scope.machine.log.newest = _ at whole
  have single := List.append_cancel_right whole
  exact grave (infos _ (single ▸ List.mem_singleton_self _))

end Scope

namespace Effect

variable {declaration : String} {before after : Scope}

theorem declare_quiet (declares : declare declaration before = .ok () after)
    (quiet : before.Quiet after) :
    isPredefined before.machine (declaredName declaration).toList = false ∧
      before.frame.locals.has (declaredName declaration) = false ∧
      ∃ value middle, declaredValue declaration before = .ok value middle ∧
        after = middle.assign (declaredName declaration) value := by
  have comes := declared declaration before
  generalize result : declare declaration before = answer at comes
  cases comes with
  | refused grave =>
      cases result.symm.trans declares
      exact absurd quiet (Scope.not_quiet_report grave)
  | @replaced note grave =>
      obtain ⟨value, middle, found, rfl⟩ := assignDeclared_ok (result.symm.trans declares)
      obtain ⟨messages, grown⟩ := ((consults_declaredValue declaration).ok found).log
      have early : before.machine.log.Gains (fun _ => True) (before.report note).machine.log :=
        .emit trivial
      exact absurd (quiet.parts early ⟨messages, grown, fun _ _ => trivial⟩).1
        (Scope.not_quiet_report grave)
  | added free fresh => exact ⟨free, fresh, assignDeclared_ok (result.symm.trans declares)⟩

/-- The variable has its declared value behind a dollar sign, and reading it has no effect. -/
theorem declare_read (declares : declare declaration before = .ok () after)
    (quiet : before.Quiet after) (own : (declaredName declaration).toList.head? ≠ some '_') :
    ∃ value middle, declaredValue declaration before = .ok value middle ∧
      Reference.resolve ("$" ++ declaredName declaration) after = .ok value after ∧
      Reference.read ("$" ++ declaredName declaration) after = .ok value after := by
  obtain ⟨-, -, value, middle, found, rfl⟩ := declare_quiet declares quiet
  refine ⟨value, middle, found, ?_, ?_⟩
  · rw [Reference.resolve_named own, Scope.get?_assign]
  · rw [Reference.read_named own, Reference.resolve_named own, Scope.get?_assign]

theorem declare_added {value : String} {middle : Scope}
    (filled : (Text.cut ',' declaration.toList).1.isEmpty = false)
    (free : isPredefined before.machine (Text.cut ',' declaration.toList).1 = false)
    (fresh : before.frame.locals.has (declaredName declaration) = false)
    (found : declaredValue declaration before = .ok value middle) :
    declare declaration before = .ok () (middle.assign (declaredName declaration) value) := by
  rw [declare_eq, if_neg (Bool.eq_false_iff.mp filled), get_bind,
    if_neg (Bool.eq_false_iff.mp free), get_bind, if_neg (Bool.eq_false_iff.mp fresh)]
  change (declaredValue declaration >>= _) before = _
  rw [bind_apply, found]
  rfl

def scopeExample : Scope := ⟨Machine.plainExample, ⟨"main", [], .empty, .start⟩⟩

theorem read_scopeExample {text : String}
    (plain : (Reference.marks scopeExample.machine.extended).all
      (text.toList.head? != some ·) = true) :
    Reference.read text scopeExample = .ok text scopeExample :=
  (Reference.read_unbounded rfl).trans (Reference.resolve_unmarked fun mark member =>
    bne_iff_ne.mp (List.all_eq_true.mp plain mark member))

theorem declare_dollarExample :
    declare "$_x y,7" scopeExample = .ok () (scopeExample.assign "$_x y" "7") :=
  declare_added rfl (by decide +kernel) rfl (read_scopeExample (by decide +kernel))

theorem declare_underscoreExample :
    declare "_x,5" scopeExample = .ok () (scopeExample.assign "_x" "5") :=
  declare_added rfl (by decide +kernel) rfl (read_scopeExample (by decide +kernel))

theorem declare_read_dollarExample :
    ∃ value middle, declaredValue "$_x y,7" scopeExample = .ok value middle ∧
      Reference.resolve ("$" ++ declaredName "$_x y,7") (scopeExample.assign "$_x y" "7") =
        .ok value (scopeExample.assign "$_x y" "7") ∧
      Reference.read ("$" ++ declaredName "$_x y,7") (scopeExample.assign "$_x y" "7") =
        .ok value (scopeExample.assign "$_x y" "7") :=
  declare_read declare_dollarExample (.refl _) (by decide +kernel)

theorem isPredefined_underscore {machine : Machine} {rest : String}
    (single : rest.toList.head? ≠ some '_')
    (free : isPredefined machine ("_" ++ rest).toList = false) :
    machine.predefined.lookup? rest = none := by
  have chars : ("_" ++ rest).toList = '_' :: rest.toList := String.toList_append
  have bare : bareName ('_' :: rest.toList) = rest.toList := by
    rw [show bareName ('_' :: rest.toList) = ('_' :: rest.toList).dropWhile (· == '_') from rfl,
      List.dropWhile_cons_of_pos (by decide)]
    cases split : rest.toList with
    | nil => rfl
    | cons c chars =>
        rw [split] at single
        exact List.dropWhile_cons_of_neg fun same => single (congrArg some (beq_iff_eq.mp same))
  rw [isPredefined, chars, bare, String.ofList_toList, Bool.or_eq_false_iff] at free
  exact Option.isSome_eq_false_iff.mp free.2 |> Option.isNone_iff_eq_none.mp

/-- A name that begins with an underscore can be declared, but behind a dollar sign it is no name of
a variable. -/
theorem declare_underscore {rest : String} (name : declaredName declaration = "_" ++ rest)
    (single : rest.toList.head? ≠ some '_') (declares : declare declaration before = .ok () after)
    (quiet : before.Quiet after) :
    Reference.resolve ("$" ++ declaredName declaration) after =
      .ok ("$" ++ declaredName declaration) after := by
  obtain ⟨free, -, value, middle, found, rfl⟩ := declare_quiet declares quiet
  rw [name] at free ⊢
  have predefined : middle.machine.predefined = before.machine.predefined :=
    (congrArg (fun scope : Scope => scope.machine.predefined)
      ((consults_declaredValue declaration).ok found).rest :)
  have unknown : (middle.assign ("_" ++ rest) value).machine.predefined.lookup? rest = none :=
    (congrArg (·.lookup? rest) predefined).trans (isPredefined_underscore single free)
  have token : "$" ++ ("_" ++ rest) = "$_" ++ rest := String.append_assoc.symm
  rw [token, Reference.resolve_predefined, unknown]

/-- Not every declared variable can be read. -/
theorem unread_underscoreExample : ¬ ∀ declaration before after,
    declare declaration before = .ok () after → before.Quiet after →
    ∃ value middle, declaredValue declaration before = .ok value middle ∧
      Reference.resolve ("$" ++ declaredName declaration) after = .ok value after := by
  intro reads
  obtain ⟨value, middle, found, read⟩ := reads _ _ _ declare_underscoreExample (.refl _)
  have declaredFive : declaredValue "_x,5" scopeExample = .ok "5" scopeExample :=
    read_scopeExample (by decide +kernel)
  have named : declaredName "_x,5" = "_" ++ "x" := rfl
  have token := declare_underscore named (by decide) declare_underscoreExample (.refl _)
  cases found.symm.trans declaredFive
  obtain ⟨same, -⟩ := EStateM.Result.ok.inj (read.symm.trans token)
  exact absurd same (by decide +kernel)

end Effect

end LineScript

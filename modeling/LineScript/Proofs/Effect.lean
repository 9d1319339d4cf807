import LineScript.Proofs.Action

/-!
What the effects of the instructions keep and how they can end early. Most of them never do: the
values of the arguments are read with a report where they make no sense. What is drawn, saved,
slept, allocated or matched against a pattern can meet a limit of the machine.
-/

namespace LineScript

open LineScript.Action

def Action.Raises (fault : Fault) : Prop :=
  ∃ exception, fault = .exception exception

theorem Operation.eval_ok {operation : Operation}
    (other : operation ≠ .countMatches) (inputs : List String) :
    ∃ computed, operation.eval inputs = .ok computed := by
  unfold Operation.eval
  split <;> first | exact ⟨_, rfl⟩ | exact absurd rfl other

theorem Locals.has_erase {locals : Locals} {name other : String}
    (present : (locals.erase name).has other = true) : locals.has other = true := by
  obtain ⟨value, found⟩ := Option.isSome_iff_exists.mp present
  have member : (other, value) ∈ locals.entries := (List.mem_filter.mp (mem_of_lookup found)).1
  exact List.lookup_isSome_iff.mpr ⟨_, member, beq_self_eq_true other⟩

namespace Effect

variable {faults : Fault → Prop}

/-! ## Output and variables -/

theorem keeps_write (args : List String) (ending warning : String) :
    Keeps faults (write args ending warning) := by
  unfold write
  split
  · exact keeps_report _ _ _
  · exact keeps_store fun _ => ⟨rfl, rfl, rfl, rfl, rfl, rfl, rfl, rfl⟩

theorem keeps_declare (declaration : String) : Keeps faults (declare declaration) := by
  unfold declare
  dsimp only
  split
  · exact keeps_report _ _ _
  refine keeps_get fun scope => ?_
  split
  · exact keeps_report _ _ _ scope
  next free =>
  generalize named : String.ofList (Text.cut ',' declaration.toList).1 = name
  have free : scope.machine.predefined.contains name = false := by
    rw [isPredefined, Bool.or_eq_true, not_or] at free
    simpa [← named] using free.1
  -- The name is checked before the value is read, which does not change what is predefined.
  have assigns {value : Action String} (keeps : Keeps faults value) {middle : Scope}
      (kept : scope.Kept middle) : KeepsAt faults (do
        let value ← value
        modify fun scope => scope.assign name value) middle := by
    refine keepsAt_bind (keeps middle) fun text last keptLast => ?_
    refine Scope.kept_assign text (.inr ?_)
    rw [keptLast.machine.predefined, kept.machine.predefined, free]
  change KeepsAt faults (if scope.frame.locals.has name = true then _ else _ : Action Unit) scope
  cases (Text.cut ',' declaration.toList).2 with
  | some text =>
      have continues {middle : Scope} (kept : scope.Kept middle) :=
        assigns (Reference.keeps_read (String.ofList text)) kept
      split
      · exact keepsAt_bind (keeps_report _ _ _ scope) fun _ _ kept => continues kept
      · exact continues (.refl scope)
  | none =>
      have continues {middle : Scope} (kept : scope.Kept middle) := assigns (keeps_pure "0") kept
      split
      · exact keepsAt_bind (keeps_report _ _ _ scope) fun _ _ kept => continues kept
      · exact continues (.refl scope)

theorem keeps_remove (name : String) : Keeps faults (remove name) := by
  refine keeps_get fun scope => ?_
  split
  · exact ⟨.refl scope.machine, rfl, rfl, rfl, fun _ present => .inl (Locals.has_erase present)⟩
  · exact keeps_report _ _ _ scope

theorem keeps_compare (comparison left right : String) :
    Keeps faults (compare comparison left right) := by
  have keepsResult (result : Bool) : Keeps faults (do
      Action.onMachine fun machine => { machine with compareFlag := result }
      return result) :=
    keeps_bind (keeps_store fun _ => ⟨rfl, rfl, rfl, rfl, rfl, rfl, rfl, rfl⟩) fun _ => keeps_pure _
  unfold compare
  split
  · exact keeps_bind (keeps_pure _) keepsResult
  · exact keeps_bind (keeps_report _ _ _) fun _ => keeps_bind (keeps_pure _) keepsResult

theorem keeps_random (destination low high : String) :
    Keeps faults (random destination low high) := by
  refine keeps_bind (keeps_take _) fun low => keeps_bind (keeps_take _) fun high => ?_
  split
  · exact keeps_bind (keeps_report _ _ _) fun _ => keeps_setVariable _ _
  · refine keeps_bind (keeps_onScope fun scope => ?_) fun _ => keeps_setVariable _ _
    exact .ofMachine ⟨rfl, rfl, rfl, rfl, rfl, rfl, rfl, List.suffix_rfl⟩

theorem keeps_operate {operation : Operation} (other : operation ≠ .countMatches)
    (destination : String) (rest : List String) :
    Keeps faults (operate operation destination rest) := by
  refine keeps_bind (keeps_onScope fun scope => scope.kept_operands _ _ _) fun inputs => ?_
  obtain ⟨computed, evaluated⟩ := operation.eval_ok other inputs
  rw [evaluated]
  exact keeps_bind (keeps_take computed) fun value => keeps_setVariable _ _

theorem keeps_operate_raises (operation : Operation) (destination : String) (rest : List String) :
    Keeps Raises (operate operation destination rest) := by
  refine keeps_bind (keeps_onScope fun scope => scope.kept_operands _ _ _) fun inputs => ?_
  split
  · exact keeps_bind (keeps_take _) fun value => keeps_setVariable _ _
  · exact keeps_raise ⟨_, rfl⟩

/-! ## Colours -/

theorem keeps_rgbToHex (destination red green blue : String) :
    Keeps faults (rgbToHex destination red green blue) :=
  keeps_bind (keeps_take _) fun _ => keeps_bind (keeps_take _) fun _ =>
    keeps_bind (keeps_take _) fun _ => keeps_setVariable _ _

theorem keeps_colorOf (text : String) : Keeps faults (colorOf text) := by
  unfold colorOf
  split
  · exact keeps_pure _
  · exact keeps_bind (keeps_report _ _ _) fun _ => keeps_pure _

theorem keeps_hexToRgb (red green blue text : String) :
    Keeps faults (hexToRgb red green blue text) :=
  keeps_bind (keeps_colorOf text) fun _ => keeps_bind (keeps_setVariable _ _) fun _ =>
    keeps_bind (keeps_setVariable _ _) fun _ => keeps_setVariable _ _

/-! ## Stores -/

theorem keeps_allocate (amount : String) : Keeps Raises (allocate amount) := by
  refine keeps_bind (keeps_take _) fun amount => ?_
  split
  · exact keeps_report _ _ _
  refine keeps_get fun scope => ?_
  dsimp only
  split
  · exact keeps_raise ⟨_, rfl⟩ scope
  · refine Keeps.keepsAt (keeps_store fun machine => ?_) scope
    exact ⟨rfl, rfl, rfl, rfl, rfl, rfl, rfl, rfl⟩

theorem keeps_reportTimes (level : Level) (text : String) (code : Code) (count : Nat) :
    Keeps faults (reportTimes level text code count) := by
  induction count with
  | zero => exact keeps_pure ()
  | succ count ih => exact keeps_bind (keeps_report _ _ _) fun _ => ih

theorem keeps_free (amount : String) : Keeps faults (free amount) := by
  refine keeps_bind (keeps_take _) fun amount => keeps_get fun scope => ?_
  refine Keeps.keepsAt (keeps_bind ?_ fun _ => keeps_reportTimes _ _ _ _) scope
  exact keeps_store fun _ => ⟨rfl, rfl, rfl, rfl, rfl, rfl, rfl, rfl⟩

theorem keeps_cellIndex (text : String) : Keeps faults (cellIndex text) := by
  unfold cellIndex
  split
  · exact keeps_bind (keeps_report _ _ _) fun _ => keeps_pure _
  refine keeps_get fun scope => ?_
  dsimp only
  split
  · exact keeps_pure _ scope
  · exact keeps_bind (keeps_report _ _ _) (fun _ => keeps_pure _) scope

theorem keeps_setMemory (address value : String) : Keeps faults (setMemory address value) := by
  refine keeps_bind (keeps_cellIndex address) fun found => ?_
  cases found with
  | some index => exact keeps_store fun _ => ⟨rfl, rfl, rfl, rfl, rfl, rfl, rfl, rfl⟩
  | none => exact keeps_pure ()

theorem keeps_getMemory (destination address : String) :
    Keeps faults (getMemory destination address) :=
  keeps_bind (keeps_cellIndex address) fun _ => keeps_get fun scope => keeps_setVariable _ _ scope

theorem keeps_pop (destination : String) : Keeps faults (pop destination) := by
  refine keeps_get fun scope => ?_
  split
  · refine Keeps.keepsAt (keeps_bind ?_ fun _ => keeps_setVariable _ _) scope
    exact keeps_store fun _ => ⟨rfl, rfl, rfl, rfl, rfl, rfl, rfl, rfl⟩
  · exact keeps_bind (keeps_report _ _ _) (fun _ => keeps_setVariable _ _) scope

theorem keeps_dequeue (destination : String) : Keeps faults (dequeue destination) := by
  refine keeps_get fun scope => ?_
  split
  · refine Keeps.keepsAt (keeps_bind ?_ fun _ => keeps_setVariable _ _) scope
    exact keeps_store fun _ => ⟨rfl, rfl, rfl, rfl, rfl, rfl, rfl, rfl⟩
  · exact keeps_bind (keeps_report _ _ _) (fun _ => keeps_setVariable _ _) scope

theorem keeps_sleep (milliseconds : String) : Keeps Raises (sleep milliseconds) := by
  refine keeps_bind (keeps_take _) fun milliseconds => ?_
  split
  · exact keeps_raise ⟨_, rfl⟩
  split
  · exact keeps_raise ⟨_, rfl⟩
  refine keeps_get fun scope => ?_
  split
  · exact keeps_report _ _ _ scope
  · exact keeps_pure () scope

/-! ## The canvas -/

theorem keeps_onCanvas (change : Canvas → Canvas) : Keeps faults (onCanvas change) :=
  keeps_store fun _ => ⟨rfl, rfl, rfl, rfl, rfl, rfl, rfl, rfl⟩

theorem keeps_setPen (text : String) : Keeps faults (setPen text) := by
  refine keeps_bind (keeps_colorOf text) fun found => ?_
  cases found with
  | some color => exact keeps_onCanvas _
  | none => exact keeps_pure ()

theorem keeps_fillCanvas (text : String) : Keeps faults (fillCanvas text) := by
  refine keeps_bind (keeps_colorOf text) fun found => ?_
  cases found with
  | some color => exact keeps_onCanvas _
  | none => exact keeps_pure ()

theorem keeps_draw (shape : Canvas → Ink → Int → Int → Int → Int → Nat → Canvas.Drawn)
    (a b c d : String) : Keeps Raises (draw shape a b c d) := by
  refine keeps_bind (keeps_take _) fun a => keeps_bind (keeps_take _) fun b =>
    keeps_bind (keeps_take _) fun c => keeps_bind (keeps_take _) fun d =>
    keeps_bind (keeps_onScope fun scope => ?_) fun fault => ?_
  · exact .ofMachine ⟨rfl, rfl, rfl, rfl, rfl, rfl, rfl, List.suffix_rfl⟩
  · cases fault with
    | some fault => exact keeps_raise ⟨_, rfl⟩
    | none => exact keeps_pure ()

theorem keeps_resizeCanvas (width height : String) : Keeps faults (resizeCanvas width height) := by
  refine keeps_bind (keeps_take _) fun width => keeps_bind (keeps_take _) fun height => ?_
  split
  · exact keeps_report _ _ _
  · exact keeps_onCanvas _

theorem keeps_saveImage (path : String) : Keeps Raises (saveImage path) := by
  unfold saveImage
  split
  · exact keeps_report _ _ _
  split
  · exact keeps_raise ⟨_, rfl⟩
  refine keeps_get fun scope => ?_
  dsimp only
  split
  · refine Keeps.keepsAt (keeps_store fun machine => ?_) scope
    exact ⟨rfl, rfl, rfl, rfl, rfl, rfl, rfl, rfl⟩
  · exact keeps_report _ _ _ scope

end Effect

end LineScript

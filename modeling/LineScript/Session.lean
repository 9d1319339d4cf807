import LineScript.Machine.Step

/-!
A session: one frame that is worked with step by step. Frames that a failed step leaves behind stay
active and count towards the depth of later steps.
-/

namespace LineScript

inductive Phase where
  | searching
  | running
  | suspended
  | terminated
deriving DecidableEq, Repr

namespace Phase

def name : Phase → String
  | searching => "searching"
  | running => "running"
  | suspended => "suspended"
  | terminated => "terminated"

end Phase

inductive Remnant where
  | self
  | atLine (line : Nat)
deriving DecidableEq, Repr

/-- A frame with the machine, how far it has come, and what failed steps have left behind, the
outermost frame first. -/
structure Session where
  scope : Scope
  phase : Phase
  remnants : List Remnant

namespace Session

def ofFrame (machine : Machine) (entry : String) (args : List String) (locals : Locals) :
    Session :=
  ⟨⟨machine, ⟨entry, args, locals, .start⟩⟩, .searching, []⟩

def floor (session : Session) : Floor :=
  let line :=
    match session.remnants.getLast? with
    | some .self => session.scope.frame.cursor.line
    | some (.atLine line) => line
    | none => 0
  ⟨session.remnants.length, line⟩

def perform {α : Type} (session : Session) (action : Action α) : Except Fault α × Session :=
  match action session.scope with
  | .ok value scope => (.ok value, { session with scope })
  | .error fault scope => (.error fault, { session with scope })

def openFrame (script : Script) (session : Session) : Except Fault Unit × Session :=
  match session.perform (Effect.openDefinition script) with
  | (.ok _, session) => (.ok (), { session with phase := .running })
  | (.error (.failure failure), session) =>
      (.error (.failure failure), { session with phase := .terminated })
  | (.error fault, session) => (.error fault, session)

def reposition (script : Script) (next : Int) : Action Unit := do
  let (cursor, fault) := (← get).frame.cursor.reposition script next
  modify fun scope => { scope with frame := { scope.frame with cursor } }
  match fault with
  | some move => Action.raise (.backwardMove move)
  | none => return ()

def absorb (session : Session) (ending : Ending) (state : State) :
    Except Fault (Option Signal) × Session :=
  let session := { session with scope := ⟨state.scope.machine, state.outermost⟩ }
  match ending with
  | .finished signal => (.ok signal, session)
  | .failed fault =>
      let lines := state.activations.map fun activation => activation.frame.cursor.line
      let above := (lines.drop 1).map Remnant.atLine
      let left := if state.oneLine then above else .self :: above
      (.error fault, { session with remnants := session.remnants ++ left })

def runOpen (script : Script) (fuel : Nat) (next : Option Int) (session : Session) :
    Option (Except Fault (Option Signal) × Session) :=
  match session.scope.machine.checkDepth session.floor.depth session.floor.line with
  | some (fault, machine) =>
      some (.error fault, { session with scope := { session.scope with machine } })
  | none =>
      let floor := session.floor
      let moved :=
        match next with
        | some next => session.perform (reposition script next)
        | none => (.ok (), session)
      match moved with
      | (.error fault, session) => some (.error fault, session)
      | (.ok _, session) =>
          let session := { session with phase := .running }
          (State.run script fuel ⟨session.scope, [], .running, floor, false⟩).map
            fun (ending, state) =>
              match session.absorb ending state with
              | (.ok signal, session) =>
                  let phase :=
                    match signal with
                    | some (.resume _ _) => Phase.suspended
                    | _ => Phase.terminated
                  (.ok signal, { session with phase })
              | (.error fault, session) => (.error fault, session)

def run (script : Script) (fuel : Nat) (next : Option Int) (session : Session) :
    Option (Except Fault (Option Signal) × Session) :=
  if session.phase == .searching then
    match session.openFrame script with
    | (.error fault, session) => some (.error fault, session)
    | (.ok _, session) => session.runOpen script fuel next
  else session.runOpen script fuel next

def execute (script : Script) (fuel : Nat) (text : String) (session : Session) :
    Option (Except Fault (Option Signal) × Session) :=
  let state : State := ⟨session.scope, [], .running, session.floor, true⟩
  let line := Line.ofText session.scope.frame.cursor.line text
  match state.execute script line with
  | .stop ending state => some (session.absorb ending state)
  | .next state =>
      (state.run script fuel).map fun (ending, state) => session.absorb ending state

def operands (args : List String) (count : Nat) : Action (List String) :=
  match args with
  | destination :: rest => Action.onScope fun scope => scope.operands destination rest count
  | [] => if count == 0 then return [] else Action.raise .missingArgument

def spawn (script : Script) (entry : String) : Action Nat :=
  match script.entryLine? entry with
  | some line => return line
  | none => do
      Action.onMachine (·.report 0 ⟨.error, Effect.entryMissing entry, .entryPointNotFound⟩)
      throw (.failure ⟨.entryPointNotFound, Effect.entryMissing entry,
        Code.entryPointNotFound.number, some 0, some entry⟩)

end Session

end LineScript

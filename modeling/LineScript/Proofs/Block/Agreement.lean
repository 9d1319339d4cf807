import LineScript.Proofs.Block.Call

/-!
The run of a printed listing is what its blocks mean. Where an evaluation comes to an end, so does the
run, by induction on the evaluation; where the run comes to an end, so does the evaluation, by
induction on the number of steps.
-/

namespace LineScript

open LineScript.Action

/-! ## Blocks inside blocks -/

namespace Block

variable {settings : Settings}

theorem WellFormed.inner {block inner : Block} (formed : block.WellFormed settings)
    (nested : inner.Nested) (part : inner.lines ⊆ block.lines) : inner.WellFormed settings :=
  ⟨nested, fun text member => formed.directives text (part member),
    fun text member => formed.inside text (part member)⟩

theorem size_blank (text : String) (rest : Block) : (blank text rest).size = rest.size + 1 := rfl

theorem size_line (text : String) (rest : Block) : (line text rest).size = rest.size + 1 := rfl

theorem size_branch (header : String) (yes : Block) (closer : String) (rest : Block) :
    (branch header yes closer rest).size = 1 + yes.size + 1 + rest.size := by
  simp only [size, lines, List.length_cons, List.length_append]
  omega

theorem size_fork (header : String) (yes : Block) (divider : String) (no : Block)
    (closer : String) (rest : Block) :
    (fork header yes divider no closer rest).size =
      1 + yes.size + 1 + no.size + 1 + rest.size := by
  simp only [size, lines, List.length_cons, List.length_append]
  omega

theorem size_loop (kind : LoopKind) (header : String) (body : Block) (closer : String)
    (rest : Block) :
    (loop kind header body closer rest).size = 1 + body.size + 1 + rest.size := by
  simp only [size, lines, List.length_cons, List.length_append]
  omega

end Block

namespace Seat

variable {script : Script} {settings : Settings} {seat : Seat} {bound : Nat} {cursor : Cursor}
  {store : Store}

theorem leads_blank {text : String} (found : script.line? (cursor.line + 1) = some text)
    (blank : isSkippable text = true) :
    Step.Leads script 1 (.next (seat.state cursor store))
      (.next (seat.state ⟨cursor.line + 1, some text⟩ store)) := by
  refine .next ?_
  change Step.Leads script 0 ((seat.state cursor store).advance script) _
  rw [State.advance_blank (by exact found) blank]
  exact .refl _

end Seat

section Blocks

variable {script : Script} {settings : Settings} {bound : Nat}
  {evalThrough : Activity → Nat → Block → String → Action Unit → Store →
    Option (Except Exit Unit × Store)}
  {seat : Seat} {cursor : Cursor} {store : Store} {inside : Block}

theorem ThroughAgrees.toEnd (through : ThroughAgrees script settings bound evalThrough)
    (ready : store.machine.Ready settings) (defined : script.entryLine? seat.entry ≠ none)
    (formed : inside.WellFormed settings) {closer : String}
    (lines : script.HasLines cursor.line (inside.lines ++ [closer]))
    (closed : BlockKind.conditional.ClosedBy closer) (fits : LineText.Fits settings closer) :
    seat.Agrees script bound 0 (seat.AtLine (cursor.line + inside.size + 1))
      (.next (seat.state cursor store)) store
      (evalThrough seat.activity cursor.line inside closer (pure ()) store) := by
  obtain ⟨above, last⟩ := Script.hasLines_append.mp lines
  refine through _ _ _ _ _ _ _ (.stands seat cursor ready ⟨defined, formed, above⟩ ?_)
  intro place after here readyAfter
  have found : script.line? (place.line + 1) = some closer := by
    rw [here]
    exact (Script.hasLines_cons.mp last).1
  rw [← here]
  exact Seat.agrees_endIf readyAfter found closed fits

theorem ThroughAgrees.toDivider (through : ThroughAgrees script settings bound evalThrough)
    (ready : store.machine.Ready settings) (defined : script.entryLine? seat.entry ≠ none)
    (formed : inside.WellFormed settings) {divider : String}
    (lines : script.HasLines cursor.line (inside.lines ++ [divider]))
    (divided : BlockKind.DividedBy divider) (fits : LineText.Fits settings divider) {target : Nat}
    (skip : script.blockEnd? (cursor.line + inside.size + 1 : Nat) ifMarker "ENDIF" [] =
      some target) :
    seat.Agrees script bound 0 (seat.AtLine target)
      (.next (seat.state cursor store)) store
      (evalThrough seat.activity cursor.line inside divider (pure ()) store) := by
  obtain ⟨above, last⟩ := Script.hasLines_append.mp lines
  refine through _ _ _ _ _ _ _ (.stands seat cursor ready ⟨defined, formed, above⟩ ?_)
  intro place after here readyAfter
  have found : script.line? (place.line + 1) = some divider := by
    rw [here]
    exact (Script.hasLines_cons.mp last).1
  rw [← here] at skip
  exact Seat.agrees_divider readyAfter found divided fits skip

variable {header closer : String} {rest : Block} {below : Eval Unit}
  {finish : Unit → Store → Step → Prop}

theorem ThroughAgrees.branch (through : ThroughAgrees script settings (bound - 1) evalThrough)
    {yes : Block} (ready : store.machine.Ready settings)
    (has : seat.Has script settings cursor.line (.branch header yes closer rest))
    (goes : ∀ after last, after.machine.Ready settings →
      seat.Has script settings (cursor.line + 1 + yes.size + 1) rest →
      seat.AtLine (cursor.line + 1 + yes.size + 1) () after last →
      seat.Agrees script (bound - 1) 0 finish last after (below after)) :
    seat.Agrees script bound 0 finish (.next (seat.state cursor store)) store ((do
      let taken ← seat.activity.line (cursor.line + 1) header fun args =>
        return Effect.branchTaken (← get) args
      if taken then
        (evalThrough seat.activity (cursor.line + 1) yes closer (pure ()) : Eval Unit)
      below : Eval Unit) store) := by
  obtain ⟨defined, formed, lines⟩ := has
  obtain ⟨opened, nestedYes, closed, nestedRest⟩ := formed.nested
  obtain ⟨inner, lower⟩ := Block.hasLines_enclosed lines
  have inside := formed.inside header List.mem_cons_self opened.1
  have fits := (formed.inside closer (by simp [Block.lines]) closed.1).fits
  have skip := Block.blockEnd?_nested .conditional (.inr ⟨rfl, rfl⟩) nestedYes inner closed.1
    (.inl closed.2)
  have formedYes := formed.inner nestedYes fun text member => by simp [Block.lines, member]
  have formedRest := formed.inner nestedRest fun text member => by simp [Block.lines, member]
  refine ((Seat.agrees_condition ready (Script.hasLines_cons.mp lines).1 opened inside
    skip).bind ?_).weaken
  intro taken after last kept here
  have readyAfter := kept.ready ready
  cases taken with
  | false => exact goes after last readyAfter ⟨defined, formedRest, lower⟩ here
  | true =>
      obtain ⟨place, rfl⟩ := here
      refine (through.toEnd readyAfter defined formedYes inner closed fits).bind ?_
      intro _ later last keptLater here
      exact goes later last (keptLater.ready readyAfter) ⟨defined, formedRest, lower⟩ here

theorem ThroughAgrees.fork (through : ThroughAgrees script settings (bound - 1) evalThrough)
    {yes no : Block} {divider : String} (ready : store.machine.Ready settings)
    (has : seat.Has script settings cursor.line (.fork header yes divider no closer rest))
    (goes : ∀ after last, after.machine.Ready settings →
      seat.Has script settings (cursor.line + 1 + yes.size + 1 + no.size + 1) rest →
      seat.AtLine (cursor.line + 1 + yes.size + 1 + no.size + 1) () after last →
      seat.Agrees script (bound - 1) 0 finish last after (below after)) :
    seat.Agrees script bound 0 finish (.next (seat.state cursor store)) store ((do
      let taken ← seat.activity.line (cursor.line + 1) header fun args =>
        return Effect.branchTaken (← get) args
      if taken then
        (evalThrough seat.activity (cursor.line + 1) yes divider (pure ()) : Eval Unit)
      else
        (evalThrough seat.activity (cursor.line + 1 + yes.size + 1) no closer (pure ()) : Eval Unit)
      below : Eval Unit) store) := by
  obtain ⟨defined, formed, lines⟩ := has
  obtain ⟨opened, nestedYes, divided, nestedNo, closed, nestedRest⟩ := formed.nested
  obtain ⟨first, -⟩ := Block.hasLines_enclosed lines
  have middle : script.HasLines (cursor.line + 1 + yes.size)
      (divider :: (no.lines ++ closer :: rest.lines)) := by
    rw [Block.lines, Script.hasLines_cons, Script.hasLines_append] at lines
    exact lines.2.2
  obtain ⟨second, lower⟩ := Block.hasLines_enclosed middle
  have inside := formed.inside header List.mem_cons_self opened.1
  have fitsDivider := (formed.inside divider (by simp [Block.lines]) divided.1).fits
  have fits := (formed.inside closer (by simp [Block.lines]) closed.1).fits
  -- A condition that fails skips to the divider; a branch that is done skips from the divider
  -- to the end marker.
  have skip := Block.blockEnd?_nested .conditional (.inr ⟨rfl, rfl⟩) nestedYes first divided.1
    (.inr (by simp [divided.2]))
  have leave := Block.blockEnd?_nested .conditional (.inl rfl) nestedNo second closed.1
    (.inl closed.2)
  have formedYes := formed.inner nestedYes fun text member => by simp [Block.lines, member]
  have formedNo := formed.inner nestedNo fun text member => by simp [Block.lines, member]
  have formedRest := formed.inner nestedRest fun text member => by simp [Block.lines, member]
  refine ((Seat.agrees_condition ready (Script.hasLines_cons.mp lines).1 opened inside
    skip).bind ?_).weaken
  intro taken after last kept here
  have readyAfter := kept.ready ready
  cases taken with
  | false =>
      obtain ⟨place, rfl⟩ := here
      refine (through.toEnd readyAfter defined formedNo second closed fits).bind ?_
      intro _ later last keptLater here
      exact goes later last (keptLater.ready readyAfter) ⟨defined, formedRest, lower⟩ here
  | true =>
      obtain ⟨place, rfl⟩ := here
      refine (through.toDivider readyAfter defined formedYes first divided fitsDivider leave).bind ?_
      intro _ later last keptLater here
      exact goes later last (keptLater.ready readyAfter) ⟨defined, formedRest, lower⟩ here

theorem PassesAgree.loop
    {evalPasses : Activity → LoopBlock → LoopPlan → Bool → Store →
      Option (Except Exit Unit × Store)}
    (passes : PassesAgree script settings (bound - 1) evalPasses) {kind : LoopKind} {body : Block}
    (ready : store.machine.Ready settings)
    (has : seat.Has script settings cursor.line (.loop kind header body closer rest))
    (goes : ∀ after last, after.machine.Ready settings →
      seat.Has script settings (cursor.line + 1 + body.size + 1) rest →
      seat.AtLine (cursor.line + 1 + body.size + 1) () after last →
      seat.Agrees script (bound - 1) 0 finish last after (below after)) :
    seat.Agrees script bound 0 finish (.next (seat.state cursor store)) store ((do
      let plan ← seat.activity.line (cursor.line + 1) header fun args =>
        kind.plan (args.headD "") (LineText.pieces header)
      (evalPasses seat.activity ⟨kind, cursor.line + 1, header, body, closer⟩ plan
        kind.entersFirst : Eval Unit)
      below : Eval Unit) store) := by
  obtain ⟨defined, formed, lines⟩ := has
  obtain ⟨opened, nestedBody, closed, nestedRest⟩ := formed.nested
  obtain ⟨inner, lower⟩ := Block.hasLines_enclosed lines
  have fits := (formed.inside header List.mem_cons_self opened.1).fits
  have fitsCloser := (formed.inside closer (by simp [Block.lines]) closed.1).fits
  have formedBody := formed.inner nestedBody fun text member => by simp [Block.lines, member]
  have formedRest := formed.inner nestedRest fun text member => by simp [Block.lines, member]
  refine ((Seat.agrees_header defined ready (Script.hasLines_cons.mp lines).1 opened
    fits).bind ?_).weaken
  rintro plan after _ kept rfl
  have readyAfter := kept.ready ready
  have stands : LoopBlock.StandsIn script settings seat
      ⟨kind, cursor.line + 1, header, body, closer⟩ :=
    ⟨defined, formedBody, inner, closed, fitsCloser⟩
  have unknown : LoopBlock.MayEnd ⟨kind, cursor.line + 1, header, body, closer⟩ none := by
    simp [LoopBlock.MayEnd]
  refine (passes _ _ plan kind.entersFirst after _
    (.stands seat none readyAfter stands unknown)).bind ?_
  intro _ later last keptLater here
  exact goes later last (keptLater.ready readyAfter) ⟨defined, formedRest, lower⟩ here

theorem blocksAgree
    {eval : Activity → Nat → Block → Store → Option (Except Exit Unit × Store)}
    {evalPasses : Activity → LoopBlock → LoopPlan → Bool → Store →
      Option (Except Exit Unit × Store)}
    {follow : Activity → Nat → String → Flow → Store → Option (Except Exit Unit × Store)}
    (blocks : BlocksAgree script settings (bound - 1) eval)
    (passes : PassesAgree script settings (bound - 1) evalPasses)
    (through : ThroughAgrees script settings (bound - 1) evalThrough)
    (follows : FollowAgrees script settings (bound - 1) follow) :
    BlocksAgree script settings bound fun activity above block =>
      match block with
      | .done => (pure () : Eval Unit)
      | .blank _ rest => eval activity (above + 1) rest
      | .line text rest => (do
          let flow ← activity.line (above + 1) text (LineText.carryOut (above + 1) text)
          (follow activity (above + 1) text flow : Eval Unit)
          (eval activity (above + 1) rest : Eval Unit) : Eval Unit)
      | .branch header yes closer rest => (do
          let close := above + 1 + yes.size + 1
          let taken ← activity.line (above + 1) header fun args =>
            return Effect.branchTaken (← get) args
          if taken then
            (evalThrough activity (above + 1) yes closer (pure ()) : Eval Unit)
          (eval activity close rest : Eval Unit) : Eval Unit)
      | .fork header yes divider no closer rest => (do
          let divide := above + 1 + yes.size + 1
          let close := divide + no.size + 1
          let taken ← activity.line (above + 1) header fun args =>
            return Effect.branchTaken (← get) args
          if taken then
            (evalThrough activity (above + 1) yes divider (pure ()) : Eval Unit)
          else
            (evalThrough activity divide no closer (pure ()) : Eval Unit)
          (eval activity close rest : Eval Unit) : Eval Unit)
      | .loop kind header body closer rest => (do
          let plan ← activity.line (above + 1) header fun args =>
            kind.plan (args.headD "") (LineText.pieces header)
          (evalPasses activity ⟨kind, above + 1, header, body, closer⟩ plan
            kind.entersFirst : Eval Unit)
          (eval activity (above + 1 + body.size + 1) rest : Eval Unit) : Eval Unit) := by
  rintro _ _ block store _ ⟨seat, cursor, ready, has⟩
  dsimp only
  -- Below the first line, or below the block that it opens, the lines are fewer.
  have below {rest : Block} {above size : Nat} (total : cursor.line + size = above + rest.size)
      (after : Store) (last : Step) (readyAfter : after.machine.Ready settings)
      (hasRest : seat.Has script settings above rest) (here : seat.AtLine above () after last) :
      seat.Agrees script (bound - 1) 0 (seat.AtLine (cursor.line + size)) last after
        (eval seat.activity above rest after) := by
    obtain ⟨place, rfl⟩ := here
    rw [total]
    exact blocks _ _ _ _ _ (.stands seat ⟨above, place⟩ readyAfter hasRest)
  cases block with
  | done => exact Seat.agrees_now (.refl _) ⟨_, rfl⟩
  | blank text rest =>
      obtain ⟨defined, formed, lines⟩ := has
      obtain ⟨found, lines⟩ := Script.hasLines_cons.mp lines
      have blank : isSkippable text = true := by
        have other := formed.nested.1
        rw [LineText.isInstruction, formed.directives text List.mem_cons_self] at other
        simpa using other
      have total := Block.size_blank text rest
      refine (Seat.Agrees.after ?_ (.refl _) (Seat.leads_blank found blank)).weaken
      exact below (by omega) store _ ready
        ⟨defined, formed.inner formed.nested.2 (List.subset_cons_self _ _), lines⟩ ⟨_, rfl⟩
  | line text rest =>
      obtain ⟨defined, formed, lines⟩ := has
      obtain ⟨found, lines⟩ := Script.hasLines_cons.mp lines
      have inside := formed.inside text List.mem_cons_self formed.nested.1.1
      have total := Block.size_line text rest
      refine ((Seat.agrees_simple ready found formed.nested.1 inside.fits).bind ?_).weaken
      rintro flow after _ kept ⟨simple, keyword, rfl⟩
      refine (follows _ _ _ _ _ _ (.stands seat keyword (kept.ready ready) simple)).bind ?_
      intro _ later last keptLater here
      exact below (by omega) later last (keptLater.ready (kept.ready ready))
        ⟨defined, formed.inner formed.nested.2 (List.subset_cons_self _ _), lines⟩ here
  | branch header yes closer rest =>
      have total := Block.size_branch header yes closer rest
      exact through.branch ready has (below (by omega))
  | fork header yes divider no closer rest =>
      have total := Block.size_fork header yes divider no closer rest
      exact through.fork ready has (below (by omega))
  | loop kind header body closer rest =>
      have total := Block.size_loop kind header body closer rest
      exact passes.loop ready has (below (by omega))

end Blocks

/-! ## All evaluations -/

structure Listing.Agreement (script : Script) (settings : Settings) (bound : Nat)
    (listing : Listing) : Prop where
  blocks : BlocksAgree script settings bound (Block.eval listing)
  passes : PassesAgree script settings bound (LoopBlock.evalPasses listing)
  pass : PassAgrees script settings bound (LoopBlock.evalPass listing)
  through : ThroughAgrees script settings bound (Block.evalThrough listing)
  follow : FollowAgrees script settings bound listing.follow
  externalPasses : ExternalPassesAgree script settings bound listing.evalPasses
  externalPass : ExternalPassAgrees script settings bound listing.evalPass
  calls : CallsAgree script settings bound (Definition.call listing)
  definitions : DefinitionsAgree script settings bound (Definition.eval listing)

namespace Listing

variable {script : Script} {settings : Settings} {listing : Listing}

/-- Where an evaluation comes to an end, the run comes to the same end. -/
theorem Prints.agreement_zero (prints : listing.Prints settings script) :
    listing.Agreement script settings 0 := by
  -- The nine evaluations are one induction: each agrees as soon as those it calls do.
  obtain ⟨blocks, passes, pass, through, follow, externalPasses, externalPass, calls, definitions⟩ :=
    Block.eval.mutual_partial_correctness listing
      (fun activity above block store result => Seat.Meets script 0
        (BlockTask script settings activity above block store) (some result))
      (fun activity loop plan entered store result => Seat.Meets script 0
        (PassesTask script settings activity loop plan entered store) (some result))
      (fun activity loop plan store result => Seat.Meets script 0
        (PassTask script settings activity loop plan store) (some result))
      (fun activity above block text action store result => Seat.Meets script 0
        (ThroughTask script settings 0 activity above block text action store) (some result))
      (fun activity number text flow store result => Seat.Meets script 0
        (FollowTask script settings activity number text flow store) (some result))
      (fun activity number text loop entered store result => Seat.Meets script 0
        (ExternalPassesTask script settings activity number text loop entered store) (some result))
      (fun activity number text loop store result => Seat.Meets script 0
        (ExternalPassTask script settings activity number text loop store) (some result))
      (fun activity number above definition args store result => Seat.Meets script 0
        (CallTask script settings activity number above definition args store) (some result))
      (fun activity above definition store result => Seat.Meets script 0
        (DefinitionTask script settings activity above definition store)
        (some (Exit.rethrown result.1, result.2)))
      (fun eval evalPasses evalThrough follow blocks passes through follows activity above block
          store result evaluated => by
        rw [← evaluated]
        exact blocksAgree (fun _ _ _ _ => Seat.meets_some (blocks _ _ _ _))
          (fun _ _ _ _ _ => Seat.meets_some (passes _ _ _ _ _))
          (fun _ _ _ _ _ _ => Seat.meets_some (through _ _ _ _ _ _))
          (fun _ _ _ _ _ => Seat.meets_some (follows _ _ _ _ _)) activity above block store)
      (fun evalPass pass activity loop plan entered store result evaluated => by
        rw [← evaluated]
        exact LoopBlock.passesAgree (fun _ _ _ _ => Seat.meets_some (pass _ _ _ _)) activity loop
          plan entered store)
      (fun evalPasses evalThrough passes through activity loop plan store result evaluated => by
        rw [← evaluated]
        exact LoopBlock.passAgrees (fun _ _ _ _ _ _ => Seat.meets_some (through _ _ _ _ _ _))
          (fun _ _ _ _ _ => Seat.meets_some (passes _ _ _ _ _)) activity loop plan store)
      (fun eval blocks activity above block text action store result evaluated => by
        rw [← evaluated]
        exact throughAgrees (fun _ _ _ _ => Seat.meets_some (blocks _ _ _ _)) activity above block
          text action store)
      (fun evalPasses call passes calls activity number text flow store result evaluated => by
        rw [← evaluated]
        exact followAgrees prints (fun _ _ _ _ _ _ => Seat.meets_some (passes _ _ _ _ _ _))
          (fun _ _ _ _ _ _ => Seat.meets_some (calls _ _ _ _ _ _)) activity number text flow store)
      (fun evalPass pass activity number text loop entered store result evaluated => by
        rw [← evaluated]
        exact externalPassesAgree (fun _ _ _ _ _ => Seat.meets_some (pass _ _ _ _ _)) activity
          number text loop entered store)
      (fun evalPasses call passes calls activity number text loop store result evaluated => by
        rw [← evaluated]
        exact externalPassAgrees prints (fun _ _ _ _ _ _ => Seat.meets_some (calls _ _ _ _ _ _))
          (fun _ _ _ _ _ _ => Seat.meets_some (passes _ _ _ _ _ _)) activity number text loop store)
      (fun eval definitions activity number above definition args store result evaluated => by
        rw [← evaluated]
        exact callsAgree (fun _ _ _ _ => Seat.meets_zero (definitions _ _ _ _)) activity number
          above definition args store)
      (fun evalThrough through activity above definition store result evaluated => by
        have agrees := definitionsAgree
          (fun _ _ _ _ _ _ => Seat.meets_some (through _ _ _ _ _ _)) activity above definition store
        dsimp only at agrees
        rw [evaluated] at agrees
        exact agrees)
  exact ⟨fun _ _ _ _ => Seat.meets_some (blocks _ _ _ _),
    fun _ _ _ _ _ => Seat.meets_some (passes _ _ _ _ _),
    fun _ _ _ _ => Seat.meets_some (pass _ _ _ _),
    fun _ _ _ _ _ _ => Seat.meets_some (through _ _ _ _ _ _),
    fun _ _ _ _ _ => Seat.meets_some (follow _ _ _ _ _),
    fun _ _ _ _ _ _ => Seat.meets_some (externalPasses _ _ _ _ _ _),
    fun _ _ _ _ _ => Seat.meets_some (externalPass _ _ _ _ _),
    fun _ _ _ _ _ _ => Seat.meets_some (calls _ _ _ _ _ _),
    fun _ _ _ _ => Seat.meets_zero (definitions _ _ _ _)⟩

/-- Where a run comes to an end in so many steps, the evaluation comes to an end. -/
theorem Prints.agreement (prints : listing.Prints settings script) (bound : Nat) :
    listing.Agreement script settings bound := by
  induction bound with
  | zero => exact prints.agreement_zero
  | succ bound earlier =>
      -- Each equation is unfolded once: what it calls agrees for this bound or for the one before.
      have blocks : BlocksAgree script settings (bound + 1) (Block.eval listing) := by
        intro activity above block store
        rw [Block.eval.eq_def]
        exact blocksAgree earlier.blocks earlier.passes earlier.through earlier.follow activity above
          block store
      have through : ThroughAgrees script settings (bound + 1) (Block.evalThrough listing) := by
        intro activity above block text action store
        rw [Block.evalThrough]
        exact throughAgrees blocks activity above block text action store
      have pass : PassAgrees script settings (bound + 1) (LoopBlock.evalPass listing) := by
        intro activity loop plan store
        rw [LoopBlock.evalPass]
        exact LoopBlock.passAgrees through earlier.passes activity loop plan store
      have passes : PassesAgree script settings (bound + 1) (LoopBlock.evalPasses listing) := by
        intro activity loop plan entered store
        rw [LoopBlock.evalPasses]
        exact LoopBlock.passesAgree pass activity loop plan entered store
      have definitions : DefinitionsAgree script settings (bound + 1) (Definition.eval listing) := by
        intro activity above definition store
        rw [Definition.eval]
        exact definitionsAgree through activity above definition store
      have calls : CallsAgree script settings (bound + 1) (Definition.call listing) := by
        intro activity number above definition args store
        rw [Definition.call]
        exact callsAgree definitions activity number above definition args store
      have externalPass : ExternalPassAgrees script settings (bound + 1) listing.evalPass := by
        intro activity number text loop store
        rw [Listing.evalPass.eq_def]
        exact externalPassAgrees prints calls earlier.externalPasses activity number text loop store
      have externalPasses : ExternalPassesAgree script settings (bound + 1) listing.evalPasses := by
        intro activity number text loop entered store
        rw [Listing.evalPasses]
        exact externalPassesAgree externalPass activity number text loop entered store
      have follow : FollowAgrees script settings (bound + 1) listing.follow := by
        intro activity number text flow store
        rw [Listing.follow.eq_def]
        exact followAgrees prints externalPasses calls activity number text flow store
      exact ⟨blocks, passes, pass, through, follow, externalPasses, externalPass, calls, definitions⟩

end Listing

end LineScript

import ServerRS.AgentCore.GraphSafety

/-!
# Suspension is transparent

`uninterrupted` is the loop of `execute_from` that does not stop at a suspension: it
applies the next resume input right where the transition out of the suspended node has
been selected, and goes on. `interrupted` is what the code offers instead:
`run_checkpointed`, and one `resume` after the other through an in-memory store. They
come to the same end and are observed to do the same on the way
(`suspend_resume_transparent`).

A turn neither reads nor writes the store and the supply of UUIDs, so the two only
differ there (`executeNode_independent`); what a resume rebuilds from its checkpoint is
what the loop had left (`resume_accepted`).
-/

namespace ServerRS.AgentCore

open Lib

variable {B : Type} [AgentBusinessState B] {W S : Type}

/-! ## Turns do not depend on the store -/

/-- The same shared state with another store and other UUIDs to come. -/
def Shared.withStore (store : S) (uuids : Nat → Uuid) (shared : Shared B W S) : Shared B W S :=
  { shared with store, uuids }

section Frame

variable {runtime : GraphRuntime B W S} {context : RunContext} {watch : Interruption W}
  {store : S} {uuids : Nat → Uuid} {ε α : Type}

open Exec (Independent)

theorem observe_independent (event : Event B) :
    Independent (Shared.withStore store uuids) (observe event : Run B W S ε Unit) :=
  Independent.modify fun _ => rfl

theorem onBudget_independent (x : Exec UsageSnapshot GraphRunError α) :
    Independent (Shared.withStore store uuids) (onBudget x : Run B W S GraphRunError α) :=
  Independent.zoom x (fun _ => rfl) fun _ _ => rfl

theorem actOn_independent (call : W → BudgetUse (α × W)) :
    Independent (Shared.withStore store uuids) (actOn context call : Run B W S ε α) := fun _ => rfl

theorem updateState_independent (updates : List (AgentUpdate (Update B)))
    (error : AgentStateError → GraphRunError) (candidate : AgentState B) :
    Independent (Shared.withStore store uuids)
      (updateState updates error candidate : Run B W S GraphRunError _) := by
  unfold updateState
  split
  · exact .pure _
  · exact .throw _

theorem checkActive_independent :
    Independent (Shared.withStore store uuids) (checkActive watch : Run B W S GraphRunError Unit) := by
  refine .get_bind (fun _ => rfl) fun shared => ?_
  split
  · exact .throw _
  · exact .pure _

theorem checkReady_independent (graphMaxSteps : NonZeroU32) :
    Independent (Shared.withStore store uuids)
      (checkReady context watch graphMaxSteps : Run B W S GraphRunError RunStep) :=
  checkActive_independent.bind fun _ => onBudget_independent _

theorem awaitNode_independent (runStep : RunStep) (node : AgentNode B W) (vars : LoopVars B) :
    Independent (Shared.withStore store uuids)
      (awaitNode context watch runStep node vars : Run B W S GraphRunError _) := by
  refine (observe_independent _).bind fun _ => (actOn_independent _).bind fun answer =>
    .get_bind (fun _ => rfl) fun shared => ?_
  split
  · exact .throw _
  · split
    · exact .pure _
    · exact .throw _

theorem awaitEffect_independent (executor : EffectExecutor B W)
    (envelope : EffectEnvelope (Effect B)) :
    Independent (Shared.withStore store uuids)
      (awaitEffect context watch executor envelope : Run B W S ε _) := by
  refine (actOn_independent _).bind fun answer => .get_bind (fun _ => rfl) fun shared => ?_
  exact (observe_independent _).bind fun _ => .pure _

theorem prepareTurn_independent (checkpointing : Bool) (runStep : RunStep) (vars : LoopVars B) :
    Independent (Shared.withStore store uuids)
      (prepareTurn runtime context watch checkpointing runStep vars) := by
  unfold prepareTurn
  split
  · exact .throw _
  · refine (awaitNode_independent runStep _ vars).bind fun result => ?_
    dsimp only
    split
    · exact .throw _
    · split
      · exact .throw _
      · split
        · exact .throw _
        · exact (onBudget_independent _).bind fun _ =>
            (updateState_independent _ _ _).bind fun _ => .pure _

theorem dispatchEffects_independent (runStep : RunStep) (current : NodeId) (ordinal : Nat)
    (effects : List (Effect B)) (vars : EffectVars B) :
    Independent (Shared.withStore store uuids)
      (dispatchEffects runtime context watch runStep current ordinal effects vars) := by
  induction effects generalizing ordinal vars with
  | nil => exact .pure _
  | cons effect rest ih =>
    rw [dispatchEffects]
    split
    · exact .throw _
    · dsimp only
      split
      · exact .throw _
      · refine checkActive_independent.bind fun _ =>
          (awaitEffect_independent _ _).bind fun answer => ?_
        split
        · exact .throw _
        · exact (updateState_independent _ _ _).bind fun candidate => ih (ordinal + 1) _

theorem selectNext_independent (current : NodeId) (state : AgentState B)
    (transition : TransitionRule B W) :
    Independent (Shared.withStore store uuids)
      (selectNext current state transition : Run B W S GraphRunError _) := by
  cases transition with
  | goto next => exact .pure _
  | branch router targets =>
    refine .get_bind (fun _ => rfl) fun shared => ?_
    dsimp only
    refine Independent.bind (Independent.modify fun _ => rfl) fun _ =>
      (observe_independent (B := B) _).bind fun _ => ?_
    split
    · exact .throw _
    · split
      · exact .pure _
      · exact .throw _
  | atEnd =>
    rw [selectNext]
    split
    · exact .throw _
    · exact .pure _

/-- A turn does not depend on the store or on the UUIDs to come. -/
theorem executeNode_independent (checkpointing : Bool) (vars : LoopVars B) :
    Independent (Shared.withStore store uuids)
      (executeNode runtime context watch checkpointing vars) :=
  (checkReady_independent _).bind fun runStep =>
    (prepareTurn_independent checkpointing runStep vars).bind fun _ =>
      (dispatchEffects_independent runStep _ _ _ _).bind fun _ =>
        (selectNext_independent _ _ _).bind fun _ => .pure _

end Frame

/-! ## The two ways to execute -/

/-- What a bounded execution over a list of resume inputs comes to. `refused` stands for every
error that only an interrupted execution can have. -/
inductive Ending (B : Type) [AgentBusinessState B] where
  | running (vars : LoopVars B)
  | completed (result : GraphRunResult B)
  | waiting (runStep : RunStep) (request : SuspendRequest (SuspendData B)) (vars : LoopVars B)
  | failed (error : GraphRunError)
  | inputRejected (error : AgentStateError)
  | refused

/-- The loop of `execute_from` that applies a resume input wherever it would have been
suspended. -/
def executeThrough (runtime : GraphRuntime B W S) (context : RunContext) (watch : Interruption W) :
    Nat → List (ResumeInput B) → LoopVars B → Shared B W S → Ending B × Shared B W S
  | 0, _, vars, shared => (.running vars, shared)
  | fuel + 1, inputs, vars, shared =>
    match executeNode runtime context watch true vars shared with
    | (.error error, shared) => (.failed error, shared)
    | (.ok (.goto vars), shared) => executeThrough runtime context watch fuel inputs vars shared
    | (.ok (.finish vars), shared) => (.completed (vars.result context shared.usage), shared)
    | (.ok (.suspend runStep request vars), shared) =>
      match inputs with
      | [] => (.waiting runStep request vars, shared)
      | input :: inputs =>
        match vars.state.applyUpdates (resumeUpdates input) with
        | (.ok (), state) =>
          executeThrough runtime context watch fuel inputs { vars with state } shared
        | (.error error, _) => (.inputRejected error, shared)

/-- Resume for as long as the run is suspended and there is an input, each time for some number
of turns. -/
def resumeAll (runtime : GraphRuntime B W S) (watch : Interruption W) :
    List (Nat × ResumeInput B) → Except (CheckpointRunError B) (Execution B) → Shared B W S →
      Ending B × Shared B W S
  | _, .ok (.running vars), shared => (.running vars, shared)
  | _, .ok (.returned (.completed result)), shared => (.completed result, shared)
  | _, .error (.graph error), shared => (.failed error, shared)
  | _, .error _, shared => (.refused, shared)
  | [], .ok (.returned (.suspended checkpoint)), shared =>
    (.waiting checkpoint.position.completedStep checkpoint.suspend
      (resumeVars checkpoint checkpoint.state), shared)
  | (fuel, input) :: schedule, .ok (.returned (.suspended checkpoint)), shared =>
    match resume runtime watch fuel checkpoint.id input shared with
    | (.ok execution, shared) => resumeAll runtime watch schedule (.ok execution) shared
    | (.error (.runFailed error), shared) => resumeAll runtime watch schedule (.error error) shared
    | (.error (.resumeInputRejected error), shared) => (.inputRejected error, shared)
    | (.error _, shared) => (.refused, shared)

/-- `run_checkpointed` and all its resumes. -/
def interrupted (runtime : GraphRuntime B W S) (watch : Interruption W) (fuel : Nat)
    (schedule : List (Nat × ResumeInput B)) (state : AgentState B) (budget : RunBudget)
    (shared : Shared B W S) : Ending B × Shared B W S :=
  match runCheckpointed runtime watch fuel state budget shared with
  | (result, shared) => resumeAll runtime watch schedule result shared

/-- The same run without interruption. -/
def uninterrupted (runtime : GraphRuntime B W S) (watch : Interruption W) (fuel : Nat)
    (inputs : List (ResumeInput B)) (state : AgentState B) (budget : RunBudget)
    (shared : Shared B W S) : Ending B × Shared B W S :=
  match (newRunContext budget {} : Run B W S GraphRunError RunContext) shared with
  | (.ok context, shared) =>
    executeThrough runtime context watch fuel inputs (entryVars runtime state) shared
  | (.error error, shared) => (.failed error, shared)

/-- What is seen of an execution: its end, the world, the usage, and the nodes, effects and
routing decisions on the way. -/
def seen (outcome : Ending B × Shared B W S) : Ending B × W × UsageSnapshot × List (Event B) :=
  (outcome.1, outcome.2.world, outcome.2.usage, outcome.2.events)

/-- The first turn of an execution, and what comes of it. -/
theorem executeThrough_succ {runtime : GraphRuntime B W S} {context : RunContext}
    {watch : Interruption W} {fuel : Nat} {inputs : List (ResumeInput B)} {vars : LoopVars B}
    {shared : Shared B W S} :
    executeThrough runtime context watch (fuel + 1) inputs vars shared =
      match executeNode runtime context watch true vars shared with
      | (.error error, shared) => (.failed error, shared)
      | (.ok (.goto vars), shared) => executeThrough runtime context watch fuel inputs vars shared
      | (.ok (.finish vars), shared) => (.completed (vars.result context shared.usage), shared)
      | (.ok (.suspend runStep request vars), shared) =>
        match inputs with
        | [] => (.waiting runStep request vars, shared)
        | input :: inputs =>
          match vars.state.applyUpdates (resumeUpdates input) with
          | (.ok (), state) =>
            executeThrough runtime context watch fuel inputs { vars with state } shared
          | (.error error, _) => (.inputRejected error, shared) := by
  rw [executeThrough]

/-! ## One suspension -/

/-- The store works, and the next `count + 1` ids are new to it and to each other. -/
structure FreshIds (store : InMemoryCheckpointState B) (uuids : Nat → Uuid) (count : Nat) :
    Prop where
  unpoisoned : store.poisoned = false
  unsaved : ∀ n ≤ count, (⟨uuids n⟩ : CheckpointId) ∉ store.checkpoints
  unconsumed : ∀ n ≤ count, (⟨uuids n⟩ : CheckpointId) ∉ store.consumed
  distinct : ∀ m ≤ count, ∀ n ≤ count, uuids m = uuids n → m = n

section Suspension

variable {runtime : GraphRuntime B W (InMemoryCheckpointState B)} {context : RunContext}
  {watch : Interruption W} {vars vars' : LoopVars B}
  {shared shared₁ : Shared B W (InMemoryCheckpointState B)} {runStep : RunStep}
  {request : SuspendRequest (SuspendData B)} {store : InMemoryCheckpointState B}
  {uuids : Nat → Uuid} {count : Nat}

theorem restoreTrace_empty (trace : RunTrace) : restoreTrace trace {} = trace := by
  obtain ⟨traceId, attributes⟩ := trace
  cases traceId <;> rfl

def saved (store : InMemoryCheckpointState B) (checkpoint : AgentCheckpoint B) :
    InMemoryCheckpointState B :=
  { store with checkpoints := store.checkpoints.insert checkpoint.id checkpoint }

def taken (store : InMemoryCheckpointState B) (checkpoint : AgentCheckpoint B) :
    InMemoryCheckpointState B where
  checkpoints := (saved store checkpoint).checkpoints.erase checkpoint.id
  consumed := store.consumed.insert checkpoint.id
  poisoned := store.poisoned

theorem save_fresh (hfr : FreshIds store uuids count) {checkpoint : AgentCheckpoint B}
    (hid : checkpoint.id = ⟨uuids 0⟩) :
    InMemoryCheckpointStore.save checkpoint store = (.ok (), saved store checkpoint) := by
  have huns := hfr.unsaved 0 (Nat.zero_le _)
  have hunc := hfr.unconsumed 0 (Nat.zero_le _)
  rw [← hid] at huns hunc
  rw [InMemoryCheckpointStore.save_apply, if_neg (by rw [hfr.unpoisoned]; decide), if_neg]
  · rfl
  · rw [Bool.or_eq_true]
    rintro (hmem | hmem)
    · exact huns hmem
    · exact hunc hmem

theorem load_saved (hfr : FreshIds store uuids count) (checkpoint : AgentCheckpoint B) :
    InMemoryCheckpointStore.load checkpoint.id (saved store checkpoint) =
      (.ok checkpoint, saved store checkpoint) := by
  have hget : (saved store checkpoint).checkpoints[checkpoint.id]? = some checkpoint :=
    Std.TreeMap.getElem?_insert_self
  rw [InMemoryCheckpointStore.load_apply, if_neg, hget]
  show ¬ store.poisoned = true
  rw [hfr.unpoisoned]
  decide

theorem take_saved (hfr : FreshIds store uuids count) (checkpoint : AgentCheckpoint B) :
    InMemoryCheckpointStore.take checkpoint.id (saved store checkpoint) =
      (.ok checkpoint, taken store checkpoint) := by
  have hget : (saved store checkpoint).checkpoints[checkpoint.id]? = some checkpoint :=
    Std.TreeMap.getElem?_insert_self
  rw [InMemoryCheckpointStore.take_apply, if_neg, hget]
  · rfl
  · show ¬ store.poisoned = true
    rw [hfr.unpoisoned]
    decide

/-- The ids after the first one are still new once its checkpoint is gone. -/
theorem FreshIds.taken (hfr : FreshIds store uuids (count + 1)) (checkpoint : AgentCheckpoint B)
    (hid : checkpoint.id = ⟨uuids 0⟩) :
    FreshIds (taken store checkpoint) (fun n => uuids (n + 1)) count := by
  have hoth : ∀ n ≤ count, (⟨uuids (n + 1)⟩ : CheckpointId) ≠ checkpoint.id := by
    intro n hn heq
    rw [hid] at heq
    injection heq with heq
    exact absurd (hfr.distinct _ (Nat.succ_le_succ hn) 0 (Nat.zero_le _) heq) (Nat.succ_ne_zero n)
  constructor
  · exact hfr.unpoisoned
  · intro n hn hmem
    have hinsd := Std.TreeMap.mem_of_mem_erase hmem
    rcases Std.TreeMap.mem_insert.mp hinsd with heq | hold
    · exact hoth n hn (Std.LawfulEqCmp.eq_of_compare heq).symm
    · exact hfr.unsaved (n + 1) (Nat.succ_le_succ hn) hold
  · intro n hn hmem
    rcases Std.TreeSet.mem_insert.mp hmem with heq | hold
    · exact hoth n hn (Std.LawfulEqCmp.eq_of_compare heq).symm
    · exact hfr.unconsumed (n + 1) (Nat.succ_le_succ hn) hold
  · intro m hm n hn heq
    exact Nat.succ_injective
      (hfr.distinct _ (Nat.succ_le_succ hm) _ (Nat.succ_le_succ hn) heq)

theorem executeNode_withStore {result : Except GraphRunError (Turn B)}
    (hturn : executeNode runtime context watch true vars shared = (result, shared₁)) :
    executeNode runtime context watch true vars (shared.withStore store uuids) =
      (result, shared₁.withStore store uuids) := by
  rw [executeNode_independent true vars shared, hturn]

variable (context) in
theorem saveCheckpoint_fresh
    (hsto : runtime.checkpointStore = some (InMemoryCheckpointStore.store B))
    (hfr : FreshIds store uuids count) (runStep : RunStep) (request : SuspendRequest (SuspendData B))
    (vars : LoopVars B) (shared : Shared B W (InMemoryCheckpointState B)) :
    let checkpoint := suspendedCheckpoint runtime context runStep request vars (uuids 0) shared.usage
    saveCheckpoint runtime context runStep request vars (shared.withStore store uuids) =
      (.ok checkpoint, shared.withStore (saved store checkpoint) fun n => uuids (n + 1)) := by
  intro checkpoint
  refine Exec.bind_eq_ok.mpr
    ⟨uuids 0, shared.withStore store fun n => uuids (n + 1), rfl, ?_⟩
  rw [Exec.get_bind_apply, hsto]
  have hsav : InMemoryCheckpointStore.save checkpoint store = (.ok (), saved store checkpoint) :=
    save_fresh hfr rfl
  exact Exec.bind_eq_ok.mpr ⟨(), _,
    Exec.mapError_eq_ok.mpr (Exec.zoom_eq.mpr ⟨_, hsav, rfl⟩), rfl⟩

/-- The context of a resumed run is the one it was suspended in. -/
theorem suspended_context (runStep : RunStep) (request : SuspendRequest (SuspendData B))
    (vars : LoopVars B) (uuid : Uuid) (usage : UsageSnapshot) :
    (suspendedCheckpoint runtime context runStep request vars uuid usage).context {} = context := by
  show RunContext.mk _ _ _ = _
  rw [restoreTrace_empty]
  rfl

section Resume

variable (hsto : runtime.checkpointStore = some (InMemoryCheckpointStore.store B))
  (hfr : FreshIds store uuids count)
  (hturn : executeNode runtime context watch true vars shared =
    (.ok (.suspend runStep request vars'), shared₁))

include hsto hfr hturn

/-- A resume of what a turn was suspended at gets as far as the resume input. -/
theorem resume_suspended (fuel : Nat) (input : ResumeInput B) (ids : Nat → Uuid) :
    let checkpoint :=
      suspendedCheckpoint runtime context runStep request vars' (uuids 0) shared₁.usage
    resume runtime watch fuel checkpoint.id input (shared₁.withStore (saved store checkpoint) ids) =
      (Exec.ofExcept (applyResumeInput checkpoint input) >>= fun state => do
        let _ ← Exec.mapError (takeError checkpoint.id)
          (onStore (InMemoryCheckpointStore.take checkpoint.id))
        let context ← resumeContext checkpoint {}
        Exec.mapError .runFailed
          (executeFrom runtime context watch true fuel (resumeVars checkpoint state)) :
        Run B W (InMemoryCheckpointState B) (ResumeError B) (Execution B))
      (shared₁.withStore (saved store checkpoint) ids) := by
  intro checkpoint
  have hacpt : checkResumable runtime.graph (stateSchemaVersion B) checkpoint = .ok () :=
    (turn_resumable ⟨runtime, context, true⟩ rfl (uuids 0) hturn).accepted
  have hload : (Exec.mapError .checkpointLoad
      (onStore ((InMemoryCheckpointStore.store B).load checkpoint.id)) :
        Run B W (InMemoryCheckpointState B) (ResumeError B) _)
      (shared₁.withStore (saved store checkpoint) ids) =
        (.ok checkpoint, shared₁.withStore (saved store checkpoint) ids) :=
    Exec.mapError_eq_ok.mpr (Exec.zoom_eq.mpr ⟨_, load_saved hfr checkpoint, rfl⟩)
  unfold resume resumeWithContext
  rw [hsto]
  dsimp only
  rw [Exec.bind_apply, hload]
  dsimp only
  rw [hacpt, Exec.ok_bind_apply]
  rfl

theorem resume_rejected {input : ResumeInput B} {error : AgentStateError} {state : AgentState B}
    (fuel : Nat) (ids : Nat → Uuid)
    (hin : vars'.state.applyUpdates (resumeUpdates input) = (.error error, state)) :
    let checkpoint :=
      suspendedCheckpoint runtime context runStep request vars' (uuids 0) shared₁.usage
    resume runtime watch fuel checkpoint.id input (shared₁.withStore (saved store checkpoint) ids) =
      (.error (.resumeInputRejected error), shared₁.withStore (saved store checkpoint) ids) := by
  intro checkpoint
  have happ : applyResumeInput checkpoint input = .error (.resumeInputRejected error) := by
    unfold applyResumeInput
    rw [show checkpoint.state = vars'.state from rfl, hin]
  rw [resume_suspended hsto hfr hturn, happ, Exec.error_bind_apply]

/-- With an accepted input the resumed loop starts where the suspended one had stopped. -/
theorem resume_accepted {input : ResumeInput B} {state : AgentState B} (fuel : Nat)
    (ids : Nat → Uuid) (hin : vars'.state.applyUpdates (resumeUpdates input) = (.ok (), state)) :
    let checkpoint :=
      suspendedCheckpoint runtime context runStep request vars' (uuids 0) shared₁.usage
    resume runtime watch fuel checkpoint.id input (shared₁.withStore (saved store checkpoint) ids) =
      (Exec.mapError .runFailed
        (executeFrom runtime context watch true fuel { vars' with state }) :
        Run B W (InMemoryCheckpointState B) (ResumeError B) _)
        (shared₁.withStore (taken store checkpoint) ids) := by
  intro checkpoint
  have happ : applyResumeInput checkpoint input = .ok state := by
    unfold applyResumeInput
    rw [show checkpoint.state = vars'.state from rfl, hin]
  have htake : (Exec.mapError (takeError checkpoint.id)
      (onStore (InMemoryCheckpointStore.take checkpoint.id)) :
        Run B W (InMemoryCheckpointState B) (ResumeError B) _)
      (shared₁.withStore (saved store checkpoint) ids) =
        (.ok checkpoint, shared₁.withStore (taken store checkpoint) ids) :=
    Exec.mapError_eq_ok.mpr (Exec.zoom_eq.mpr ⟨_, take_saved hfr checkpoint, rfl⟩)
  rw [resume_suspended hsto hfr hturn, happ, Exec.ok_bind_apply, Exec.bind_apply, htake]
  dsimp only
  rw [resumeContext_bind_apply, suspended_context]
  rfl

end Resume

end Suspension

/-! ## The two ways side by side -/

/-- The two ended alike, and differ in the store and the UUIDs to come at most. -/
def Alike (one other : Ending B × Shared B W S) : Prop :=
  ∃ store uuids, other = (one.1, one.2.withStore store uuids)

theorem Alike.seen {one other : Ending B × Shared B W S} (h : Alike one other) :
    seen other = seen one := by
  obtain ⟨_, _, rfl⟩ := h
  rfl

/-- A segment and the resumes after it. -/
def interruptedFrom (runtime : GraphRuntime B W S) (context : RunContext) (watch : Interruption W)
    (fuel : Nat) (schedule : List (Nat × ResumeInput B)) (vars : LoopVars B)
    (shared : Shared B W S) : Ending B × Shared B W S :=
  resumeAll runtime watch schedule (executeFrom runtime context watch true fuel vars shared).1
    (executeFrom runtime context watch true fuel vars shared).2

section Sides

variable {runtime : GraphRuntime B W (InMemoryCheckpointState B)} {context : RunContext}
  {watch : Interruption W} {vars vars' : LoopVars B}
  {shared shared₁ : Shared B W (InMemoryCheckpointState B)} {runStep : RunStep}
  {request : SuspendRequest (SuspendData B)} {store : InMemoryCheckpointState B}
  {uuids : Nat → Uuid} {count fuel : Nat} {schedule : List (Nat × ResumeInput B)}

theorem executeFrom_goto
    (hturn : executeNode runtime context watch true vars shared = (.ok (.goto vars'), shared₁)) :
    executeFrom runtime context watch true (fuel + 1) vars shared =
      executeFrom runtime context watch true fuel vars' shared₁ := by
  refine (Exec.bind_apply ..).trans ?_
  rw [Exec.mapError_eq_ok.mpr hturn]

theorem executeFrom_finish
    (hturn : executeNode runtime context watch true vars shared = (.ok (.finish vars'), shared₁)) :
    executeFrom runtime context watch true (fuel + 1) vars shared =
      (.ok (.returned (.completed (vars'.result context shared₁.usage))), shared₁) :=
  Exec.bind_eq_ok.mpr ⟨_, shared₁, Exec.mapError_eq_ok.mpr hturn, rfl⟩

variable {error : GraphRunError}

theorem executeFrom_failed
    (hturn : executeNode runtime context watch true vars shared = (.error error, shared₁)) :
    executeFrom runtime context watch true (fuel + 1) vars shared =
      (.error (.graph error), shared₁) :=
  Exec.bind_eq_error.mpr (.inl (Exec.mapError_eq_error.mpr ⟨error, hturn, rfl⟩))

theorem executeFrom_suspend {checkpoint : AgentCheckpoint B}
    {shared₂ : Shared B W (InMemoryCheckpointState B)}
    (hturn : executeNode runtime context watch true vars shared =
      (.ok (.suspend runStep request vars'), shared₁))
    (hsave : saveCheckpoint runtime context runStep request vars' shared₁ =
      (.ok checkpoint, shared₂)) :
    executeFrom runtime context watch true (fuel + 1) vars shared =
      (.ok (.returned (.suspended checkpoint)), shared₂) :=
  Exec.bind_eq_ok.mpr ⟨_, shared₁, Exec.mapError_eq_ok.mpr hturn,
    Exec.bind_eq_ok.mpr ⟨checkpoint, shared₂, hsave, rfl⟩⟩

/-- What the first segment comes to is all that the resumes after it see. -/
theorem interruptedFrom_of {result : Except (CheckpointRunError B) (Execution B)}
    {final : Shared B W (InMemoryCheckpointState B)}
    (h : executeFrom runtime context watch true fuel vars shared = (result, final)) :
    interruptedFrom runtime context watch fuel schedule vars shared =
      resumeAll runtime watch schedule result final := by
  rw [interruptedFrom, h]

theorem interruptedFrom_goto
    (hturn : executeNode runtime context watch true vars shared = (.ok (.goto vars'), shared₁)) :
    interruptedFrom runtime context watch (fuel + 1) schedule vars (shared.withStore store uuids) =
      interruptedFrom runtime context watch fuel schedule vars'
        (shared₁.withStore store uuids) := by
  rw [interruptedFrom_of (executeFrom_goto (executeNode_withStore hturn)), interruptedFrom]

theorem interruptedFrom_zero :
    interruptedFrom runtime context watch 0 schedule vars shared = (.running vars, shared) := by
  cases schedule <;> rfl

theorem interruptedFrom_finish
    (hturn : executeNode runtime context watch true vars shared = (.ok (.finish vars'), shared₁)) :
    interruptedFrom runtime context watch (fuel + 1) schedule vars (shared.withStore store uuids) =
      (.completed (vars'.result context shared₁.usage), shared₁.withStore store uuids) := by
  rw [interruptedFrom_of (executeFrom_finish (executeNode_withStore hturn))]
  cases schedule <;> rfl

theorem interruptedFrom_failed
    (hturn : executeNode runtime context watch true vars shared = (.error error, shared₁)) :
    interruptedFrom runtime context watch (fuel + 1) schedule vars (shared.withStore store uuids) =
      (.failed error, shared₁.withStore store uuids) := by
  rw [interruptedFrom_of (executeFrom_failed (executeNode_withStore hturn))]
  cases schedule <;> rfl

section Suspend

variable (hsto : runtime.checkpointStore = some (InMemoryCheckpointStore.store B))
  (hfr : FreshIds store uuids count)
  (hturn : executeNode runtime context watch true vars shared =
    (.ok (.suspend runStep request vars'), shared₁))

include hsto hfr hturn

theorem interruptedFrom_waiting :
    Alike (.waiting runStep request vars', shared₁)
      (interruptedFrom runtime context watch (fuel + 1) [] vars (shared.withStore store uuids)) := by
  have hsave := saveCheckpoint_fresh context hsto hfr runStep request vars' shared₁
  rw [interruptedFrom_of (executeFrom_suspend (executeNode_withStore hturn) hsave)]
  exact ⟨_, _, rfl⟩

theorem interruptedFrom_rejected {input : ResumeInput B} {error : AgentStateError}
    {state : AgentState B} {next : Nat}
    (hin : vars'.state.applyUpdates (resumeUpdates input) = (.error error, state)) :
    Alike (.inputRejected error, shared₁)
      (interruptedFrom runtime context watch (fuel + 1) ((next, input) :: schedule) vars
        (shared.withStore store uuids)) := by
  have hsave := saveCheckpoint_fresh context hsto hfr runStep request vars' shared₁
  rw [interruptedFrom_of (executeFrom_suspend (executeNode_withStore hturn) hsave), resumeAll,
    resume_rejected hsto hfr hturn next _ hin]
  exact ⟨_, _, rfl⟩

end Suspend

/-- After an accepted input the rest of the schedule goes on from the state the input left. -/
theorem interruptedFrom_accepted {input : ResumeInput B} {state : AgentState B}
    (hsto : runtime.checkpointStore = some (InMemoryCheckpointStore.store B))
    (hfr : FreshIds store uuids (count + 1))
    (hturn : executeNode runtime context watch true vars shared =
      (.ok (.suspend runStep request vars'), shared₁))
    (hin : vars'.state.applyUpdates (resumeUpdates input) = (.ok (), state)) :
    ∃ store' uuids', FreshIds store' uuids' count ∧ ∀ fuel next schedule,
      interruptedFrom runtime context watch (fuel + 1) ((next, input) :: schedule) vars
          (shared.withStore store uuids) =
        interruptedFrom runtime context watch next schedule { vars' with state }
          (shared₁.withStore store' uuids') := by
  have hsave := saveCheckpoint_fresh context hsto hfr runStep request vars' shared₁
  refine ⟨_, _, hfr.taken (suspendedCheckpoint runtime context runStep request vars' (uuids 0)
    shared₁.usage) rfl, fun fuel next schedule => ?_⟩
  rw [interruptedFrom_of (executeFrom_suspend (executeNode_withStore hturn) hsave), resumeAll,
    resume_accepted hsto hfr hturn next _ hin]
  unfold Exec.mapError
  cases hseg : executeFrom runtime context watch true next { vars' with state } _ with
  | mk result final =>
    rw [interruptedFrom_of hseg]
    cases result <;> rfl

theorem exists_schedule (inputs : List (ResumeInput B)) :
    ∃ schedule : List (Nat × ResumeInput B), schedule.map Prod.snd = inputs :=
  ⟨inputs.map (Prod.mk 0), by rw [List.map_map]; exact List.map_id _⟩

/-- What is done without interruption can be done with one resume for each input. -/
theorem interrupted_of_through
    (hsto : runtime.checkpointStore = some (InMemoryCheckpointStore.store B))
    (fuel : Nat) (inputs : List (ResumeInput B)) (hfr : FreshIds store uuids inputs.length)
    (vars : LoopVars B) (shared : Shared B W (InMemoryCheckpointState B)) :
    ∃ first schedule, schedule.map Prod.snd = inputs ∧
      Alike (executeThrough runtime context watch fuel inputs vars shared)
        (interruptedFrom runtime context watch first schedule vars
          (shared.withStore store uuids)) := by
  -- A turn costs the current segment one of its turns; a suspension begins a new segment.
  induction fuel generalizing inputs vars shared store uuids with
  | zero =>
    obtain ⟨schedule, hsched⟩ := exists_schedule inputs
    exact ⟨0, schedule, hsched, store, uuids, interruptedFrom_zero⟩
  | succ fuel ih =>
    rw [executeThrough_succ]
    cases hturn : executeNode runtime context watch true vars shared with
    | mk result shared₁ =>
      cases result with
      | error error =>
        obtain ⟨schedule, hsched⟩ := exists_schedule inputs
        exact ⟨1, schedule, hsched, store, uuids, interruptedFrom_failed hturn⟩
      | ok turn =>
        cases turn with
        | goto vars' =>
          obtain ⟨first, schedule, hsched, halike⟩ := ih inputs hfr vars' shared₁
          refine ⟨first + 1, schedule, hsched, ?_⟩
          rw [interruptedFrom_goto hturn]
          exact halike
        | finish vars' =>
          obtain ⟨schedule, hsched⟩ := exists_schedule inputs
          exact ⟨1, schedule, hsched, store, uuids, interruptedFrom_finish hturn⟩
        | suspend runStep request vars' =>
          cases inputs with
          | nil => exact ⟨1, [], rfl, interruptedFrom_waiting hsto hfr hturn⟩
          | cons input inputs =>
            dsimp only
            cases hin : vars'.state.applyUpdates (resumeUpdates input) with
            | mk outcome state =>
              cases outcome with
              | error error =>
                obtain ⟨schedule, hsched⟩ := exists_schedule inputs
                exact ⟨1, (0, input) :: schedule, by rw [List.map_cons, hsched],
                  interruptedFrom_rejected hsto hfr hturn hin⟩
              | ok _ =>
                obtain ⟨store', uuids', hfr', hacpt⟩ :=
                  interruptedFrom_accepted hsto hfr hturn hin
                obtain ⟨next, schedule, hsched, halike⟩ :=
                  ih inputs hfr' { vars' with state } shared₁
                refine ⟨1, (next, input) :: schedule, by rw [List.map_cons, hsched], ?_⟩
                rw [hacpt 0 next schedule]
                exact halike

/-- The turns of one segment, given what comes of its suspension. -/
theorem through_of_segment {inputs : List (ResumeInput B)}
    (hsuspend : ∀ first vars shared runStep request vars' shared₁,
      executeNode runtime context watch true vars shared =
        (.ok (.suspend runStep request vars'), shared₁) →
      ∃ fuel, Alike (executeThrough runtime context watch fuel inputs vars shared)
        (interruptedFrom runtime context watch (first + 1) schedule vars
          (shared.withStore store uuids)))
    (first : Nat) (vars : LoopVars B) (shared : Shared B W (InMemoryCheckpointState B)) :
    ∃ fuel, Alike (executeThrough runtime context watch fuel inputs vars shared)
      (interruptedFrom runtime context watch first schedule vars
        (shared.withStore store uuids)) := by
  induction first generalizing vars shared with
  | zero => exact ⟨0, store, uuids, interruptedFrom_zero⟩
  | succ first ih =>
    cases hturn : executeNode runtime context watch true vars shared with
    | mk result shared₁ =>
      cases result with
      | error error =>
        refine ⟨1, store, uuids, ?_⟩
        rw [executeThrough_succ, hturn]
        exact interruptedFrom_failed hturn
      | ok turn =>
        cases turn with
        | goto vars' =>
          obtain ⟨fuel, halike⟩ := ih vars' shared₁
          refine ⟨fuel + 1, ?_⟩
          rw [executeThrough_succ, hturn, interruptedFrom_goto hturn]
          exact halike
        | finish vars' =>
          refine ⟨1, store, uuids, ?_⟩
          rw [executeThrough_succ, hturn]
          exact interruptedFrom_finish hturn
        | suspend runStep request vars' =>
          exact hsuspend first vars shared runStep request vars' shared₁ hturn

/-- What is done with resumes can be done without interruption. -/
theorem through_of_interrupted
    (hsto : runtime.checkpointStore = some (InMemoryCheckpointStore.store B))
    (schedule : List (Nat × ResumeInput B)) (hfr : FreshIds store uuids schedule.length)
    (first : Nat) (vars : LoopVars B) (shared : Shared B W (InMemoryCheckpointState B)) :
    ∃ fuel, Alike (executeThrough runtime context watch fuel (schedule.map Prod.snd) vars shared)
      (interruptedFrom runtime context watch first schedule vars
        (shared.withStore store uuids)) := by
  -- From one segment to the next the induction is on the schedule.
  induction schedule generalizing first vars shared store uuids with
  | nil =>
    refine through_of_segment ?_ first vars shared
    intro first vars shared runStep request vars' shared₁ hturn
    refine ⟨1, ?_⟩
    rw [executeThrough_succ, hturn]
    exact interruptedFrom_waiting hsto hfr hturn
  | cons entry schedule ih =>
    obtain ⟨next, input⟩ := entry
    refine through_of_segment ?_ first vars shared
    intro first vars shared runStep request vars' shared₁ hturn
    cases hin : vars'.state.applyUpdates (resumeUpdates input) with
    | mk outcome state =>
      cases outcome with
      | error error =>
        refine ⟨1, ?_⟩
        rw [List.map_cons, executeThrough_succ, hturn]
        dsimp only
        rw [hin]
        exact interruptedFrom_rejected hsto hfr hturn hin
      | ok _ =>
        obtain ⟨store', uuids', hfr', hacpt⟩ :=
          interruptedFrom_accepted hsto hfr hturn hin
        obtain ⟨fuel, halike⟩ := ih hfr' next { vars' with state } shared₁
        refine ⟨fuel + 1, ?_⟩
        rw [List.map_cons, executeThrough_succ, hturn, hacpt first next schedule]
        dsimp only
        rw [hin]
        exact halike

end Sides

/-! ## Whole runs -/

def Ending.isRunning : Ending B → Bool
  | .running _ => true
  | _ => false

section Whole

variable {runtime : GraphRuntime B W S} {context : RunContext} {watch : Interruption W}
  {inputs : List (ResumeInput B)} {vars : LoopVars B} {shared : Shared B W S}

/-- More turns change nothing about an execution that has ended. -/
theorem executeThrough_ended {fuel more : Nat}
    (h : (executeThrough runtime context watch fuel inputs vars shared).1.isRunning = false)
    (hle : fuel ≤ more) :
    executeThrough runtime context watch more inputs vars shared =
      executeThrough runtime context watch fuel inputs vars shared := by
  induction fuel generalizing more inputs vars shared with
  | zero => cases h
  | succ fuel ih =>
    obtain ⟨more, rfl⟩ := Nat.exists_eq_add_of_lt (Nat.lt_of_succ_le hle)
    rw [executeThrough_succ] at h ⊢
    rw [executeThrough_succ]
    cases hturn : executeNode runtime context watch true vars shared with
    | mk result shared₁ =>
      rw [hturn] at h
      cases result with
      | error error => rfl
      | ok turn =>
        cases turn with
        | goto vars' => exact ih h (Nat.le_add_right _ _)
        | finish vars' => rfl
        | suspend runStep request vars' =>
          cases inputs with
          | nil => rfl
          | cons input inputs =>
            dsimp only at h ⊢
            cases hin : vars'.state.applyUpdates (resumeUpdates input) with
            | mk outcome state =>
              rw [hin] at h
              cases outcome with
              | error error => rfl
              | ok _ => exact ih h (Nat.le_add_right _ _)

/-- Two executions that have both ended are the same. -/
theorem executeThrough_unique {fuel fuel' : Nat}
    (h : (executeThrough runtime context watch fuel inputs vars shared).1.isRunning = false)
    (h' : (executeThrough runtime context watch fuel' inputs vars shared).1.isRunning = false) :
    executeThrough runtime context watch fuel inputs vars shared =
      executeThrough runtime context watch fuel' inputs vars shared := by
  rcases Nat.le_total fuel fuel' with hle | hle
  · exact (executeThrough_ended h hle).symm
  · exact executeThrough_ended h' hle

theorem executeThrough_not_refused (fuel : Nat) (inputs : List (ResumeInput B))
    (vars : LoopVars B) (shared : Shared B W S) :
    (executeThrough runtime context watch fuel inputs vars shared).1 ≠ .refused := by
  induction fuel generalizing inputs vars shared with
  | zero => exact nofun
  | succ fuel ih =>
    rw [executeThrough_succ]
    split
    · exact nofun
    · exact ih _ _ _
    · exact nofun
    · split
      · exact nofun
      · split
        · exact ih _ _ _
        · exact nofun

/-- The context and the shared state of a new run. -/
theorem uninterrupted_eq (fuel : Nat) (inputs : List (ResumeInput B)) (state : AgentState B)
    (budget : RunBudget) (shared : Shared B W S) :
    uninterrupted runtime watch fuel inputs state budget shared =
      executeThrough runtime ⟨⟨shared.uuids 0⟩, budget, {}⟩ watch fuel inputs
        (entryVars runtime state)
        { shared with usage := {}, uuids := fun n => shared.uuids (n + 1) } := rfl

theorem interrupted_eq (hsto : runtime.checkpointStore.isSome = true) (fuel : Nat)
    (schedule : List (Nat × ResumeInput B)) (state : AgentState B) (budget : RunBudget)
    (shared : Shared B W S) :
    interrupted runtime watch fuel schedule state budget shared =
      interruptedFrom runtime ⟨⟨shared.uuids 0⟩, budget, {}⟩ watch fuel schedule
        (entryVars runtime state)
        { shared with usage := {}, uuids := fun n => shared.uuids (n + 1) } := by
  have hrun : runCheckpointed runtime watch fuel state budget shared =
      executeFrom runtime ⟨⟨shared.uuids 0⟩, budget, {}⟩ watch true fuel (entryVars runtime state)
        { shared with usage := {}, uuids := fun n => shared.uuids (n + 1) } := by
    show runCheckpointedWithContext _ _ _ _ _ _ = _
    unfold runCheckpointedWithContext
    rw [if_neg]
    rw [Option.isNone_iff_eq_none]
    exact Option.isSome_iff_ne_none.mp hsto
  unfold interrupted
  rw [hrun]
  rfl

end Whole

section Transparent

variable {runtime : GraphRuntime B W (InMemoryCheckpointState B)}
  {shared : Shared B W (InMemoryCheckpointState B)}
  (hsto : runtime.checkpointStore = some (InMemoryCheckpointStore.store B))
  (watch : Interruption W) (state : AgentState B) (budget : RunBudget)

include hsto

theorem uninterrupted_alike (fuel : Nat) (inputs : List (ResumeInput B))
    (hfr : FreshIds shared.store (fun n => shared.uuids (n + 1)) inputs.length) :
    ∃ first schedule, schedule.map Prod.snd = inputs ∧
      Alike (uninterrupted runtime watch fuel inputs state budget shared)
        (interrupted runtime watch first schedule state budget shared) := by
  have hsome : runtime.checkpointStore.isSome = true := by rw [hsto]; rfl
  obtain ⟨first, schedule, hsched, halike⟩ := interrupted_of_through hsto fuel inputs hfr
    (entryVars runtime state) { shared with usage := {}, uuids := fun n => shared.uuids (n + 1) }
  refine ⟨first, schedule, hsched, ?_⟩
  rw [interrupted_eq hsome, uninterrupted_eq]
  exact halike

theorem interrupted_alike (first : Nat) (schedule : List (Nat × ResumeInput B))
    (hfr : FreshIds shared.store (fun n => shared.uuids (n + 1)) schedule.length) :
    ∃ fuel, Alike (uninterrupted runtime watch fuel (schedule.map Prod.snd) state budget shared)
      (interrupted runtime watch first schedule state budget shared) := by
  have hsome : runtime.checkpointStore.isSome = true := by rw [hsto]; rfl
  rw [interrupted_eq hsome]
  exact through_of_interrupted hsto schedule hfr first (entryVars runtime state)
    { shared with usage := {}, uuids := fun n => shared.uuids (n + 1) }

end Transparent

/-- Suspending and resuming is transparent: a run that is suspended and resumed through an
in-memory store comes to the same end as the loop that is not interrupted, after the same nodes,
effects and routing decisions, however many turns each segment is followed for. Once both have
ended they have ended alike, and no resume is refused. -/
theorem suspend_resume_transparent {runtime : GraphRuntime B W (InMemoryCheckpointState B)}
    {shared : Shared B W (InMemoryCheckpointState B)}
    (hstore : runtime.checkpointStore = some (InMemoryCheckpointStore.store B))
    (inputs : List (ResumeInput B))
    (hfresh : FreshIds shared.store (fun n => shared.uuids (n + 1)) inputs.length)
    (watch : Interruption W) (state : AgentState B) (budget : RunBudget) :
    (∀ outcome, (∃ fuel, seen (uninterrupted runtime watch fuel inputs state budget shared) =
        outcome) ↔
      ∃ fuel schedule, schedule.map Prod.snd = inputs ∧
        seen (interrupted runtime watch fuel schedule state budget shared) = outcome) ∧
    ∀ fuel fuel' schedule, schedule.map Prod.snd = inputs →
      (interrupted runtime watch fuel' schedule state budget shared).1 ≠ .refused ∧
      ((uninterrupted runtime watch fuel inputs state budget shared).1.isRunning = false →
        (interrupted runtime watch fuel' schedule state budget shared).1.isRunning = false →
        seen (interrupted runtime watch fuel' schedule state budget shared) =
          seen (uninterrupted runtime watch fuel inputs state budget shared)) := by
  constructor
  · intro outcome
    constructor
    · rintro ⟨fuel, rfl⟩
      obtain ⟨first, schedule, hsched, halike⟩ :=
        uninterrupted_alike hstore watch state budget fuel inputs hfresh
      exact ⟨first, schedule, hsched, halike.seen⟩
    · rintro ⟨first, schedule, rfl, rfl⟩
      rw [List.length_map] at hfresh
      obtain ⟨fuel, halike⟩ := interrupted_alike hstore watch state budget first schedule hfresh
      exact ⟨fuel, halike.seen.symm⟩
  · rintro fuel first schedule rfl
    rw [List.length_map] at hfresh
    obtain ⟨fuel', halike⟩ := interrupted_alike hstore watch state budget first schedule hfresh
    have hseen := halike.seen
    obtain ⟨store, uuids, halike⟩ := halike
    rw [hseen, halike]
    refine ⟨executeThrough_not_refused _ _ _ _, fun hend hend' => ?_⟩
    exact congrArg seen (executeThrough_unique hend' hend)

namespace Script

/-- One resume input, which adds to the tally. -/
def approvals : List (ResumeInput Tally) := ([4] : List Nat)

theorem suspendingStart_fresh : FreshIds suspendingStart.store
    (fun n => suspendingStart.uuids (n + 1)) approvals.length where
  unpoisoned := rfl
  unsaved := fun _ _ => Std.TreeMap.not_mem_emptyc
  unconsumed := fun _ _ => Std.TreeSet.not_mem_emptyc
  distinct := by decide

end Script

/-- The run that is suspended for approval ends the same way without interruption. -/
theorem suspend_resume_transparent_scripted : ∃ fuel schedule,
    schedule.map Prod.snd = Script.approvals ∧
      seen (interrupted Script.maximalRuntime Script.quiet fuel schedule Script.initialState
        maximalBudget Script.suspendingStart) =
      seen (uninterrupted Script.maximalRuntime Script.quiet 2 Script.approvals
        Script.initialState maximalBudget Script.suspendingStart) :=
  ((suspend_resume_transparent rfl Script.approvals Script.suspendingStart_fresh Script.quiet
    Script.initialState maximalBudget).1 _).mp ⟨2, rfl⟩

end ServerRS.AgentCore

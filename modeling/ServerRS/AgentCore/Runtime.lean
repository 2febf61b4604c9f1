import ServerRS.AgentCore.Checkpoint

/-!
# The graph runtime

Models `agent-core/src/graph/runtime.rs`.

`executeNode` is one turn of the loop of `execute_from`, from `check_ready` to the
choice of the next node; `executeFrom` is the loop. It runs for a number of turns
given as fuel and reports whether it is still running, so that every prefix of an
execution, and a loop that never ends, has a meaning.

`Shared` is what outlives the local variables of the loop: the world, the run's usage
cell, the checkpoint store, the supply of `Uuid::new_v4`, and, for the proofs only, the
list of events that an observer of the nodes, routers and executor would have seen.
-/

namespace ServerRS.AgentCore

open Lib

variable (B : Type) [AgentBusinessState B] (W S : Type)

/-- What an observer of the run sees. The answer of an effect call is the one the runtime
goes on with. -/
inductive Event where
  | nodeExecuted (step : RunStep) (node : NodeId)
  | effectExecuted (envelope : EffectEnvelope (Effect B)) (answer : Except EffectError (Receipt B))
  | routeSelected (node : NodeId) (answer : Except NodeError RouteKey)

/-- The state that the parts of a run share. -/
structure Shared where
  world : W
  usage : UsageSnapshot := {}
  store : S
  uuids : Nat → Uuid
  events : List (Event B) := []

structure GraphRuntime where
  graph : CompiledGraph B W
  effectExecutor : Option (EffectExecutor B W) := none
  checkpointStore : Option (CheckpointStore B S) := none

/-- The local variables of the loop of `execute_from`. -/
structure LoopVars where
  state : AgentState B
  current : NodeId
  visited : List NodeId
  effectReceipts : List (EffectReceipt (Receipt B))

/-- How a turn of the loop ends when it does not fail. -/
inductive Turn where
  | goto (vars : LoopVars B)
  | suspend (runStep : RunStep) (request : SuspendRequest (SuspendData B)) (vars : LoopVars B)
  | finish (vars : LoopVars B)

/-- Where a bounded execution stands: still in the loop, or returned. -/
inductive Execution where
  | running (vars : LoopVars B)
  | returned (result : GraphExecutionResult B)

variable {B W S}

/-- A part of a run. -/
abbrev Run (B : Type) [AgentBusinessState B] (W S ε α : Type) := Exec (Shared B W S) ε α

/-! ## Access to the shared state -/

/-- Append an event. -/
def observe {ε : Type} (event : Event B) : Run B W S ε Unit :=
  Exec.modify fun shared => { shared with events := shared.events ++ [event] }

def onBudget {α : Type} (x : Exec UsageSnapshot GraphRunError α) : Run B W S GraphRunError α :=
  Exec.zoom Shared.usage (fun usage shared => { shared with usage }) x

def onStore {α : Type} (x : Exec S CheckpointError α) : Run B W S CheckpointError α :=
  Exec.zoom Shared.store (fun store shared => { shared with store }) x

/-- Let a node or an executor act on the world and the budget. -/
def actOn {ε α : Type} (context : RunContext) (call : W → BudgetUse (α × W)) : Run B W S ε α :=
  fun shared =>
    match (call shared.world).run context.limits shared.usage with
    | ((answer, world), usage) => (.ok answer, { shared with world, usage })

def newUuid {ε : Type} : Run B W S ε Uuid := fun shared =>
  (.ok (shared.uuids 0), { shared with uuids := fun n => shared.uuids (n + 1) })

/-! ## One turn of the loop -/

section Turn

variable (runtime : GraphRuntime B W S) (context : RunContext) (watch : Interruption W)

/-- `RunContext::check_active`. -/
def checkActive : Run B W S GraphRunError Unit := do
  let shared ← Exec.get
  match watch.checked shared.world with
  | some interrupt => Exec.throw interrupt.toError
  | none => pure ()

/-- `RunContext::check_ready`. -/
def checkReady (graphMaxSteps : NonZeroU32) : Run B W S GraphRunError RunStep := do
  checkActive watch
  onBudget (reserveStep context.limits graphMaxSteps)

/-- The node call with the `select!` around it. How far an interrupted call got is up to the
node's behaviour, like everything it does to the world. -/
def awaitNode (runStep : RunStep) (node : AgentNode B W) (vars : LoopVars B) :
    Run B W S GraphRunError (NodeResult B) := do
  observe (.nodeExecuted runStep vars.current)
  let answer ← actOn context (node.execute vars.state context)
  let shared ← Exec.get
  match watch.awaited shared.world with
  | some interrupt => Exec.throw interrupt.toError
  | none =>
    match answer with
    | .ok result => pure result
    | .error error => Exec.throw (error.intoGraphRun vars.current)

/-- The executor call with the `select!` around it: an interrupted call counts as failed with
an unknown commit state. -/
def awaitEffect {ε : Type} (executor : EffectExecutor B W) (envelope : EffectEnvelope (Effect B)) :
    Run B W S ε (Except EffectError (Receipt B)) := do
  let answer ← actOn context (executor.execute envelope context)
  let shared ← Exec.get
  let value := match watch.awaited shared.world with
    | some .cancelled =>
      .error (EffectError.unknownCommit "Effect 执行期间运行被取消，外部提交状态未知")
    | some .deadlineExceeded =>
      .error (EffectError.unknownCommit "Effect 执行期间超过截止时间，外部提交状态未知")
    | none => answer
  observe (.effectExecuted envelope value)
  pure value

/-- `candidate.apply_updates(updates)`, with the error the runtime gives it. -/
def updateState (updates : List (AgentUpdate (Update B))) (error : AgentStateError → GraphRunError)
    (candidate : AgentState B) : Run B W S GraphRunError (AgentState B) :=
  match candidate.applyUpdates updates with
  | (.ok (), candidate) => pure candidate
  | (.error e, _) => Exec.throw (error e)

/-- The local variables of the effect loop. -/
structure EffectVars (B : Type) [AgentBusinessState B] where
  candidate : AgentState B
  nodeReceipts : List (EffectReceipt (Receipt B)) := []
  completedEffectIds : List EffectId := []

/-- The end of the body of the effect loop: `effectId` is done with the receipt `value`. -/
def EffectVars.push (vars : EffectVars B) (candidate : AgentState B) (effectId : EffectId)
    (value : Receipt B) : EffectVars B where
  candidate := candidate
  nodeReceipts := vars.nodeReceipts ++ [⟨effectId, value⟩]
  completedEffectIds := vars.completedEffectIds ++ [effectId]

def effectEnvelope (runStep : RunStep) (current : NodeId) (ordinal : Nat) (effect : Effect B) :
    EffectEnvelope (Effect B) :=
  ⟨⟨context.runId, runStep, current, UInt32.ofNat ordinal⟩, effect⟩

/-- The loop over `effects.into_iter().enumerate()`; `ordinal` is the position of the first
remaining effect. -/
def dispatchEffects (runStep : RunStep) (current : NodeId) :
    Nat → List (Effect B) → EffectVars B → Run B W S GraphRunError (EffectVars B)
  | _, [], vars => pure vars
  | ordinal, effect :: rest, vars =>
    if ordinal ≥ 2 ^ 32 then
      Exec.throw (.nodeFailed current ⟨.invariant, "节点返回的 Effect 数量超过 u32", none⟩)
    else do
      let envelope := effectEnvelope context runStep current ordinal effect
      match runtime.effectExecutor with
      | none => Exec.throw (.missingEffectExecutor current)
      | some executor => do
        checkActive watch
        match ← awaitEffect context watch executor envelope with
        | .error error =>
          Exec.throw (.effectFailed current envelope.id vars.completedEffectIds error)
        | .ok value => do
          let candidate ← updateState (receiptUpdates value)
            (.postEffectStateUpdateFailed current envelope.id) vars.candidate
          dispatchEffects runStep current (ordinal + 1) rest
            (vars.push candidate envelope.id value)

/-- The selection of the next node; `none` at the end of the run. -/
def selectNext (current : NodeId) (state : AgentState B) :
    TransitionRule B W → Run B W S GraphRunError (Option NodeId)
  | .goto next => pure (some next)
  | .branch router targets => do
    let shared ← Exec.get
    let (answer, world) := router.select state shared.world
    Exec.modify fun shared => { shared with world }
    observe (.routeSelected current answer)
    match answer with
    | .error error => Exec.throw (.nodeFailed current error)
    | .ok route =>
      match targets[route]? with
      | some target => pure (some target)
      | none => Exec.throw (.unknownRoute current route)
  | .atEnd =>
    if state.outcome.isNone then Exec.throw .missingOutcome else pure none

/-- What a node answered, with an absent request for `Continue`. -/
structure NodeAnswer (B : Type) [AgentBusinessState B] where
  updates : List (AgentUpdate (Update B))
  effects : List (Effect B)
  usage : UsageDelta
  suspendRequest : Option (SuspendRequest (SuspendData B))

/-- The tuple that the match on a `NodeResult` takes out of it. -/
def NodeResult.answer : NodeResult B → NodeAnswer B
  | .continue updates effects usage => ⟨updates, effects, usage, none⟩
  | .suspend updates effects usage request => ⟨updates, effects, usage, some request⟩

/-- The part of a turn before the first effect: everything that can still refuse the node's
answer. The result is the transition, the answer and the updated candidate state. -/
def prepareTurn (checkpointing : Bool) (runStep : RunStep) (vars : LoopVars B) :
    Run B W S GraphRunError (TransitionRule B W × NodeAnswer B × AgentState B) := do
  match runtime.graph.node vars.current with
  | none => Exec.throw (.missingNode vars.current)
  | some node => do
    let result ← awaitNode context watch runStep node vars
    let answer := result.answer
    if answer.suspendRequest.isSome && !checkpointing then
      Exec.throw (.unexpectedSuspend vars.current)
    else
      match runtime.graph.transition vars.current with
      | none => Exec.throw (.missingTransition vars.current)
      | some transition =>
        if answer.suspendRequest.isSome && transition.isEnd then
          Exec.throw (.suspendAtEnd vars.current)
        else do
          onBudget (recordUsage context.limits answer.usage)
          let candidate ← updateState answer.updates (.stateUpdateFailed vars.current) vars.state
          pure (transition, answer, candidate)

/-- The end of a turn: where the run goes from the committed local variables. -/
def concludeTurn (runStep : RunStep) (request : Option (SuspendRequest (SuspendData B)))
    (vars : LoopVars B) : Option NodeId → Turn B
  | some nextNode =>
    match request with
    | some request => .suspend runStep request { vars with current := nextNode }
    | none => .goto { vars with current := nextNode }
  | none => .finish vars

/-- What a turn commits once all its effects are done. -/
def LoopVars.commit (vars : LoopVars B) (effectVars : EffectVars B) : LoopVars B :=
  { vars with
    state := effectVars.candidate
    effectReceipts := vars.effectReceipts ++ effectVars.nodeReceipts
    visited := vars.visited ++ [vars.current] }

/-- One turn of the loop of `execute_from`. -/
def executeNode (checkpointing : Bool) (vars : LoopVars B) : Run B W S GraphRunError (Turn B) := do
  let runStep ← checkReady context watch runtime.graph.policy.maxSteps
  let (transition, answer, candidate) ←
    prepareTurn runtime context watch checkpointing runStep vars
  let effectVars ← dispatchEffects runtime context watch runStep vars.current 0 answer.effects
    { candidate }
  let nextNode ← selectNext vars.current effectVars.candidate transition
  pure (concludeTurn runStep answer.suspendRequest (vars.commit effectVars) nextNode)

end Turn

/-! ## The loop -/

section Loop

variable (runtime : GraphRuntime B W S) (context : RunContext) (watch : Interruption W)

def suspendedCheckpoint (runStep : RunStep) (request : SuspendRequest (SuspendData B))
    (vars : LoopVars B) (uuid : Uuid) (usage : UsageSnapshot) : AgentCheckpoint B where
  id := ⟨uuid⟩
  graphId := runtime.graph.id
  graphVersion := runtime.graph.version
  stateSchemaVersion := stateSchemaVersion B
  runId := context.runId
  position := ⟨runStep, vars.current⟩
  state := vars.state
  budget := context.limits
  usage := usage
  visited := vars.visited
  effectReceipts := vars.effectReceipts
  suspend := request
  trace := context.trace

/-- Build the checkpoint of a suspended turn and save it. -/
def saveCheckpoint (runStep : RunStep) (request : SuspendRequest (SuspendData B))
    (vars : LoopVars B) : Run B W S (CheckpointRunError B) (AgentCheckpoint B) := do
  let uuid ← newUuid
  let shared ← Exec.get
  let checkpoint := suspendedCheckpoint runtime context runStep request vars uuid shared.usage
  match runtime.checkpointStore with
  | none => Exec.throw .missingStore
  | some store => do
    Exec.mapError (.saveFailed checkpoint.id checkpoint) (onStore (store.save checkpoint))
    pure checkpoint

/-- `GraphRuntime::execute_from`, for at most `fuel` turns. -/
def executeFrom (checkpointing : Bool) :
    Nat → LoopVars B → Run B W S (CheckpointRunError B) (Execution B)
  | 0, vars => pure (.running vars)
  | fuel + 1, vars => do
    match ← Exec.mapError .graph (executeNode runtime context watch checkpointing vars) with
    | .goto vars => executeFrom checkpointing fuel vars
    | .suspend runStep request vars => do
      let checkpoint ← saveCheckpoint runtime context runStep request vars
      pure (.returned (.suspended checkpoint))
    | .finish vars => do
      let shared ← Exec.get
      pure (.returned (.completed {
        state := vars.state
        usage := shared.usage
        visited := vars.visited
        runId := context.runId
        effectReceipts := vars.effectReceipts }))

end Loop

/-! ## Entry points -/

section Entry

variable (runtime : GraphRuntime B W S)

/-- The local variables at the entry of the graph. -/
def entryVars (state : AgentState B) : LoopVars B where
  state := state
  current := runtime.graph.entry
  visited := []
  effectReceipts := []

/-- What `run_with_context` comes to; `unreachable` is a panic in one of its `unreachable!` arms. -/
inductive RunOutcome (B : Type) [AgentBusinessState B] where
  | running (vars : LoopVars B)
  | completed (result : GraphRunResult B)
  | failed (error : GraphRunError)
  | unreachable (message : String)

/-- The match at the end of `run_with_context`. -/
def RunOutcome.ofExecution : Except (CheckpointRunError B) (Execution B) → RunOutcome B
  | .ok (.running vars) => .running vars
  | .ok (.returned (.completed result)) => .completed result
  | .ok (.returned (.suspended _)) =>
    .unreachable "completion-only execution cannot return Suspended"
  | .error (.graph error) => .failed error
  | .error .missingStore => .unreachable "completion-only execution never requires a CheckpointStore"
  | .error (.saveFailed _ _ _) => .unreachable "completion-only execution never saves a Checkpoint"

def runWithContext (context : RunContext) (watch : Interruption W) (fuel : Nat)
    (state : AgentState B) (shared : Shared B W S) : RunOutcome B × Shared B W S :=
  let (result, shared) := executeFrom runtime context watch false fuel (entryVars runtime state) shared
  (.ofExecution result, shared)

def runCheckpointedWithContext (context : RunContext) (watch : Interruption W) (fuel : Nat)
    (state : AgentState B) : Run B W S (CheckpointRunError B) (Execution B) :=
  if runtime.checkpointStore.isNone then Exec.throw .missingStore
  else executeFrom runtime context watch true fuel (entryVars runtime state)

/-- `RunContext::new`: a fresh run id and an unused budget. -/
def newRunContext {ε : Type} (budget : RunBudget) (trace : RunTrace) : Run B W S ε RunContext := do
  let uuid ← newUuid
  Exec.modify fun shared => { shared with usage := {} }
  pure ⟨⟨uuid⟩, budget, trace⟩

def runCheckpointed (watch : Interruption W) (fuel : Nat) (state : AgentState B)
    (budget : RunBudget) : Run B W S (CheckpointRunError B) (Execution B) := do
  let context ← newRunContext budget {}
  runCheckpointedWithContext runtime context watch fuel state

/-- The local checks of `resume_with_context` on the loaded checkpoint. -/
def checkResumable (graph : CompiledGraph B W) (schemaVersion : StateSchemaVersion)
    (checkpoint : AgentCheckpoint B) : Except (ResumeError B) Unit :=
  if checkpoint.graphId ≠ graph.id then
    .error (.graphIdMismatch graph.id checkpoint.graphId)
  else if checkpoint.graphVersion ≠ graph.version then
    .error (.graphVersionMismatch graph.version checkpoint.graphVersion)
  else if checkpoint.stateSchemaVersion ≠ schemaVersion then
    .error (.stateSchemaVersionMismatch schemaVersion checkpoint.stateSchemaVersion)
  else if checkpoint.position.completedStep.get ≠ checkpoint.usage.steps then
    .error (.runPositionMismatch checkpoint.position.completedStep.get checkpoint.usage.steps)
  else if (graph.node checkpoint.position.nextNode).isNone then
    .error (.missingNode checkpoint.position.nextNode)
  else .ok ()

/-- The state to resume from: the stored state with the updates of the resume input. -/
def applyResumeInput (checkpoint : AgentCheckpoint B) (input : ResumeInput B) :
    Except (ResumeError B) (AgentState B) :=
  match checkpoint.state.applyUpdates (resumeUpdates input) with
  | (.ok (), state) => .ok state
  | (.error error, _) => .error (.resumeInputRejected error)

/-- The error of `resume_with_context` for a failed `take`. -/
def takeError (checkpointId : CheckpointId) : CheckpointError → ResumeError B
  | .notFound _ => .checkpointAlreadyConsumed checkpointId
  | source => .checkpointLoad source

/-- The trace of a resumed run: the stored one, completed and extended by the caller's. -/
def restoreTrace (stored given : RunTrace) : RunTrace where
  traceId := if stored.traceId.isNone then given.traceId else stored.traceId
  attributes := given.attributes.foldl (fun attributes key value => attributes.insert key value)
    stored.attributes

/-- `RunContext::resume`: the stored run id and limits, on a new handle with the stored usage. -/
def resumeContext {ε : Type} (checkpoint : AgentCheckpoint B) (trace : RunTrace) :
    Run B W S ε RunContext := do
  Exec.modify fun shared => { shared with usage := checkpoint.usage }
  pure ⟨checkpoint.runId, checkpoint.budget, restoreTrace checkpoint.trace trace⟩

/-- The local variables of a resumed loop. -/
def resumeVars (checkpoint : AgentCheckpoint B) (state : AgentState B) : LoopVars B where
  state := state
  current := checkpoint.position.nextNode
  visited := checkpoint.visited
  effectReceipts := checkpoint.effectReceipts

def resumeWithContext (watch : Interruption W) (fuel : Nat) (checkpointId : CheckpointId)
    (input : ResumeInput B) (trace : RunTrace) : Run B W S (ResumeError B) (Execution B) := do
  match runtime.checkpointStore with
  | none => Exec.throw (.runFailed .missingStore)
  | some store => do
    let checkpoint ← Exec.mapError .checkpointLoad (onStore (store.load checkpointId))
    Exec.ofExcept (checkResumable runtime.graph (stateSchemaVersion B) checkpoint)
    let state ← Exec.ofExcept (applyResumeInput checkpoint input)
    let _ ← Exec.mapError (takeError checkpointId) (onStore (store.take checkpointId))
    let context ← resumeContext checkpoint trace
    Exec.mapError .runFailed
      (executeFrom runtime context watch true fuel (resumeVars checkpoint state))

def resume (watch : Interruption W) (fuel : Nat) (checkpointId : CheckpointId)
    (input : ResumeInput B) : Run B W S (ResumeError B) (Execution B) :=
  resumeWithContext runtime watch fuel checkpointId input {}

end Entry

end ServerRS.AgentCore

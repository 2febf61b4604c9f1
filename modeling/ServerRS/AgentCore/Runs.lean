import ServerRS.AgentCore.Turn

/-!
# Runs

A run is one `RunId` from its start through every suspension and resume. `Step` is
its transition relation: a turn of the loop with each of its ends, the resume of the
checkpoint the run is suspended at, and whatever happens elsewhere in between. A
suspended run can go on in any runtime that `resume_with_context` accepts; `runtimes`
says which ones there are.

The executable entry points and this relation are connected by `executeFrom_run`,
`runWithContext_run` and `resumeWithContext_run`: what they return is the state that a
run of `Step` reaches.
-/

namespace ServerRS.AgentCore

open Lib

variable {B : Type} [AgentBusinessState B] {W S : Type}

/-- What stays fixed during one call of `execute_from`. -/
structure Segment (B : Type) [AgentBusinessState B] (W S : Type) where
  runtime : GraphRuntime B W S
  context : RunContext
  checkpointing : Bool

/-- Where a run stands between two of its turns. -/
inductive RunState (B : Type) [AgentBusinessState B] (W S : Type) where
  | active (segment : Segment B W S) (vars : LoopVars B)
  | suspended (checkpoint : AgentCheckpoint B)
  | completed (result : GraphRunResult B)
  | failed (error : CheckpointRunError B)

abbrev RunConfig (B : Type) [AgentBusinessState B] (W S : Type) :=
  RunState B W S × Shared B W S

def Segment.stepLimit (segment : Segment B W S) : Nat :=
  (AgentCore.stepLimit segment.context.limits segment.runtime.graph.policy.maxSteps).toNat

def LoopVars.result (vars : LoopVars B) (context : RunContext) (usage : UsageSnapshot) :
    GraphRunResult B where
  state := vars.state
  usage := usage
  visited := vars.visited
  runId := context.runId
  effectReceipts := vars.effectReceipts

def AgentCheckpoint.context (checkpoint : AgentCheckpoint B) (trace : RunTrace) : RunContext :=
  ⟨checkpoint.runId, checkpoint.budget, restoreTrace checkpoint.trace trace⟩

/-- The transition relation of a run. -/
inductive Step (runtimes : GraphRuntime B W S → Prop) : RunConfig B W S → RunConfig B W S → Prop where
  | goto {segment : Segment B W S} {vars vars' : LoopVars B} {shared shared' : Shared B W S}
      (watch : Interruption W)
      (hturn : executeNode segment.runtime segment.context watch segment.checkpointing vars shared =
        (.ok (.goto vars'), shared')) :
      Step runtimes (.active segment vars, shared) (.active segment vars', shared')
  | suspend {segment : Segment B W S} {vars vars' : LoopVars B}
      {shared shared₁ shared' : Shared B W S} {runStep : RunStep}
      {request : SuspendRequest (SuspendData B)} {checkpoint : AgentCheckpoint B}
      (watch : Interruption W)
      (hturn : executeNode segment.runtime segment.context watch segment.checkpointing vars shared =
        (.ok (.suspend runStep request vars'), shared₁))
      (hsave : saveCheckpoint segment.runtime segment.context runStep request vars' shared₁ =
        (.ok checkpoint, shared')) :
      Step runtimes (.active segment vars, shared) (.suspended checkpoint, shared')
  | unsaved {segment : Segment B W S} {vars vars' : LoopVars B}
      {shared shared₁ shared' : Shared B W S} {runStep : RunStep}
      {request : SuspendRequest (SuspendData B)} {error : CheckpointRunError B}
      (watch : Interruption W)
      (hturn : executeNode segment.runtime segment.context watch segment.checkpointing vars shared =
        (.ok (.suspend runStep request vars'), shared₁))
      (hsave : saveCheckpoint segment.runtime segment.context runStep request vars' shared₁ =
        (.error error, shared')) :
      Step runtimes (.active segment vars, shared) (.failed error, shared')
  | finish {segment : Segment B W S} {vars vars' : LoopVars B} {shared shared' : Shared B W S}
      (watch : Interruption W)
      (hturn : executeNode segment.runtime segment.context watch segment.checkpointing vars shared =
        (.ok (.finish vars'), shared')) :
      Step runtimes (.active segment vars, shared)
        (.completed (vars'.result segment.context shared'.usage), shared')
  | fail {segment : Segment B W S} {vars : LoopVars B} {shared shared' : Shared B W S}
      {error : GraphRunError} (watch : Interruption W)
      (hturn : executeNode segment.runtime segment.context watch segment.checkpointing vars shared =
        (.error error, shared')) :
      Step runtimes (.active segment vars, shared) (.failed (.graph error), shared')
  | resume {checkpoint : AgentCheckpoint B} {state : AgentState B} {runtime : GraphRuntime B W S}
      (shared : Shared B W S) (input : ResumeInput B) (trace : RunTrace)
      (hrtm : runtimes runtime) (hsto : runtime.checkpointStore.isSome = true)
      (hchk : checkResumable runtime.graph (stateSchemaVersion B) checkpoint = .ok ())
      (hin : applyResumeInput checkpoint input = .ok state) :
      Step runtimes (.suspended checkpoint, shared)
        (.active ⟨runtime, checkpoint.context trace, true⟩ (resumeVars checkpoint state),
          { shared with usage := checkpoint.usage })
  /-- Other runs, the services behind the nodes, and tasks that still hold the run's budget
  handle: the step counter is out of their reach, the log is the run's own. -/
  | elsewhere (state : RunState B W S) (shared : Shared B W S) (world : W) (store : S)
      (uuids : Nat → Uuid) (usage : UsageSnapshot) (hsteps : usage.steps = shared.usage.steps) :
      Step runtimes (state, shared) (state, { shared with world, store, uuids, usage })

/-- A single runtime. -/
def Only (runtime : GraphRuntime B W S) (other : GraphRuntime B W S) : Prop := other = runtime

theorem only_self (runtime : GraphRuntime B W S) : Only runtime runtime := rfl

/-- A run at its start: nothing counted, nothing observed. Where it can be suspended there is a
store. -/
inductive Started (runtimes : GraphRuntime B W S → Prop) : RunConfig B W S → Prop where
  | entry {runtime : GraphRuntime B W S} {shared : Shared B W S} (context : RunContext)
      (checkpointing : Bool) (state : AgentState B) (hrtm : runtimes runtime)
      (hsto : checkpointing = true → runtime.checkpointStore.isSome = true)
      (hsteps : shared.usage.steps = 0) (hevs : shared.events = []) :
      Started runtimes (.active ⟨runtime, context, checkpointing⟩ (entryVars runtime state), shared)

/-- The runs of the entry points over the runtimes in `runtimes`. -/
abbrev Runs (runtimes : GraphRuntime B W S → Prop) : RunConfig B W S → Prop :=
  Reachable (Started runtimes) (Step runtimes)

/-! ## Saving a checkpoint -/

section Save

variable {runtime : GraphRuntime B W S} {context : RunContext} {runStep : RunStep}
  {request : SuspendRequest (SuspendData B)} {vars : LoopVars B} {shared shared' : Shared B W S}

/-- Saving hands the checkpoint of the turn to the store; the world, the usage and the log are
not touched. -/
theorem saveCheckpoint_spec {result : Except (CheckpointRunError B) (AgentCheckpoint B)}
    (h : saveCheckpoint runtime context runStep request vars shared = (result, shared')) :
    let checkpoint :=
      suspendedCheckpoint runtime context runStep request vars (shared.uuids 0) shared.usage
    (∃ store, shared' = { shared with
        store := store, uuids := fun n => shared.uuids (n + 1) }) ∧
      ((result = .ok checkpoint ∧ ∃ store, runtime.checkpointStore = some store ∧
          store.save checkpoint shared.store = (.ok (), shared'.store)) ∨
        (result = .error .missingStore ∧ runtime.checkpointStore = none) ∨
        ∃ source, result = .error (.saveFailed checkpoint.id checkpoint source)) := by
  intro checkpoint
  obtain ⟨uuid, shared₁, huuid, h₁⟩ | ⟨error, huuid, -⟩ := Exec.bind_eq h
  · cases huuid
    rw [Exec.get_bind_apply] at h₁
    cases hsto : runtime.checkpointStore with
    | none =>
      rw [hsto] at h₁
      cases h₁
      exact ⟨⟨shared.store, rfl⟩, .inr (.inl ⟨rfl, rfl⟩)⟩
    | some store =>
      rw [hsto] at h₁
      obtain ⟨⟨⟩, shared₂, hsave, h₂⟩ | ⟨error, hsave, rfl⟩ := Exec.bind_eq h₁
      · cases h₂
        obtain ⟨saved, hsav, rfl⟩ := Exec.zoom_eq.mp (Exec.mapError_eq_ok.mp hsave)
        exact ⟨⟨saved, rfl⟩, .inl ⟨rfl, store, rfl, hsav⟩⟩
      · obtain ⟨source, hfai, rfl⟩ := Exec.mapError_eq_error.mp hsave
        obtain ⟨saved, -, rfl⟩ := Exec.zoom_eq.mp hfai
        exact ⟨⟨saved, rfl⟩, .inr (.inr ⟨source, rfl⟩)⟩
  · cases huuid

end Save

/-! ## The entry points -/

def Segment.stateOf (segment : Segment B W S) :
    Except (CheckpointRunError B) (Execution B) → RunState B W S
  | .ok (.running vars) => .active segment vars
  | .ok (.returned (.suspended checkpoint)) => .suspended checkpoint
  | .ok (.returned (.completed result)) => .completed result
  | .error error => .failed error

section Entry

variable {runtimes : GraphRuntime B W S → Prop} {runtime : GraphRuntime B W S}
  {watch : Interruption W} {fuel : Nat} {shared shared' : Shared B W S}

open Relation (ReflTransGen)

variable {vars : LoopVars B} {result : Except (CheckpointRunError B) (Execution B)}
  {context : RunContext} {state : AgentState B} {graph : CompiledGraph B W}
  {schemaVersion : StateSchemaVersion} {checkpoint : AgentCheckpoint B} {error : ResumeError B}

variable (runtimes) in
theorem executeFrom_run (segment : Segment B W S)
    (h : executeFrom segment.runtime segment.context watch segment.checkpointing fuel vars shared =
      (result, shared')) :
    ReflTransGen (Step runtimes) (.active segment vars, shared) (segment.stateOf result, shared') := by
  induction fuel generalizing vars shared with
  | zero =>
    cases h
    exact .refl
  | succ fuel ih =>
    rw [executeFrom] at h
    obtain ⟨turn, shared₁, hturn, h₁⟩ | ⟨error, hturn, rfl⟩ := Exec.bind_eq h
    · rw [Exec.mapError_eq_ok] at hturn
      cases turn with
      | goto vars' => exact .head (.goto watch hturn) (ih h₁)
      | suspend runStep request vars' =>
        obtain ⟨checkpoint, shared₂, hsave, h₂⟩ | ⟨error, hsave, rfl⟩ := Exec.bind_eq h₁
        · cases h₂
          exact .single (.suspend watch hturn hsave)
        · exact .single (.unsaved watch hturn hsave)
      | finish vars' =>
        cases h₁
        exact .single (.finish watch hturn)
    · obtain ⟨error, hfail, rfl⟩ := Exec.mapError_eq_error.mp hturn
      exact .single (.fail watch hfail)

theorem executeFrom_completion_only
    (h : executeFrom runtime context watch false fuel vars shared = (result, shared')) :
    (∃ vars', result = .ok (.running vars')) ∨
      (∃ done, result = .ok (.returned (.completed done))) ∨
      ∃ error, result = .error (.graph error) := by
  induction fuel generalizing vars shared with
  | zero =>
    cases h
    exact .inl ⟨vars, rfl⟩
  | succ fuel ih =>
    rw [executeFrom] at h
    obtain ⟨turn, shared₁, hturn, h₁⟩ | ⟨error, hturn, rfl⟩ := Exec.bind_eq h
    · rw [Exec.mapError_eq_ok] at hturn
      cases turn with
      | goto vars' => exact ih h₁
      | suspend runStep request vars' =>
        obtain ⟨_, _, _, _, _, _, _, hchec, _⟩ := executeNode_ok hturn
        cases hchec
      | finish vars' =>
        cases h₁
        exact .inr (.inl ⟨_, rfl⟩)
    · obtain ⟨error, _, rfl⟩ := Exec.mapError_eq_error.mp hturn
      exact .inr (.inr ⟨error, rfl⟩)

variable {store : CheckpointStore B S} {checkpointId : CheckpointId} {input : ResumeInput B}
  {trace : RunTrace}

/-- The errors of the local checks of `resume_with_context`. -/
def ResumeError.isUnsuitable : ResumeError B → Bool
  | .graphIdMismatch _ _ => true
  | .graphVersionMismatch _ _ => true
  | .stateSchemaVersionMismatch _ _ => true
  | .runPositionMismatch _ _ => true
  | .missingNode _ => true
  | _ => false

theorem checkResumable_ok :
    checkResumable graph schemaVersion checkpoint = .ok () ↔
      checkpoint.graphId = graph.id ∧ checkpoint.graphVersion = graph.version ∧
        checkpoint.stateSchemaVersion = schemaVersion ∧
        checkpoint.position.completedStep.get = checkpoint.usage.steps ∧
        (graph.node checkpoint.position.nextNode).isSome = true := by
  unfold checkResumable
  split
  · next hne => simp [hne]
  · next hid =>
    split
    · next hne => simp [hne]
    · next hver =>
      split
      · next hne => simp [hne]
      · next hschema =>
        split
        · next hne => simp [hne]
        · next hsteps =>
          simp only [not_not] at hid hver hschema hsteps
          cases hnode : graph.node checkpoint.position.nextNode <;>
            simp [hid, hver, hschema, hsteps]

theorem checkResumable_error (h : checkResumable graph schemaVersion checkpoint = .error error) :
    error.isUnsuitable = true := by
  unfold checkResumable at h
  split at h
  · cases h; rfl
  · split at h
    · cases h; rfl
    · split at h
      · cases h; rfl
      · split at h
        · cases h; rfl
        · split at h
          · cases h; rfl
          · cases h

theorem applyResumeInput_ok :
    applyResumeInput checkpoint input = .ok state ↔
      checkpoint.state.applyUpdates (resumeUpdates input) = (.ok (), state) := by
  unfold applyResumeInput
  split
  · next happ => simp [happ]
  · next happ => simp [happ]

theorem applyResumeInput_error (h : applyResumeInput checkpoint input = .error error) :
    ∃ rejection, error = .resumeInputRejected rejection := by
  unfold applyResumeInput at h
  split at h
  · cases h
  · next rejection _ _ =>
    cases h
    exact ⟨_, rfl⟩

theorem resumeContext_bind_apply {ε α : Type} (checkpoint : AgentCheckpoint B) (trace : RunTrace)
    (f : RunContext → Run B W S ε α) (shared : Shared B W S) :
    (resumeContext checkpoint trace >>= f) shared =
      f (checkpoint.context trace) { shared with usage := checkpoint.usage } := rfl

/-- The ways through `resume_with_context` on a store: refused by the load, by the local checks,
by the resume input or by the take, or executed. -/
inductive ResumeRun (runtime : GraphRuntime B W S) (store : CheckpointStore B S)
    (watch : Interruption W) (fuel : Nat) (checkpointId : CheckpointId) (input : ResumeInput B)
    (trace : RunTrace) (shared : Shared B W S) :
    Except (ResumeError B) (Execution B) → Shared B W S → Prop where
  | unloaded {source : CheckpointError} {st : S}
      (hload : store.load checkpointId shared.store = (.error source, st)) :
      ResumeRun runtime store watch fuel checkpointId input trace shared
        (.error (.checkpointLoad source)) { shared with store := st }
  | unsuitable {checkpoint : AgentCheckpoint B} {st : S} {error : ResumeError B}
      (hload : store.load checkpointId shared.store = (.ok checkpoint, st))
      (hchk : checkResumable runtime.graph (stateSchemaVersion B) checkpoint = .error error) :
      ResumeRun runtime store watch fuel checkpointId input trace shared
        (.error error) { shared with store := st }
  | inputRejected {checkpoint : AgentCheckpoint B} {st : S} {error : ResumeError B}
      (hload : store.load checkpointId shared.store = (.ok checkpoint, st))
      (hchk : checkResumable runtime.graph (stateSchemaVersion B) checkpoint = .ok ())
      (hin : applyResumeInput checkpoint input = .error error) :
      ResumeRun runtime store watch fuel checkpointId input trace shared
        (.error error) { shared with store := st }
  | untaken {checkpoint : AgentCheckpoint B} {st st' : S} {state : AgentState B}
      {source : CheckpointError}
      (hload : store.load checkpointId shared.store = (.ok checkpoint, st))
      (hchk : checkResumable runtime.graph (stateSchemaVersion B) checkpoint = .ok ())
      (hin : applyResumeInput checkpoint input = .ok state)
      (htake : store.take checkpointId st = (.error source, st')) :
      ResumeRun runtime store watch fuel checkpointId input trace shared
        (.error (takeError checkpointId source)) { shared with store := st' }
  | executed {checkpoint taken : AgentCheckpoint B} {st st' : S} {state : AgentState B}
      {result : Except (CheckpointRunError B) (Execution B)} {shared' : Shared B W S}
      (hload : store.load checkpointId shared.store = (.ok checkpoint, st))
      (hchk : checkResumable runtime.graph (stateSchemaVersion B) checkpoint = .ok ())
      (hin : applyResumeInput checkpoint input = .ok state)
      (htake : store.take checkpointId st = (.ok taken, st'))
      (hexec : executeFrom runtime (checkpoint.context trace) watch true fuel
        (resumeVars checkpoint state) { shared with store := st', usage := checkpoint.usage } =
          (result, shared')) :
      ResumeRun runtime store watch fuel checkpointId input trace shared
        (result.mapError .runFailed) shared'

theorem resumeWithContext_ways {result : Except (ResumeError B) (Execution B)}
    (hsto : runtime.checkpointStore = some store)
    (h : resumeWithContext runtime watch fuel checkpointId input trace shared = (result, shared')) :
    ResumeRun runtime store watch fuel checkpointId input trace shared result shared' := by
  unfold resumeWithContext at h
  rw [hsto] at h
  obtain ⟨checkpoint, shared₁, hldd, h₁⟩ | ⟨error, hunl, rfl⟩ := Exec.bind_eq h
  · obtain ⟨st, hload, rfl⟩ := Exec.zoom_eq.mp (Exec.mapError_eq_ok.mp hldd)
    cases hchk : checkResumable runtime.graph (stateSchemaVersion B) checkpoint with
    | error error =>
      rw [hchk, Exec.error_bind_apply] at h₁
      cases h₁
      exact .unsuitable hload hchk
    | ok _ =>
      rw [hchk, Exec.ok_bind_apply] at h₁
      cases hin : applyResumeInput checkpoint input with
      | error error =>
        rw [hin, Exec.error_bind_apply] at h₁
        cases h₁
        exact .inputRejected hload hchk hin
      | ok state =>
        rw [hin, Exec.ok_bind_apply] at h₁
        obtain ⟨taken, shared₂, htkn, h₂⟩ | ⟨error, huntaken, rfl⟩ := Exec.bind_eq h₁
        · obtain ⟨st', htake, rfl⟩ := Exec.zoom_eq.mp (Exec.mapError_eq_ok.mp htkn)
          rw [resumeContext_bind_apply] at h₂
          cases result with
          | ok execution => exact .executed hload hchk hin htake (Exec.mapError_eq_ok.mp h₂)
          | error error =>
            obtain ⟨source, hexec, rfl⟩ := Exec.mapError_eq_error.mp h₂
            exact .executed hload hchk hin htake hexec
        · obtain ⟨source, hsrc, rfl⟩ := Exec.mapError_eq_error.mp huntaken
          obtain ⟨st', htake, rfl⟩ := Exec.zoom_eq.mp hsrc
          exact .untaken hload hchk hin htake
  · obtain ⟨source, hsrc, rfl⟩ := Exec.mapError_eq_error.mp hunl
    obtain ⟨st, hload, rfl⟩ := Exec.zoom_eq.mp hsrc
    exact .unloaded hload

end Entry

/-! ## A scripted agent

A tally as business state, a worker node that loops until its router says otherwise, and a closing
node. What the node, the router and the executor do is written in the world, one line for each call. -/

/-- The business state of the scripted agent. -/
structure Tally where
  total : Nat := 0

/-- Every update, receipt and resume input is an amount; zero is rejected. -/
instance : AgentBusinessState Tally where
  Update := Nat
  Effect := Nat
  Receipt := Nat
  SuspendData := Unit
  ResumeInput := Nat
  resumeUpdates := fun amount => [.business amount]
  applyUpdate := fun amount =>
    if amount = 0 then Exec.throw (.business "empty amount")
    else Exec.modify fun tally => { total := tally.total + amount }
  receiptUpdates := fun amount => [.business amount]

/-- What is answered to the call with the number `tick`. -/
structure Script where
  tick : Nat := 0
  answer : Nat → Except NodeError (NodeResult Tally)
  receipt : Nat → Except EffectError Nat := fun _ => .ok 1
  route : Nat → RouteKey

namespace Script

def next (script : Script) : Script := { script with tick := script.tick + 1 }

def initialState : AgentState Tally := .new {}

def workId : NodeId := ⟨"work", by decide⟩

def doneId : NodeId := ⟨"done", by decide⟩

def again : RouteKey := ⟨"again", by decide⟩

def finished : RouteKey := ⟨"finished", by decide⟩

def node (id : NodeId) : AgentNode Tally Script where
  id := id
  execute := fun _ _ script => .done (script.answer script.tick, script.next)

def router : Router Tally Script where
  knownRoutes := [again, finished]
  select := fun _ script => (.ok (script.route script.tick), script.next)

def executor : EffectExecutor Tally Script where
  execute := fun _ _ script => .done (script.receipt script.tick, script.next)

/-- Where the router's answers lead. -/
def targets : BTreeMap RouteKey NodeId :=
  ((∅ : BTreeMap RouteKey NodeId).insert again workId).insert finished doneId

theorem targets_again : targets[again]? = some workId := rfl

/-- The graph of the agent. -/
def definition : GraphDefinition Tally Script where
  id := ⟨"scripted", by decide⟩
  version := .initial
  nodes := ((∅ : BTreeMap NodeId (AgentNode Tally Script)).insert workId (node workId)).insert
    doneId (node doneId)
  entry := some workId
  transitions := ((∅ : BTreeMap NodeId (TransitionRule Tally Script)).insert workId
    (.branch router targets)).insert doneId .atEnd

theorem definition_valid : definition.validate = .ok workId := by
  decide

def graph (maxSteps : NonZeroU32) : CompiledGraph Tally Script where
  id := definition.id
  version := definition.version
  nodes := definition.nodes
  entry := workId
  transitions := definition.transitions
  policy := ⟨maxSteps⟩
  entry_mem := (GraphDefinition.validate_ok definition_valid).1
  transition_mem := (GraphDefinition.validate_ok definition_valid).2.1
  target_mem := fun _ _ hsrc => validateTransition_target
    (validateTransitions_get (GraphDefinition.validate_ok definition_valid).2.2 hsrc)
  route_mem := fun _ _ _ hsrc => validateTransition_route
    (validateTransitions_get (GraphDefinition.validate_ok definition_valid).2.2 hsrc)

theorem work_node (maxSteps : NonZeroU32) : (graph maxSteps).node workId = some (node workId) := rfl

theorem work_transition (maxSteps : NonZeroU32) :
    (graph maxSteps).transition workId = some (.branch router targets) := rfl

/-- A script by which the worker asks for approval, and the closing node then has the outcome. -/
def suspending : Script where
  answer := fun tick =>
    if tick = 0 then .ok (.suspend [] ([2] : List Nat) {} ⟨.approval, ()⟩)
    else .ok (.continue [.setOutcome (.respond "done")] [] {})
  route := fun _ => finished

def quiet : Interruption Script := ⟨fun _ => none, fun _ => none⟩

/-- The agent with its executor and an in-memory store. -/
def runtime (maxSteps : NonZeroU32) :
    GraphRuntime Tally Script (InMemoryCheckpointState Tally) where
  graph := graph maxSteps
  effectExecutor := some executor
  checkpointStore := some (InMemoryCheckpointStore.store Tally)

end Script

end ServerRS.AgentCore

import ServerRS.AgentCore.Definition

/-!
# Checkpoints and checkpoint stores

Models `agent-core/src/graph/checkpoint.rs` and `checkpoint_store.rs`.

A store is a set of operations over a store state `S`; each is one critical
section of the store's mutex. `poisoned` is the poisoned mutex of
`InMemoryCheckpointStore`, behind which every operation is unavailable.
-/

namespace ServerRS.AgentCore

open Lib

structure RunPosition where
  completedStep : RunStep
  nextNode : NodeId
deriving DecidableEq

variable (B : Type) [AgentBusinessState B]

structure AgentCheckpoint where
  id : CheckpointId
  graphId : GraphId
  graphVersion : GraphVersion
  stateSchemaVersion : StateSchemaVersion
  runId : RunId
  position : RunPosition
  state : AgentState B
  budget : RunBudget
  usage : UsageSnapshot
  visited : List NodeId
  effectReceipts : List (EffectReceipt (Receipt B))
  suspend : SuspendRequest (SuspendData B)
  trace : RunTrace

structure GraphRunResult where
  state : AgentState B
  usage : UsageSnapshot
  visited : List NodeId
  runId : RunId
  effectReceipts : List (EffectReceipt (Receipt B))

/-- `GraphExecutionResult`; a `SuspendedRun` is its checkpoint. -/
inductive GraphExecutionResult where
  | completed (result : GraphRunResult B)
  | suspended (checkpoint : AgentCheckpoint B)

inductive CheckpointRunError where
  | graph (error : GraphRunError)
  | missingStore
  | saveFailed (checkpointId : CheckpointId) (checkpoint : AgentCheckpoint B)
      (source : CheckpointError)

inductive ResumeError where
  | checkpointLoad (source : CheckpointError)
  | graphIdMismatch (expected actual : GraphId)
  | graphVersionMismatch (expected actual : GraphVersion)
  | stateSchemaVersionMismatch (expected actual : StateSchemaVersion)
  | runPositionMismatch (completedStep usageSteps : UInt32)
  | missingNode (node : NodeId)
  | resumeInputRejected (error : AgentStateError)
  | checkpointAlreadyConsumed (checkpointId : CheckpointId)
  | runFailed (source : CheckpointRunError B)

/-- The trait `CheckpointStore`, over the store state `S`. -/
structure CheckpointStore (S : Type) where
  save : AgentCheckpoint B → Exec S CheckpointError Unit
  load : CheckpointId → Exec S CheckpointError (AgentCheckpoint B)
  take : CheckpointId → Exec S CheckpointError (AgentCheckpoint B)

/-! ## `InMemoryCheckpointStore` -/

/-- `InMemoryCheckpointState` behind its mutex. -/
structure InMemoryCheckpointState where
  checkpoints : BTreeMap CheckpointId (AgentCheckpoint B) := ∅
  consumed : BTreeSet CheckpointId := ∅
  poisoned : Bool := false

namespace InMemoryCheckpointStore

variable {B}

def new : InMemoryCheckpointState B := {}

/-- `self.lock()?`. -/
def lock : Exec (InMemoryCheckpointState B) CheckpointError (InMemoryCheckpointState B) := do
  let state ← Exec.get
  if state.poisoned then Exec.throw .storeUnavailable else pure state

def save (checkpoint : AgentCheckpoint B) :
    Exec (InMemoryCheckpointState B) CheckpointError Unit := do
  let checkpointId := checkpoint.id
  let state ← lock
  if state.checkpoints.contains checkpointId || state.consumed.contains checkpointId then
    Exec.throw (.duplicate checkpointId)
  else
    Exec.modify fun state =>
      { state with checkpoints := state.checkpoints.insert checkpointId checkpoint }

def load (checkpointId : CheckpointId) :
    Exec (InMemoryCheckpointState B) CheckpointError (AgentCheckpoint B) := do
  let state ← lock
  match state.checkpoints[checkpointId]? with
  | some checkpoint => pure checkpoint
  | none => Exec.throw (.notFound checkpointId)

def take (checkpointId : CheckpointId) :
    Exec (InMemoryCheckpointState B) CheckpointError (AgentCheckpoint B) := do
  let state ← lock
  match state.checkpoints[checkpointId]? with
  | some checkpoint => do
    Exec.modify fun state =>
      { state with
        checkpoints := state.checkpoints.erase checkpointId
        consumed := state.consumed.insert checkpointId }
    pure checkpoint
  | none => Exec.throw (.notFound checkpointId)

variable (B) in
/-- The store as a `CheckpointStore`. -/
def store : CheckpointStore B (InMemoryCheckpointState B) where
  save := save
  load := load
  take := take

/-! What each operation does, with all its ways to fail. -/

variable {state state' : InMemoryCheckpointState B} {id : CheckpointId}
  {checkpoint checkpoint' : AgentCheckpoint B} {e : CheckpointError}

theorem lock_apply (state : InMemoryCheckpointState B) :
    lock state = if state.poisoned then (.error .storeUnavailable, state) else (.ok state, state) := by
  unfold lock
  rw [Exec.bind_apply, Exec.get_apply]
  dsimp only
  split <;> rfl

theorem save_apply (checkpoint : AgentCheckpoint B) (state : InMemoryCheckpointState B) :
    save checkpoint state =
      if state.poisoned then (.error .storeUnavailable, state)
      else if state.checkpoints.contains checkpoint.id || state.consumed.contains checkpoint.id then
        (.error (.duplicate checkpoint.id), state)
      else (.ok (), { state with
        checkpoints := state.checkpoints.insert checkpoint.id checkpoint }) := by
  unfold save
  rw [Exec.bind_apply, lock_apply]
  by_cases h : state.poisoned
  · rw [if_pos h, if_pos h]
  · rw [if_neg h, if_neg h]
    dsimp only
    split <;> rfl

theorem load_apply (id : CheckpointId) (state : InMemoryCheckpointState B) :
    load id state =
      if state.poisoned then (.error .storeUnavailable, state)
      else match state.checkpoints[id]? with
        | some checkpoint => (.ok checkpoint, state)
        | none => (.error (.notFound id), state) := by
  unfold load
  rw [Exec.bind_apply, lock_apply]
  by_cases h : state.poisoned
  · rw [if_pos h, if_pos h]
  · rw [if_neg h, if_neg h]
    cases hget : state.checkpoints[id]? <;> simp [hget]

theorem take_apply (id : CheckpointId) (state : InMemoryCheckpointState B) :
    take id state =
      if state.poisoned then (.error .storeUnavailable, state)
      else match state.checkpoints[id]? with
        | some checkpoint => (.ok checkpoint, { state with
            checkpoints := state.checkpoints.erase id
            consumed := state.consumed.insert id })
        | none => (.error (.notFound id), state) := by
  unfold take
  rw [Exec.bind_apply, lock_apply]
  by_cases h : state.poisoned
  · rw [if_pos h, if_pos h]
  · rw [if_neg h, if_neg h]
    cases hget : state.checkpoints[id]? <;> simp [hget, Exec.bind_apply]

theorem save_ok (h : save checkpoint state = (.ok (), state')) :
    checkpoint.id ∉ state.checkpoints ∧ checkpoint.id ∉ state.consumed ∧
      state' = { state with checkpoints := state.checkpoints.insert checkpoint.id checkpoint } := by
  rw [save_apply] at h
  split at h
  · cases h
  · split at h
    · cases h
    · next hfr =>
      cases h
      simp only [Bool.or_eq_true, not_or] at hfr
      exact ⟨hfr.1, hfr.2, rfl⟩

theorem save_error (h : save checkpoint state = (.error e, state')) : state' = state := by
  rw [save_apply] at h
  split at h
  · cases h
    rfl
  · split at h <;> cases h
    rfl

theorem load_snd (id : CheckpointId) (state : InMemoryCheckpointState B) :
    (load id state).2 = state := by
  rw [load_apply]
  split
  · rfl
  · split <;> rfl

theorem load_ok (h : load id state = (.ok checkpoint, state')) :
    state.checkpoints[id]? = some checkpoint ∧ state' = state := by
  rw [load_apply] at h
  split at h
  · cases h
  · split at h
    · next hget =>
      cases h
      exact ⟨hget, rfl⟩
    · cases h

theorem take_ok (h : take id state = (.ok checkpoint, state')) :
    state.checkpoints[id]? = some checkpoint ∧
      state' = { state with
        checkpoints := state.checkpoints.erase id
        consumed := state.consumed.insert id } := by
  rw [take_apply] at h
  split at h
  · cases h
  · split at h
    · next hget =>
      cases h
      exact ⟨hget, rfl⟩
    · cases h

theorem take_error (h : take id state = (.error e, state')) : state' = state := by
  rw [take_apply] at h
  split at h
  · cases h
    rfl
  · split at h <;> cases h
    rfl

end InMemoryCheckpointStore

end ServerRS.AgentCore

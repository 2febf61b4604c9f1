import ServerRS.Domain.Inbound
import ServerRS.Spool.MessageSpool

/-!
# Replaying a frame

Models the recovery types of `personal-secretary/src/domain/realtime_spool.rs` (replay
progress, checkpointable prefix, the plan for a claimed epoch) and `required_hook_keys` of
`qqbot-server/src/application/ingestion_worker.rs`.
-/

namespace ServerRS.Recovery

open Spool

variable {M : Type} [SourceMessage M]

structure RealtimeSpoolFatal where
  kind : RealtimeSpoolFatalKind
deriving DecidableEq

/-! ## Hooks -/

inductive RealtimeSpoolHookKey where
  | recall (correlation : RecallCorrelationKey)
  | artifact (artifactId : ArtifactId)
deriving DecidableEq

def artifactKind : ContentSegment → Option ArtifactKind
  | .media kind _ _ _ => some (match kind with
    | .image => .image
    | .audio => .record
    | .video => .video
    | .file => .file)
  | .forward _ => some .forward
  | .rich kind _ _ => some (match kind with
    | .json => .richJson
    | .xml => .richXml
    | .card => .richCard)
  | _ => none

/-- Which use cases are configured, and `Uuid::new_v5` for the ids of artifacts. -/
structure HookSettings where
  recallEnabled : Bool
  artifactEnabled : Bool
  newV5 : String → String

/-- `RecallCorrelationKey::new` on the fields of the message. -/
def correlationOf (message : M) : Except RecallError RecallCorrelationKey :=
  RecallCorrelationKey.new (SourceMessage.source message).accountRef
    (SourceMessage.source message).channel (SourceMessage.conversation message)
    (SourceMessage.source message).messageId

/-- The artifacts of the segments of a message, in their order. -/
def artifactsOf (settings : HookSettings) (message : M) (outcome : IngestMessageOutcome) :
    List ArtifactId :=
  (SourceMessage.segments message).zipIdx.filterMap fun (segment, ordinal) =>
    (artifactKind segment).map
      (ArtifactId.forSourceSegment settings.newV5 outcome.sourceEventId ordinal)

def recallHooks (settings : HookSettings) (message : M) :
    Except RealtimeSpoolFatal (List RealtimeSpoolHookKey) :=
  if settings.recallEnabled then
    match correlationOf message with
    | .ok correlation => .ok [.recall correlation]
    | .error _ => .error ⟨.recoveryInvariantViolation⟩
  else .ok []

def artifactHooks (settings : HookSettings) (message : M) (outcome : IngestMessageOutcome) :
    List RealtimeSpoolHookKey :=
  if settings.artifactEnabled then (artifactsOf settings message outcome).map .artifact else []

def requiredHookKeys (settings : HookSettings) (message : M) (outcome : IngestMessageOutcome) :
    Except RealtimeSpoolFatal (List RealtimeSpoolHookKey) := do
  let hooks ← recallHooks settings message
  .ok (hooks ++ artifactHooks settings message outcome)

/-- A valid message has a correlation key. -/
theorem correlationOf_ok {message : M} (hval : SpoolMessage.validate message = true) :
    ∃ correlation, correlationOf message = .ok correlation := by
  have hid := SourceMessage.messageId_not_blank message hval
  rw [correlationOf, RecallCorrelationKey.new, hid]
  exact ⟨_, rfl⟩

theorem requiredHookKeys_ok (settings : HookSettings) {message : M} (outcome : IngestMessageOutcome)
    (hval : SpoolMessage.validate message = true) :
    ∃ hooks, requiredHookKeys settings message outcome = .ok hooks := by
  obtain ⟨correlation, hcor⟩ := correlationOf_ok hval
  rw [requiredHookKeys, recallHooks]
  split
  · rw [hcor]
    exact ⟨_, rfl⟩
  · exact ⟨_, rfl⟩

/-! ## Progress -/

structure RealtimeSpoolReplayProgress (M : Type) [SpoolMessage M] where
  frame : RecoveredRealtimeSpoolFrame M
  ingestion : Option IngestMessageOutcome
  requiredHooks : List RealtimeSpoolHookKey
  convergedHooks : List RealtimeSpoolHookKey

inductive RealtimeSpoolCheckpointEligibility where
  | eligible
  | pendingMysqlCommit
  | pendingHookConvergence
deriving DecidableEq

def uniqueHookKeys (hooks : List RealtimeSpoolHookKey) : List RealtimeSpoolHookKey :=
  hooks.foldl (fun unique hook => if hook ∈ unique then unique else unique ++ [hook]) []

namespace RealtimeSpoolReplayProgress

def pending (frame : RecoveredRealtimeSpoolFrame M) (requiredHooks : List RealtimeSpoolHookKey) :
    RealtimeSpoolReplayProgress M :=
  ⟨frame, none, uniqueHookKeys requiredHooks, []⟩

def withIngestion (progress : RealtimeSpoolReplayProgress M) (ingestion : IngestMessageOutcome) :
    RealtimeSpoolReplayProgress M :=
  { progress with ingestion := some ingestion }

def withConvergedHook (progress : RealtimeSpoolReplayProgress M) (hook : RealtimeSpoolHookKey) :
    RealtimeSpoolReplayProgress M :=
  if hook ∈ progress.convergedHooks then progress
  else { progress with convergedHooks := progress.convergedHooks ++ [hook] }

def checkpointEligibility (progress : RealtimeSpoolReplayProgress M) :
    RealtimeSpoolCheckpointEligibility :=
  if progress.ingestion.isNone then .pendingMysqlCommit
  else if progress.requiredHooks.any fun required => required ∉ progress.convergedHooks then
    .pendingHookConvergence
  else .eligible

end RealtimeSpoolReplayProgress

def checkpointablePrefix (generationId : RealtimeSpoolGenerationId)
    (progress : List (RealtimeSpoolReplayProgress M)) : RealtimeSpoolCheckpointPrefix where
  generationId := generationId
  recordIds := (progress.takeWhile fun entry => entry.frame.generationId = generationId &&
    entry.checkpointEligibility = .eligible).map fun entry => entry.frame.recordId

/-! ### What is eligible -/

theorem mem_uniqueHookKeys {hooks : List RealtimeSpoolHookKey} {hook : RealtimeSpoolHookKey}
    (h : hook ∈ uniqueHookKeys hooks) : hook ∈ hooks := by
  have hfold : ∀ unique, hook ∈ hooks.foldl
      (fun unique hook => if hook ∈ unique then unique else unique ++ [hook]) unique →
        hook ∈ unique ∨ hook ∈ hooks := by
    clear h
    induction hooks with
    | nil => exact fun unique hmem => .inl hmem
    | cons first hooks ih =>
      intro unique hmem
      rcases ih _ hmem with hmem | hmem
      · dsimp only at hmem
        split at hmem
        · exact .inl hmem
        · rcases List.mem_append.mp hmem with hmem | hmem
          · exact .inl hmem
          · obtain rfl := List.mem_singleton.mp hmem
            exact .inr List.mem_cons_self
      · exact .inr (List.mem_cons_of_mem _ hmem)
  simpa using hfold [] h

/-- The progress of a frame after its outcome and all of its hooks. -/
def convergedProgress (frame : RecoveredRealtimeSpoolFrame M) (outcome : IngestMessageOutcome)
    (hooks : List RealtimeSpoolHookKey) : RealtimeSpoolReplayProgress M :=
  hooks.foldl RealtimeSpoolReplayProgress.withConvergedHook
    ((RealtimeSpoolReplayProgress.pending frame hooks).withIngestion outcome)

theorem foldl_withConvergedHook (hooks : List RealtimeSpoolHookKey)
    (progress : RealtimeSpoolReplayProgress M) :
    let last := hooks.foldl RealtimeSpoolReplayProgress.withConvergedHook progress
    last.frame = progress.frame ∧ last.ingestion = progress.ingestion ∧
      last.requiredHooks = progress.requiredHooks ∧
      ∀ hook, hook ∈ progress.convergedHooks ∨ hook ∈ hooks → hook ∈ last.convergedHooks := by
  induction hooks generalizing progress with
  | nil => exact ⟨rfl, rfl, rfl, fun hook h => h.resolve_right List.not_mem_nil⟩
  | cons first hooks ih =>
    obtain ⟨hfrm, hing, hreq, hconv⟩ := ih (progress.withConvergedHook first)
    have hfst : ∀ hook, hook ∈ progress.convergedHooks ∨ hook = first →
        hook ∈ (progress.withConvergedHook first).convergedHooks := by
      rintro hook h
      rw [RealtimeSpoolReplayProgress.withConvergedHook]
      split
      · next hmem =>
        rcases h with h | rfl
        · exact h
        · exact hmem
      · exact List.mem_append.mpr (h.imp_right List.mem_singleton.mpr)
    have hsame : (progress.withConvergedHook first).frame = progress.frame ∧
        (progress.withConvergedHook first).ingestion = progress.ingestion ∧
        (progress.withConvergedHook first).requiredHooks = progress.requiredHooks := by
      rw [RealtimeSpoolReplayProgress.withConvergedHook]
      split <;> exact ⟨rfl, rfl, rfl⟩
    refine ⟨hfrm.trans hsame.1, hing.trans hsame.2.1, hreq.trans hsame.2.2,
      fun hook h => hconv hook ?_⟩
    rw [List.mem_cons] at h
    rcases h with h | h | h
    · exact .inl (hfst hook (.inl h))
    · exact .inl (hfst hook (.inr h))
    · exact .inr h

/-- With its outcome and its hooks, the frame itself is the checkpointable prefix. -/
theorem checkpointablePrefix_converged (frame : RecoveredRealtimeSpoolFrame M)
    (outcome : IngestMessageOutcome) (hooks : List RealtimeSpoolHookKey) :
    checkpointablePrefix frame.generationId [convergedProgress frame outcome hooks] =
      ⟨frame.generationId, [frame.recordId]⟩ := by
  obtain ⟨hfrm, hing, hreq, hconv⟩ := foldl_withConvergedHook hooks
    ((RealtimeSpoolReplayProgress.pending frame hooks).withIngestion outcome)
  set progress := convergedProgress frame outcome hooks with hprog
  rw [convergedProgress] at hprog
  rw [← hprog] at hfrm hing hreq hconv
  have hcomp : (progress.requiredHooks.any fun required =>
      required ∉ progress.convergedHooks) = false := by
    rw [List.any_eq_false]
    intro hook hhook
    rw [hreq] at hhook
    simpa using hconv hook (.inr (mem_uniqueHookKeys hhook))
  have helig : progress.checkpointEligibility = .eligible := by
    rw [RealtimeSpoolReplayProgress.checkpointEligibility, hcomp, hing]
    rfl
  have hfrm' : progress.frame = frame := hfrm
  simp [checkpointablePrefix, helig, hfrm']

/-! ## Claimed epochs -/

structure LegacyRealtimeSpoolEpoch where
  connectionEpochId : ConnectionEpochId
  account : SourceAccountRef
  status : ConnectionEpochStatus
deriving DecidableEq

structure RealtimeSpoolRecoveryLeaseToken where
  asStr : String
deriving DecidableEq

structure ClaimedLegacyRealtimeSpoolEpoch where
  epoch : LegacyRealtimeSpoolEpoch
  leaseToken : RealtimeSpoolRecoveryLeaseToken
deriving DecidableEq

inductive LegacyRealtimeSpoolRecoveryPlan (M : Type) [SpoolMessage M] where
  | finishConnectingWithoutFrames (claim : ClaimedLegacyRealtimeSpoolEpoch)
  | recoverConnected (claim : ClaimedLegacyRealtimeSpoolEpoch)
      (frames : List (RecoveredRealtimeSpoolFrame M))
  | globalFailClosed (fatal : RealtimeSpoolFatal)

def LegacyRealtimeSpoolRecoveryPlan.forClaim (claim : ClaimedLegacyRealtimeSpoolEpoch)
    (frames : List (RecoveredRealtimeSpoolFrame M)) : LegacyRealtimeSpoolRecoveryPlan M :=
  if !(frames.all fun frame => frame.connectionEpochId = claim.epoch.connectionEpochId &&
      (SourceMessage.source frame.message).accountRef = claim.epoch.account) then
    .globalFailClosed ⟨.recoveryInvariantViolation⟩
  else
    match claim.epoch.status with
    | .connecting =>
      if frames.isEmpty then .finishConnectingWithoutFrames claim
      else .globalFailClosed ⟨.recoveryInvariantViolation⟩
    | .connected => .recoverConnected claim frames
    | .disconnected | .shutdown | .connectFailed =>
      .globalFailClosed ⟨.recoveryInvariantViolation⟩

def LegacyRealtimeSpoolRecoveryPlan.isGlobalFailClosed :
    LegacyRealtimeSpoolRecoveryPlan M → Bool
  | .globalFailClosed _ => true
  | _ => false

end ServerRS.Recovery

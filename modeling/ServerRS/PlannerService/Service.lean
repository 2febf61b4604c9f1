import ServerRS.PlannerService.Calls

/-!
# The planner use case

Models `PlannerUseCase` of `application/planner_service.rs` and the store side of
`SecretaryActionEffectExecutor::execute`.

The graph is any process that dispatches effects; the executor carries them out. The ports of
the executor answer what a tick says. The kinds that have a use case of their own write their
receipt in the transaction of their business change; of that transaction the store sees what
it sees of `apply_effect`.
-/

namespace ServerRS.PlannerService

open Lib AgentCore ActionStore

/-! ## Identifiers -/

/-- What the `uuid` crate does: its text has digits and hyphens only. -/
class UuidFormat where
  text : Uuid → String
  parse : String → Except String Uuid
  slash_notMem_text : ∀ uuid, '/' ∉ (text uuid).toList

/-- `CheckpointId`'s `Display`. -/
def checkpointText [UuidFormat] (id : CheckpointId) : String := UuidFormat.text id.uuid

/-- `EffectId`'s `Display`. -/
def effectText [UuidFormat] (id : EffectId) : String :=
  UuidFormat.text id.runId.uuid ++ "/" ++ toString id.step.get ++ "/" ++ id.nodeId.asStr ++ "/" ++
    toString id.ordinal

/-! ## Errors -/

inductive PlannerUseCaseError where
  | store (error : ActionStoreError)
  | graphRun (text : String)
  | timeout
deriving DecidableEq

def PlannerUseCaseError.isRetryable : PlannerUseCaseError → Bool
  | .store .unavailable => true
  | .store (.database _) => true
  | .timeout => true
  | .graphRun _ => true
  | .store (.invalidData _) => false
  | .store .leaseLost => false
  | .store (.unknownCommit _) => false

/-- `ActionStoreError`'s `Display`. -/
def storeErrorText : ActionStoreError → String
  | .invalidData text => "invalid action data: " ++ text
  | .unavailable => "action store is unavailable"
  | .database text => "action database operation failed: " ++ text
  | .leaseLost => "action lease ownership was lost"
  | .unknownCommit text =>
    "action effect may have been committed but result is unknown: " ++ text

/-- `PlannerUseCaseError`'s `Display`. -/
def PlannerUseCaseError.toText : PlannerUseCaseError → String
  | .store error => storeErrorText error
  | .graphRun text => "graph run failed: " ++ text
  | .timeout => "planner timed out"

/-- `ActionStoreError::to_effect_error`. -/
def toEffectError : ActionStoreError → EffectError
  | .invalidData text => ⟨.permanent, storeErrorText (.invalidData text)⟩
  | .leaseLost => ⟨.permanent, storeErrorText .leaseLost⟩
  | .unavailable => .unknownCommit (storeErrorText .unavailable)
  | .database text => .unknownCommit (storeErrorText (.database text))
  | .unknownCommit text => .unknownCommit (storeErrorText (.unknownCommit text))

def backoffMs (attempt : UInt32) (baseMs maxMs : UInt64) : UInt64 :=
  if attempt = 0 then baseMs
  else
    let exponent := min (attempt.toNat - 1) 10
    min (.ofNat (min (baseMs.toNat * 2 ^ exponent) (2 ^ 64 - 1))) maxMs

/-! ## Effects -/

/-- The actions whose receipt is checked by their own repository, and not looked up before:
`is_mutable_policy`, `is_thread_control`, `is_thread_mutation`, `is_owner_work_control`. -/
def hasOwnReceipt : SecretaryToolKind → Bool
  | .setAccountDefaultNotificationMode => true
  | .setConversationNotificationMode => true
  | .setQuietHours => true
  | .setImportantContact => true
  | .setNotificationCategoryImportance => true
  | .recordNotificationFeedback => true
  | .createSimilarNotificationRule => true
  | .disableNotificationPolicy => true
  | .setAutomaticReplyDeniedForContact => true
  | .confirmThreadDecision => true
  | .revokeThreadDecision => true
  | .dismissThreadQuestion => true
  | .reconfirmThreadSemantics => true
  | .setThreadLifecycle => true
  | .mergeThreads => true
  | .splitThread => true
  | .dismissFollowUp => true
  | .snoozeFollowUp => true
  | .dismissFollowUps => true
  | .snoozeFollowUps => true
  | .completeFollowUp => true
  | .completeFollowUps => true
  | .dismissResponseExpectation => true
  | .dismissResponseExpectations => true
  | .approveMemoryCandidate => true
  | .rejectMemoryCandidate => true
  | .retryFailedArtifactDerivations => true
  | .correctMemoryFact => true
  | .deleteMemoryFact => true
  | .setMemoryFactTtl => true
  | .setConversationMemoryMode => true
  | _ => false

section Executor

variable [UuidFormat]

/-- The receipt that an effect has left before. -/
def storedReceipt (runId : ActionRunId) (effectId : String) (kind : SecretaryToolKind) :
    Service ActionStoreError (Option SecretaryActionReceipt) :=
  if hasOwnReceipt kind then pure none else Service.ask (.loadEffectReceipt runId effectId)

def answeredReceipt : ActionStore.Answer → Service ActionStoreError SecretaryActionReceipt
  | .receipt receipt => pure receipt
  | _ => throw .unavailable

def applyEffect (runId : ActionRunId) (effect : SecretaryActionEffect) (effectId resultRef : String)
    (token : ActionLeaseToken) : Service ActionStoreError SecretaryActionReceipt := do
  let now ← Service.clock
  let answer ← Service.ask (.statement (.applyEffect runId effect effectId resultRef token now))
  answeredReceipt answer

/-- `SecretaryActionEffectExecutor::execute`. -/
def executeEffect (runId : ActionRunId) (token : ActionLeaseToken)
    (envelope : EffectEnvelope SecretaryActionEffect) :
    Service EffectError SecretaryActionReceipt := do
  let kind := envelope.effect.proposal.action.kind
  let stored ← (storedReceipt runId (effectText envelope.id) kind).mapError toEffectError
  match stored with
  | some receipt => pure { receipt with toolKind := some kind }
  | none => do
    let resultRef ← Service.ask (.executeAction envelope.effect.proposal.action)
    let receipt ← (applyEffect runId envelope.effect (effectText envelope.id) resultRef
      token).mapError toEffectError
    pure { receipt with toolKind := some kind }

end Executor

/-! ## Graphs -/

section Service

variable [ActionGraph.ActionFormat]

/-- What the graph returns: a result, or an error of its own type. -/
abbrev GraphProcess (ε : Type) :=
  Process (EffectEnvelope SecretaryActionEffect)
    (fun _ => Except EffectError SecretaryActionReceipt)
    (Except ε (GraphExecutionResult SecretaryAgentState))

/-- What `build_action_graph` makes for a run that is claimed. -/
structure Graphs where
  runCheckpointed : ClaimedActionRun → SecretaryAgentState →
    GraphProcess (CheckpointRunError SecretaryAgentState)
  resume : ClaimedActionRun → CheckpointId → SecretaryActionResumeInput →
    GraphProcess (ResumeError SecretaryAgentState)

/-- The errors of a graph, by what they say about the failure. -/
class GraphErrorFormat where
  runText : CheckpointRunError SecretaryAgentState → String
  resumeText : ResumeError SecretaryAgentState → String

def runCause : CheckpointRunError SecretaryAgentState → Option GraphRunError
  | .graph error => some error
  | _ => none

def resumeCause : ResumeError SecretaryAgentState → Option GraphRunError
  | .runFailed error => runCause error
  | _ => none

/-! ## Reports -/

structure PlannerRunReport where
  runId : Option ActionRunId := none
  completed : Bool := false
  suspended : Bool := false
  failed : Bool := false
  error : Option String := none
  checkpointId : Option String := none
  proposalId : Option String := none
deriving DecidableEq

/-- `PlannerUseCase`: what its methods use of it. -/
structure PlannerUseCase where
  leaseSecs : UInt64
  graphs : Graphs

variable [UuidFormat] [GraphErrorFormat]

/-- `SuspendReason`, serialized. -/
def suspendReasonText : SuspendReason → String
  | .externalInput => "external_input"
  | .approval => "approval"
  | .externalEvent => "external_event"
  | .business => "business"

/-- What `last_checkpoint_json` keeps of a checkpoint. -/
def checkpointSummary (checkpoint : AgentCheckpoint SecretaryAgentState) : CheckpointSummary where
  checkpointId := checkpointText checkpoint.id
  proposalId := checkpoint.suspend.data.proposalId
  reason := suspendReasonText checkpoint.suspend.reason
  nextNode := checkpoint.position.nextNode.asStr

def buildResponseDraft (state : SecretaryAgentState) (nowUnixSecs : Int) :
    Option OwnerResponseDraft :=
  match state.responseDraft with
  | some draft => some draft
  | none => (buildActionResponseDraft state.lastReceipt state.evidenceSourceEventIds
      nowUnixSecs).toOption

/-- A call to the store, in a method of the use case. -/
def storing {α : Type} (x : Service ActionStoreError α) : Service PlannerUseCaseError α :=
  x.mapError .store

/-- A graph that fails: the trace shows its error, the caller gets its text. -/
def graphFailed {α : Type} (runId : ActionRunId) (token : ActionLeaseToken)
    (cause : Option GraphRunError) (text : String) : Service PlannerUseCaseError α := do
  ExceptT.lift (Process.ask (R := Call.Answer) (.graphFailed runId token cause))
  throw (.graphRun text)

def graphResult {ε : Type} (runId : ActionRunId) (token : ActionLeaseToken)
    (cause : ε → Option GraphRunError) (text : ε → String) :
    Except ε (GraphExecutionResult SecretaryAgentState) →
      Service PlannerUseCaseError (GraphExecutionResult SecretaryAgentState)
  | .error error => graphFailed runId token (cause error) (text error)
  | .ok result => pure result

/-- How `execute_claimed` and `resume_run` end. -/
def finishRun (runId : ActionRunId) (token : ActionLeaseToken) (responseId : String) :
    GraphExecutionResult SecretaryAgentState → Service PlannerUseCaseError PlannerRunReport
  | .completed completed => do
    let now ← Service.nowUnixSecs
    let draft := buildResponseDraft completed.state.business now
    let at_ ← Service.clock
    let _ ← storing (Service.ask (.statement (.markCompleted runId token draft responseId at_)))
    storing (Service.ask (.appendAudit runId .completed))
    pure { runId := some runId, completed := true }
  | .suspended checkpoint => do
    let summary := checkpointSummary checkpoint
    let at_ ← Service.clock
    let _ ← storing (Service.ask (.statement (.markSuspended runId token summary at_)))
    storing (Service.ask (.appendAudit runId (.suspended summary)))
    pure { runId := some runId, suspended := true, checkpointId := some summary.checkpointId,
           proposalId := some summary.proposalId }

namespace PlannerUseCase

variable (service : PlannerUseCase)

def runGraph (claimed : ClaimedActionRun) :
    Service PlannerUseCaseError (GraphExecutionResult SecretaryAgentState) := do
  match SecretaryAgentState.new claimed.commandText [] [claimed.commandSourceEventId]
      claimed.recentEvents with
  | .error error => graphFailed claimed.runId claimed.leaseToken none error.toText
  | .ok state => do
    let result ← ExceptT.lift ((service.graphs.runCheckpointed claimed state).interpret
      fun envelope => executeEffect claimed.runId claimed.leaseToken envelope)
    graphResult claimed.runId claimed.leaseToken runCause GraphErrorFormat.runText result

def executeClaimed (claimed : ClaimedActionRun) (responseId : String) :
    Service PlannerUseCaseError PlannerRunReport := do
  let result ← service.runGraph claimed
  finishRun claimed.runId claimed.leaseToken responseId result

def handleFailure (runId : ActionRunId) (token : ActionLeaseToken) (error : PlannerUseCaseError)
    (attempt : UInt32) : Service PlannerUseCaseError Unit := do
  if error.isRetryable then
    let backoff := backoffMs attempt 500 10000
    let now ← Service.nowUnixSecs
    let nextEligible := now + (backoff / 1000).toNat
    let at_ ← Service.clock
    let _ ← storing (Service.ask (.statement (.markFailed runId token error.toText nextEligible at_)))
  else
    let at_ ← Service.clock
    let _ ← storing (Service.ask (.statement (.releaseLease runId token at_)))

def runOnce (workerId : String) (token : ActionLeaseToken) (responseId : String) :
    Service PlannerUseCaseError (Option PlannerRunReport) := do
  let claimed ← storing (Service.claimPendingRun workerId service.leaseSecs token)
  match claimed with
  | none => pure none
  | some claimed => do
    -- the attempt is not read from the row: it is 0 for every claim
    let attempt : UInt32 := 0
    let report ← ExceptT.lift (service.executeClaimed claimed responseId).run
    match report with
    | .ok report => pure (some report)
    | .error error => do
      let _ ← ExceptT.lift (handleFailure claimed.runId token error (attempt + 1)).run
      throw error

def resumeClaim (runId : ActionRunId) (checkpointId : String) (input : SecretaryActionResumeInput)
    (nowUnixSecs : Int) : SuspendedRunClaim where
  runId := runId
  checkpointId := checkpointId
  proposalId := input.proposalId
  commandSourceEventId := input.commandSourceEventId
  workerId := "owner-resume"
  leaseSecs := service.leaseSecs
  nowUnixSecs := nowUnixSecs

def resumeGraph (runId : ActionRunId) (checkpointId : CheckpointId)
    (input : SecretaryActionResumeInput) (claimed : ClaimedActionRun) :
    Service PlannerUseCaseError (GraphExecutionResult SecretaryAgentState) := do
  storing (Service.ask (.appendAudit runId (.resumed input.approvalSourceEventId)))
  let result ← ExceptT.lift ((service.graphs.resume claimed checkpointId input).interpret
    fun envelope => executeEffect runId claimed.leaseToken envelope)
  graphResult runId claimed.leaseToken resumeCause GraphErrorFormat.resumeText result

def resumeRun (runId : ActionRunId) (checkpointId : String) (input : SecretaryActionResumeInput)
    (token : ActionLeaseToken) (responseId : String) :
    Service PlannerUseCaseError PlannerRunReport := do
  match UuidFormat.parse checkpointId with
  | .error error => throw (.graphRun ("invalid checkpoint_id: " ++ error))
  | .ok uuid => do
    let now ← Service.nowUnixSecs
    let claimed ← storing (Service.claimSuspendedRun
      (service.resumeClaim runId checkpointId input now) token)
    match claimed with
    | none => throw (.store .leaseLost)
    | some claimed => do
      let result ← service.resumeGraph runId ⟨uuid⟩ input claimed
      finishRun runId claimed.leaseToken responseId result

end PlannerUseCase

end Service

end ServerRS.PlannerService

import ServerRS.AgentCore.Runtime
import ServerRS.Domain.AgentState

/-!
# The nodes of the action graph

Models `application/action_graph/nodes.rs`, the context of `port.rs`, and
`gate_secretary_action` of `domain/agent_runtime/validation.rs`.

The planner, the retriever and the memory are ports: any function of what they are asked
and of the world, which they may change. A node that panics is a node that fails with the
text of the panic: in both cases the run is over and nothing of the turn is kept.
-/

namespace ServerRS.ActionGraph

open Lib AgentCore

/-- What `serde_json` and `chrono_tz` do for the action graph. -/
class ActionFormat extends WorkingContextFormat, PlannerFormat, ResponseFormat

/-! ## Ports -/

structure ActionRunContext where
  account : SourceAccountRef
  commandSourceEventId : SourceEventId
  commandText : String
  conversationId : String
  occurredAtUnixSecs : Int
  timezoneOffsetSecs : Int
  timezone : String
  nowUnixSecs : Int
  isLocalLoopback : Bool

structure EventQuery where
  account : SourceAccountRef
  conversation : Option ConversationRef
  actorId : Option String
  threadId : Option EventThreadId
  sinceUnixSecs : Option Int
  untilUnixSecs : Option Int
  queryText : Option String
  limit : UInt16

structure EventSearchResult where
  sourceEventId : SourceEventId
  actor : VerifiedActor
  occurredAtUnixSecs : Int
  excerpt : String

structure MemorySourceExcerpt where
  sourceEventId : SourceEventId
  excerpt : String
  contentTrustLevel : ContentTrustLevel

structure MemoryFactView where
  fact : MemoryFact
  sources : List MemorySourceExcerpt

/-- `RetrieverUseCase`; an error is its text. -/
structure Retriever (W : Type) where
  searchEvents : EventQuery → Bool → Exec W String (List EventSearchResult)
  listRecentEventViews : SourceAccountRef → UInt16 → Bool → Exec W String (List AgentEventView)

/-- What the graph is built from, besides the executor and the store. -/
structure ActionPorts (W : Type) where
  /-- `ActionPlannerT::plan`. -/
  plan : PlannerInput → Exec W PlannerError PlannerOutput
  retriever : Option (Retriever W)
  /-- `MemoryUseCase::evidence`, where there is a memory; an error is its text. -/
  evidence : Option (MemoryFactId → UInt32 → Exec W String (Option MemoryFactView))
  /-- `Uuid::new_v4().to_string()`. -/
  newProposalId : W → String × W

/-- `NodeError::with_source`. -/
def withSource (kind : NodeErrorKind) (text : String) : NodeError := ⟨kind, text, none⟩

/-- A fallible part of a node, with the node error of its error. -/
def failing {W ε α : Type} (kind : NodeErrorKind) (toText : ε → String) (result : Except ε α) :
    Exec W NodeError α :=
  Exec.ofExcept (result.mapError fun error => withSource kind (toText error))

section

variable {W : Type} [ActionFormat]

/-! ## The gate -/

def approvalRequest (proposal : SecretaryActionProposal) : SecretaryActionApprovalRequest where
  proposalId := proposal.proposalId
  tool := proposal.action.kind
  risk := proposal.action.kind.policy.risk
  summary := proposal.rationale
  sourceEventIds := proposal.sourceEventIds

/-- The answer of the gate for a valid proposal. -/
def gateResult (proposal : SecretaryActionProposal) : NodeResult SecretaryAgentState :=
  if proposal.action.isClarification then
    .suspend [.business (.proposalAccepted proposal)] [] {}
      ⟨.externalInput, approvalRequest proposal⟩
  else if proposal.action.kind.policy.requiresConfirmation then
    .suspend [.business (.proposalAccepted proposal)] [] {} ⟨.approval, approvalRequest proposal⟩
  else
    .continue [.business (.proposalAccepted proposal)] ([⟨proposal⟩] : List SecretaryActionEffect) {}

def gateSecretaryAction (proposal : SecretaryActionProposal) :
    Except SecretaryAgentRuntimeError (NodeResult SecretaryAgentState) := do
  validateActionProposal proposal
  .ok (gateResult proposal)

def prependUpdate (update : AgentUpdate SecretaryAgentUpdate) :
    NodeResult SecretaryAgentState → NodeResult SecretaryAgentState
  | .continue updates effects usage => .continue (update :: updates) effects usage
  | .suspend updates effects usage request => .suspend (update :: updates) effects usage request

/-! ## `PlanNode` -/

namespace PlanNode

def retrieved (ports : ActionPorts W) (context : ActionRunContext) :
    Exec W NodeError (List PlannerRetrievedExcerpt) :=
  match ports.retriever with
  | some retriever => do
    let query : EventQuery := {
      account := context.account
      conversation := none
      actorId := none
      threadId := none
      sinceUnixSecs := none
      untilUnixSecs := none
      queryText := some context.commandText
      limit := 20 }
    let results ← Exec.mapError (withSource .transient)
      (retriever.searchEvents query context.isLocalLoopback)
    pure (results.map fun r => {
      sourceEventId := r.sourceEventId
      excerpt := r.excerpt
      occurredAtUnixSecs := r.occurredAtUnixSecs
      actorId := r.actor.id
      actorKind := r.actor.kind })
  | none => pure []

def recentEventViews (ports : ActionPorts W) (context : ActionRunContext) :
    Exec W NodeError (List AgentEventView) :=
  match ports.retriever with
  | some retriever => Exec.mapError (withSource .transient)
    (retriever.listRecentEventViews context.account (UInt16.ofNat Planner.MAX_RECENT_EVENT_VIEWS)
      context.isLocalLoopback)
  | none => pure []

/-- The conversation of the command; `ConversationRef::new` refuses a blank id. -/
def commandConversation (context : ActionRunContext) : Except NodeError ConversationRef :=
  if isBlank context.conversationId then
    .error (withSource .invariant "conversation.id must not be empty")
  else .ok ⟨.ownerControl, context.conversationId⟩

def plannerInput (context : ActionRunContext) (business : SecretaryAgentState)
    (conversation : ConversationRef) (retrieved : List PlannerRetrievedExcerpt)
    (recentEventViews : List AgentEventView) : PlannerInput where
  account := context.account
  command := {
    sourceEventId := context.commandSourceEventId
    conversation := conversation
    occurredAtUnixSecs := context.occurredAtUnixSecs
    normalizedText := context.commandText }
  recentEvents := business.recentEvents
  recentEventViews := recentEventViews
  timezoneOffsetSecs := context.timezoneOffsetSecs
  timezone := context.timezone
  nowUnixSecs := context.nowUnixSecs
  retrieved := retrieved
  observations := business.planningObservations
  workingContext := business.workingContext.map AgentWorkingContextV1.projection
  replanRound := business.replanRound
  remainingQueryBudget := MAX_REPLAN_ROUNDS - min business.replanRound MAX_REPLAN_ROUNDS

def requireOutput (condition : Prop) [Decidable condition] (error : PlannerError) :
    Except PlannerError Unit :=
  if condition then .ok () else .error error

/-- The gates that the graph itself puts before a proposal: its evidence, the open references and
the unresolved conflict. -/
def checkProposal (context : ActionRunContext) (business : SecretaryAgentState)
    (proposal : SecretaryActionProposal) : Except PlannerError Unit := do
  requireOutput
    (proposal.action.kind.policy.risk.rank ≤ SecretaryRiskLevel.rank .l0ReadOnly ∨
      context.commandSourceEventId ∈ proposal.sourceEventIds)
    (.invalidOutput (proposal.action.kind.toText ++ " 写动作缺少本轮 OwnerCommand 证据"))
  requireOutput
    ((business.workingContext.all fun working => working.openReferences.isEmpty) = true ∨
      proposal.action.isClarification = true)
    (.disallowedAction "存在未解决指代时只能请求 Owner 澄清")
  requireOutput
    ((business.workingContext.bind AgentWorkingContextV1.conflict).isNone = true ∨
      isAllowedAfterMemoryConflict proposal.action = true)
    (.disallowedAction (proposal.action.kind.toText ++ " 在记忆候选冲突轮次不允许执行"))

def checkOutput (context : ActionRunContext) (business : SecretaryAgentState)
    (output : PlannerOutput) : Except PlannerError Unit := do
  validatePlannerOutput output
  match output with
  | .proposal proposal => checkProposal context business proposal
  | _ => .ok ()

/-- `SecretaryActionProposal::new` for the question of a clarification. -/
def clarificationProposal (proposalId question : String) (evidence : List SourceEventId) :
    SecretaryActionProposal where
  proposalId := proposalId
  action := .askOwnerClarification question
  rationale := "Planner 请求 Owner 澄清"
  sourceEventIds := evidence
  idempotencyKey := none

/-- The update of the working context with the initial retrieval. -/
def workingUpdate (retrieved : List PlannerRetrievedExcerpt) (conversation : ConversationRef) :
    AgentUpdate SecretaryAgentUpdate :=
  .business (.workingContext (.initialRetrieval
    (retrieved.map PlannerRetrievedExcerpt.sourceEventId) [conversation] .initialOwnerCommand))

/-- The answer of the node for a checked output. -/
def conclude (ports : ActionPorts W) (update : AgentUpdate SecretaryAgentUpdate) :
    PlannerOutput → Exec W NodeError (NodeResult SecretaryAgentState)
  | .noAction reason => pure (.continue [update, .setOutcome (.respond reason)] [] {})
  | .clarification question evidence => do
    let proposalId ← fun world => (.ok (ports.newProposalId world).1, (ports.newProposalId world).2)
    let proposal := clarificationProposal proposalId question evidence
    failing .invariant SecretaryAgentRuntimeError.toText (validateActionProposal proposal)
    let result ← failing .invariant SecretaryAgentRuntimeError.toText (gateSecretaryAction proposal)
    pure (prependUpdate update result)
  | .proposal proposal => do
    let result ← failing .invariant SecretaryAgentRuntimeError.toText (gateSecretaryAction proposal)
    pure (prependUpdate update result)

def execute (ports : ActionPorts W) (context : ActionRunContext)
    (state : AgentState SecretaryAgentState) :
    Exec W NodeError (NodeResult SecretaryAgentState) := do
  let business := state.business
  let retrieved ← retrieved ports context
  let recentEventViews ← recentEventViews ports context
  let conversation ← Exec.ofExcept (commandConversation context)
  let input := plannerInput context business conversation retrieved recentEventViews
  failing .invariant PlannerError.toText (validatePlannerInput input)
  let output ← Exec.mapError (fun error => withSource .transient error.toText) (ports.plan input)
  failing .invariant PlannerError.toText (checkOutput context business output)
  conclude ports (workingUpdate retrieved conversation) output

end PlanNode

/-! ## `L0ExecuteNode` -/

/-- `NodeResult::empty()`. -/
def emptyResult : NodeResult SecretaryAgentState := .continue [] [] {}

def L0ExecuteNode.execute (state : AgentState SecretaryAgentState) : NodeResult SecretaryAgentState :=
  if state.business.phase = .execute then
    match state.business.pendingProposal with
    | some proposal => .continue [] ([⟨proposal⟩] : List SecretaryActionEffect) {}
    | none => emptyResult
  else emptyResult

/-! ## `ReplanDecisionNode` -/

/-- The version-1 conflict that a receipt of an `ApproveMemoryCandidate` reports. -/
def conflictResult (receipt : SecretaryActionReceipt) : Option MemoryCandidateConflictResultV1 :=
  if receipt.toolKind = some .approveMemoryCandidate then
    (PlannerFormat.parseConflictResult receipt.resultRef).filter fun result => result.version == 1
  else none

/-- The conflict of this candidate is in the working context. -/
def alreadyRecorded (business : SecretaryAgentState) (candidateId : MemoryCandidateId) : Bool :=
  (business.workingContext.bind AgentWorkingContextV1.conflict).any fun conflict =>
    conflict.candidateId == candidateId

namespace ReplanDecisionNode

/-- The closure `fallback`: its own last resort fails as it does, with the panic of `expect`. -/
def fallback (conflictResult : MemoryCandidateConflictResultV1)
    (reasonCode : MemoryConflictReasonCode) (summary : String) :
    Except NodeError MemoryCandidateConflictContext :=
  match MemoryCandidateConflictContext.invalid conflictResult.candidateId conflictResult.factId
    reasonCode summary with
  | .ok context => .ok context
  | .error _ =>
    match MemoryCandidateConflictContext.invalid conflictResult.candidateId conflictResult.factId
      .reReadFailed "记忆候选与现行记忆存在冲突，来源信息暂不可用，请人工复核。" with
    | .ok context => .ok context
    | .error _ => .error (withSource .permanent "minimal conflict context must validate")

/-- Every source that the fact cites is among the sources that were read. -/
def allSourcesValid (view : MemoryFactView) : Bool :=
  !view.fact.sourceEventIds.isEmpty &&
    view.fact.sourceEventIds.all fun id => view.sources.any fun source => source.sourceEventId == id

/-- The fields of `ReplanDecisionNode` that the re-read uses. -/
structure Injected (W : Type) where
  /-- `MemoryUseCase::evidence`; an error is its text. -/
  memory : Option (MemoryFactId → UInt32 → Exec W String (Option MemoryFactView))
  account : Option SourceAccountRef
  isLocalLoopback : Bool

/-- The checks on the fact that the memory has answered with. -/
def checkView (account : SourceAccountRef) (isLocalLoopback : Bool)
    (conflictResult : MemoryCandidateConflictResultV1) (view : MemoryFactView) :
    Except NodeError MemoryCandidateConflictContext :=
  if view.fact.account ≠ account then
    fallback conflictResult .reReadAccountMismatch
      "记忆候选与现行记忆存在冲突，但现行记忆不属于当前账号，请人工复核。"
  else if view.fact.status ≠ .confirmed then
    fallback conflictResult .reReadSourcesInvalidated
      "记忆候选与现行记忆存在冲突，但现行记忆已失效，请人工复核。"
  else if !allSourcesValid view then
    fallback conflictResult .reReadSourcesInvalidated
      "记忆候选与现行记忆存在冲突，但现行记忆的部分来源已失效或不再允许长期记忆，请人工复核。"
  else if !isLocalLoopback &&
      view.sources.any fun source => source.contentTrustLevel == .localOnly then
    fallback conflictResult .reReadSourcesInvalidated
      "记忆候选与现行记忆存在冲突，但现行记忆仅允许本地模型读取，请人工复核。"
  else
    match MemoryCandidateConflictContext.valid conflictResult.candidateId conflictResult.factId
      view.fact.payload.kind conflictResult.reasonCode conflictResult.summary
      view.fact.sourceEventIds (summarizeMemoryPayload view.fact.payload 500) with
    | .ok conflict => .ok conflict
    | .error _ => fallback conflictResult .reReadSourcesInvalidated
      "记忆候选与现行记忆存在冲突，但回读结果不可用，请人工复核。"

/-- `re_read_conflict`. -/
def reReadWith (node : Injected W) (conflictResult : MemoryCandidateConflictResultV1) :
    Exec W NodeError MemoryCandidateConflictContext :=
  match node.memory with
  | none => Exec.ofExcept (fallback conflictResult .reReadFailed
      "记忆候选与现行记忆存在冲突，但回读能力未配置，请人工复核。")
  | some evidence => fun world =>
    match evidence conflictResult.factId 800 world with
    | (.ok (some view), world) =>
      match node.account with
      | none => (fallback conflictResult .reReadAccountMismatch
          "记忆候选与现行记忆存在冲突，但当前账号作用域缺失，请人工复核。", world)
      | some account => (checkView account node.isLocalLoopback conflictResult view, world)
    | (.ok none, world) => (fallback conflictResult .reReadSourcesInvalidated
      "记忆候选与现行记忆存在冲突，但现行事实已不存在或不可见，请人工复核。", world)
    | (.error _, world) => (fallback conflictResult .reReadFailed
      "记忆候选与现行记忆存在冲突，但回读现行事实失败，请稍后重试。", world)

/-- What the ports inject; the account comes together with the memory. -/
def injected (ports : ActionPorts W) (context : ActionRunContext) : Injected W :=
  ⟨ports.evidence, some context.account, context.isLocalLoopback⟩

def reReadConflict (ports : ActionPorts W) (context : ActionRunContext) :
    MemoryCandidateConflictResultV1 → Exec W NodeError MemoryCandidateConflictContext :=
  reReadWith (injected ports context)

/-- The result of a query that the planner is to be shown: of version 1 and of the tool of the
receipt. -/
def queryResult (receipt : SecretaryActionReceipt) (toolKind : SecretaryToolKind) :
    Option QueryEffectResultV1 :=
  if isReplanObservationTool toolKind then
    (PlannerFormat.parseQueryEffectResult receipt.resultRef).filter fun result =>
      result.version == 1 && result.toolKind == toolKind
  else none

/-- The open reference of an ambiguous observation. -/
def openReferences (observation : PlannerToolObservation) : List OpenReference :=
  if observation.ambiguous then [{
    kind := .ambiguousReference
    label := "存在未解决的指代"
    sourceEventIds := observation.sourceEventIds
    reason := "指代解析存在多个候选，需要 Owner 澄清" }]
  else []

/-- The updates for an observation: itself, and its references in the working context. -/
def observationUpdates (observation : PlannerToolObservation) :
    List (AgentUpdate SecretaryAgentUpdate) :=
  [.business (.observationAppended observation),
    .business (.workingContext (.replanEvidence observation.sourceEventIds []
      (observation.typedEvents.map fun event => ⟨event.actorKind, event.actorId⟩) []
      (openReferences observation)))]

def execute (ports : ActionPorts W) (context : ActionRunContext)
    (state : AgentState SecretaryAgentState) :
    Exec W NodeError (NodeResult SecretaryAgentState) :=
  let business := state.business
  if state.outcome.isSome then pure emptyResult
  else
    match business.lastReceipt with
    | none => pure emptyResult
    | some receipt =>
      match receipt.toolKind with
      | none => pure emptyResult
      | some toolKind =>
        match conflictResult receipt with
        | some result =>
          if alreadyRecorded business result.candidateId then pure emptyResult
          else do
            let conflict ← reReadConflict ports context result
            pure (.continue [.business (.workingContext (.conflictReRead conflict))] [] {})
        | none =>
          match queryResult receipt toolKind with
          | some result =>
            pure (.continue (observationUpdates (result.toObservation receipt.proposalId true)) [] {})
          | none => pure emptyResult

end ReplanDecisionNode

/-! ## `ReplanRouter` -/

def continueRoute : RouteKey := ⟨"continue", by decide⟩

def finishRoute : RouteKey := ⟨"finish", by decide⟩

def ReplanRouter.select (state : AgentState SecretaryAgentState) : RouteKey :=
  let business := state.business
  if state.outcome.isSome then finishRoute
  else
    match business.lastReceipt with
    | none => finishRoute
    | some receipt =>
      match receipt.toolKind with
      | none => finishRoute
      | some toolKind =>
        match conflictResult receipt with
        | some result =>
          if alreadyRecorded business result.candidateId then continueRoute else finishRoute
        | none =>
          if !isReplanObservationTool toolKind then finishRoute
          else if MAX_REPLAN_ROUNDS ≤ business.replanRound then finishRoute
          else if business.planningObservations.any fun o => o.proposalId == receipt.proposalId then
            continueRoute
          else finishRoute

/-! ## `BuildResponseNode` -/

namespace BuildResponseNode

open WorkingContext (appendUnique)

/-- The draft that is made without an outcome: of the last receipt, if there is one. -/
def receiptDraft (context : ActionRunContext) (business : SecretaryAgentState) :
    Except SecretaryAgentRuntimeError OwnerResponseDraft :=
  let sourceIds := appendUnique [] business.evidenceSourceEventIds
  match business.lastReceipt with
  | some receipt =>
    match PlannerFormat.parseQueryEffectResult receipt.resultRef with
    | some q =>
      OwnerResponseDraft.new [.summary ("查询完成：" ++ takeChars q.summary 500)]
        (appendUnique sourceIds q.sourceEventIds) context.nowUnixSecs
    | none => buildActionResponseDraft (some receipt) sourceIds context.nowUnixSecs
  | none => buildActionResponseDraft none sourceIds context.nowUnixSecs

def firstText (draft : OwnerResponseDraft) : String :=
  (draft.segments.head?.map ResponseSegment.text).getD ""

def execute (context : ActionRunContext) (state : AgentState SecretaryAgentState) :
    Exec W NodeError (NodeResult SecretaryAgentState) :=
  let business := state.business
  match state.outcome with
  | some (.respond text) => do
    let draft ← failing .invariant SecretaryAgentRuntimeError.toText
      (OwnerResponseDraft.new [.summary text] business.evidenceSourceEventIds context.nowUnixSecs)
    pure (.continue [.business (.responseReady draft)] [] {})
  | none => do
    let draft ← failing .invariant SecretaryAgentRuntimeError.toText (receiptDraft context business)
    pure (.continue
      [.business (.responseReady draft), .setOutcome (.respond (firstText draft))] [] {})

end BuildResponseNode

end

end ServerRS.ActionGraph

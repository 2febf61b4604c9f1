import ServerRS.Domain.Inbound

/-!
# Typed actions

Models `domain/agent_runtime/action.rs` and `approval.rs` of the personal secretary,
with the types of `notification_policy.rs`, `memory.rs`, `memory_candidate.rs`,
`threading.rs` and `retriever.rs` that an action carries.

An action is one of a closed list; its kind decides its risk and whether the Owner has
to confirm it. Payloads of memory facts keep the texts that are ever read.
-/

namespace ServerRS

/-! ## Identifiers -/

structure EventThreadId where
  asStr : String
deriving DecidableEq

structure ThreadDecisionId where
  asStr : String
deriving DecidableEq

structure OpenQuestionId where
  asStr : String
deriving DecidableEq

structure MemoryFactId where
  asStr : String
deriving DecidableEq

structure MemoryCandidateId where
  asStr : String
deriving DecidableEq

structure PolicyFamilyId where
  asStr : String
deriving DecidableEq

structure FollowUpId where
  asStr : String
deriving DecidableEq

structure ResponseExpectationId where
  asStr : String
deriving DecidableEq

/-! ## What actions carry -/

inductive PlatformIdentityKind where
  | owner
  | officialBot
  | external
deriving DecidableEq

inductive ContentTrustLevel where
  | normal
  | localOnly
  | envelopeOnly
  | neverLongTerm
deriving DecidableEq

inductive ThreadStatus where
  | «open»
  | waiting
  | resolved
  | closed
  | reopened
deriving DecidableEq

inductive ThreadSearchMatchRank where
  | contains
  | startsWith
  | exact
deriving DecidableEq

structure ThreadSearchCursor where
  queryText : String
  matchRank : ThreadSearchMatchRank
  latestEventAtUnixSecs : Int
  threadId : EventThreadId
deriving DecidableEq

structure PendingOwnerWorkCursor where
  dueAtUnixSecs : Option Int
  sourceKind : String
  sourceId : String
deriving DecidableEq

/-- `MatchField`: an unknown value is not an absent one. -/
inductive MatchField (T : Type) where
  | known (value : T)
  | absent
  | unknown
deriving DecidableEq

def MatchField.isUnknown {T : Type} : MatchField T → Bool
  | .unknown => true
  | _ => false

inductive NotificationCategory where
  | agenda
  | followUp
deriving DecidableEq

inductive StructuredImportance where
  | low
  | normal
  | high
deriving DecidableEq

inductive EventKind where
  | agendaDue
  | followUpDue
  | responseOverdue
  | projectBlocked
deriving DecidableEq

structure NotificationMatchKeyV1 where
  account : SourceAccountRef
  conversation : MatchField ConversationRef
  actorId : MatchField String
  category : MatchField NotificationCategory
  mentionedOwner : MatchField Bool
  structuredImportance : MatchField StructuredImportance
  eventKind : MatchField EventKind
deriving DecidableEq

inductive NotificationPolicyError where
  | invalidMatchKey (text : String)
  | unknownMatchMetadata
deriving DecidableEq

namespace NotificationMatchKeyV1

def validate (self : NotificationMatchKeyV1) : Except NotificationPolicyError Unit :=
  match self.actorId with
  | .known value =>
    if isBlank value then .error (.invalidMatchKey "actor id must not be empty when known")
    else .ok ()
  | _ => .ok ()

def eligibilityForLongTermRule (self : NotificationMatchKeyV1) :
    Except NotificationPolicyError Unit :=
  if self.conversation.isUnknown || self.actorId.isUnknown || self.category.isUnknown ||
      self.mentionedOwner.isUnknown || self.structuredImportance.isUnknown ||
      self.eventKind.isUnknown then
    .error .unknownMatchMetadata
  else .ok ()

end NotificationMatchKeyV1

structure NotificationCandidateRef where
  sourceKind : String
  sourceId : String
  sourceVersion : UInt64
  account : SourceAccountRef
deriving DecidableEq

inductive NotificationOutcome where
  | remind
  | delay
  | suppress
  | candidateExpired
  | evaluationFailedTerminal
  | deliveryWindowExpired
  | scheduleTimeAmbiguous
deriving DecidableEq

structure QuietHoursRule where
  timezoneName : String
  startLocalTime : String
  endLocalTime : String
  effectiveFromLocalDate : Option String
  effectiveUntilLocalDate : Option String
  allowBypass : Bool
deriving DecidableEq

inductive MemoryCandidateStatus where
  | proposed
  | approved
  | rejected
  | invalidated
deriving DecidableEq

inductive MemoryCandidateKind where
  | person
  | project
  | commitment
deriving DecidableEq

inductive CommitmentStatus where
  | proposed
  | pending
  | fulfilled
  | cancelled
deriving DecidableEq

structure ProjectMemberRef where
  platformIdentityKind : Option PlatformIdentityKind
  actorId : String
deriving DecidableEq

structure ThreadActorRef where
  account : SourceAccountRef
  actorId : String
  platformIdentityKind : Option PlatformIdentityKind
deriving DecidableEq

inductive MemoryFactStatus where
  | proposed
  | confirmed
  | superseded
  | expired
  | deleted
deriving DecidableEq

structure PersonMemory where
  person : ThreadActorRef
  relationship : Option String
  responsibilities : List String
  communicationPreferences : List String
deriving DecidableEq

structure ProjectMemory where
  projectKey : String
  goal : String
  memberActorIds : List String
  memberActorRefs : List ProjectMemberRef
  progress : Option String
  decisionIds : List ThreadDecisionId
  risks : List String
  blockers : List String
  artifactRefs : List String
deriving DecidableEq

structure CommitmentMemory where
  promisor : ThreadActorRef
  beneficiary : ThreadActorRef
  action : String
  dueAtUnixSecs : Option Int
  status : CommitmentStatus
  completionSourceEventId : Option SourceEventId
deriving DecidableEq

inductive MemoryPayload where
  | person (person : PersonMemory)
  | project (project : ProjectMemory)
  | commitment (commitment : CommitmentMemory)
deriving DecidableEq

def MemoryPayload.kind : MemoryPayload → String
  | .person _ => "person"
  | .project _ => "project"
  | .commitment _ => "commitment"

structure MemoryFact where
  factId : MemoryFactId
  account : SourceAccountRef
  subjectKey : String
  payload : MemoryPayload
  status : MemoryFactStatus
  confidenceBps : UInt16
  sourceEventIds : List SourceEventId
  validUntilUnixSecs : Option Int
  supersedesFactId : Option MemoryFactId
deriving DecidableEq

structure FollowUpControlTarget where
  followUpId : FollowUpId
  expectedSourceVersion : UInt64
deriving DecidableEq

structure ResponseExpectationControlTarget where
  expectationId : ResponseExpectationId
  expectedSourceVersion : UInt64
deriving DecidableEq

/-! ## Kinds and their policy -/

inductive SecretaryRiskLevel where
  | l0ReadOnly
  | l1Reversible
  | l2Impactful
  | l3ExternalSideEffect
deriving DecidableEq

/-- The place in the derived order of `SecretaryRiskLevel`. -/
def SecretaryRiskLevel.rank : SecretaryRiskLevel → ℕ
  | .l0ReadOnly => 0
  | .l1Reversible => 1
  | .l2Impactful => 2
  | .l3ExternalSideEffect => 3

inductive SecretaryToolKind where
  | searchRecentEvents
  | readSourceEvent
  | searchEventThreads
  | resolveReference
  | listUpcomingItems
  | getSecretaryStatus
  | listPendingOwnerWork
  | getThreadContext
  | getEventCausalContext
  | getParticipantContext
  | getParticipantContextByName
  | draftReminder
  | createSchedule
  | rescheduleItem
  | cancelItem
  | createTask
  | createReminder
  | completeItem
  | snoozeItem
  | sendOwnerMessage
  | askOwnerClarification
  | listNotificationPolicies
  | explainNotificationDecision
  | setAccountDefaultNotificationMode
  | setConversationNotificationMode
  | setQuietHours
  | setImportantContact
  | setNotificationCategoryImportance
  | recordNotificationFeedback
  | createSimilarNotificationRule
  | disableNotificationPolicy
  | setAutomaticReplyDeniedForContact
  | listMemoryFacts
  | readMemoryFactSources
  | correctMemoryFact
  | deleteMemoryFact
  | setMemoryFactTtl
  | setConversationMemoryMode
  | confirmThreadDecision
  | revokeThreadDecision
  | dismissThreadQuestion
  | reconfirmThreadSemantics
  | retryFailedArtifactDerivations
  | setThreadLifecycle
  | mergeThreads
  | splitThread
  | dismissFollowUp
  | snoozeFollowUp
  | dismissFollowUps
  | snoozeFollowUps
  | completeFollowUp
  | completeFollowUps
  | dismissResponseExpectation
  | dismissResponseExpectations
  | listMemoryCandidates
  | approveMemoryCandidate
  | rejectMemoryCandidate
  | listThreadLinkCandidates
  | listProjects
  | queryProject
  | listCommitments
deriving DecidableEq

/-- `Debug for SecretaryToolKind`. -/
def SecretaryToolKind.toText : SecretaryToolKind → String
  | .searchRecentEvents => "SearchRecentEvents"
  | .readSourceEvent => "ReadSourceEvent"
  | .searchEventThreads => "SearchEventThreads"
  | .resolveReference => "ResolveReference"
  | .listUpcomingItems => "ListUpcomingItems"
  | .getSecretaryStatus => "GetSecretaryStatus"
  | .listPendingOwnerWork => "ListPendingOwnerWork"
  | .getThreadContext => "GetThreadContext"
  | .getEventCausalContext => "GetEventCausalContext"
  | .getParticipantContext => "GetParticipantContext"
  | .getParticipantContextByName => "GetParticipantContextByName"
  | .draftReminder => "DraftReminder"
  | .createSchedule => "CreateSchedule"
  | .rescheduleItem => "RescheduleItem"
  | .cancelItem => "CancelItem"
  | .createTask => "CreateTask"
  | .createReminder => "CreateReminder"
  | .completeItem => "CompleteItem"
  | .snoozeItem => "SnoozeItem"
  | .sendOwnerMessage => "SendOwnerMessage"
  | .askOwnerClarification => "AskOwnerClarification"
  | .listNotificationPolicies => "ListNotificationPolicies"
  | .explainNotificationDecision => "ExplainNotificationDecision"
  | .setAccountDefaultNotificationMode => "SetAccountDefaultNotificationMode"
  | .setConversationNotificationMode => "SetConversationNotificationMode"
  | .setQuietHours => "SetQuietHours"
  | .setImportantContact => "SetImportantContact"
  | .setNotificationCategoryImportance => "SetNotificationCategoryImportance"
  | .recordNotificationFeedback => "RecordNotificationFeedback"
  | .createSimilarNotificationRule => "CreateSimilarNotificationRule"
  | .disableNotificationPolicy => "DisableNotificationPolicy"
  | .setAutomaticReplyDeniedForContact => "SetAutomaticReplyDeniedForContact"
  | .listMemoryFacts => "ListMemoryFacts"
  | .readMemoryFactSources => "ReadMemoryFactSources"
  | .correctMemoryFact => "CorrectMemoryFact"
  | .deleteMemoryFact => "DeleteMemoryFact"
  | .setMemoryFactTtl => "SetMemoryFactTtl"
  | .setConversationMemoryMode => "SetConversationMemoryMode"
  | .confirmThreadDecision => "ConfirmThreadDecision"
  | .revokeThreadDecision => "RevokeThreadDecision"
  | .dismissThreadQuestion => "DismissThreadQuestion"
  | .reconfirmThreadSemantics => "ReconfirmThreadSemantics"
  | .retryFailedArtifactDerivations => "RetryFailedArtifactDerivations"
  | .setThreadLifecycle => "SetThreadLifecycle"
  | .mergeThreads => "MergeThreads"
  | .splitThread => "SplitThread"
  | .dismissFollowUp => "DismissFollowUp"
  | .snoozeFollowUp => "SnoozeFollowUp"
  | .dismissFollowUps => "DismissFollowUps"
  | .snoozeFollowUps => "SnoozeFollowUps"
  | .completeFollowUp => "CompleteFollowUp"
  | .completeFollowUps => "CompleteFollowUps"
  | .dismissResponseExpectation => "DismissResponseExpectation"
  | .dismissResponseExpectations => "DismissResponseExpectations"
  | .listMemoryCandidates => "ListMemoryCandidates"
  | .approveMemoryCandidate => "ApproveMemoryCandidate"
  | .rejectMemoryCandidate => "RejectMemoryCandidate"
  | .listThreadLinkCandidates => "ListThreadLinkCandidates"
  | .listProjects => "ListProjects"
  | .queryProject => "QueryProject"
  | .listCommitments => "ListCommitments"

structure SecretaryToolPolicy where
  risk : SecretaryRiskLevel
  requiresConfirmation : Bool
  reversible : Bool
  timeoutMs : UInt64
  maxRetries : UInt8
deriving DecidableEq

def SecretaryToolKind.policy : SecretaryToolKind → SecretaryToolPolicy
  | .searchRecentEvents | .readSourceEvent | .searchEventThreads | .resolveReference
  | .listUpcomingItems | .getSecretaryStatus | .listPendingOwnerWork | .getThreadContext
  | .getEventCausalContext | .getParticipantContext | .getParticipantContextByName
  | .listNotificationPolicies | .explainNotificationDecision | .listMemoryFacts
  | .readMemoryFactSources | .listMemoryCandidates | .listThreadLinkCandidates | .listProjects
  | .queryProject | .listCommitments => {
      risk := .l0ReadOnly
      requiresConfirmation := false
      reversible := true
      timeoutMs := 10000
      maxRetries := 2 }
  | .draftReminder | .recordNotificationFeedback => {
      risk := .l1Reversible
      requiresConfirmation := false
      reversible := true
      timeoutMs := 5000
      maxRetries := 1 }
  | .createSchedule | .rescheduleItem | .cancelItem | .createTask | .createReminder
  | .completeItem | .snoozeItem | .setAccountDefaultNotificationMode
  | .setConversationNotificationMode | .setQuietHours | .setImportantContact
  | .setNotificationCategoryImportance | .createSimilarNotificationRule
  | .disableNotificationPolicy | .setAutomaticReplyDeniedForContact => {
      risk := .l2Impactful
      requiresConfirmation := true
      reversible := true
      timeoutMs := 15000
      maxRetries := 1 }
  | .correctMemoryFact | .deleteMemoryFact | .setMemoryFactTtl | .setConversationMemoryMode
  | .confirmThreadDecision | .revokeThreadDecision | .dismissThreadQuestion
  | .setThreadLifecycle | .mergeThreads | .splitThread | .dismissFollowUp | .snoozeFollowUp
  | .dismissFollowUps | .snoozeFollowUps => {
      risk := .l2Impactful
      requiresConfirmation := true
      reversible := true
      timeoutMs := 15000
      maxRetries := 1 }
  | .completeFollowUp | .completeFollowUps | .dismissResponseExpectation
  | .dismissResponseExpectations | .approveMemoryCandidate | .rejectMemoryCandidate
  | .reconfirmThreadSemantics | .retryFailedArtifactDerivations => {
      risk := .l2Impactful
      requiresConfirmation := true
      reversible := false
      timeoutMs := 15000
      maxRetries := 1 }
  | .sendOwnerMessage => {
      risk := .l3ExternalSideEffect
      requiresConfirmation := true
      reversible := false
      timeoutMs := 30000
      maxRetries := 0 }
  | .askOwnerClarification => {
      risk := .l0ReadOnly
      requiresConfirmation := false
      reversible := true
      timeoutMs := 0
      maxRetries := 0 }

/-! ## Actions -/

inductive SecretaryAction where
  | searchRecentEvents (query : String) (limit : UInt16) (sinceUnixSecs untilUnixSecs : Option Int)
      (conversation : Option ConversationRef) (threadId : Option EventThreadId)
      (actorId : Option String)
  | readSourceEvent (sourceEventId : SourceEventId)
  | searchEventThreads (query : String) (limit : UInt16) (cursor : Option ThreadSearchCursor)
  | resolveReference (expression : String) (conversationRef : Option ConversationRef)
      (threadId : Option EventThreadId)
  | listUpcomingItems (horizonSecs : UInt64)
  | getSecretaryStatus
  | listPendingOwnerWork (limit : UInt16) (cursor : Option PendingOwnerWorkCursor)
  | getThreadContext (threadId : EventThreadId)
  | getEventCausalContext (sourceEventId : SourceEventId)
  | getParticipantContext (actorKind : PlatformIdentityKind) (actorId : String)
      (conversationRef : Option ConversationRef) (threadId : Option EventThreadId)
  | getParticipantContextByName (name : String) (conversationRef : Option ConversationRef)
      (threadId : Option EventThreadId)
  | draftReminder (text : String) (dueAtUnix : Int)
  | createSchedule (title : String) (startsAtUnix : Int) (timezone : String)
  | rescheduleItem (itemId : String) (expectedVersion : UInt64) (startsAtUnix : Int)
      (timezone : String)
  | cancelItem (itemId : String) (expectedVersion : UInt64) (reason : String)
  | createTask (title : String) (dueAtUnix : Option Int) (timezone : String)
  | createReminder (text : String) (dueAtUnix : Int) (timezone : String)
  | completeItem (itemId : String) (expectedVersion : UInt64)
  | snoozeItem (itemId : String) (expectedVersion : UInt64) (dueAtUnix : Int) (timezone : String)
  | sendOwnerMessage (text : String)
  | askOwnerClarification (question : String)
  | listNotificationPolicies (limit : UInt16)
  | explainNotificationDecision (decisionId : String)
  | setAccountDefaultNotificationMode (canonicalScopeKey : String)
      (matchKey : NotificationMatchKeyV1) (outcome : NotificationOutcome) (bypassQuiet : Bool)
  | setConversationNotificationMode (canonicalScopeKey : String)
      (matchKey : NotificationMatchKeyV1) (outcome : NotificationOutcome)
      (bypassQuiet fullySilent allowBypass : Bool)
  | setQuietHours (canonicalScopeKey : String) (matchKey : NotificationMatchKeyV1)
      (quietHours : QuietHoursRule)
  | setImportantContact (canonicalScopeKey : String) (matchKey : NotificationMatchKeyV1)
      (outcome : NotificationOutcome) (bypassQuiet : Bool)
  | setNotificationCategoryImportance (canonicalScopeKey : String)
      (matchKey : NotificationMatchKeyV1) (outcome : NotificationOutcome) (bypassQuiet : Bool)
  | recordNotificationFeedback (candidate : NotificationCandidateRef)
      (matchKey : NotificationMatchKeyV1) (important promoteToRule : Bool)
  | createSimilarNotificationRule (canonicalScopeKey : String)
      (matchKey : NotificationMatchKeyV1) (outcome : NotificationOutcome) (bypassQuiet : Bool)
  | disableNotificationPolicy (policyFamilyId : PolicyFamilyId) (expectedGeneration : UInt64)
  | setAutomaticReplyDeniedForContact (canonicalScopeKey : String)
      (matchKey : NotificationMatchKeyV1)
  | listMemoryFacts (limit : UInt16)
  | readMemoryFactSources (factId : MemoryFactId) (maxExcerptChars : UInt16)
  | correctMemoryFact (factId : MemoryFactId) (replacement : MemoryPayload)
      (confidenceBps : UInt16) (sourceEventIds : List SourceEventId)
      (validUntilUnixSecs : Option Int)
  | deleteMemoryFact (factId : MemoryFactId) (reason : String)
  | setMemoryFactTtl (factId : MemoryFactId) (validUntilUnixSecs : Option Int)
  | setConversationMemoryMode (conversation : ConversationRef) (mode : ContentTrustLevel)
  | confirmThreadDecision (decisionId : ThreadDecisionId)
  | revokeThreadDecision (decisionId : ThreadDecisionId) (reason : String)
  | dismissThreadQuestion (questionId : OpenQuestionId) (reason : String)
  | reconfirmThreadSemantics (threadId : EventThreadId) (reason : String)
  | retryFailedArtifactDerivations (limit : UInt16) (reason : String)
  | setThreadLifecycle (threadId : EventThreadId) (expectedStatus targetStatus : ThreadStatus)
      (reason : String)
  | mergeThreads (threadIds : List EventThreadId) (reason : String)
  | splitThread (threadId : EventThreadId) (sourceEventIds : List SourceEventId) (reason : String)
  | dismissFollowUp (followUpId : FollowUpId) (expectedSourceVersion : UInt64) (reason : String)
  | snoozeFollowUp (followUpId : FollowUpId) (expectedSourceVersion : UInt64)
      (snoozeUntilUnixSecs : Int) (reason : String)
  | dismissFollowUps (targets : List FollowUpControlTarget) (reason : String)
  | snoozeFollowUps (targets : List FollowUpControlTarget) (snoozeUntilUnixSecs : Int)
      (reason : String)
  | completeFollowUp (followUpId : FollowUpId) (expectedSourceVersion : UInt64) (reason : String)
  | completeFollowUps (targets : List FollowUpControlTarget) (reason : String)
  | dismissResponseExpectation (expectationId : ResponseExpectationId)
      (expectedSourceVersion : UInt64) (reason : String)
  | dismissResponseExpectations (targets : List ResponseExpectationControlTarget) (reason : String)
  | listMemoryCandidates (status : Option MemoryCandidateStatus)
      (kind : Option MemoryCandidateKind) (limit : UInt16)
  | listThreadLinkCandidates (limit : UInt16)
  | approveMemoryCandidate (candidateId : MemoryCandidateId) (expectedCandidateVersion : UInt64)
      (reason : String)
  | rejectMemoryCandidate (candidateId : MemoryCandidateId) (expectedCandidateVersion : UInt64)
      (reason : String)
  | listProjects (limit : UInt16)
  | queryProject (projectKey : String)
  | listCommitments (status : Option CommitmentStatus) (dueSinceUnixSecs dueUntilUnixSecs : Option Int)
      (promisor beneficiary : Option ProjectMemberRef) (limit : UInt16)

namespace SecretaryAction

def kind : SecretaryAction → SecretaryToolKind
  | .searchRecentEvents .. => .searchRecentEvents
  | .readSourceEvent .. => .readSourceEvent
  | .searchEventThreads .. => .searchEventThreads
  | .resolveReference .. => .resolveReference
  | .listUpcomingItems .. => .listUpcomingItems
  | .getSecretaryStatus => .getSecretaryStatus
  | .listPendingOwnerWork .. => .listPendingOwnerWork
  | .getThreadContext .. => .getThreadContext
  | .getEventCausalContext .. => .getEventCausalContext
  | .getParticipantContext .. => .getParticipantContext
  | .getParticipantContextByName .. => .getParticipantContextByName
  | .draftReminder .. => .draftReminder
  | .createSchedule .. => .createSchedule
  | .rescheduleItem .. => .rescheduleItem
  | .cancelItem .. => .cancelItem
  | .createTask .. => .createTask
  | .createReminder .. => .createReminder
  | .completeItem .. => .completeItem
  | .snoozeItem .. => .snoozeItem
  | .sendOwnerMessage .. => .sendOwnerMessage
  | .askOwnerClarification .. => .askOwnerClarification
  | .listNotificationPolicies .. => .listNotificationPolicies
  | .explainNotificationDecision .. => .explainNotificationDecision
  | .setAccountDefaultNotificationMode .. => .setAccountDefaultNotificationMode
  | .setConversationNotificationMode .. => .setConversationNotificationMode
  | .setQuietHours .. => .setQuietHours
  | .setImportantContact .. => .setImportantContact
  | .setNotificationCategoryImportance .. => .setNotificationCategoryImportance
  | .recordNotificationFeedback .. => .recordNotificationFeedback
  | .createSimilarNotificationRule .. => .createSimilarNotificationRule
  | .disableNotificationPolicy .. => .disableNotificationPolicy
  | .setAutomaticReplyDeniedForContact .. => .setAutomaticReplyDeniedForContact
  | .listMemoryFacts .. => .listMemoryFacts
  | .readMemoryFactSources .. => .readMemoryFactSources
  | .correctMemoryFact .. => .correctMemoryFact
  | .deleteMemoryFact .. => .deleteMemoryFact
  | .setMemoryFactTtl .. => .setMemoryFactTtl
  | .setConversationMemoryMode .. => .setConversationMemoryMode
  | .confirmThreadDecision .. => .confirmThreadDecision
  | .revokeThreadDecision .. => .revokeThreadDecision
  | .dismissThreadQuestion .. => .dismissThreadQuestion
  | .reconfirmThreadSemantics .. => .reconfirmThreadSemantics
  | .retryFailedArtifactDerivations .. => .retryFailedArtifactDerivations
  | .setThreadLifecycle .. => .setThreadLifecycle
  | .mergeThreads .. => .mergeThreads
  | .splitThread .. => .splitThread
  | .dismissFollowUp .. => .dismissFollowUp
  | .snoozeFollowUp .. => .snoozeFollowUp
  | .dismissFollowUps .. => .dismissFollowUps
  | .snoozeFollowUps .. => .snoozeFollowUps
  | .completeFollowUp .. => .completeFollowUp
  | .completeFollowUps .. => .completeFollowUps
  | .dismissResponseExpectation .. => .dismissResponseExpectation
  | .dismissResponseExpectations .. => .dismissResponseExpectations
  | .listMemoryCandidates .. => .listMemoryCandidates
  | .listThreadLinkCandidates .. => .listThreadLinkCandidates
  | .approveMemoryCandidate .. => .approveMemoryCandidate
  | .rejectMemoryCandidate .. => .rejectMemoryCandidate
  | .listProjects .. => .listProjects
  | .queryProject .. => .queryProject
  | .listCommitments .. => .listCommitments

/-- `matches!(action, SecretaryAction::AskOwnerClarification { .. })`. -/
def isClarification : SecretaryAction → Bool
  | .askOwnerClarification _ => true
  | _ => false

end SecretaryAction

structure SecretaryActionProposal where
  proposalId : String
  action : SecretaryAction
  rationale : String
  sourceEventIds : List SourceEventId
  idempotencyKey : Option String

structure SecretaryActionEffect where
  proposal : SecretaryActionProposal

structure SecretaryActionReceipt where
  proposalId : String
  resultRef : String
  toolKind : Option SecretaryToolKind
deriving DecidableEq

/-- The action is carried out only on the Owner's word: it needs a confirmation, or it is a
question to the Owner. -/
def SecretaryAction.NeedsOwner (action : SecretaryAction) : Prop :=
  action.kind.policy.requiresConfirmation = true ∨ action.isClarification = true

instance (action : SecretaryAction) : Decidable action.NeedsOwner :=
  inferInstanceAs (Decidable (_ ∨ _))

/-! ## Approval -/

structure SecretaryActionApprovalRequest where
  proposalId : String
  tool : SecretaryToolKind
  risk : SecretaryRiskLevel
  summary : String
  sourceEventIds : List SourceEventId

inductive SecretaryApprovalDecision where
  | approve
  | reject
deriving DecidableEq

structure SecretaryActionResumeInput where
  proposalId : String
  decision : SecretaryApprovalDecision
  commandSourceEventId : SourceEventId
  approvalSourceEventId : Option SourceEventId
deriving DecidableEq

end ServerRS

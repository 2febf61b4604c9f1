import ServerRS.Domain.Action
import ServerRS.Lib.Except
import Mathlib.Data.List.Nodup

/-!
# Validation of proposals

Models the action half of `domain/agent_runtime/validation.rs`: the bounds of every
action and of the proposal around it. Texts are bounded in characters, ids in bytes.
-/

namespace ServerRS

open Lib

inductive SecretaryAgentRuntimeError where
  | invalidProposal (text : String)
  | invalidState (text : String)
  | invalidResponseDraft (text : String)
deriving DecidableEq

/-- `Display for SecretaryAgentRuntimeError`. -/
def SecretaryAgentRuntimeError.toText : SecretaryAgentRuntimeError → String
  | .invalidProposal text => "invalid secretary action proposal: " ++ text
  | .invalidState text => "invalid secretary agent state: " ++ text
  | .invalidResponseDraft text => "invalid owner response draft: " ++ text

def MAX_TEXT_CHARS : ℕ := 4000

def MAX_ARTIFACT_REPROCESS_BATCH : UInt16 := 100

def MAX_CANONICAL_SCOPE_KEY_BYTES : ℕ := 512

/-! ## Shared checks -/

def requireProposal (condition : Prop) [Decidable condition] (text : String) :
    Except SecretaryAgentRuntimeError Unit :=
  if condition then .ok () else .error (.invalidProposal text)

theorem requireProposal_ok {condition : Prop} [Decidable condition] {text : String} :
    requireProposal condition text = .ok () ↔ condition := by
  unfold requireProposal
  split <;> simp_all

def boundedText (field value : String) (min max : ℕ) : Except SecretaryAgentRuntimeError Unit :=
  requireProposal (min ≤ value.length ∧ value.length ≤ max)
    (field ++ " must contain " ++ toString min ++ "..=" ++ toString max ++ " characters")

/-- `(lo..=hi).contains(limit)` on a `u16`. -/
def requireLimit (limit lo hi : UInt16) (text : String) : Except SecretaryAgentRuntimeError Unit :=
  requireProposal (lo ≤ limit ∧ limit ≤ hi) text

/-- `since > until` is refused where both are given. -/
def requireOrdered (since «until» : Option Int) (text : String) :
    Except SecretaryAgentRuntimeError Unit :=
  match since, «until» with
  | some since, some «until» => requireProposal (since ≤ «until») text
  | _, _ => .ok ()

/-- An optional field that is bounded where it is given. -/
def optionally {T : Type} (value : Option T) (check : T → Except SecretaryAgentRuntimeError Unit) :
    Except SecretaryAgentRuntimeError Unit :=
  match value with
  | some value => check value
  | none => .ok ()

def validateProjectMemberRef (field : String) (value : ProjectMemberRef) :
    Except SecretaryAgentRuntimeError Unit := do
  requireProposal (value.platformIdentityKind.isSome = true)
    (field ++ " must have a known platform_identity_kind")
  requireProposal (isBlank value.actorId = false ∧ value.actorId.utf8ByteSize ≤ 191)
    (field ++ ".actor_id must contain 1..=191 bytes")

def validatePolicyScope (canonicalScopeKey : String) (matchKey : NotificationMatchKeyV1) :
    Except SecretaryAgentRuntimeError Unit := do
  requireProposal
    (isBlank canonicalScopeKey = false ∧
      canonicalScopeKey.utf8ByteSize ≤ MAX_CANONICAL_SCOPE_KEY_BYTES)
    "canonical_scope_key must contain 1..=512 bytes"
  match matchKey.validate with
  | .ok () => .ok ()
  | .error _ => .error (.invalidProposal "invalid policy match key")

def validatePolicyOutcome (outcome : NotificationOutcome) : Except SecretaryAgentRuntimeError Unit :=
  requireProposal (outcome = .remind ∨ outcome = .delay ∨ outcome = .suppress)
    "policy outcome must be remind, delay, or suppress"

/-- The checks of the actions that set a policy by an outcome. -/
def validatePolicy (canonicalScopeKey : String) (matchKey : NotificationMatchKeyV1)
    (outcome : NotificationOutcome) : Except SecretaryAgentRuntimeError Unit := do
  validatePolicyScope canonicalScopeKey matchKey
  validatePolicyOutcome outcome

def validateQuietHoursShape (rule : QuietHoursRule) : Except SecretaryAgentRuntimeError Unit :=
  requireProposal
    (isBlank rule.timezoneName = false ∧ rule.timezoneName.utf8ByteSize ≤ 128 ∧
      rule.startLocalTime.utf8ByteSize = 5 ∧ rule.endLocalTime.utf8ByteSize = 5 ∧
      (rule.effectiveFromLocalDate.all fun date => date.utf8ByteSize == 10) = true ∧
      (rule.effectiveUntilLocalDate.all fun date => date.utf8ByteSize == 10) = true)
    "quiet-hours fields must use bounded IANA timezone and local date/time shapes"

/-- `value <= 0` is refused for a `valid_until_unix_secs` that is given. -/
def requireValidUntil (validUntilUnixSecs : Option Int) : Except SecretaryAgentRuntimeError Unit :=
  requireProposal ((validUntilUnixSecs.all fun value => decide (0 < value)) = true)
    "memory valid_until_unix_secs must be positive"

/-- The checks of an action on one versioned row. -/
def validateVersioned (field id noVersion : String) (expectedVersion : UInt64) :
    Except SecretaryAgentRuntimeError Unit := do
  boundedText field id 1 36
  requireProposal (expectedVersion ≠ 0) noVersion

/-- The loop over the targets of a batch; `seen` are the ids before them. -/
def validateTargets (field noVersion repeated : String) :
    List (String × UInt64) → List String → Except SecretaryAgentRuntimeError Unit
  | [], _ => .ok ()
  | (id, expectedVersion) :: rest, seen => do
    validateVersioned field id noVersion expectedVersion
    requireProposal (id ∉ seen) repeated
    validateTargets field noVersion repeated rest (id :: seen)

/-- The checks of a batch on follow-ups. -/
def validateFollowUpTargets (targets : List FollowUpControlTarget) (reason : String) :
    Except SecretaryAgentRuntimeError Unit := do
  requireProposal (targets ≠ [] ∧ targets.length ≤ 20)
    "follow_up batch targets must contain 1..=20 items"
  validateTargets "follow_up_id" "follow_up expected_source_version must be positive"
    "follow_up batch targets must not repeat follow_up_id"
    (targets.map fun target => (target.followUpId.asStr, target.expectedSourceVersion)) []
  boundedText "follow up reason" reason 1 1000

/-! ## Actions -/

def validateAction : SecretaryAction → Except SecretaryAgentRuntimeError Unit
  | .searchRecentEvents query limit sinceUnixSecs untilUnixSecs _ _ actorId => do
    boundedText "query" query 1 1000
    requireLimit limit 1 100 "search limit must be in 1..=100"
    requireOrdered sinceUnixSecs untilUnixSecs
      "search since_unix_secs must not exceed until_unix_secs"
    optionally actorId fun actor => boundedText "actor_id" actor 1 191
  | .searchEventThreads query limit _ => do
    boundedText "query" query 1 1000
    requireLimit limit 1 100 "search limit must be in 1..=100"
  | .resolveReference expression _ _ => boundedText "expression" expression 1 1000
  | .listUpcomingItems horizonSecs =>
    requireProposal (horizonSecs ≠ 0) "horizon_secs must be positive"
  | .draftReminder text _ | .createReminder text _ _ | .sendOwnerMessage text =>
    boundedText "text" text 1 MAX_TEXT_CHARS
  | .createSchedule title _ _ | .createTask title _ _ => boundedText "title" title 1 500
  | .rescheduleItem itemId _ _ _ | .completeItem itemId _ | .snoozeItem itemId _ _ _ =>
    boundedText "item_id" itemId 1 191
  | .cancelItem itemId _ reason => do
    boundedText "item_id" itemId 1 191
    boundedText "reason" reason 1 1000
  | .askOwnerClarification question => boundedText "question" question 1 1000
  | .readSourceEvent _ | .getSecretaryStatus | .getThreadContext _ | .getEventCausalContext _ =>
    .ok ()
  | .listProjects limit => requireLimit limit 1 20 "ListProjects limit must be in 1..=20"
  | .queryProject projectKey => boundedText "project_key" projectKey 1 191
  | .listCommitments _ dueSinceUnixSecs dueUntilUnixSecs promisor beneficiary limit => do
    requireLimit limit 1 100 "ListCommitments limit must be in 1..=100"
    requireOrdered dueSinceUnixSecs dueUntilUnixSecs
      "due_since_unix_secs must not exceed due_until_unix_secs"
    optionally promisor (validateProjectMemberRef "promisor")
    optionally beneficiary (validateProjectMemberRef "beneficiary")
  | .getParticipantContext _ actorId _ _ => boundedText "actor_id" actorId 1 191
  | .getParticipantContextByName name _ _ => boundedText "name" name 1 200
  | .listPendingOwnerWork limit _ =>
    requireLimit limit 1 20 "pending owner work limit must be in 1..=20"
  | .listNotificationPolicies limit =>
    requireLimit limit 1 20 "notification policy list limit must be in 1..=20"
  | .explainNotificationDecision decisionId => boundedText "decision_id" decisionId 1 191
  | .setAccountDefaultNotificationMode canonicalScopeKey matchKey outcome _
  | .setImportantContact canonicalScopeKey matchKey outcome _
  | .setNotificationCategoryImportance canonicalScopeKey matchKey outcome _
  | .createSimilarNotificationRule canonicalScopeKey matchKey outcome _
  | .setConversationNotificationMode canonicalScopeKey matchKey outcome _ _ _ =>
    validatePolicy canonicalScopeKey matchKey outcome
  | .setQuietHours canonicalScopeKey matchKey quietHours => do
    validatePolicyScope canonicalScopeKey matchKey
    validateQuietHoursShape quietHours
  | .recordNotificationFeedback candidate matchKey _ promoteToRule => do
    requireProposal (candidate.account = matchKey.account)
      "notification feedback candidate and match key accounts must agree"
    if promoteToRule then
      match matchKey.eligibilityForLongTermRule with
      | .ok () => .ok ()
      | .error .unknownMatchMetadata => .error (.invalidProposal
          "similar notification rule requires known or absent metadata")
      | .error _ => .error (.invalidProposal "invalid similar notification match key")
    else .ok ()
  | .disableNotificationPolicy _ expectedGeneration =>
    requireProposal (expectedGeneration ≠ 0) "policy expected_generation must be positive"
  | .setAutomaticReplyDeniedForContact canonicalScopeKey matchKey => do
    validatePolicyScope canonicalScopeKey matchKey
    match matchKey.actorId with
    | .known _ => .ok ()
    | _ => .error (.invalidProposal "automatic reply denial requires a known actor identity")
  | .listMemoryFacts limit => requireLimit limit 1 20 "memory fact list limit must be in 1..=20"
  | .readMemoryFactSources _ maxExcerptChars =>
    requireLimit maxExcerptChars 1 1000 "memory source excerpt limit must be in 1..=1000"
  | .correctMemoryFact _ _ confidenceBps sourceEventIds validUntilUnixSecs => do
    requireProposal (confidenceBps ≤ 10000 ∧ sourceEventIds ≠ [] ∧ sourceEventIds.length ≤ 20)
      "memory correction requires confidence <= 10000 and 1..=20 sources"
    requireValidUntil validUntilUnixSecs
  | .deleteMemoryFact _ reason => boundedText "memory delete reason" reason 1 1000
  | .setMemoryFactTtl _ validUntilUnixSecs => requireValidUntil validUntilUnixSecs
  | .setConversationMemoryMode conversation _ =>
    boundedText "conversation.id" conversation.id 1 191
  | .listMemoryCandidates _ _ limit =>
    requireLimit limit 1 100 "memory candidate list limit must be in 1..=100"
  | .listThreadLinkCandidates limit =>
    requireLimit limit 1 20 "thread link candidate list limit must be in 1..=20"
  | .approveMemoryCandidate candidateId expectedCandidateVersion reason
  | .rejectMemoryCandidate candidateId expectedCandidateVersion reason => do
    validateVersioned "candidate_id" candidateId.asStr
      "memory candidate expected_candidate_version must be positive" expectedCandidateVersion
    boundedText "memory candidate reason" reason 1 1000
  | .confirmThreadDecision _ => .ok ()
  | .revokeThreadDecision _ reason | .dismissThreadQuestion _ reason =>
    boundedText "thread control reason" reason 1 1000
  | .reconfirmThreadSemantics _ reason => do
    requireProposal (isBlank reason = false) "thread control reason must not be blank"
    boundedText "thread control reason" reason 1 1000
  | .retryFailedArtifactDerivations limit reason => do
    requireLimit limit 1 MAX_ARTIFACT_REPROCESS_BATCH "artifact reprocess limit must be in 1..=100"
    boundedText "artifact reprocess reason" reason 1 1000
  | .setThreadLifecycle _ expectedStatus targetStatus reason => do
    boundedText "thread lifecycle reason" reason 1 1000
    requireProposal
      (expectedStatus ≠ targetStatus ∧ (targetStatus = .closed ∨ targetStatus = .reopened))
      "thread lifecycle target must be closed or reopened and differ from expected"
  | .mergeThreads threadIds reason => do
    requireProposal (2 ≤ threadIds.length ∧ threadIds.length ≤ 10) "merge requires 2..=10 threads"
    requireProposal (threadIds.map EventThreadId.asStr).Nodup "merge thread ids must be unique"
    boundedText "thread mutation reason" reason 1 1000
  | .splitThread _ sourceEventIds reason => do
    requireProposal (sourceEventIds ≠ [] ∧ sourceEventIds.length ≤ 100)
      "split requires 1..=100 source events"
    requireProposal (sourceEventIds.map SourceEventId.asStr).Nodup
      "split source event ids must be unique"
    boundedText "thread mutation reason" reason 1 1000
  | .dismissFollowUp followUpId expectedSourceVersion reason
  | .completeFollowUp followUpId expectedSourceVersion reason => do
    validateVersioned "follow_up_id" followUpId.asStr
      "follow_up expected_source_version must be positive" expectedSourceVersion
    boundedText "follow up reason" reason 1 1000
  | .snoozeFollowUp followUpId expectedSourceVersion snoozeUntilUnixSecs reason => do
    validateVersioned "follow_up_id" followUpId.asStr
      "follow_up expected_source_version must be positive" expectedSourceVersion
    requireProposal (0 < snoozeUntilUnixSecs) "follow_up snooze_until_unix_secs must be positive"
    boundedText "follow up snooze reason" reason 1 1000
  | .dismissFollowUps targets reason | .completeFollowUps targets reason =>
    validateFollowUpTargets targets reason
  | .snoozeFollowUps targets snoozeUntilUnixSecs reason => do
    validateFollowUpTargets targets reason
    requireProposal (0 < snoozeUntilUnixSecs) "follow_up snooze_until_unix_secs must be positive"
  | .dismissResponseExpectation expectationId expectedSourceVersion reason => do
    validateVersioned "expectation_id" expectationId.asStr
      "response expectation expected_source_version must be positive" expectedSourceVersion
    boundedText "response expectation reason" reason 1 1000
  | .dismissResponseExpectations targets reason => do
    requireProposal (targets ≠ [] ∧ targets.length ≤ 20)
      "response expectation batch targets must contain 1..=20 items"
    validateTargets "expectation_id" "response expectation expected_source_version must be positive"
      "response expectation batch targets must not repeat expectation_id"
      (targets.map fun target => (target.expectationId.asStr, target.expectedSourceVersion)) []
    boundedText "response expectation reason" reason 1 1000

def validateActionProposal (proposal : SecretaryActionProposal) :
    Except SecretaryAgentRuntimeError Unit := do
  requireProposal (isBlank proposal.proposalId = false ∧ proposal.proposalId.utf8ByteSize ≤ 191)
    "proposal_id must contain 1..=191 bytes"
  boundedText "rationale" proposal.rationale 1 1000
  requireProposal (proposal.sourceEventIds.length ≤ 20)
    "a proposal may reference at most 20 source events"
  requireProposal (proposal.sourceEventIds.map SourceEventId.asStr).Nodup
    "proposal source events must be unique"
  validateAction proposal.action
  -- an impactful action is retried under its own key
  requireProposal
    (SecretaryRiskLevel.rank .l2Impactful ≤ proposal.action.kind.policy.risk.rank →
      (proposal.idempotencyKey.any fun key =>
        !isBlank key && decide (key.utf8ByteSize ≤ 191)) = true)
    "L2/L3 actions require a bounded idempotency_key"

end ServerRS

import Mathlib.Data.List.DropRight
import ServerRS.ActionStore.Tables
import ServerRS.FollowUp.Tables
import ServerRS.NotificationPolicy.Evaluator

/-!
# The tables of the notification policies

Models the rows that `personal-secretary-mysql/src/repo/mysql_notification_policy.rs` reads and
writes, as `20260806_qqbot_schema_v2.sql` declares them, and the requests of
`application/notification_policy_service.rs`.

The accounts, Owner bindings, commands, action runs and effect receipts are those of the action
store. A JSON column holds the value that was written to it.
-/

namespace ServerRS.NotificationPolicy

open Lib
open ActionStore (ActionDb ActionRunId ActionLeaseToken Timestamp)

inductive NotificationPolicyStoreError where
  | unauthorized
  | unavailable
  | conflict
  | database
deriving DecidableEq

/-! ## Rows -/

/-- `secretary_notification_policy_families`. -/
structure FamilyRow where
  policyFamilyId : PolicyFamilyId
  accountId : Nat
  canonicalScopeKey : String
  policyKind : NotificationPolicyKind
  currentRevisionId : Option PolicyRevisionId
  generation : Nat
deriving DecidableEq

/-- `secretary_notification_policy_revisions`. -/
structure RevisionRow where
  policyRevisionId : PolicyRevisionId
  policyFamilyId : PolicyFamilyId
  revisionNumber : Nat
  supersedesRevisionId : Option PolicyRevisionId
  revisionKind : RevisionKind
  rule : Option NotificationPolicyRule
  commandSourceEventId : Option String
  auditSummary : String
deriving DecidableEq

/-- `secretary_notification_feedback`. -/
structure FeedbackRow where
  feedbackId : String
  accountId : Nat
  notificationCandidateId : String
  important : Bool
  promoteToRule : Bool
  commandSourceEventId : String
  auditSummary : String
deriving DecidableEq

inductive CandidateStatus where
  | pending
  | delayed
  | reminded
  | suppressed
  | expired
  | failedTerminal
deriving DecidableEq

/-- `secretary_notification_candidates`. -/
structure CandidateRow where
  notificationCandidateId : String
  accountId : Nat
  sourceKind : String
  sourceId : String
  sourceVersion : UInt64
  matchKey : NotificationMatchKeyV1
  candidateStatus : CandidateStatus
deriving DecidableEq

inductive RequestStatus where
  | pending
  | claimed
  | completed
  | terminal
deriving DecidableEq

/-- `secretary_notification_evaluation_requests`. -/
structure EvaluationRequestRow where
  evaluationRequestId : String
  notificationCandidateId : String
  requestStatus : RequestStatus
  leaseToken : Option String
  leaseExpiresAtUnixSecs : Option Int
  attempt : Nat
  nextAllowedAtUnixSecs : Option Int
  createdAt : Timestamp
deriving DecidableEq

/-- `secretary_notification_decisions`. -/
structure DecisionRow where
  notificationDecisionId : String
  evaluationRequestId : String
  notificationCandidateId : String
  previousDecisionId : Option String
  policyRevisionId : Option PolicyRevisionId
  outcome : NotificationOutcome
  reasonCode : DecisionReason
  nextAllowedAtUnixSecs : Option Int
  createdAt : Timestamp
deriving DecidableEq

/-- `secretary_notification_outbox`, the rows of kind `owner_policy_reminder`. -/
structure PolicyReminderRow where
  notificationId : String
  accountId : Nat
  commandAccountId : Nat
  ownerActorId : String
  scheduledAtUnixSecs : Int
  sourceVersion : UInt64
  notificationCandidateId : String
  notificationDecisionId : String
  occurrenceId : String
deriving DecidableEq

/-! ## What candidates are about -/

inductive AgendaStatus where
  | scheduled
  | completed
  | cancelled
deriving DecidableEq

/-- `secretary_agenda_items`. -/
structure AgendaItemRow where
  itemId : String
  accountId : Nat
  version : UInt64
  itemStatus : AgendaStatus
deriving DecidableEq

/-- `secretary_memory_facts`. -/
structure FactRow where
  factId : String
  payload : FollowUp.FactPayload
  factStatus : MemoryFactStatus
  supersedesFactId : Option String
deriving DecidableEq

/-- `secretary_follow_up_items`. -/
structure FollowUpItemRow where
  followUpId : String
  accountId : Nat
  sourceMemoryFactId : String
  sourceVersion : UInt64
  reasonCode : FollowUp.ReasonCode
  status : FollowUp.FollowUpStatus
deriving DecidableEq

/-- `secretary_response_expectations`. -/
structure ExpectationRow where
  expectationId : String
  accountId : Nat
  sourceVersion : UInt64
  expectationStatus : FollowUp.ExpectationStatus
deriving DecidableEq

structure Sources where
  agenda : List AgendaItemRow
  facts : List FactRow
  followUps : List FollowUpItemRow
  expectations : List ExpectationRow
deriving DecidableEq

/-! ## The database -/

/-- The tables. `policyEpoch` is the column of the accounts. -/
structure PolicyDb where
  actions : ActionDb
  policyEpoch : Nat → Nat
  families : List FamilyRow
  revisions : List RevisionRow
  feedback : List FeedbackRow
  candidates : List CandidateRow
  requests : List EvaluationRequestRow
  decisions : List DecisionRow
  outbox : List PolicyReminderRow
  sources : Sources

/-- A transaction: its result and the tables that it commits. -/
abbrev Tx (α : Type) := PolicyDb → Except NotificationPolicyStoreError (α × PolicyDb)

/-- What the audit of a family says, written by `policy_family_result_ref`. -/
structure PolicyFamilyArtifact where
  scope : String
  policyFamilyId : PolicyFamilyId
  policyRevisionId : PolicyRevisionId
  status : String
  priority : String
  typedReason : String
  auditReference : String
deriving DecidableEq

/-- What the store takes from outside: the first 16 bytes of SHA-256 as a uuid, of fields that
are kept apart, `serde_json::to_string` and the calendar. -/
structure PolicyEnv where
  digest : List String → String
  artifactJson : PolicyFamilyArtifact → String
  chrono : Chrono

/-! ## Text columns -/

/-- Equality in a column of the collation `utf8mb4_bin`: trailing spaces do not count. -/
def sameText (a b : String) : Bool :=
  a.toList.rdropWhile (· = ' ') = b.toList.rdropWhile (· = ' ')

@[simp] theorem sameText_refl (a : String) : sameText a a = true := decide_eq_true rfl

theorem sameText_comm (a b : String) : sameText a b = sameText b a :=
  decide_eq_decide.mpr eq_comm

theorem sameText_trans {a b c : String} (h : sameText a b = true) (h' : sameText b c = true) :
    sameText a c = true :=
  decide_eq_true ((of_decide_eq_true h).trans (of_decide_eq_true h'))

namespace NotificationPolicyKind

/-- `policy_kind_name`. -/
def asStr : NotificationPolicyKind → String
  | .accountDefault => "account_default"
  | .conversation => "conversation"
  | .contact => "contact"
  | .category => "category"
  | .quietHours => "quiet_hours"
  | .similarNotification => "similar_notification"
  | .automaticReplyDenied => "automatic_reply_denied"

end NotificationPolicyKind

/-! ## Requests -/

structure NotificationPolicyWriteRequest where
  account : SourceAccountRef
  policyFamilyId : Option PolicyFamilyId
  canonicalScopeKey : String
  policyKind : NotificationPolicyKind
  rule : NotificationPolicyRule
  commandSourceEventId : Option String
  auditSummary : String
deriving DecidableEq

structure NotificationPolicyDisableRequest where
  account : SourceAccountRef
  policyFamilyId : PolicyFamilyId
  expectedGeneration : UInt64
  commandSourceEventId : Option String
  auditSummary : String
deriving DecidableEq

structure NotificationFeedbackRequest where
  candidate : NotificationCandidateRef
  matchKey : NotificationMatchKeyV1
  important : Bool
  promoteToRule : Bool
  commandSourceEventId : String
deriving DecidableEq

/-- `proposalJson` holds the proposal that the text spells, of which the executor takes the
identifier and the action too. -/
structure NotificationPolicyEffectRequest where
  account : SourceAccountRef
  commandSourceEventId : SourceEventId
  runId : ActionRunId
  effectId : String
  proposalId : String
  proposalJson : SecretaryActionProposal
  leaseToken : ActionLeaseToken
  action : SecretaryAction
  proposalId_eq : proposalJson.proposalId = proposalId
  action_eq : proposalJson.action = action

/-- The domain type that a written family is returned as. -/
structure NotificationPolicyFamily where
  policyFamilyId : PolicyFamilyId
  account : SourceAccountRef
  canonicalScopeKey : String
  policyKind : NotificationPolicyKind
  currentRevisionId : PolicyRevisionId
  generation : Nat
deriving DecidableEq

end ServerRS.NotificationPolicy

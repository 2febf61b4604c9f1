import Mathlib.Data.String.Basic
import ServerRS.NotificationPolicy.Writes

/-!
# Evaluating a candidate

Models `claim_evaluation`, `load_evaluation_snapshot`, `commit_evaluation` and
`recover_expired_evaluations` of `mysql_notification_policy.rs`. Loading is two reads without a
transaction: `readCandidate` and then `readHeads`.

`UNIX_TIMESTAMP()` and the identifiers that a transaction generates are arguments.
-/

namespace ServerRS.NotificationPolicy

open Lib
open ActionStore (AccountRow OwnerBindingRow Timestamp)

def MAX_EVALUATION_POLICY_FAMILIES : ℕ := 128

/-- The fields of `ClaimedEvaluation` that a commit uses. -/
structure ClaimedEvaluation where
  evaluationRequestId : String
  leaseToken : String
deriving DecidableEq

/-! ## Claiming -/

def isClaimable (now : Int) (request : EvaluationRequestRow) : Bool :=
  (request.requestStatus = .pending && request.nextAllowedAtUnixSecs.all fun at_ => at_ ≤ now) ||
    (request.requestStatus = .claimed &&
      request.leaseExpiresAtUnixSecs.any fun expiresAt => expiresAt < now)

/-- `ORDER BY request.created_at, request.evaluation_request_id`. -/
def claimsBefore (a b : EvaluationRequestRow) : Bool :=
  a.createdAt < b.createdAt ||
    a.createdAt = b.createdAt && a.evaluationRequestId ≤ b.evaluationRequestId

def firstClaimable (now : Int) (requests : List EvaluationRequestRow) : Option EvaluationRequestRow :=
  ((requests.filter (isClaimable now)).insertionSort fun a b => claimsBefore a b).head?

def EvaluationRequestRow.claim (token : String) (expiresAt : Int) (request : EvaluationRequestRow) :
    EvaluationRequestRow :=
  { request with
    requestStatus := .claimed
    leaseToken := some token
    leaseExpiresAtUnixSecs := some expiresAt
    attempt := request.attempt + 1 }

def claimEvaluation (workerId : String) (now leaseSecs : Int) (token : String) :
    Tx (Option ClaimedEvaluation) := fun db =>
  if isBlank workerId ∨ leaseSecs ≤ 0 then .error .conflict
  else
    match firstClaimable now db.requests with
    | none => .ok (none, db)
    | some row =>
      .ok (some ⟨row.evaluationRequestId, token⟩, { db with
        requests := updateWhere
          (fun request => request.evaluationRequestId = row.evaluationRequestId &&
            request.attempt = row.attempt)
          (EvaluationRequestRow.claim token (now + leaseSecs)) db.requests })

def EvaluationRequestRow.release (request : EvaluationRequestRow) : EvaluationRequestRow :=
  { request with
    requestStatus := .pending
    leaseToken := none
    leaseExpiresAtUnixSecs := none }

def isExpired (now : Int) (request : EvaluationRequestRow) : Bool :=
  request.requestStatus = .claimed &&
    request.leaseExpiresAtUnixSecs.any fun expiresAt => expiresAt < now

/-- `ORDER BY lease_expires_at_unix_secs, evaluation_request_id`. -/
def expiresBefore (a b : EvaluationRequestRow) : Bool :=
  decide (toLex (a.leaseExpiresAtUnixSecs.getD 0, a.evaluationRequestId) ≤
    toLex (b.leaseExpiresAtUnixSecs.getD 0, b.evaluationRequestId))

def firstExpired (now : Int) (limit : ℕ) (requests : List EvaluationRequestRow) :
    List EvaluationRequestRow :=
  ((requests.filter (isExpired now)).insertionSort fun a b => expiresBefore a b).take limit

/-- The first `limit` requests whose lease has expired are released. -/
def recoverExpiredEvaluations (now : Int) (limit : ℕ) (db : PolicyDb) : PolicyDb :=
  { db with
    requests := updateWhere
      (fun request => isExpired now request && (firstExpired now limit db.requests).any fun row =>
        row.evaluationRequestId = request.evaluationRequestId)
      EvaluationRequestRow.release db.requests }

/-! ## Loading -/

/-- The request is claimed under this token, and the lease has not expired. -/
def EvaluationRequestRow.isHeld (claim : ClaimedEvaluation) (now : Int)
    (request : EvaluationRequestRow) : Bool :=
  request.evaluationRequestId = claim.evaluationRequestId && request.requestStatus = .claimed &&
    request.leaseToken = some claim.leaseToken &&
    request.leaseExpiresAtUnixSecs.any fun expiresAt => now ≤ expiresAt

def CandidateStatus.isOpen (status : CandidateStatus) : Bool :=
  status = .pending || status = .delayed

/-- A claimed request with its candidate and the account of the candidate. -/
structure HeldRequest where
  request : EvaluationRequestRow
  candidate : CandidateRow
  account : AccountRow
deriving DecidableEq

def heldRequest (claim : ClaimedEvaluation) (now : Int) (db : PolicyDb) : Option HeldRequest := do
  let request ← db.requests.find? (EvaluationRequestRow.isHeld claim now)
  let candidate ← db.candidates.find? fun row =>
    row.notificationCandidateId = request.notificationCandidateId
  let account ← db.actions.directory.accounts.find? fun row => row.id = candidate.accountId
  some ⟨request, candidate, account⟩

def accountRef (row : AccountRow) : SourceAccountRef := ⟨row.sourceChannel, row.platformAccountId⟩

/-- The active Owner bindings of the account, with the accounts that command. -/
def activeBindings (accountId : Nat) (db : PolicyDb) : List (OwnerBindingRow × AccountRow) :=
  db.actions.directory.ownerBindings.filterMap fun binding =>
    if binding.managedAccountId = accountId ∧ binding.isActive then
      (db.actions.directory.accounts.find? fun row => row.id = binding.commandAccountId).map
        fun account => (binding, account)
    else none

structure EvaluationSnapshotRow where
  managedAccountId : Nat
  candidate : NotificationCandidateRef
  matchKey : NotificationMatchKeyV1
  isCurrent : Bool
  policyEpoch : Nat
  ownerBinding : OwnerBindingSnapshot
deriving DecidableEq

def snapshotRow (held : HeldRequest) (binding : OwnerBindingRow) (commandAccount : AccountRow)
    (db : PolicyDb) : EvaluationSnapshotRow where
  managedAccountId := held.candidate.accountId
  candidate := ⟨held.candidate.sourceKind, held.candidate.sourceId, held.candidate.sourceVersion,
    accountRef held.account⟩
  matchKey := held.candidate.matchKey
  isCurrent := held.candidate.candidateStatus.isOpen
  policyEpoch := db.policyEpoch held.candidate.accountId
  ownerBinding := ⟨accountRef held.account, accountRef commandAccount, binding.ownerActorId⟩

/-- The first read: the candidate, the epoch and the only active binding. -/
def readCandidate (claim : ClaimedEvaluation) (now : Int) (db : PolicyDb) :
    Except NotificationPolicyStoreError EvaluationSnapshotRow :=
  match heldRequest claim now db with
  | none => .error .conflict
  | some held =>
    match activeBindings held.candidate.accountId db with
    | [(binding, commandAccount)] =>
      let row := snapshotRow held binding commandAccount db
      if row.matchKey.account ≠ row.ownerBinding.managedAccount then .error .database else .ok row
    | _ => .error .conflict

/-- `PolicyHeadRow`: a family with the revision that is its head. -/
structure PolicyHeadRow where
  family : FamilyRow
  revision : RevisionRow
deriving DecidableEq

def headRow (revisions : List RevisionRow) (family : FamilyRow) : Option PolicyHeadRow :=
  (revisions.find? fun revision => revision.policyFamilyId = family.policyFamilyId &&
    some revision.policyRevisionId = family.currentRevisionId).map fun revision => ⟨family, revision⟩

/-- `ORDER BY family.policy_kind, family.canonical_scope_key, family.policy_family_id`. -/
def PolicyHeadRow.before (a b : PolicyHeadRow) : Bool :=
  decide (toLex (a.family.policyKind.asStr, toLex (a.family.canonicalScopeKey,
      a.family.policyFamilyId.asStr)) ≤
    toLex (b.family.policyKind.asStr, toLex (b.family.canonicalScopeKey,
      b.family.policyFamilyId.asStr)))

/-- The heads of the account, tombstones among them. -/
def policyHeads (accountId : Nat) (db : PolicyDb) : List PolicyHeadRow :=
  ((db.families.filter fun family => family.accountId = accountId).filterMap
    (headRow db.revisions)).insertionSort fun a b => a.before b

def familyGeneration (head : PolicyHeadRow) : FamilyGenerationSnapshot :=
  ⟨head.family.policyFamilyId, head.revision.policyRevisionId, head.family.generation⟩

/-- The rule of a head that is a rule, of the managed account. -/
def ruleSnapshot (managedAccount : SourceAccountRef) (head : PolicyHeadRow) :
    Except NotificationPolicyStoreError (Option PolicyRuleSnapshot) :=
  match head.revision.revisionKind, head.revision.rule with
  | .tombstone, _ => .ok none
  | .rule, none => .error .database
  | .rule, some rule =>
    if rule.matchKey.account ≠ managedAccount then .error .database
    else .ok (some ⟨head.family.policyFamilyId, head.revision.policyRevisionId,
      head.family.generation, head.family.policyKind, rule⟩)

/-- What the rows say, put together. -/
def snapshotOf (row : EvaluationSnapshotRow) (heads : List PolicyHeadRow) :
    Except NotificationPolicyStoreError EvaluationSnapshot :=
  if MAX_EVALUATION_POLICY_FAMILIES < heads.length then .error .conflict
  else do
    let rules ← heads.mapM (ruleSnapshot row.ownerBinding.managedAccount)
    .ok {
      candidate := row.candidate
      candidateMatchKey := row.matchKey
      candidateIsCurrent := row.isCurrent
      accountPolicyEpoch := row.policyEpoch
      familyGenerations := heads.map familyGeneration
      activeRules := rules.reduceOption
      ownerBinding := row.ownerBinding }

/-- The second read. -/
def readHeads (row : EvaluationSnapshotRow) (db : PolicyDb) :
    Except NotificationPolicyStoreError EvaluationSnapshot :=
  snapshotOf row (policyHeads row.managedAccountId db)

/-! ## Committing -/

def followUpIsCurrent (sources : Sources) (item : FollowUpItemRow) : Bool :=
  item.status = .scheduled && sources.facts.any fun fact =>
    fact.factId = item.sourceMemoryFactId && fact.factStatus = .confirmed &&
      !(sources.facts.any fun successor => successor.supersedesFactId = some fact.factId) &&
      match item.reasonCode, fact.payload with
      | .commitmentDue, .commitment _ status => status = .pending || status = .proposed
      | .projectBlocked, .project blockers => 0 < blockers
      | _, _ => false

def sourceIsCurrent (accountId : Nat) (sourceKind sourceId : String) (sourceVersion : UInt64)
    (sources : Sources) : Bool :=
  match sourceKind with
  | "agenda" => sources.agenda.any fun item =>
      item.itemId = sourceId && item.accountId = accountId && item.version = sourceVersion &&
        item.itemStatus = .scheduled
  | "follow_up" => sources.followUps.any fun item =>
      item.followUpId = sourceId && item.accountId = accountId &&
        item.sourceVersion = sourceVersion && followUpIsCurrent sources item
  | "response_expectation" => sources.expectations.any fun expectation =>
      expectation.expectationId = sourceId && expectation.accountId = accountId &&
        expectation.sourceVersion = sourceVersion && expectation.expectationStatus = .active
  | _ => false

inductive EvaluationCommitResult where
  | applied
  | snapshotStale
  | leaseLost
deriving DecidableEq

structure EvaluationCommit where
  claim : ClaimedEvaluation
  snapshot : EvaluationSnapshot
  plan : EvaluationPlan
deriving DecidableEq

structure CommitIds where
  decision : String
  notification : String
deriving DecidableEq

/-- The candidate is another one, or the epoch has moved on. -/
def isStale (snapshot : EvaluationSnapshot) (held : HeldRequest) (db : PolicyDb) : Bool :=
  held.candidate.sourceKind ≠ snapshot.candidate.sourceKind ||
    held.candidate.sourceId ≠ snapshot.candidate.sourceId ||
    held.candidate.sourceVersion ≠ snapshot.candidate.sourceVersion ||
    db.policyEpoch held.candidate.accountId ≠ snapshot.accountPolicyEpoch ||
    !held.candidate.candidateStatus.isOpen ||
    snapshot.ownerBinding.managedAccount ≠ snapshot.candidate.account

/-- `load_locked_binding_command_account`. -/
def lockedBindingCommandAccount (accountId : Nat) (binding : OwnerBindingSnapshot) (db : PolicyDb) :
    Except NotificationPolicyStoreError (Option Nat) :=
  match (activeBindings accountId db).filter fun found =>
      found.1.ownerActorId = binding.ownerActorId && accountRef found.2 = binding.commandAccount with
  | [found] => .ok (some found.1.commandAccountId)
  | [] => .ok none
  | _ => .error .conflict

def familyIsFenced (accountId : Nat) (db : PolicyDb) (family : FamilyGenerationSnapshot) : Bool :=
  (db.families.find? fun row => row.policyFamilyId = family.policyFamilyId &&
      row.accountId = accountId).any fun row =>
    row.generation = family.generation && row.currentRevisionId = some family.currentRevisionId

def requeueStaleRequest (claim : ClaimedEvaluation) (db : PolicyDb) : PolicyDb :=
  { db with
    requests := updateWhere
      (fun request => request.evaluationRequestId = claim.evaluationRequestId &&
        request.requestStatus = .claimed && request.leaseToken = some claim.leaseToken)
      EvaluationRequestRow.release db.requests }

def reasonKind : DecisionReason → Option NotificationPolicyKind
  | .conversationPolicy => some .conversation
  | .contactPolicy => some .contact
  | .categoryPolicy => some .category
  | .accountDefaultPolicy => some .accountDefault
  | _ => none

def winningRevisionId (snapshot : EvaluationSnapshot) (plan : EvaluationPlan) :
    Except NotificationPolicyStoreError (Option PolicyRevisionId) :=
  match reasonKind plan.reason with
  | none => .ok none
  | some kind =>
    ((snapshot.matchingRuleSnapshot kind).mapError fun _ => .conflict).map fun rule =>
      rule.map PolicyRuleSnapshot.policyRevisionId

/-- When a delayed candidate is looked at again. -/
def nextAllowedAt (plan : EvaluationPlan) : Except NotificationPolicyStoreError (Option Int) :=
  match plan.outcome, plan.nextAllowedAtUnixSecs with
  | .delay, some next => if 0 < next then .ok (some next) else .error .conflict
  | .delay, none => .error .conflict
  | _, _ => .ok none

/-- `notification_occurrence_id`. -/
def occurrenceId (env : PolicyEnv) (candidate : CandidateRow) : String :=
  env.digest ["notification-policy-occurrence-v2", candidate.sourceKind, candidate.sourceId,
    toString candidate.sourceVersion, "owner_policy_reminder"]

def CandidateStatus.ofOutcome : NotificationOutcome → CandidateStatus
  | .remind => .reminded
  | .delay => .delayed
  | .suppress => .suppressed
  | .candidateExpired => .expired
  | .deliveryWindowExpired => .expired
  | .evaluationFailedTerminal => .failedTerminal
  | .scheduleTimeAmbiguous => .failedTerminal

def RequestStatus.ofOutcome : NotificationOutcome → RequestStatus
  | .remind => .completed
  | .delay => .pending
  | _ => .terminal

/-- `ORDER BY decision.created_at DESC, decision.notification_decision_id DESC`. -/
def DecisionRow.isAfter (a b : DecisionRow) : Bool :=
  decide (toLex (b.createdAt, b.notificationDecisionId) ≤
    toLex (a.createdAt, a.notificationDecisionId))

def previousDecisionId (requestId : String) (db : PolicyDb) : Option String :=
  (((db.decisions.filter fun decision : DecisionRow =>
    decision.evaluationRequestId = requestId).insertionSort fun a b => a.isAfter b).head?).map
      DecisionRow.notificationDecisionId

def decisionRow (held : HeldRequest) (commit : EvaluationCommit)
    (policyRevisionId : Option PolicyRevisionId) (next : Option Int) (ids : CommitIds) (now : Int)
    (db : PolicyDb) : DecisionRow where
  notificationDecisionId := ids.decision
  evaluationRequestId := held.request.evaluationRequestId
  notificationCandidateId := held.candidate.notificationCandidateId
  previousDecisionId := previousDecisionId held.request.evaluationRequestId db
  policyRevisionId
  outcome := commit.plan.outcome
  reasonCode := commit.plan.reason
  nextAllowedAtUnixSecs := next
  createdAt := now

def reminderRow (env : PolicyEnv) (held : HeldRequest) (commandAccountId : Nat)
    (ownerActorId : String) (ids : CommitIds) (now : Int) : PolicyReminderRow where
  notificationId := ids.notification
  accountId := held.candidate.accountId
  commandAccountId
  ownerActorId
  scheduledAtUnixSecs := now
  sourceVersion := held.candidate.sourceVersion
  notificationCandidateId := held.candidate.notificationCandidateId
  notificationDecisionId := ids.decision
  occurrenceId := occurrenceId env held.candidate

/-- `INSERT IGNORE` into the outbox: a reminder of the occurrence is there already, or this one is
stored. -/
def insertReminder (reminder : PolicyReminderRow) (outbox : List PolicyReminderRow) :
    Except NotificationPolicyStoreError (List PolicyReminderRow) :=
  if outbox.any fun row => row.occurrenceId = reminder.occurrenceId then .ok outbox
  else if outbox.any fun row => row.notificationId = reminder.notificationId then .error .database
  else .ok (outbox ++ [reminder])

def outboxAfter (outcome : NotificationOutcome) (reminder : PolicyReminderRow)
    (outbox : List PolicyReminderRow) : Except NotificationPolicyStoreError (List PolicyReminderRow) :=
  if outcome = .remind then insertReminder reminder outbox else .ok outbox

def completeRequestAndCandidate (held : HeldRequest) (outcome : NotificationOutcome)
    (next : Option Int) (db : PolicyDb) : PolicyDb :=
  { db with
    requests := updateWhere
      (fun request => request.evaluationRequestId = held.request.evaluationRequestId)
      (fun request => { request with
        requestStatus := .ofOutcome outcome
        leaseToken := none
        leaseExpiresAtUnixSecs := none
        nextAllowedAtUnixSecs := next }) db.requests
    candidates := updateWhere
      (fun row => row.notificationCandidateId = held.candidate.notificationCandidateId)
      (fun row => { row with candidateStatus := .ofOutcome outcome }) db.candidates }

/-- The decision, the reminder and the completion, once all fences have held. -/
def storeDecision (env : PolicyEnv) (commit : EvaluationCommit) (held : HeldRequest)
    (commandAccountId : Nat) (now : Int) (ids : CommitIds) (db : PolicyDb) :
    Except NotificationPolicyStoreError PolicyDb := do
  let policyRevisionId ← winningRevisionId commit.snapshot commit.plan
  let next ← nextAllowedAt commit.plan
  let decision := decisionRow held commit policyRevisionId next ids now db
  if db.decisions.any fun row => row.notificationDecisionId = ids.decision then .error .database
  else do
    let reminder := reminderRow env held commandAccountId commit.snapshot.ownerBinding.ownerActorId
      ids now
    let outbox ← outboxAfter commit.plan.outcome reminder db.outbox
    .ok (completeRequestAndCandidate held commit.plan.outcome next
      { db with
        decisions := db.decisions ++ [decision]
        outbox })

/-- The fences that are checked one after the other. -/
def commitHeld (env : PolicyEnv) (commit : EvaluationCommit) (held : HeldRequest) (now : Int)
    (ids : CommitIds) (db : PolicyDb) :
    Except NotificationPolicyStoreError (EvaluationCommitResult × PolicyDb) :=
  if isStale commit.snapshot held db ∨ !sourceIsCurrent held.candidate.accountId
      held.candidate.sourceKind held.candidate.sourceId held.candidate.sourceVersion db.sources then
    .ok (.snapshotStale, requeueStaleRequest commit.claim db)
  else do
    let commandAccountId ←
      lockedBindingCommandAccount held.candidate.accountId commit.snapshot.ownerBinding db
    match commandAccountId with
    | none => .ok (.snapshotStale, requeueStaleRequest commit.claim db)
    | some commandAccountId =>
      if commit.snapshot.familyGenerations.all (familyIsFenced held.candidate.accountId db) then
        (storeDecision env commit held commandAccountId now ids db).map fun db =>
          (EvaluationCommitResult.applied, db)
      else .ok (.snapshotStale, requeueStaleRequest commit.claim db)

def commitEvaluation (env : PolicyEnv) (commit : EvaluationCommit) (now : Int) (ids : CommitIds) :
    Tx EvaluationCommitResult := fun db =>
  match heldRequest commit.claim now db with
  | none => .ok (.leaseLost, db)
  | some held => commitHeld env commit held now ids db

end ServerRS.NotificationPolicy

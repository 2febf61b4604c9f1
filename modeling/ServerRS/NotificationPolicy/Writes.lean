import ServerRS.NotificationPolicy.Tables

/-!
# Writing policies

Models `create_or_replace`, `disable`, `record_feedback` and `apply_effect` of
`mysql_notification_policy.rs`. Each is one transaction, and each locks the row of its account
first, so that two of one account run one after the other.

The identifiers that a transaction generates are arguments.
-/

namespace ServerRS

deriving instance DecidableEq for SecretaryAction

namespace NotificationPolicy

open Lib
open ActionStore (ActionRunRow EffectReceiptRow Timestamp)

def MAX_NOTIFICATION_POLICY_ID_BYTES : ℕ := 36
def MAX_CANONICAL_SCOPE_KEY_BYTES : ℕ := 512
def MAX_NOTIFICATION_AUDIT_SUMMARY_BYTES : ℕ := 1024

/-- The identifiers that a transaction generates. -/
structure NewIds where
  family : PolicyFamilyId
  revision : PolicyRevisionId
deriving DecidableEq

/-! ## Checks -/

def policyError {ε α : Type} : Except ε α → Except NotificationPolicyStoreError α :=
  Except.mapError fun _ => .conflict

/-- `$name::new` of `notification_id!`. -/
def checkPolicyId (value : String) : Except NotificationPolicyStoreError Unit :=
  if isBlank value ∨ MAX_NOTIFICATION_POLICY_ID_BYTES < value.utf8ByteSize then .error .conflict
  else .ok ()

def checkScopeKey (canonicalScopeKey : String) : Except NotificationPolicyStoreError Unit :=
  if isBlank canonicalScopeKey ∨ MAX_CANONICAL_SCOPE_KEY_BYTES < canonicalScopeKey.utf8ByteSize then
    .error .conflict
  else .ok ()

def checkAuditSummary (auditSummary : String) : Except NotificationPolicyStoreError Unit :=
  if isBlank auditSummary ∨ MAX_NOTIFICATION_AUDIT_SUMMARY_BYTES < auditSummary.utf8ByteSize then
    .error .conflict
  else .ok ()

def validateWriteRequest (request : NotificationPolicyWriteRequest) :
    Except NotificationPolicyStoreError Unit := do
  checkScopeKey request.canonicalScopeKey
  checkAuditSummary request.auditSummary

/-- `NotificationPolicyRevision::validate`. -/
def RevisionRow.validate (revision : RevisionRow) : Except NotificationPolicyStoreError Unit :=
  match revision.revisionKind, revision.rule with
  | .rule, some _ => .ok ()
  | .tombstone, none => .ok ()
  | _, _ => .error .conflict

/-! ## Reads -/

/-- The row of the account is locked, whether the account is active or not. -/
def lockAccount (account : SourceAccountRef) (db : PolicyDb) : Except NotificationPolicyStoreError Nat :=
  match db.actions.directory.accounts.find? fun row =>
      row.sourceChannel = account.channel && row.platformAccountId = account.accountId with
  | some row => .ok row.id
  | none => .error .conflict

def FamilyRow.isScope (accountId : Nat) (canonicalScopeKey : String)
    (policyKind : NotificationPolicyKind) (family : FamilyRow) : Bool :=
  family.accountId = accountId && sameText family.canonicalScopeKey canonicalScopeKey &&
    family.policyKind = policyKind

def findFamilyByScopeForUpdate (accountId : Nat) (canonicalScopeKey : String)
    (policyKind : NotificationPolicyKind) (db : PolicyDb) : Option FamilyRow :=
  db.families.find? (FamilyRow.isScope accountId canonicalScopeKey policyKind)

def loadFamilyForUpdate (accountId : Nat) (familyId : PolicyFamilyId) (db : PolicyDb) :
    Except NotificationPolicyStoreError FamilyRow :=
  match db.families.find? fun family =>
      family.policyFamilyId = familyId && family.accountId = accountId with
  | some family => .ok family
  | none => .error .conflict

def loadFamilyRow (familyId : PolicyFamilyId) (db : PolicyDb) :
    Except NotificationPolicyStoreError FamilyRow :=
  match db.families.find? fun family => family.policyFamilyId = familyId with
  | some family => .ok family
  | none => .error .conflict

/-- The families of the account that the command has written to, by the number of the
revision. -/
def commandRevisions (accountId : Nat) (command : String) (db : PolicyDb) :
    List (Nat × FamilyRow) :=
  db.revisions.filterMap fun revision =>
    if revision.commandSourceEventId = some command then
      (db.families.find? fun family => family.policyFamilyId = revision.policyFamilyId &&
        family.accountId = accountId).map fun family => (revision.revisionNumber, family)
    else none

def laterRevision (found next : Nat × FamilyRow) : Nat × FamilyRow :=
  if found.1 < next.1 then next else found

/-- `ORDER BY revision_number DESC LIMIT 1`. -/
def findCommandRevision (accountId : Nat) (command : Option String) (db : PolicyDb) :
    Option FamilyRow :=
  match command with
  | none => none
  | some command =>
    match commandRevisions accountId command db with
    | [] => none
    | first :: rest => some (rest.foldl laterRevision first).2

def toDomainFamily (row : FamilyRow) (account : SourceAccountRef) :
    Except NotificationPolicyStoreError NotificationPolicyFamily := do
  checkPolicyId row.policyFamilyId.asStr
  match row.currentRevisionId with
  | none => .error .conflict
  | some currentRevisionId => do
    checkPolicyId currentRevisionId.asStr
    .ok ⟨row.policyFamilyId, account, row.canonicalScopeKey, row.policyKind, currentRevisionId,
      row.generation⟩

/-! ## Writes -/

inductive InsertFamilyError where
  | duplicateKey
  | other
deriving DecidableEq

/-- `create_policy_family`, which `create_family` and `create_feedback_family` repeat. -/
def createPolicyFamily (accountId : Nat) (canonicalScopeKey : String)
    (policyKind : NotificationPolicyKind) (new : PolicyFamilyId) (db : PolicyDb) :
    Except InsertFamilyError (FamilyRow × PolicyDb) :=
  let family : FamilyRow := ⟨new, accountId, canonicalScopeKey, policyKind, none, 1⟩
  if db.families.any fun other => other.policyFamilyId = new then .error .other
  else if db.families.any (FamilyRow.isScope accountId canonicalScopeKey policyKind) then
    .error .duplicateKey
  else .ok (family, { db with families := db.families ++ [family] })

def findOrCreateFamily (accountId : Nat) (canonicalScopeKey : String)
    (policyKind : NotificationPolicyKind) (new : PolicyFamilyId) (db : PolicyDb) :
    Except NotificationPolicyStoreError (FamilyRow × PolicyDb) :=
  match findFamilyByScopeForUpdate accountId canonicalScopeKey policyKind db with
  | some family => .ok (family, db)
  | none =>
    (createPolicyFamily accountId canonicalScopeKey policyKind new db).mapError fun _ => .database

/-- The same in `apply_policy_write_effect`, which looks again when somebody else was first. -/
def findOrCreateFamilyAgain (accountId : Nat) (canonicalScopeKey : String)
    (policyKind : NotificationPolicyKind) (new : PolicyFamilyId) (db : PolicyDb) :
    Except NotificationPolicyStoreError (FamilyRow × PolicyDb) :=
  match findFamilyByScopeForUpdate accountId canonicalScopeKey policyKind db with
  | some family => .ok (family, db)
  | none =>
    match createPolicyFamily accountId canonicalScopeKey policyKind new db with
    | .ok created => .ok created
    | .error .duplicateKey =>
      match findFamilyByScopeForUpdate accountId canonicalScopeKey policyKind db with
      | some family => .ok (family, db)
      | none => .error .database
    | .error .other => .error .database

/-- `fk_secretary_notification_policy_revision_command`. -/
def knowsCommand (db : PolicyDb) (command : String) : Bool :=
  db.actions.directory.sourceEvents.any fun event => event.sourceEventId.asStr = command

/-- The keys of the revisions. -/
def RevisionRow.conflicts (a b : RevisionRow) : Bool :=
  a.policyRevisionId = b.policyRevisionId ||
    a.policyFamilyId = b.policyFamilyId && a.revisionNumber = b.revisionNumber

def appendRevision (family : FamilyRow) (revisionKind : RevisionKind)
    (rule : Option NotificationPolicyRule) (command : Option String) (auditSummary : String)
    (new : PolicyRevisionId) (db : PolicyDb) :
    Except NotificationPolicyStoreError (RevisionRow × PolicyDb) := do
  let revision : RevisionRow := {
    policyRevisionId := new
    policyFamilyId := family.policyFamilyId
    revisionNumber := family.generation
    supersedesRevisionId := family.currentRevisionId
    revisionKind
    rule
    commandSourceEventId := command
    auditSummary }
  checkPolicyId family.policyFamilyId.asStr
  family.currentRevisionId.elim (.ok ()) fun current => checkPolicyId current.asStr
  revision.validate
  if db.revisions.any revision.conflicts ∨ (command.all (knowsCommand db)) = false then
    .error .database
  else .ok (revision, { db with revisions := db.revisions ++ [revision] })

def FamilyRow.isAt (familyId : PolicyFamilyId) (generation : Nat) (family : FamilyRow) : Bool :=
  family.policyFamilyId = familyId && family.generation = generation

def FamilyRow.switch (revisionId : PolicyRevisionId) (family : FamilyRow) : FamilyRow :=
  { family with currentRevisionId := some revisionId, generation := family.generation + 1 }

def updateFamilyHead (familyId : PolicyFamilyId) (expectedGeneration : Nat)
    (revisionId : PolicyRevisionId) (db : PolicyDb) :
    Except NotificationPolicyStoreError (FamilyRow × PolicyDb) :=
  if db.families.countP (FamilyRow.isAt familyId expectedGeneration) ≠ 1 then .error .conflict
  else do
    let db := { db with
      families := updateWhere (FamilyRow.isAt familyId expectedGeneration)
        (FamilyRow.switch revisionId) db.families }
    let row ← loadFamilyRow familyId db
    .ok (row, db)

def incrementPolicyEpoch (accountId : Nat) (db : PolicyDb) :
    Except NotificationPolicyStoreError PolicyDb :=
  if db.actions.directory.accounts.any fun row => row.id = accountId then
    .ok { db with
      policyEpoch := Function.update db.policyEpoch accountId (db.policyEpoch accountId + 1) }
  else .error .conflict

/-- `append_revision`, `update_family_head`, `increment_policy_epoch`: how every path ends. -/
def switchHead (accountId : Nat) (family : FamilyRow) (revisionKind : RevisionKind)
    (rule : Option NotificationPolicyRule) (command : Option String) (auditSummary : String)
    (new : PolicyRevisionId) (db : PolicyDb) :
    Except NotificationPolicyStoreError (FamilyRow × PolicyDb) := do
  let (revision, db) ← appendRevision family revisionKind rule command auditSummary new db
  let (updated, db) ←
    updateFamilyHead family.policyFamilyId family.generation revision.policyRevisionId db
  let db ← incrementPolicyEpoch accountId db
  .ok (updated, db)

/-! ## The store's own writes -/

/-- The answer to a command that has been carried out, otherwise `write`. -/
def unlessCommanded (account : SourceAccountRef) (accountId : Nat) (command : Option String)
    (db : PolicyDb) (write : Except NotificationPolicyStoreError (FamilyRow × PolicyDb)) :
    Except NotificationPolicyStoreError (NotificationPolicyFamily × PolicyDb) :=
  match findCommandRevision accountId command db with
  | some existing => do
    let family ← toDomainFamily existing account
    .ok (family, db)
  | none => do
    let (updated, db) ← write
    let family ← toDomainFamily updated account
    .ok (family, db)

def requestedFamily (accountId : Nat) (request : NotificationPolicyWriteRequest)
    (new : PolicyFamilyId) (db : PolicyDb) :
    Except NotificationPolicyStoreError (FamilyRow × PolicyDb) :=
  match request.policyFamilyId with
  | some familyId => do
    let family ← loadFamilyForUpdate accountId familyId db
    .ok (family, db)
  | none => findOrCreateFamily accountId request.canonicalScopeKey request.policyKind new db

def createOrReplace (request : NotificationPolicyWriteRequest) (new : NewIds) (db : PolicyDb) :
    Except NotificationPolicyStoreError (NotificationPolicyFamily × PolicyDb) := do
  policyError request.rule.matchKey.eligibilityForLongTermRule
  validateWriteRequest request
  let accountId ← lockAccount request.account db
  unlessCommanded request.account accountId request.commandSourceEventId db do
    let (family, db) ← requestedFamily accountId request new.family db
    switchHead accountId family .rule (some request.rule) request.commandSourceEventId
      request.auditSummary new.revision db

def fencedFamily (accountId : Nat) (familyId : PolicyFamilyId) (expectedGeneration : UInt64)
    (db : PolicyDb) : Except NotificationPolicyStoreError FamilyRow := do
  let family ← loadFamilyForUpdate accountId familyId db
  if family.generation ≠ expectedGeneration.toNat then .error .conflict else .ok family

def disable (request : NotificationPolicyDisableRequest) (new : NewIds) (db : PolicyDb) :
    Except NotificationPolicyStoreError (NotificationPolicyFamily × PolicyDb) := do
  checkAuditSummary request.auditSummary
  let accountId ← lockAccount request.account db
  unlessCommanded request.account accountId request.commandSourceEventId db do
    let family ← fencedFamily accountId request.policyFamilyId request.expectedGeneration db
    switchHead accountId family .tombstone none request.commandSourceEventId request.auditSummary
      new.revision db

/-! ## Feedback -/

def candidateId (accountId : Nat) (candidate : NotificationCandidateRef) (db : PolicyDb) :
    Except NotificationPolicyStoreError String :=
  match db.candidates.find? fun row => row.accountId = accountId &&
      row.sourceKind = candidate.sourceKind && row.sourceId = candidate.sourceId &&
      row.sourceVersion = candidate.sourceVersion with
  | some row => .ok row.notificationCandidateId
  | none => .error .conflict

/-- `feedback_id`: neither the candidate nor the promotion is hashed. -/
def feedbackId (env : PolicyEnv) (request : NotificationFeedbackRequest) : String :=
  env.digest [request.candidate.account.channel.asStr, request.candidate.account.accountId,
    request.commandSourceEventId, if request.important then "\x01" else "\x00"]

/-- The keys of the feedback. -/
def FeedbackRow.conflicts (a b : FeedbackRow) : Bool :=
  a.feedbackId = b.feedbackId ||
    a.accountId = b.accountId && a.commandSourceEventId = b.commandSourceEventId &&
      a.important = b.important

def NotificationCategory.asStr : NotificationCategory → String
  | .agenda => "agenda"
  | .followUp => "follow_up"

def feedbackPolicyScope (request : NotificationFeedbackRequest) :
    Except NotificationPolicyStoreError (String × NotificationPolicyKind) :=
  match request.matchKey.conversation, request.matchKey.actorId, request.matchKey.category with
  | .known conversation, .absent, .absent =>
    .ok ("conversation:" ++ conversation.kind.asStr ++ ":" ++ conversation.id, .conversation)
  | .absent, .known actorId, .absent => .ok ("contact:" ++ actorId, .contact)
  | .absent, .absent, .known category =>
    .ok ("category:" ++ NotificationCategory.asStr category, .category)
  | .absent, .absent, .absent => .ok ("account:default", .accountDefault)
  | _, _, _ => .error .conflict

def basicPolicyRule (matchKey : NotificationMatchKeyV1) (outcome : NotificationOutcome)
    (bypassQuiet : Bool) : NotificationPolicyRule :=
  ⟨matchKey, outcome, bypassQuiet, none, none⟩

def promoteFeedbackToRule (accountId : Nat) (request : NotificationFeedbackRequest) (new : NewIds)
    (db : PolicyDb) : Except NotificationPolicyStoreError PolicyDb := do
  let (canonicalScopeKey, policyKind) ← feedbackPolicyScope request
  let (family, db) ← findOrCreateFamily accountId canonicalScopeKey policyKind new.family db
  let rule := basicPolicyRule request.matchKey
    (if request.important then .remind else .suppress) false
  let (_, db) ← switchHead accountId family .rule (some rule) (some request.commandSourceEventId)
    "owner notification feedback promotion" new.revision db
  .ok db

def feedbackRow (env : PolicyEnv) (accountId : Nat) (notificationCandidateId : String)
    (request : NotificationFeedbackRequest) : FeedbackRow where
  feedbackId := feedbackId env request
  accountId
  notificationCandidateId
  important := request.important
  promoteToRule := request.promoteToRule
  commandSourceEventId := request.commandSourceEventId
  auditSummary := "owner notification feedback"

/-- `INSERT IGNORE` and the promotion. A command that is not stored makes no row either. -/
def storeFeedback (env : PolicyEnv) (accountId : Nat) (request : NotificationFeedbackRequest)
    (new : NewIds) (db : PolicyDb) : Except NotificationPolicyStoreError PolicyDb := do
  let notificationCandidateId ← candidateId accountId request.candidate db
  let row := feedbackRow env accountId notificationCandidateId request
  if db.feedback.any row.conflicts ∨ knowsCommand db request.commandSourceEventId = false then .ok db
  else
    let db := { db with feedback := db.feedback ++ [row] }
    if request.promoteToRule then promoteFeedbackToRule accountId request new db else .ok db

def checkPromotion (matchKey : NotificationMatchKeyV1) (promoteToRule : Bool) :
    Except NotificationPolicyStoreError Unit :=
  if promoteToRule then policyError matchKey.eligibilityForLongTermRule else .ok ()

def recordFeedback (env : PolicyEnv) (request : NotificationFeedbackRequest) (new : NewIds)
    (db : PolicyDb) : Except NotificationPolicyStoreError PolicyDb := do
  checkPromotion request.matchKey request.promoteToRule
  let accountId ← lockAccount request.candidate.account db
  storeFeedback env accountId request new db

/-! ## Effects -/

/-- `verify_action_lease`: the run is touched, which locks it. -/
def holdsActionLease (request : NotificationPolicyEffectRequest) (accountId : Nat) (now : Timestamp)
    (run : ActionRunRow) : Bool :=
  run.runId = request.runId && run.leaseToken = some request.leaseToken && run.status = .running &&
    run.accountId = accountId && run.commandSourceEventId = request.commandSourceEventId &&
    run.leaseExpiresAt.any fun expiresAt => now ≤ expiresAt

def verifyActionLease (request : NotificationPolicyEffectRequest) (accountId : Nat) (now : Timestamp)
    (db : PolicyDb) : Except NotificationPolicyStoreError PolicyDb :=
  if db.actions.runs.countP (holdsActionLease request accountId now) ≠ 1 then .error .conflict
  else .ok { db with actions := { db.actions with
    runs := updateWhere (holdsActionLease request accountId now)
      (fun run => { run with updatedAt := now }) db.actions.runs } }

def verifyEffectOwnerAuthorization (request : NotificationPolicyEffectRequest) (accountId : Nat)
    (db : PolicyDb) : Except NotificationPolicyStoreError Unit :=
  if db.actions.directory.verifyOwnerCommand request.commandSourceEventId accountId then .ok ()
  else .error .unauthorized

def loadPolicyEffectReceipt (request : NotificationPolicyEffectRequest) (db : PolicyDb) :
    Except NotificationPolicyStoreError (Option SecretaryActionReceipt) :=
  match db.actions.receipts.find? fun row => row.effectId = request.effectId with
  | none => .ok none
  | some row =>
    if row.runId ≠ request.runId then .error .conflict
    else if row.proposal.proposalId ≠ request.proposalId ∨ row.proposal.action ≠ request.action then
      .error .conflict
    else .ok (some ⟨row.proposal.proposalId, row.resultRef, some request.action.kind⟩)

def policyFamilyResultRef (env : PolicyEnv) (family : FamilyRow) (account : SourceAccountRef)
    (status typedReason : String) : Except NotificationPolicyStoreError String := do
  let family ← toDomainFamily family account
  .ok (env.artifactJson {
    scope := family.canonicalScopeKey
    policyFamilyId := family.policyFamilyId
    policyRevisionId := family.currentRevisionId
    status
    priority := family.policyKind.asStr
    typedReason
    auditReference := "generation:" ++ toString family.generation })

/-- What an action writes: the scope, the kind, the rule and the audit summary. -/
structure PolicyWrite where
  canonicalScopeKey : String
  policyKind : NotificationPolicyKind
  rule : NotificationPolicyRule
  auditSummary : String
deriving DecidableEq

/-- The arms of `apply_policy_effect_action` that write a rule. -/
def policyWriteOf : SecretaryAction → Option PolicyWrite
  | .setAccountDefaultNotificationMode canonicalScopeKey matchKey outcome bypassQuiet =>
    some ⟨canonicalScopeKey, .accountDefault, basicPolicyRule matchKey outcome bypassQuiet,
      "owner set account default notification mode"⟩
  | .setConversationNotificationMode canonicalScopeKey matchKey outcome bypassQuiet fullySilent
      allowBypass =>
    some ⟨canonicalScopeKey, .conversation, {
      matchKey
      outcome
      bypassQuiet
      conversation := some ⟨if fullySilent then .fullySilent else .normal, allowBypass⟩
      quietHours := none }, "owner set conversation notification mode"⟩
  | .setQuietHours canonicalScopeKey matchKey quietHours =>
    some ⟨canonicalScopeKey, .quietHours, {
      matchKey
      outcome := .suppress
      bypassQuiet := false
      conversation := none
      quietHours := some quietHours }, "owner set notification quiet hours"⟩
  | .setImportantContact canonicalScopeKey matchKey outcome bypassQuiet =>
    some ⟨canonicalScopeKey, .contact, basicPolicyRule matchKey outcome bypassQuiet,
      "owner set important notification contact"⟩
  | .setNotificationCategoryImportance canonicalScopeKey matchKey outcome bypassQuiet =>
    some ⟨canonicalScopeKey, .category, basicPolicyRule matchKey outcome bypassQuiet,
      "owner set notification category importance"⟩
  | .createSimilarNotificationRule canonicalScopeKey matchKey outcome bypassQuiet =>
    some ⟨canonicalScopeKey, .similarNotification, basicPolicyRule matchKey outcome bypassQuiet,
      "owner created similar notification rule"⟩
  | .setAutomaticReplyDeniedForContact canonicalScopeKey matchKey =>
    some ⟨canonicalScopeKey, .automaticReplyDenied, basicPolicyRule matchKey .suppress false,
      "owner denied automatic reply for contact"⟩
  | _ => none

def applyPolicyWriteEffect (env : PolicyEnv) (request : NotificationPolicyEffectRequest)
    (accountId : Nat) (write : PolicyWrite) (new : NewIds) (db : PolicyDb) :
    Except NotificationPolicyStoreError (String × PolicyDb) := do
  policyError write.rule.matchKey.eligibilityForLongTermRule
  checkScopeKey write.canonicalScopeKey
  let (family, db) ← findOrCreateFamilyAgain accountId write.canonicalScopeKey write.policyKind
    new.family db
  let (updated, db) ← switchHead accountId family .rule (some write.rule)
    (some request.commandSourceEventId.asStr) write.auditSummary new.revision db
  let resultRef ← policyFamilyResultRef env updated request.account "rule" "policy_written"
  .ok (resultRef, db)

def disablePolicyEffect (env : PolicyEnv) (request : NotificationPolicyEffectRequest)
    (accountId : Nat) (familyId : PolicyFamilyId) (expectedGeneration : UInt64) (new : NewIds)
    (db : PolicyDb) : Except NotificationPolicyStoreError (String × PolicyDb) := do
  let family ← fencedFamily accountId familyId expectedGeneration db
  let (updated, db) ← switchHead accountId family .tombstone none
    (some request.commandSourceEventId.asStr) "owner disabled notification policy" new.revision db
  let resultRef ← policyFamilyResultRef env updated request.account "tombstone" "policy_disabled"
  .ok (resultRef, db)

def FEEDBACK_RECORDED : String :=
  "\x7b\"scope\":\"notification_feedback\",\"status\":\"recorded\",\"priority\":\"feedback\"," ++
    "\"typed_reason\":\"feedback_recorded\",\"audit_reference\":\"notification_feedback\"\x7d"

def checkFeedbackAccounts (request : NotificationPolicyEffectRequest)
    (candidate : NotificationCandidateRef) (matchKey : NotificationMatchKeyV1) :
    Except NotificationPolicyStoreError Unit :=
  if candidate.account ≠ request.account ∨ matchKey.account ≠ request.account then .error .conflict
  else .ok ()

def recordFeedbackEffect (env : PolicyEnv) (request : NotificationPolicyEffectRequest)
    (accountId : Nat) (feedback : NotificationFeedbackRequest) (new : NewIds) (db : PolicyDb) :
    Except NotificationPolicyStoreError (String × PolicyDb) := do
  checkFeedbackAccounts request feedback.candidate feedback.matchKey
  checkPromotion feedback.matchKey feedback.promoteToRule
  let db ← storeFeedback env accountId feedback new db
  .ok (FEEDBACK_RECORDED, db)

def applyPolicyEffectAction (env : PolicyEnv) (request : NotificationPolicyEffectRequest)
    (accountId : Nat) (new : NewIds) (db : PolicyDb) :
    Except NotificationPolicyStoreError (String × PolicyDb) :=
  match policyWriteOf request.action with
  | some write => applyPolicyWriteEffect env request accountId write new db
  | none =>
    match request.action with
    | .disableNotificationPolicy familyId expectedGeneration =>
      disablePolicyEffect env request accountId familyId expectedGeneration new db
    | .recordNotificationFeedback candidate matchKey important promoteToRule =>
      recordFeedbackEffect env request accountId ⟨candidate, matchKey, important, promoteToRule,
        request.commandSourceEventId.asStr⟩ new db
    | _ => .error .conflict

/-- `INSERT IGNORE INTO secretary_action_effect_receipts`, and the receipt that is answered. -/
def storeReceipt (request : NotificationPolicyEffectRequest) (resultRef : String) (now : Timestamp)
    (db : PolicyDb) : Except NotificationPolicyStoreError (SecretaryActionReceipt × PolicyDb) :=
  if (db.actions.receipts.any fun row => row.effectId = request.effectId) ∨
      (db.actions.runs.any fun run => run.runId = request.runId) = false then
    match loadPolicyEffectReceipt request db with
    | .error error => .error error
    | .ok none => .error .database
    | .ok (some receipt) => .ok (receipt, db)
  else
    .ok (⟨request.proposalId, resultRef, some request.action.kind⟩, { db with
      actions := { db.actions with
        receipts := db.actions.receipts ++
          [⟨request.effectId, request.runId, request.proposalJson, resultRef, now⟩] } })

/-- The stored receipt, or `apply`. -/
def unlessReplayed (request : NotificationPolicyEffectRequest) (db : PolicyDb)
    (apply : Except NotificationPolicyStoreError (SecretaryActionReceipt × PolicyDb)) :
    Except NotificationPolicyStoreError (SecretaryActionReceipt × PolicyDb) :=
  match loadPolicyEffectReceipt request db with
  | .error error => .error error
  | .ok (some receipt) => .ok (receipt, db)
  | .ok none => apply

def applyEffect (env : PolicyEnv) (request : NotificationPolicyEffectRequest) (new : NewIds)
    (now : Timestamp) (db : PolicyDb) :
    Except NotificationPolicyStoreError (SecretaryActionReceipt × PolicyDb) :=
  unlessReplayed request db do
    let accountId ← lockAccount request.account db
    let db ← verifyActionLease request accountId now db
    verifyEffectOwnerAuthorization request accountId db
    unlessReplayed request db do
      let (resultRef, db) ← applyPolicyEffectAction env request accountId new db
      storeReceipt request resultRef now db

/-! ## The gate of automatic replies -/

def automaticReplyScopeKey (actorId : String) : String := "contact:" ++ actorId

def loadAccountId (account : SourceAccountRef) (db : PolicyDb) :
    Except NotificationPolicyStoreError Nat := lockAccount account db

/-- The rule that the head of the family is, unless it is a tombstone. -/
def headRule (db : PolicyDb) (family : FamilyRow) : Option NotificationPolicyRule :=
  (db.revisions.find? fun revision => revision.policyFamilyId = family.policyFamilyId &&
    some revision.policyRevisionId = family.currentRevisionId &&
    revision.revisionKind = .rule).bind RevisionRow.rule

def automaticReplyIsDenied (account : SourceAccountRef) (actorId : String) (db : PolicyDb) :
    Except NotificationPolicyStoreError Bool :=
  if isBlank actorId then .ok true
  else do
    let accountId ← loadAccountId account db
    .ok (((findFamilyByScopeForUpdate accountId (automaticReplyScopeKey actorId)
      .automaticReplyDenied db).bind (headRule db)).any fun rule =>
        rule.matchKey.actorId = .known actorId)

end NotificationPolicy

end ServerRS

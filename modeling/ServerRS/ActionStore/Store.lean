import ServerRS.ActionStore.Tables

/-!
# The operations of the action store

Models `MySqlActionStore` of `mysql_action_store/store.rs`. An operation is a transaction on
the tables, with `rows_affected` as the number of rows that its `UPDATE` matched.
`claim_pending_run` is three statements, each of which commits by itself.
-/

namespace ServerRS.ActionStore

open Lib

/-- `UPDATE secretary_action_runs SET set WHERE cond`. -/
def updateRuns (cond : ActionRunRow → Bool) (set : ActionRunRow → ActionRunRow) : Tx Nat :=
  fun db => (.ok (db.runs.countP cond), { db with runs := updateWhere cond set db.runs })

/-- `run_id = ? AND lease_token = ? AND status = 'running'`. -/
def ActionRunRow.isHeld (runId : ActionRunId) (token : ActionLeaseToken) (row : ActionRunRow) :
    Bool :=
  row.runId == runId && row.leaseToken == some token && row.status == .running

/-- The `UPDATE` of a run under its lease, and the check of `rows_affected` after it. -/
def updateHeld (runId : ActionRunId) (token : ActionLeaseToken)
    (set : ActionRunRow → ActionRunRow) : Tx Unit := do
  let affected ← updateRuns (·.isHeld runId token) set
  if affected ≠ 1 then Exec.throw .leaseLost else pure ()

/-! ## Creation -/

def ActionRunSeed.row (seed : ActionRunSeed) (runId : ActionRunId) (accountId : Nat)
    (now : Timestamp) : ActionRunRow where
  runId := runId
  accountId := accountId
  commandSourceEventId := seed.commandSourceEventId
  commandText := seed.commandText
  conversationId := seed.conversationId
  occurredAtUnixSecs := seed.occurredAtUnixSecs
  timezoneOffsetSecs := seed.timezoneOffsetSecs
  timezoneName := seed.timezone
  recentEvents := seed.recentEvents
  createdAt := now
  updatedAt := now

/-- The business key of a run. -/
def ActionRunRow.isFor (accountId : Nat) (command : SourceEventId) (row : ActionRunRow) : Bool :=
  row.accountId == accountId && row.commandSourceEventId == command

/-- `INSERT IGNORE INTO secretary_action_runs`, with the keys on `run_id` and on the command. -/
def insertRun (row : ActionRunRow) : Tx Nat := fun db =>
  if db.runs.any fun other =>
      other.runId == row.runId || other.isFor row.accountId row.commandSourceEventId then
    (.ok 0, db)
  else (.ok 1, { db with runs := db.runs ++ [row] })

def ensureActionRun (runId : ActionRunId) (seed : ActionRunSeed) (now : Timestamp) : Tx Bool := do
  let db ← Exec.get
  let accountId ← Exec.ofExcept (db.directory.resolveAccountId seed.account)
  let known := fun (db : ActionDb) => db.runs.any (·.isFor accountId seed.commandSourceEventId)
  if known db then pure false
  else if !db.directory.verifyOwnerCommand seed.commandSourceEventId accountId then
    Exec.throw (.invalidData "action run creation is not authorized by an OwnerCommand")
  else do
    let inserted ← insertRun (seed.row runId accountId now)
    let db ← Exec.get
    if inserted = 1 then pure true
    else if known db then pure false
    else Exec.throw (.database
      "INSERT IGNORE inserted no action run and no business-key row exists")

/-! ## Claims -/

/-- What the first statement of `claim_pending_run` writes into a row. -/
def ActionRunRow.expire (now : Timestamp) (row : ActionRunRow) : ActionRunRow :=
  { row with
    status := .pending
    leaseToken := none
    leaseExpiresAt := none
    workerId := none
    lastError := some "lease expired"
    nextEligibleAt := some now
    attempt := row.attempt + 1
    updatedAt := now }

def ActionRunRow.isExpired (now : Timestamp) (row : ActionRunRow) : Bool :=
  row.status == .running && row.leaseExpiresAt.any (· < now)

/-- The first statement of `claim_pending_run`. -/
def reclaimExpired (now : Timestamp) : Tx Nat := updateRuns (·.isExpired now) (·.expire now)

def ActionRunRow.claim (workerId : String) (leaseExpires now : Timestamp)
    (token : ActionLeaseToken) (row : ActionRunRow) : ActionRunRow :=
  { row with
    status := .running
    workerId := some workerId
    leaseToken := some token
    leaseExpiresAt := some leaseExpires
    updatedAt := now }

/-- The rows that `claim_pending_run` picks from. -/
def ActionRunRow.isEligible (directory : Directory) (now : Timestamp) (row : ActionRunRow) : Bool :=
  row.status == .pending && row.nextEligibleAt.all (· ≤ now) && directory.commandAuthorized row

/-- `ORDER BY r.created_at ASC LIMIT 1`. -/
def oldest : List ActionRunRow → Option ActionRunRow
  | [] => none
  | row :: rows =>
    match oldest rows with
    | none => some row
    | some other => if other.createdAt < row.createdAt then some other else some row

def ActionDb.pick (db : ActionDb) (now : Timestamp) : Option ActionRunId :=
  (oldest (db.runs.filter (·.isEligible db.directory now))).map (·.runId)

/-- The second statement of `claim_pending_run`. -/
def claimOldest (workerId : String) (leaseExpires now : Timestamp) (token : ActionLeaseToken) :
    Tx Nat := fun db =>
  updateRuns (fun row => db.pick now == some row.runId) (·.claim workerId leaseExpires now token) db

/-- `map_claimed_row`, on the row joined with its account. -/
def ActionRunRow.claimed (row : ActionRunRow) (account : AccountRow) (token : ActionLeaseToken) :
    ClaimedActionRun where
  runId := row.runId
  leaseToken := token
  account := ⟨account.sourceChannel, account.platformAccountId⟩
  commandSourceEventId := row.commandSourceEventId
  commandText := row.commandText
  conversationId := row.conversationId
  occurredAtUnixSecs := row.occurredAtUnixSecs
  timezoneOffsetSecs := row.timezoneOffsetSecs
  timezone := row.timezoneName
  recentEvents := row.recentEvents

/-- The last statement of both claims: the row under the new token. -/
def readClaimed (token : ActionLeaseToken) : Tx ClaimedActionRun := do
  let db ← Exec.get
  match db.runs.find? fun row => row.leaseToken == some token && row.status == .running with
  | none => Exec.throw .leaseLost
  | some row =>
    match db.directory.accounts.find? fun account => account.id == row.accountId with
    | none => Exec.throw .leaseLost
    | some account =>
      if isBlank account.platformAccountId then
        Exec.throw (.invalidData "account_id must not be empty")
      else pure (row.claimed account token)

/-- `i64::try_from(lease_secs)`. -/
def checkLeaseSecs (leaseSecs : UInt64) : Tx Int :=
  if leaseSecs.toNat < 2 ^ 63 then pure leaseSecs.toNat
  else Exec.throw (.invalidData "lease_secs exceeds i64")

/-- `claim_pending_run`; `token` is the one it generates. -/
def claimPendingRun (workerId : String) (leaseSecs : UInt64) (now : Timestamp)
    (token : ActionLeaseToken) : Tx (Option ClaimedActionRun) := do
  let _ ← reclaimExpired now
  let leaseSecs ← checkLeaseSecs leaseSecs
  let affected ← claimOldest workerId (now + leaseSecs * microsPerSec) now token
  if affected ≠ 1 then pure none else some <$> readClaimed token

/-- The condition of `claim_suspended_run` on the row. -/
def SuspendedRunClaim.isFor (claim : SuspendedRunClaim) (directory : Directory)
    (row : ActionRunRow) : Bool :=
  row.runId == claim.runId && row.status == .suspended &&
    row.commandSourceEventId == claim.commandSourceEventId &&
    row.lastCheckpoint.any (fun checkpoint =>
      checkpoint.checkpointId == claim.checkpointId && checkpoint.proposalId == claim.proposalId) &&
    directory.commandAuthorized row

/-- The `UPDATE` of `claim_suspended_run`. -/
def claimSuspended (claim : SuspendedRunClaim) (leaseExpires now : Timestamp)
    (token : ActionLeaseToken) : Tx Nat := fun db =>
  updateRuns (claim.isFor db.directory) (·.claim claim.workerId leaseExpires now token) db

/-! ## Suspended runs and their checkpoints -/

/-- `ORDER BY r.updated_at DESC, r.run_id DESC`. -/
def ActionRunRow.listedBefore (row other : ActionRunRow) : Bool :=
  decide (other.updatedAt < row.updatedAt) ||
    row.updatedAt == other.updatedAt && decide (other.runId.asStr ≤ row.runId.asStr)

def listSuspendedRuns (account : SourceAccountRef) (limit : UInt32) :
    Tx (List SuspendedActionRun) := do
  if ¬ (1 ≤ limit ∧ limit ≤ 100) then
    Exec.throw (.invalidData "suspended run list limit must be in 1..=100")
  else do
    let db ← Exec.get
    let rows := db.runs.filter fun row =>
      row.status == .suspended && db.directory.accounts.any fun a =>
        a.id == row.accountId && a.sourceChannel == account.channel &&
          a.platformAccountId == account.accountId
    pure (((rows.mergeSort ActionRunRow.listedBefore).filterMap fun row =>
      row.lastCheckpoint.map fun checkpoint =>
        ⟨row.runId, checkpoint.checkpointId, checkpoint.proposalId,
          row.commandSourceEventId⟩).take limit.toNat)

/-- What `mark_suspended` writes into a row. -/
def ActionRunRow.suspend (checkpoint : CheckpointSummary) (now : Timestamp) (row : ActionRunRow) :
    ActionRunRow :=
  { row with
    status := .suspended
    lastCheckpoint := some checkpoint
    workerId := none
    leaseToken := none
    leaseExpiresAt := none
    nextEligibleAt := none
    updatedAt := now }

def markSuspended (runId : ActionRunId) (token : ActionLeaseToken) (checkpoint : CheckpointSummary)
    (now : Timestamp) : Tx Unit :=
  updateHeld runId token (·.suspend checkpoint now)

/-- What `take_checkpoint` writes into a row. -/
def ActionRunRow.takeCheckpoint (now : Timestamp) (row : ActionRunRow) : ActionRunRow :=
  { row with lastCheckpoint := none, updatedAt := now }

def takeCheckpoint (runId : ActionRunId) (token : ActionLeaseToken) (now : Timestamp) :
    Tx (Option CheckpointSummary) := Exec.atomic do
  let db ← Exec.get
  match (db.runs.find? (·.isHeld runId token)).bind (·.lastCheckpoint) with
  | none => pure none
  | some checkpoint => do
    let affected ← updateRuns (fun row => row.isHeld runId token && row.lastCheckpoint.isSome)
      (·.takeCheckpoint now)
    if affected ≠ 1 then Exec.throw .leaseLost else pure (some checkpoint)

/-! ## Effects -/

/-- The width of `result_ref`. -/
def MAX_RESULT_REF_CHARS : ℕ := 1000

def ActionDb.effectReceipt (db : ActionDb) (runId : ActionRunId) (effectId : String) :
    Option SecretaryActionReceipt :=
  (db.receipts.find? fun row => row.runId == runId && row.effectId == effectId).map fun row =>
    ⟨row.proposal.proposalId, row.resultRef, none⟩

def loadEffectReceipt (runId : ActionRunId) (effectId : String) :
    Tx (Option SecretaryActionReceipt) := do
  let db ← Exec.get
  pure (db.effectReceipt runId effectId)

/-- `INSERT IGNORE INTO secretary_action_effect_receipts`; a long `result_ref` is cut. -/
def insertReceipt (row : EffectReceiptRow) : Tx Nat := fun db =>
  if db.receipts.any (·.effectId == row.effectId) then (.ok 0, db)
  else
    let row := { row with resultRef := takeChars row.resultRef MAX_RESULT_REF_CHARS }
    (.ok 1, { db with receipts := db.receipts ++ [row] })

/-- What `apply_effect` writes into a row. -/
def ActionRunRow.touch (now : Timestamp) (row : ActionRunRow) : ActionRunRow :=
  { row with updatedAt := now }

def applyEffect (runId : ActionRunId) (effect : SecretaryActionEffect) (effectId resultRef : String)
    (token : ActionLeaseToken) (now : Timestamp) : Tx SecretaryActionReceipt := Exec.atomic do
  updateHeld runId token (·.touch now)
  let inserted ← insertReceipt ⟨effectId, runId, effect.proposal, resultRef, now⟩
  if inserted = 0 then
    match ← loadEffectReceipt runId effectId with
    | some existing => pure existing
    | none => Exec.throw (.invalidData ("effect_id collision across action runs: " ++ effectId))
  else pure ⟨effect.proposal.proposalId, resultRef, none⟩

/-! ## The end of an execution -/

/-- The bound of `mark_completed` on a serialized draft. -/
def MAX_DRAFT_BYTES : ℕ := 65536

/-- `INSERT INTO secretary_action_responses`, with the key on `run_id`. -/
def insertResponse (row : ActionResponseRow) : Tx Unit := fun db =>
  if db.responses.any (·.runId == row.runId) then
    (.error (.database "Duplicate entry for key 'uk_secretary_action_response_run'"), db)
  else (.ok (), { db with responses := db.responses ++ [row] })

/-- The checks of `mark_completed` before its transaction: the draft as it will be stored. -/
def checkDraft [ResponseFormat] (draft : Option OwnerResponseDraft) :
    Except ActionStoreError (Option (OwnerResponseDraft × ℕ)) :=
  match draft with
  | none => .ok none
  | some draft =>
    match ResponseFormat.draftLen draft with
    | none => .error (.invalidData "response draft does not serialize")
    | some len =>
      if len > MAX_DRAFT_BYTES then .error (.invalidData "response draft exceeds 64 KiB")
      else .ok (some (draft, len))

/-- What `mark_completed` writes into a row. -/
def ActionRunRow.complete (draft : Option OwnerResponseDraft) (now : Timestamp)
    (row : ActionRunRow) : ActionRunRow :=
  { row with
    status := .completed
    completedAt := some now
    responseDraft := draft
    leaseToken := none
    leaseExpiresAt := none
    updatedAt := now }

/-- `mark_completed`; `responseId` is the one it generates. -/
def markCompleted [ResponseFormat] (runId : ActionRunId) (token : ActionLeaseToken)
    (draft : Option OwnerResponseDraft) (responseId : String) (now : Timestamp) : Tx Unit := do
  let stored ← Exec.ofExcept (checkDraft draft)
  Exec.atomic do
    updateHeld runId token (·.complete draft now)
    match stored with
    | none => pure ()
    | some (draft, len) => insertResponse ⟨responseId, runId, draft, len, now⟩

/-- What `mark_failed` writes into a row. -/
def ActionRunRow.fail (error : String) (nextEligible now : Timestamp) (row : ActionRunRow) :
    ActionRunRow :=
  { row with
    status := .pending
    lastError := some error
    nextEligibleAt := some nextEligible
    leaseToken := none
    leaseExpiresAt := none
    updatedAt := now }

def markFailed (runId : ActionRunId) (token : ActionLeaseToken) (error : String)
    (nextEligibleAtUnixSecs : Int) (now : Timestamp) : Tx Unit :=
  updateHeld runId token (·.fail error ((fromTimestamp nextEligibleAtUnixSecs).getD now) now)

/-- What `release_lease` writes into a row. -/
def ActionRunRow.release (now : Timestamp) (row : ActionRunRow) : ActionRunRow :=
  { row with
    status := .pending
    leaseToken := none
    leaseExpiresAt := none
    nextEligibleAt := some now
    updatedAt := now }

def releaseLease (runId : ActionRunId) (token : ActionLeaseToken) (now : Timestamp) : Tx Unit :=
  updateHeld runId token (·.release now)

end ServerRS.ActionStore

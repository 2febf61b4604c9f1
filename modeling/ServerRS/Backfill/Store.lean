import Mathlib.Data.List.Sort
import ServerRS.Domain.Backfill
import ServerRS.Lib.Table

/-!
# The backfill tables

Models `claim_next_gap`, `reclaim_expired`, `record_scope_progress` and `finalize_run` of
`personal-secretary-mysql/src/repo/mysql_backfill.rs`. Each is one transaction: what it returns goes
with the tables that it commits, and an error leaves the tables as they are. Times are in
microseconds. Identifiers that `Uuid::new_v4` draws are parameters.
-/

namespace ServerRS.Backfill

open Lib

abbrev DateTime := Int

def seconds (secs : ℕ) : DateTime := secs * 1000000

inductive IngestionGapReason where
  | queueOverflow
  | databaseUnavailable
  | historyUnprovable
  | invalidEvent
  | nonMessageReference
deriving DecidableEq

def IngestionGapReason.asStr : IngestionGapReason → String
  | .queueOverflow => "queue_overflow"
  | .databaseUnavailable => "database_unavailable"
  | .historyUnprovable => "history_unprovable"
  | .invalidEvent => "invalid_event"
  | .nonMessageReference => "non_message_reference"

def IngestionGapStatus.asStr : IngestionGapStatus → String
  | .uncertain => "uncertain"
  | .backfilling => "backfilling"
  | .verifiedComplete => "verified_complete"
  | .unrecoverable => "unrecoverable"

def HistoryCompleteness.asStr : HistoryCompleteness → String
  | .provenComplete => "proven_complete"
  | .knownScopesComplete => "known_scopes_complete"
  | .unprovable => "unprovable"
  | .unrecoverable => "unrecoverable"

/-! ## Rows -/

/-- `secretary_accounts`. -/
structure AccountRow where
  id : ℕ
  account : SourceAccountRef
deriving DecidableEq

/-- `secretary_conversations`. -/
structure ConversationRow where
  id : ℕ
  accountId : ℕ
  conversation : ConversationRef
deriving DecidableEq

/-- `secretary_ingestion_gaps`. -/
structure GapRow where
  gapId : String
  accountId : ℕ
  connectionEpochId : String
  gapEndedAt : Option DateTime
  status : IngestionGapStatus
  updatedAt : DateTime
deriving DecidableEq

/-- `secretary_gap_signal_scopes`. -/
structure SignalScopeRow where
  gapId : String
  conversationId : ℕ
deriving DecidableEq

/-- `secretary_gap_reclaim_schedule`. -/
structure ReclaimScheduleRow where
  gapId : String
  nextEligibleAt : Option DateTime
deriving DecidableEq

inductive RunStatus where
  | pending
  | backfilling
  | verifiedComplete
  | unprovable
  | unrecoverable
deriving DecidableEq

def RunStatus.asStr : RunStatus → String
  | .pending => "pending"
  | .backfilling => "backfilling"
  | .verifiedComplete => "verified_complete"
  | .unprovable => "unprovable"
  | .unrecoverable => "unrecoverable"

/-- The counters of a run and of a scope. -/
structure Counters where
  pagesRead : ℕ
  eventsRead : ℕ
  accepted : ℕ
  duplicates : ℕ
deriving DecidableEq

/-- `secretary_backfill_runs`. -/
structure RunRow where
  backfillRunId : String
  gapId : String
  accountId : ℕ
  connectionEpochId : String
  status : RunStatus
  leaseExpiresAt : Option DateTime
  completeness : HistoryCompleteness
  failureClass : Option String
  counters : Counters
  budgetExhausted : Bool
  anomalyCount : ℕ
  updatedAt : DateTime
  completedAt : Option DateTime
deriving DecidableEq

/-- `secretary_backfill_leases`. -/
structure LeaseRow where
  backfillRunId : String
  leaseToken : String
deriving DecidableEq

/-- `secretary_backfill_scopes`. -/
structure ScopeRow where
  backfillRunId : String
  accountId : ℕ
  conversationId : ℕ
  scopeKey : String
  status : BackfillScopeStatus
  lastAnchor : Option BackfillAnchor
  counters : Counters
  reachedBoundary : Bool
  anomalies : List BackfillAnomaly
deriving DecidableEq

structure BackfillDb where
  accounts : List AccountRow
  conversations : List ConversationRow
  gaps : List GapRow
  signalScopes : List SignalScopeRow
  schedule : List ReclaimScheduleRow
  runs : List RunRow
  leases : List LeaseRow
  scopes : List ScopeRow
deriving DecidableEq

abbrev Tx (α : Type) := BackfillDb → Except InboundEventStoreError (α × BackfillDb)

def databaseError : InboundEventStoreError := .database "database operation failed"

def BackfillDb.accountOf (db : BackfillDb) (accountId : ℕ) : Option SourceAccountRef :=
  (db.accounts.find? fun row => row.id = accountId).map AccountRow.account

/-- `IngestionGapId::new` and `ConnectionEpochId::new`, with the error as the store reports it. -/
def requireIdentity (field value : String) : Except InboundEventStoreError Unit :=
  if isBlank value then .error (.invalidData (field ++ " must not be empty")) else .ok ()

/-- `BackfillRunId::new`. -/
def requireRunId (value : String) : Except InboundEventStoreError Unit :=
  if isBlank value then
    .error (.invalidData "invalid backfill identity: backfill_run_id must not be empty")
  else .ok ()

/-! ## Claiming -/

structure ClaimedGap where
  runId : String
  leaseToken : String
  gapId : String
  account : SourceAccountRef
  connectionEpochId : String
  isResume : Bool
deriving DecidableEq

/-- The window of the gap is over, or a signal names what to fetch; and it is not put off. -/
def isClaimable (now : DateTime) (db : BackfillDb) (gap : GapRow) : Bool :=
  gap.status = .uncertain &&
    (gap.gapEndedAt.isSome || db.signalScopes.any fun row => row.gapId = gap.gapId) &&
    db.schedule.all fun row => row.gapId ≠ gap.gapId || row.nextEligibleAt.all fun at' => at' ≤ now

/-- `ORDER BY g.updated_at ASC LIMIT 1`. -/
def firstClaimable (now : DateTime) (db : BackfillDb) : Option (GapRow × SourceAccountRef) :=
  (((db.gaps.filter (isClaimable now db)).filterMap fun gap =>
    (db.accountOf gap.accountId).map fun account => (gap, account)).insertionSort
      fun a b => a.1.updatedAt ≤ b.1.updatedAt).head?

/-- The identifiers of a run that is created. -/
structure NewRun where
  runId : String
  leaseToken : String
deriving DecidableEq

def claimedRun (leaseSecs : ℕ) (new : NewRun) (now : DateTime) (gap : GapRow) : RunRow where
  backfillRunId := new.runId
  gapId := gap.gapId
  accountId := gap.accountId
  connectionEpochId := gap.connectionEpochId
  status := .backfilling
  leaseExpiresAt := some (now + seconds leaseSecs)
  completeness := .unprovable
  failureClass := none
  counters := ⟨0, 0, 0, 0⟩
  budgetExhausted := false
  anomalyCount := 0
  updatedAt := now
  completedAt := none

/-- `UPDATE secretary_ingestion_gaps SET status, updated_at` of the gap in one status. -/
def moveGap (gapId : String) (source target : IngestionGapStatus) (now : DateTime)
    (gaps : List GapRow) : List GapRow :=
  updateWhere (fun gap => gap.gapId = gapId && gap.status = source)
    (fun gap => { gap with status := target, updatedAt := now }) gaps

def claimNextGap (leaseSecs : ℕ) (new : NewRun) (now : DateTime) : Tx (Option ClaimedGap) :=
  fun db =>
    match firstClaimable now db with
    | none => .ok (none, db)
    | some (gap, account) => do
      requireIdentity "ingestion_gap_id" gap.gapId
      requireIdentity "connection_epoch_id" gap.connectionEpochId
      if (db.runs.any fun run => run.backfillRunId = new.runId) ||
          db.leases.any fun lease => lease.backfillRunId = new.runId then .error databaseError
      else
        .ok (some ⟨new.runId, new.leaseToken, gap.gapId, account, gap.connectionEpochId, false⟩,
          { db with
            gaps := moveGap gap.gapId .uncertain .backfilling now db.gaps
            runs := db.runs ++ [claimedRun leaseSecs new now gap]
            leases := db.leases ++ [⟨new.runId, new.leaseToken⟩] })

/-! ## Reclaiming -/

def RunRow.isExpired (now : DateTime) (run : RunRow) : Bool :=
  run.status = .backfilling && run.leaseExpiresAt.all fun at' => at' < now

/-- `ORDER BY r.updated_at ASC LIMIT ?`. -/
def expiredRuns (limit : ℕ) (now : DateTime) (db : BackfillDb) : List (RunRow × SourceAccountRef) :=
  (((db.runs.filter (RunRow.isExpired now)).filterMap fun run =>
    (db.accountOf run.accountId).map fun account => (run, account)).insertionSort
      fun a b => a.1.updatedAt ≤ b.1.updatedAt).take limit

/-- `ON DUPLICATE KEY UPDATE lease_token`. -/
def upsertLease (runId leaseToken : String) (leases : List LeaseRow) : List LeaseRow :=
  if leases.any fun lease => lease.backfillRunId = runId then
    updateWhere (fun lease => lease.backfillRunId = runId) (fun lease => { lease with leaseToken })
      leases
  else leases ++ [⟨runId, leaseToken⟩]

/-- The run gets a new lease, unless it has one. -/
def renewLease (leaseSecs : ℕ) (newToken : String → String) (now : DateTime)
    (claimed : List ClaimedGap × BackfillDb) (expired : RunRow × SourceAccountRef) :
    Except InboundEventStoreError (List ClaimedGap × BackfillDb) := do
  let (run, account) := expired
  let (claims, db) := claimed
  requireRunId run.backfillRunId
  requireIdentity "ingestion_gap_id" run.gapId
  requireIdentity "connection_epoch_id" run.connectionEpochId
  let renews := fun row : RunRow => row.backfillRunId = run.backfillRunId && row.isExpired now
  if db.runs.countP renews = 0 then .ok (claims, db)
  else
    let leaseToken := newToken run.backfillRunId
    .ok (claims ++ [⟨run.backfillRunId, leaseToken, run.gapId, account, run.connectionEpochId, true⟩],
      { db with
        runs := updateWhere renews
          (fun row => { row with leaseExpiresAt := some (now + seconds leaseSecs), updatedAt := now })
          db.runs
        leases := upsertLease run.backfillRunId leaseToken db.leases })

def reclaimExpired (leaseSecs limit : ℕ) (newToken : String → String) (now : DateTime) :
    Tx (List ClaimedGap) := fun db =>
  if limit = 0 then .ok ([], db)
  else (expiredRuns limit now db).foldlM (renewLease leaseSecs newToken now) ([], db)

/-! ## Progress -/

def holdsLease (runId leaseToken : String) (db : BackfillDb) : Bool :=
  db.leases.any fun lease => lease.backfillRunId = runId && lease.leaseToken = leaseToken

def lockOwnedRun (runId leaseToken : String) (db : BackfillDb) :
    Except InboundEventStoreError RunRow :=
  match db.runs.find? fun run => run.backfillRunId = runId && holdsLease runId leaseToken db with
  | some run => .ok run
  | none => .error .leaseLost

/-- `lock_active_lease`: the account of the run. -/
def lockActiveLease (runId leaseToken : String) (db : BackfillDb) :
    Except InboundEventStoreError ℕ := do
  let run ← lockOwnedRun runId leaseToken db
  if run.status ≠ .backfilling then .error .leaseLost else .ok run.accountId

def resolveConversationId (accountId : ℕ) (conversation : ConversationRef) (db : BackfillDb) :
    Except InboundEventStoreError ℕ :=
  match db.conversations.find? fun row =>
      row.accountId = accountId && row.conversation = conversation with
  | some row => .ok row.id
  | none => .error (.invalidData ("conversation " ++ conversation.kind.asStr ++ "/" ++
      conversation.id ++ " not known; backfill only targets conversations that have a realtime cursor"))

def ScopeProgress.counters (progress : ScopeProgress) : Counters :=
  ⟨progress.pagesRead, progress.eventsRead, progress.accepted, progress.duplicates⟩

def scopeRow (runId : String) (accountId conversationId : ℕ) (progress : ScopeProgress) : ScopeRow where
  backfillRunId := runId
  accountId
  conversationId
  scopeKey := scopeKeyOf progress.conversation
  status := progress.status
  lastAnchor := progress.lastCursor.map BackfillCursor.anchor
  counters := progress.counters
  reachedBoundary := progress.reachedBoundary
  anomalies := progress.anomalies

def ScopeRow.sameKey (row other : ScopeRow) : Bool :=
  other.backfillRunId = row.backfillRunId && other.scopeKey = row.scopeKey

/-- `ON CONFLICT (backfill_run_id, scope_key) UPDATE`. -/
def upsertScope (row : ScopeRow) (scopes : List ScopeRow) : List ScopeRow :=
  if scopes.any row.sameKey then
    updateWhere row.sameKey
      (fun old => { row with accountId := old.accountId, conversationId := old.conversationId })
      scopes
  else scopes ++ [row]

def Store.recordScopeProgress (leaseSecs : ℕ) (runId leaseToken : String) (progress : ScopeProgress)
    (now : DateTime) : Tx Unit := fun db => do
  let accountId ← lockActiveLease runId leaseToken db
  let renews := fun run : RunRow => run.backfillRunId = runId && run.status = .backfilling
  if db.runs.countP renews ≠ 1 then .error .leaseLost
  else do
    let conversationId ← resolveConversationId accountId progress.conversation db
    .ok ((), { db with
      runs := updateWhere renews
        (fun run => { run with leaseExpiresAt := some (now + seconds leaseSecs), updatedAt := now })
        db.runs
      scopes := upsertScope (scopeRow runId accountId conversationId progress) db.scopes })

/-! ## Finalising -/

inductive ReclaimPolicy where
  | terminal
  | backoff (secs : ℕ)
  | suspended
deriving DecidableEq

def HistoryCompleteness.reclaimPolicy : HistoryCompleteness → ReclaimPolicy
  | .knownScopesComplete => .suspended
  | .unprovable => .backoff 30
  | .provenComplete => .terminal
  | .unrecoverable => .terminal

def BackfillEvidence.configuredCutoffReached (evidence : BackfillEvidence) : Bool :=
  evidence.scopes.any fun scope => .configuredCutoffReached ∈ scope.anomalies

/-- `BackfillOutcome` with what it is about, as `process_claimed` builds it. -/
structure RunOutcome extends BackfillOutcome where
  runId : String
  gapId : String
  gapReason : Option IngestionGapReason
  target_eq : gapTargetStatus = completeness.gapTargetStatus
deriving DecidableEq

def RunOutcome.reclaimPolicy (outcome : RunOutcome) : ReclaimPolicy :=
  if outcome.evidence.configuredCutoffReached then .suspended
  else outcome.completeness.reclaimPolicy

def RunStatus.ofCompleteness : HistoryCompleteness → RunStatus
  | .provenComplete => .verifiedComplete
  | .knownScopesComplete => .unprovable
  | .unprovable => .unprovable
  | .unrecoverable => .unrecoverable

def RunOutcome.failureClass (outcome : RunOutcome) : Option String :=
  match outcome.completeness with
  | .knownScopesComplete | .unprovable =>
    some ((outcome.gapReason.map IngestionGapReason.asStr).getD outcome.completeness.asStr)
  | .provenComplete | .unrecoverable => none

def BackfillEvidence.counters (evidence : BackfillEvidence) : Counters :=
  ⟨(evidence.scopes.map ScopeEvidence.pagesRead).sum,
    (evidence.scopes.map ScopeEvidence.eventsRead).sum,
    (evidence.scopes.map ScopeEvidence.accepted).sum,
    (evidence.scopes.map ScopeEvidence.duplicates).sum⟩

def RunOutcome.complete (outcome : RunOutcome) (now : DateTime) (run : RunRow) : RunRow :=
  { run with
    status := .ofCompleteness outcome.completeness
    completeness := outcome.completeness
    failureClass := outcome.failureClass
    counters := outcome.evidence.counters
    budgetExhausted := outcome.evidence.budgetExhausted
    anomalyCount := (outcome.evidence.scopes.map fun scope => scope.anomalies.length).sum
    updatedAt := now
    completedAt := some now }

/-- 9999-12-31 23:59:59. -/
def SUSPENDED_UNTIL : DateTime := seconds 253402300799

/-- `ON DUPLICATE KEY UPDATE next_eligible_at`. -/
def scheduleReclaim (gapId : String) (at' : DateTime) (schedule : List ReclaimScheduleRow) :
    List ReclaimScheduleRow :=
  if schedule.any fun row => row.gapId = gapId then
    updateWhere (fun row => row.gapId = gapId) (fun row => { row with nextEligibleAt := some at' })
      schedule
  else schedule ++ [⟨gapId, some at'⟩]

def ReclaimPolicy.apply (policy : ReclaimPolicy) (gapId : String) (now : DateTime)
    (schedule : List ReclaimScheduleRow) : List ReclaimScheduleRow :=
  match policy with
  | .terminal => schedule.filter fun row => row.gapId ≠ gapId
  | .backoff secs => scheduleReclaim gapId (now + seconds secs) schedule
  | .suspended => scheduleReclaim gapId SUSPENDED_UNTIL schedule

def findGap (gapId : String) (db : BackfillDb) : Option GapRow :=
  db.gaps.find? fun gap => gap.gapId = gapId

/-- The run has ended: a repetition of what ended it is a success. -/
def finalizeAgain (outcome : RunOutcome) (run : RunRow) : Tx Unit := fun db =>
  match findGap outcome.gapId db with
  | none => .error (.invalidData "gap not found on finalize retry")
  | some gap =>
    if gap.status = outcome.gapTargetStatus ∧ run.completeness = outcome.completeness then
      .ok ((), db)
    else .error (.invalidData ("backfill run " ++ outcome.runId ++ " is already " ++
      run.status.asStr ++ "/" ++ run.completeness.asStr ++ " but gap " ++ outcome.gapId ++ " is " ++
      gap.status.asStr))

def isBackfilling (gapId : String) (gap : GapRow) : Bool :=
  gap.gapId = gapId && gap.status = .backfilling

/-- A gap that is not being backfilled has to have the status of the outcome already. -/
def checkFinalizedGap (outcome : RunOutcome) (db : BackfillDb) : Except InboundEventStoreError Unit :=
  if 0 < db.gaps.countP (isBackfilling outcome.gapId) then .ok ()
  else
    match findGap outcome.gapId db with
    | none => .error (.invalidData "gap not found on finalize")
    | some gap =>
      if gap.status ≠ outcome.gapTargetStatus then
        .error (.invalidData ("gap " ++ outcome.gapId ++ " is in terminal state " ++
          gap.status.asStr ++ " and cannot be finalized to " ++ outcome.gapTargetStatus.asStr))
      else .ok ()

def finalizeRun (outcome : RunOutcome) (leaseToken : String) (now : DateTime) : Tx Unit :=
  fun db => do
    let run ← lockOwnedRun outcome.runId leaseToken db
    if run.gapId ≠ outcome.gapId then
      .error (.invalidData ("backfill run " ++ outcome.runId ++ " belongs to gap " ++ run.gapId ++
        ", not " ++ outcome.gapId))
    else if run.status ≠ .backfilling then finalizeAgain outcome run db
    else do
      checkFinalizedGap outcome db
      .ok ((), { db with
        gaps := moveGap outcome.gapId .backfilling outcome.gapTargetStatus now db.gaps
        runs := updateWhere (fun run => run.backfillRunId = outcome.runId) (outcome.complete now)
          db.runs
        schedule := outcome.reclaimPolicy.apply outcome.gapId now db.schedule })

end ServerRS.Backfill

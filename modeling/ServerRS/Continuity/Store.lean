import ServerRS.Backfill.Fencing

/-!
# Connection epochs and their gaps

Models `personal-secretary-mysql/src/repo/mysql_continuity.rs`, `known_scopes_for_gap` of
`mysql_backfill.rs`, and the two transactions of `mysql_realtime_spool.rs` that end the epochs which a
process has left behind. There is one gap for an epoch, inserted if it is absent, and what a gap has to
fetch is frozen by the transaction that inserts it.
-/

namespace ServerRS.Continuity

open Lib Backfill

/-! ## Rows -/

inductive ConnectionEndReason where
  | remoteClosed
  | transportError
  | processShutdown
  | observerRejected
  | heartbeatTimeout
deriving DecidableEq

def ConnectionEndReason.asStr : ConnectionEndReason → String
  | .remoteClosed => "remote_closed"
  | .transportError => "transport_error"
  | .processShutdown => "process_shutdown"
  | .observerRejected => "observer_rejected"
  | .heartbeatTimeout => "heartbeat_timeout"

/-- `secretary_connection_epochs`. -/
structure EpochRow where
  connectionEpochId : String
  accountId : ℕ
  status : ConnectionEpochStatus
  connectedAt : Option DateTime
  endedAt : Option DateTime
  endReason : Option String
deriving DecidableEq

/-- A row of `secretary_ingestion_cursors` for a conversation. -/
structure CursorRow where
  accountId : ℕ
  conversationId : ℕ
  lastPlatformEventId : String
  lastOccurredAtUnixSecs : Int
deriving DecidableEq

/-- `secretary_gap_boundaries`. -/
structure BoundaryRow where
  gapId : String
  accountId : ℕ
  conversationId : ℕ
  conversation : ConversationRef
  boundaryMessageId : String
  boundaryOccurredAtUnixSecs : Int
deriving DecidableEq

structure ContinuityDb where
  backfill : BackfillDb
  epochs : List EpochRow
  cursors : List CursorRow
  boundaries : List BoundaryRow
deriving DecidableEq

abbrev Tx (α : Type) := ContinuityDb → Except InboundEventStoreError (α × ContinuityDb)

def NO_PRIOR_CURSOR_BOUNDARY : String := "__non_message_history_signal_no_prior_cursor__"

namespace ContinuityDb

variable (db : ContinuityDb)

def gaps : List GapRow := db.backfill.gaps

def findEpoch (epochId : String) : Except InboundEventStoreError EpochRow :=
  match db.epochs.find? fun epoch => epoch.connectionEpochId = epochId with
  | some epoch => .ok epoch
  | none => .error (.invalidData "connection epoch not found")

def gapForEpoch (epochId : String) : Except InboundEventStoreError (Option String) :=
  match db.gaps.find? fun gap => gap.connectionEpochId = epochId with
  | none => .ok none
  | some gap => (requireIdentity "ingestion_gap_id" gap.gapId).map fun _ => some gap.gapId

end ContinuityDb

/-! ## Gaps -/

def newGap (accountId : ℕ) (epochId gapId : String) (now : DateTime) : GapRow where
  gapId
  accountId
  connectionEpochId := epochId
  gapEndedAt := none
  status := .uncertain
  updatedAt := now

def sameGapKey (gap other : GapRow) : Bool :=
  gap.gapId = other.gapId || gap.connectionEpochId = other.connectionEpochId

/-- `insert_gap_if_absent`, with the keys on the gap and on its epoch. -/
def insertGapIfAbsent (accountId : ℕ) (epochId gapId : String) (now : DateTime) (db : ContinuityDb) :
    Bool × ContinuityDb :=
  let gap := newGap accountId epochId gapId now
  if db.gaps.any (sameGapKey gap) then (false, db)
  else (true, { db with backfill := { db.backfill with gaps := db.gaps ++ [gap] } })

def BoundaryRow.conflicts (row other : BoundaryRow) : Bool :=
  row.gapId = other.gapId && row.conversationId = other.conversationId

/-- The boundaries that a gap of the account freezes: one for each cursor. -/
def cursorBoundaries (gapId : String) (accountId : ℕ) (db : ContinuityDb) : List BoundaryRow :=
  (db.cursors.filter fun cursor => cursor.accountId = accountId).filterMap fun cursor =>
    (db.backfill.conversations.find? fun row => row.id = cursor.conversationId).map fun row =>
      ⟨gapId, cursor.accountId, cursor.conversationId, row.conversation, cursor.lastPlatformEventId,
        cursor.lastOccurredAtUnixSecs⟩

/-- `snapshot_gap_boundaries`; a row that is there stays as it is. -/
def snapshotGapBoundaries (gapId : String) (accountId : ℕ) (db : ContinuityDb) : ContinuityDb :=
  { db with
    boundaries := insertIgnore BoundaryRow.conflicts db.boundaries (cursorBoundaries gapId accountId db) }

/-- The gap of the epoch, with what it has to fetch frozen if the gap is a new one. -/
def ensureGap (accountId : ℕ) (epochId gapId : String) (now : DateTime) (db : ContinuityDb) :
    Except InboundEventStoreError (Option String × ContinuityDb) := do
  let (created, db) := insertGapIfAbsent accountId epochId gapId now db
  let gap ← db.gapForEpoch epochId
  match gap with
  | none => .ok (none, db)
  | some gap => .ok (some gap, if created then snapshotGapBoundaries gap accountId db else db)

/-! ## Epochs -/

/-- `ensure_account_ref`; `newAccountId` is the number that a new account gets. -/
def ensureAccountRef (account : SourceAccountRef) (newAccountId : ℕ) (db : ContinuityDb) :
    ℕ × ContinuityDb :=
  match db.backfill.accounts.find? fun row => row.account = account with
  | some row => (row.id, db)
  | none =>
    (newAccountId,
      { db with backfill := { db.backfill with accounts :=
          db.backfill.accounts ++ [⟨newAccountId, account⟩] } })

def beginConnection (account : SourceAccountRef) (newAccountId : ℕ) (epochId : String) : Tx Unit :=
  fun db =>
    let (accountId, db) := ensureAccountRef account newAccountId db
    if db.epochs.any fun epoch => epoch.connectionEpochId = epochId then .error databaseError
    else .ok ((), { db with
      epochs := db.epochs ++ [⟨epochId, accountId, .connecting, none, none, none⟩] })

def updateEpoch (epochId : String) (set : EpochRow → EpochRow) (db : ContinuityDb) : ContinuityDb :=
  { db with epochs := updateWhere (fun epoch => epoch.connectionEpochId = epochId) set db.epochs }

/-- The windows of the account's gaps that are open end now. -/
def endGapWindows (accountId : ℕ) (now : DateTime) (gaps : List GapRow) : List GapRow :=
  updateWhere (fun gap => gap.accountId = accountId && gap.gapEndedAt.isNone)
    (fun gap => { gap with gapEndedAt := some now, updatedAt := now }) gaps

def markConnectionConnected (epochId : String) (now : DateTime) : Tx Unit := fun db => do
  let epoch ← db.findEpoch epochId
  if epoch.endedAt.isSome then
    .error (.invalidData "ended connection epoch cannot become connected")
  else
    let db := updateEpoch epochId
      (fun epoch => { epoch with status := .connected, connectedAt := some now }) db
    .ok ((), { db with
      backfill := { db.backfill with gaps := endGapWindows epoch.accountId now db.gaps } })

def endStatus (wasConnected : Bool) (reason : ConnectionEndReason) : ConnectionEpochStatus :=
  if !wasConnected then .connectFailed
  else if reason = .processShutdown then .shutdown
  else .disconnected

def finishConnection (epochId : String) (reason : ConnectionEndReason) (gapId : String)
    (now : DateTime) : Tx (Option String) := fun db => do
  let epoch ← db.findEpoch epochId
  if epoch.endedAt.isSome then do
    let gap ← db.gapForEpoch epochId
    .ok (gap, db)
  else
    let db := updateEpoch epochId (fun epoch => { epoch with
      status := endStatus epoch.connectedAt.isSome reason
      endedAt := some now
      endReason := some reason.asStr }) db
    if epoch.connectedAt.isNone then .ok (none, db)
    else ensureGap epoch.accountId epochId gapId now db

/-- `ensure_conversation_ref`; `newConversationId` is the number that a new conversation gets. -/
def ensureConversationRef (accountId : ℕ) (conversation : ConversationRef) (newConversationId : ℕ)
    (db : ContinuityDb) : ℕ × ContinuityDb :=
  match db.backfill.conversations.find? fun row =>
      row.accountId = accountId && row.conversation = conversation with
  | some row => (row.id, db)
  | none =>
    (newConversationId, { db with
      backfill := { db.backfill with
        conversations := db.backfill.conversations ++ [⟨newConversationId, accountId, conversation⟩] } })

/-- The boundary and the scope of a signal, where there are none. -/
def recordSignal (gapId : String) (accountId conversationId : ℕ) (conversation : ConversationRef)
    (db : ContinuityDb) : ContinuityDb :=
  { db with
    boundaries := insertIgnore BoundaryRow.conflicts db.boundaries
      [⟨gapId, accountId, conversationId, conversation, NO_PRIOR_CURSOR_BOUNDARY, 0⟩]
    backfill := { db.backfill with
      signalScopes := insertIgnore (fun row other => decide (row = other)) db.backfill.signalScopes
        [⟨gapId, conversationId⟩] } }

def connectedEpoch (epochId : String) (db : ContinuityDb) : Except InboundEventStoreError EpochRow :=
  match db.epochs.find? fun epoch => epoch.connectionEpochId = epochId && epoch.status = .connected with
  | some epoch => .ok epoch
  | none => .error (.invalidData "only a connected epoch can be marked uncertain")

def requireGap : Option String → Except InboundEventStoreError String
  | some gap => .ok gap
  | none => .error .unavailable

def checkSignalReason (reason : IngestionGapReason) (conversation : Option ConversationRef) :
    Except InboundEventStoreError Unit :=
  if conversation.isSome && reason ≠ .nonMessageReference then
    .error (.invalidData "conversation-scoped uncertainty requires a non-message reference")
  else .ok ()

/-- `mark_connection_uncertain_in_txn`. -/
def markConnectionUncertain (epochId : String) (reason : IngestionGapReason)
    (conversation : Option ConversationRef) (gapId : String) (newConversationId : ℕ)
    (now : DateTime) : Tx String := fun db => do
  checkSignalReason reason conversation
  let epoch ← connectedEpoch epochId db
  let (found, db) ← ensureGap epoch.accountId epochId gapId now db
  let gap ← requireGap found
  match conversation with
  | none => .ok (gap, db)
  | some conversation =>
    let (conversationId, db) := ensureConversationRef epoch.accountId conversation newConversationId db
    .ok (gap, recordSignal gap epoch.accountId conversationId conversation db)

/-- `verify_claim`; `claimed` says whether the claim of the epoch stands. -/
def verifyClaim (epochId : String) (claimed : Bool) (db : ContinuityDb) :
    Except InboundEventStoreError EpochRow :=
  match db.epochs.find? fun epoch => epoch.connectionEpochId = epochId && epoch.endedAt.isNone with
  | some epoch => if claimed then .ok epoch else .error .leaseLost
  | none => .error .leaseLost

def finalizeRecoveredConnectedEpoch (epochId : String) (claimed : Bool) (gapId : String)
    (now : DateTime) : Tx String := fun db => do
  let epoch ← verifyClaim epochId claimed db
  if epoch.status ≠ .connected then
    .error (.invalidData "spool connected recovery status mismatch")
  else
    let db := updateEpoch epochId (fun epoch => { epoch with
      status := .disconnected
      endedAt := some now
      endReason := some "spool_recovery" }) db
    let (found, db) ← ensureGap epoch.accountId epochId gapId now db
    let gap ← requireGap found
    .ok (gap, db)

def finishLegacyConnectingWithoutFrames (epochId : String) (claimed : Bool) (now : DateTime) : Tx Unit :=
  fun db => do
    let epoch ← verifyClaim epochId claimed db
    if epoch.status ≠ .connecting then
      .error (.invalidData "spool connecting recovery status mismatch")
    else
      .ok ((), updateEpoch epochId (fun epoch => { epoch with
        status := .connectFailed
        endedAt := some now
        endReason := some "spool_recovery_connect_failed" }) db)

/-! ## Scopes -/

/-- The conversations that `known_scopes_for_gap` names: all that are frozen once the window of the gap
is over, before that only those that a signal has named. -/
def knownScopesForGap (gap : GapRow) (db : ContinuityDb) : List ℕ :=
  (db.boundaries.filter fun row => row.gapId = gap.gapId && (gap.gapEndedAt.isSome ||
    db.backfill.signalScopes.any fun scope =>
      scope.gapId = row.gapId && scope.conversationId = row.conversationId)).map
        BoundaryRow.conversationId

end ServerRS.Continuity

import Mathlib.Data.List.ReduceOption
import ServerRS.Recalls.Tables
import ServerRS.Recovery.Replay

/-!
# The transactions

Models `insert_messages_if_absent` and `apply_pending_tombstone_in_txn` of
`personal-secretary-mysql/src/repo/mysql_inbound.rs`, `record_recall` and
`apply_pending_tombstone` of `mysql_recall.rs`, `create_artifact` of `mysql_artifact.rs` and the
steps of `mysql_artifact_derivation_helpers.inc.rs`. A transaction that fails is rolled back.

Of the insertion of a message the reply edges, the observed profiles and the continuity of the
connection are left out: they are in tables that no recall and no artifact reads.
-/

namespace ServerRS.Recalls

open Lib Recovery

/-- What the driver reports of a second row with the same key, in short. -/
def duplicateEntry : String := "Duplicate entry"

/-! ## Messages -/

/-- `UPDATE secretary_artifacts SET availability = 'recalled' WHERE source_event_id = ? AND
availability = 'available'`. -/
def invalidateArtifactsForSource (sourceEventId : SourceEventId) :
    List ArtifactEnvelope → List ArtifactEnvelope :=
  updateWhere
    (fun row => row.sourceEventId = sourceEventId && row.availability = .available)
    ArtifactEnvelope.markRecalled

def awaits (account : SourceAccountRef) (key : String) (row : TombstoneRow) : Bool :=
  row.account = account && row.correlationKey = key && row.status = .pending

def TombstoneRow.apply (sourceEventId : SourceEventId) (now : Int) (row : TombstoneRow) :
    TombstoneRow :=
  { row with
    sourceEventId := some sourceEventId
    status := .applied
    invalidationReason := "original message arrived after recall"
    invalidatedAtUnixSecs := now }

/-- A pending tombstone with the key is linked to the message, and its artifacts are withdrawn. -/
def applyPending (account : SourceAccountRef) (key : String) (sourceEventId : SourceEventId)
    (now : Int) (db : RecallDb) : RecallDb :=
  if db.tombstones.any (awaits account key) then
    { db with
      tombstones := updateWhere (awaits account key) (TombstoneRow.apply sourceEventId now)
        db.tombstones
      artifacts := invalidateArtifactsForSource sourceEventId db.artifacts }
  else db

/-- The key that `apply_pending_tombstone_in_txn` puts together. -/
def messageKey (message : InboundMessageEnvelope) : String :=
  joinKey message.source.channel.asStr message.source.accountId message.conversation.kind.asStr
    message.conversation.id message.source.messageId

def applyPendingTombstoneInTxn (message : InboundMessageEnvelope) (sourceEventId : SourceEventId)
    (now : Int) (db : RecallDb) : RecallDb :=
  applyPending message.source.accountRef (messageKey message) sourceEventId now db

def ensureAccount (account : SourceAccountRef) (db : RecallDb) : RecallDb :=
  { db with accounts := insertIgnore (· == ·) db.accounts [account] }

def ensureConversation (account : SourceAccountRef) (conversation : ConversationRef)
    (db : RecallDb) : RecallDb :=
  { db with conversations := insertIgnore (· == ·) db.conversations [(account, conversation)] }

/-- `uk_secretary_source_delivery`. -/
def SourceEventRow.isDelivery (account : SourceAccountRef) (platformEventId : String)
    (row : SourceEventRow) : Bool :=
  row.account = account && row.platformEventId = platformEventId

def messageRow (message : InboundMessageEnvelope) (sourceEventId : SourceEventId) :
    SourceEventRow where
  sourceEventId := sourceEventId
  account := message.source.accountRef
  conversation := message.conversation
  sourceChannel := message.source.channel
  platformEventId := message.source.messageId
  eventType := .message
  occurredAtUnixSecs := message.occurredAtUnixSecs

/-- The rows of a message that was not stored before. -/
def insertRows (message : InboundMessageEnvelope) (sourceEventId : SourceEventId) (now : Int)
    (db : RecallDb) : RecallDb :=
  { db with
    events := db.events ++ [messageRow message sourceEventId]
    contents := db.contents ++ [⟨sourceEventId, message.segments⟩]
    derivations := insertIgnore (fun a b => a.sourceEventId == b.sourceEventId) db.derivations
      [⟨sourceEventId, .pending, 0, none, none, none, now⟩] }

/-- `proposed` is drawn by `Uuid::new_v4`; a draw that is the id of a stored event fails. -/
def processMessageInTransaction (now : Int) (db : RecallDb)
    (arrival : InboundMessageEnvelope × SourceEventId) : Except InboundEventStoreError RecallDb :=
  let (message, proposed) := arrival
  let account := message.source.accountRef
  let db := ensureConversation account message.conversation (ensureAccount account db)
  match db.events.find? (SourceEventRow.isDelivery account message.source.messageId) with
  | some stored => .ok (applyPendingTombstoneInTxn message stored.sourceEventId now db)
  | none =>
    if db.events.any fun row => row.sourceEventId = proposed then .error (.database duplicateEntry)
    else .ok (applyPendingTombstoneInTxn message proposed now (insertRows message proposed now db))

def InboundIdentityError.text : InboundIdentityError → String
  | .emptyField field => field ++ " must not be empty"
  | .negativeTimestamp secs => "occurred_at_unix_secs must not be negative, got " ++ toString secs
  | .invalid text => "invalid inbound value: " ++ text

def validateAll (arrivals : List (InboundMessageEnvelope × SourceEventId)) :
    Except InboundEventStoreError Unit :=
  arrivals.forM fun arrival =>
    arrival.1.validate.mapError fun error => .invalidData (InboundIdentityError.text error)

def insertMessagesIfAbsent (arrivals : List (InboundMessageEnvelope × SourceEventId)) (now : Int)
    (db : RecallDb) : Except InboundEventStoreError RecallDb :=
  match validateAll arrivals with
  | .error error => .error error
  | .ok () => arrivals.foldlM (processMessageInTransaction now) db

/-! ## Recalls -/

inductive RecallStoreError where
  | invalidData (text : String)
  | unavailable (text : String)
  | database (text : String)
deriving DecidableEq

/-- `resolve_account_id` finds no row. -/
def accountMissing (account : SourceAccountRef) : String :=
  "invalid inbound event data: account not found: " ++ account.channel.asStr ++ "/" ++
    account.accountId ++ ")"

/-- The recall as an event of its own. -/
def RecallEvent.sourceRow (event : RecallEvent) : SourceEventRow where
  sourceEventId := event.recallEventId
  account := event.account
  conversation := event.correlation.conversation
  sourceChannel := event.correlation.channel
  platformEventId := "recall:" ++ event.recallEventId.asStr
  eventType := .recallNotice
  occurredAtUnixSecs := event.occurredAtUnixSecs

def RecallEvent.row (event : RecallEvent) : RecallEventRow where
  recallEventId := event.recallEventId
  account := event.account
  recallKind := event.kind
  channel := event.correlation.channel
  conversation := event.correlation.conversation
  platformMessageId := event.correlation.platformMessageId
  correlationKey := keyString event.correlation
  operatorPlatformId := event.operatorPlatformId
  occurredAtUnixSecs := event.occurredAtUnixSecs

/-- The tombstone of a recall, with the message if it is stored. -/
def RecallEvent.tombstone (event : RecallEvent) (source : Option SourceEventRow) :
    TombstoneRow where
  account := event.account
  sourceEventId := source.map SourceEventRow.sourceEventId
  recallEventId := event.recallEventId
  channel := event.correlation.channel
  conversation := event.correlation.conversation
  platformMessageId := event.correlation.platformMessageId
  correlationKey := keyString event.correlation
  status := if source.isSome then .applied else .pending
  invalidationReason :=
    if source.isSome then "message recalled" else "recall arrived before original message"
  invalidatedAtUnixSecs := event.occurredAtUnixSecs

/-- `uk_secretary_tombstone_correlation`. -/
def TombstoneRow.sameCorrelation (a b : TombstoneRow) : Bool :=
  a.account = b.account && a.correlationKey = b.correlationKey

/-- `INSERT … ON DUPLICATE KEY UPDATE`. -/
def upsertTombstone (row : TombstoneRow) (rows : List TombstoneRow) : List TombstoneRow :=
  if rows.any row.sameCorrelation then
    updateWhere row.sameCorrelation (fun old => { old with
      sourceEventId := row.sourceEventId
      status := row.status
      invalidationReason := row.invalidationReason
      invalidatedAtUnixSecs := row.invalidatedAtUnixSecs }) rows
  else rows ++ [row]

/-- The primary key and `uk_secretary_recall_correlation`. -/
def RecallEventRow.conflicts (a b : RecallEventRow) : Bool :=
  a.recallEventId = b.recallEventId || a.account = b.account && a.correlationKey = b.correlationKey

/-- The lookup of the recalled message. -/
def RecallEvent.names (event : RecallEvent) (row : SourceEventRow) : Bool :=
  row.account = event.account && row.conversation = event.correlation.conversation &&
    row.platformEventId = event.correlation.platformMessageId

def isRecordedKey (event : RecallEvent) (row : RecallEventRow) : Bool :=
  row.account = event.account && row.correlationKey = keyString event.correlation

/-- The rows of a recall that was not recorded before. -/
def insertRecall (event : RecallEvent) (db : RecallDb) : RecallDb :=
  let db := ensureConversation event.account event.correlation.conversation db
  let events := db.events ++ [event.sourceRow]
  let source := events.find? event.names
  { db with
    events
    recallEvents := insertIgnore RecallEventRow.conflicts db.recallEvents [event.row]
    tombstones := upsertTombstone (event.tombstone source) db.tombstones
    artifacts := match source with
      | some row => invalidateArtifactsForSource row.sourceEventId db.artifacts
      | none => db.artifacts }

def recordRecall (event : RecallEvent) (db : RecallDb) :
    Except RecallStoreError (RecallDb × TombstoneStatus) :=
  if event.account ∉ db.accounts then .error (.database (accountMissing event.account))
  else if db.recallEvents.any (isRecordedKey event) then .ok (db, .idempotentReapply)
  else if db.events.any fun row => row.sourceEventId = event.recallEventId ||
      row.isDelivery event.account ("recall:" ++ event.recallEventId.asStr) then
    .error (.database duplicateEntry)
  else
    .ok (insertRecall event db,
      if ((db.events ++ [event.sourceRow]).find? event.names).isSome then .applied else .pending)

/-- `is_recalled`: an applied tombstone points at the event. -/
def RecallDb.isRecalled (db : RecallDb) (account : SourceAccountRef) (sourceEventId : SourceEventId) :
    Bool :=
  db.tombstones.any fun row =>
    row.account = account && row.sourceEventId = some sourceEventId && row.status = .applied

/-- `apply_pending_tombstone`, in a transaction of its own. -/
def applyPendingTombstone (correlation : RecallCorrelationKey) (sourceEventId : SourceEventId)
    (now : Int) (db : RecallDb) : RecallDb :=
  applyPending correlation.account (keyString correlation) sourceEventId now db

/-! ## Artifacts -/

inductive ArtifactStoreError where
  | invalidData (text : String)
  | unavailable (text : String)
  | database (text : String)
deriving DecidableEq

def sameArtifact (a b : ArtifactEnvelope) : Bool := a.artifactId = b.artifactId

def createArtifact (envelope : ArtifactEnvelope) (db : RecallDb) :
    Except ArtifactStoreError RecallDb :=
  if envelope.account ∉ db.accounts then .error (.database (accountMissing envelope.account))
  else if !db.events.any fun row =>
      row.sourceEventId = envelope.sourceEventId && row.account = envelope.account then
    .error (.invalidData "artifact source event is missing or belongs to another account")
  else if (envelope.account, envelope.conversation) ∉ db.conversations then
    .error (.invalidData "conversation not found for account")
  else
    let recalled := db.isRecalled envelope.account envelope.sourceEventId
    let row := if recalled then envelope.markRecalled else envelope
    .ok { db with artifacts := insertIgnore sameArtifact db.artifacts [row] }

/-! ## Derivation -/

/-- What a claim hands to the worker. -/
structure DerivationRow where
  sourceEventId : SourceEventId
  account : SourceAccountRef
  conversation : ConversationRef
  occurredAtUnixSecs : Int
  segments : List ContentSegment
  recalled : Bool
deriving DecidableEq

def DerivationJobRow.expired (now : Int) (row : DerivationJobRow) : Bool :=
  row.status = .claimed && row.leaseExpiresAt.any (· < now)

def DerivationJobRow.release (code : String) (row : DerivationJobRow) : DerivationJobRow :=
  { row with
    status := .pending
    leaseToken := none
    leaseExpiresAt := none
    lastErrorCode := some code }

/-- The rows that the claim selects: pending jobs that are not locked, joined to their event and
its content. -/
def claimable (isLocked : SourceEventId → Bool) (db : RecallDb) :
    List (DerivationJobRow × DerivationRow) :=
  db.derivations.filterMap fun job =>
    if job.status ≠ .pending ∨ isLocked job.sourceEventId then none
    else
      match db.events.find? fun row => row.sourceEventId = job.sourceEventId,
        db.contents.find? fun row => row.sourceEventId = job.sourceEventId with
      | some event, some content =>
        some (job, ⟨event.sourceEventId, event.account, event.conversation,
          event.occurredAtUnixSecs, content.segments,
          db.isRecalled event.account event.sourceEventId⟩)
      | _, _ => none

def claimOrder (row : DerivationJobRow × DerivationRow) : ℤ ×ₗ String :=
  toLex (row.1.createdAt, row.1.sourceEventId.asStr)

/-- `lease` is drawn by `Uuid::new_v4`; `isLocked` are the rows that `SKIP LOCKED` passes over. -/
def claimArtifactDerivation (now : Int) (lease : String) (isLocked : SourceEventId → Bool)
    (db : RecallDb) : Except ArtifactStoreError (RecallDb × Option (DerivationRow × String)) :=
  let db := { db with
    derivations := updateWhere (DerivationJobRow.expired now)
      (DerivationJobRow.release "lease_expired") db.derivations }
  match firstRows claimOrder 1 (claimable isLocked db) with
  | [] => .ok (db, none)
  | (_, row) :: _ =>
    let isJob (job : DerivationJobRow) : Bool :=
      job.sourceEventId = row.sourceEventId && job.status = .pending
    if db.derivations.countP isJob ≠ 1 then
      .error (.database "artifact derivation lease lost")
    else
      .ok ({ db with
        derivations := updateWhere isJob (fun job => { job with
          status := .claimed
          attempts := job.attempts + 1
          leaseToken := some lease
          leaseExpiresAt := some (now + 60)
          lastErrorCode := none }) db.derivations }, some (row, lease))

inductive DerivationFailure where
  | permanent (code : String)
  | retryable (text : String)
deriving DecidableEq

/-- `(default_ttl_secs > 0).then(|| occurred_at.saturating_add(default_ttl_secs as i64))`. -/
def ttlOf (defaultTtlSecs : UInt64) (occurredAt : Int) : Option Int :=
  if defaultTtlSecs = 0 then none
  else some (max (-2 ^ 63) (min (2 ^ 63 - 1) (occurredAt + defaultTtlSecs.toInt64.toInt)))

/-- What an artifact takes from its segment: reference, name and description. -/
def segmentFields : ContentSegment → Option (String × Option String × Option String)
  | .media _ sourceKey _ displayName => some (sourceKey, displayName, none)
  | .forward sourceKey => some (sourceKey, none, none)
  | .rich _ sourceKey summary => some (sourceKey, none, summary)
  | _ => none

def envelopeForSegment (newV5 : String → String) (row : DerivationRow) (ttl : Option Int)
    (ordinal : ℕ) (segment : ContentSegment) :
    Except DerivationFailure (Option ArtifactEnvelope) :=
  match artifactKind segment, segmentFields segment with
  | some kind, some (reference, displayName, description) =>
    match ArtifactEnvelope.new
      (ArtifactId.forSourceSegment newV5 row.sourceEventId ordinal kind) row.account
      row.sourceEventId row.conversation kind reference .normal row.occurredAtUnixSecs ttl with
    | .error _ => .error (.permanent "invalid_artifact_envelope")
    | .ok envelope =>
      let envelope := if displayName.isSome then envelope.withDisplayName displayName else envelope
      .ok (some (if description.isSome then envelope.withDescription description else envelope))
  | _, _ => .ok none

/-- The artifacts that the claimed row asks for, marked by the flag read with the claim. -/
def derivedEnvelopes (newV5 : String → String) (row : DerivationRow) (defaultTtlSecs : UInt64) :
    Except DerivationFailure (List ArtifactEnvelope) := do
  let envelopes ← row.segments.zipIdx.mapM fun (segment, ordinal) =>
    envelopeForSegment newV5 row (ttlOf defaultTtlSecs row.occurredAtUnixSecs) ordinal segment
  .ok (envelopes.reduceOption.map fun envelope =>
    if row.recalled then envelope.markRecalled else envelope)

def deriveClaimedArtifacts (newV5 : String → String) (row : DerivationRow) (defaultTtlSecs : UInt64)
    (db : RecallDb) : Except DerivationFailure RecallDb := do
  let envelopes ← derivedEnvelopes newV5 row defaultTtlSecs
  .ok { db with artifacts := insertIgnore sameArtifact db.artifacts envelopes }

def updateDerivationStatus (sourceEventId : SourceEventId) (lease : String)
    (set : DerivationJobRow → DerivationJobRow) (db : RecallDb) : Except ArtifactStoreError RecallDb :=
  let isHeld (job : DerivationJobRow) : Bool :=
    job.sourceEventId = sourceEventId && job.status = .claimed && job.leaseToken = some lease
  if db.derivations.countP isHeld ≠ 1 then .error (.database "artifact derivation lease lost")
  else .ok { db with derivations := updateWhere isHeld set db.derivations }

def DerivationJobRow.finish (status : DerivationStatus) (code : Option String)
    (row : DerivationJobRow) : DerivationJobRow :=
  { row with
    status
    leaseToken := none
    leaseExpiresAt := none
    lastErrorCode := code }

def completeArtifactDerivation (sourceEventId : SourceEventId) (lease : String) :
    RecallDb → Except ArtifactStoreError RecallDb :=
  updateDerivationStatus sourceEventId lease (DerivationJobRow.finish .completed none)

def failArtifactDerivation (sourceEventId : SourceEventId) (lease code : String) :
    RecallDb → Except ArtifactStoreError RecallDb :=
  updateDerivationStatus sourceEventId lease (DerivationJobRow.finish .failed (some code))

def retryArtifactDerivation (sourceEventId : SourceEventId) (lease : String) :
    RecallDb → Except ArtifactStoreError RecallDb :=
  updateDerivationStatus sourceEventId lease (DerivationJobRow.release "store_unavailable")

end ServerRS.Recalls

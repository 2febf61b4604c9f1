import Mathlib.Data.List.Sort
import ServerRS.ActionStore.Store

/-!
# The outbox of the responses to the Owner

Models `MySqlOwnerResponseDeliveryStore` of `mysql_owner_response_delivery.rs`, with the identifiers
and the targets of `owner_response_delivery_service.rs`. `claim_pending_response` is one transaction:
an error rolls back what its first statements wrote. A response is kept as the draft that its JSON
text was made from, and the only field of a gateway event that is read is `group_openid`.
-/

namespace ServerRS.OwnerResponse

open Lib ActionStore

/-! ## Identifiers, targets and failures -/

/-- `$name::new` of `bounded_id!`. -/
def validateBoundedId (field value : String) : Except InboundEventStoreError Unit :=
  if isBlank value || value.utf8ByteSize > 36 || value.toList.any (fun c => c.toNat ≥ 128) then
    .error (.invalidData (field ++ " must contain 1..=36 bytes"))
  else .ok ()

/-- The newtypes of `bounded_id!`. -/
structure BoundedId (field : String) where
  asStr : String
  valid : validateBoundedId field asStr = .ok ()
deriving DecidableEq

abbrev OwnerResponseId := BoundedId "owner response id"

abbrev OwnerResponseLeaseToken := BoundedId "owner response lease token"

def BoundedId.new (field value : String) : Except InboundEventStoreError (BoundedId field) :=
  match h : validateBoundedId field value with
  | .ok () => .ok ⟨value, h⟩
  | .error error => .error error

structure OwnerResponseDeliveryScope where
  managedAccount : SourceAccountRef
  commandAccount : SourceAccountRef
  ownerActorId : String
  commandChannel : commandAccount.channel = .qqOpenPlatform
  ownerActorIdBounded : isBlank ownerActorId = false ∧ ownerActorId.utf8ByteSize ≤ 191

inductive OwnerResponseTarget where
  | c2c
  | group (groupOpenid : String)
deriving DecidableEq

/-- `OwnerResponseTarget::group`. -/
def OwnerResponseTarget.newGroup (groupOpenid : String) :
    Except InboundEventStoreError OwnerResponseTarget :=
  if isBlank groupOpenid || groupOpenid.utf8ByteSize > 191 then
    .error (.invalidData "owner response group target must contain 1..=191 bytes")
  else .ok (.group groupOpenid)

inductive NotificationFailureKind where
  | retryable
  | permanent
  | unknownCommit
deriving DecidableEq

/-! ## Rows -/

inductive DeliveryStatus where
  | pending
  | claimed
  | delivered
  | failed
  | suppressed
  | unknownCommit
deriving DecidableEq

structure OutboxRow where
  responseId : String
  status : DeliveryStatus := .pending
  attempts : ℕ := 0
  leaseToken : Option String := none
  leaseExpiresAt : Option Timestamp := none
  nextEligibleAt : Option Timestamp := none
  lastErrorCode : Option String := none
  platformMessageId : Option String := none
  deliveredAt : Option Timestamp := none
deriving DecidableEq

/-- The columns of `secretary_source_events` that the action store does not read. -/
structure CommandEventRow where
  sourceEventId : SourceEventId
  platformEventId : String
  occurredAtUnixSecs : Int
deriving DecidableEq

inductive QqGatewayEventKind where
  | c2cMessage
  | groupAtMessage
  | groupMessage
deriving DecidableEq

/-- A row of `secretary_qq_raw_events`, with `$.d.group_openid` of its envelope. -/
structure RawEventRow where
  sourceEventId : SourceEventId
  eventKind : QqGatewayEventKind
  groupOpenid : Option String
deriving DecidableEq

/-- The database of the action store, with what the delivery reads and writes beside it.
`invalidated` names the responses whose column of this name is set. -/
structure DeliveryDb where
  action : ActionDb
  events : List CommandEventRow := []
  rawEvents : List RawEventRow := []
  invalidated : List String := []
  outbox : List OutboxRow := []

namespace DeliveryDb

variable (db : DeliveryDb)

def runOf (response : ActionResponseRow) : Option ActionRunRow :=
  db.action.runs.find? fun run => run.runId = response.runId

def isAccount (account : SourceAccountRef) (accountId : ℕ) : Bool :=
  db.action.directory.accounts.any fun row =>
    row.id = accountId ∧ row.sourceChannel = account.channel ∧
      row.platformAccountId = account.accountId

/-- The run of the response belongs to the managed account. -/
def isManaged (scope : OwnerResponseDeliveryScope) (response : ActionResponseRow) : Bool :=
  (db.runOf response).any fun run => db.isAccount scope.managedAccount run.accountId

def commandEvent (response : ActionResponseRow) : Option CommandEventRow :=
  (db.runOf response).bind fun run =>
    db.events.find? fun event => event.sourceEventId = run.commandSourceEventId

/-- The gateway event of the command, where it is of a kind that is answered. -/
def gatewayEvent (response : ActionResponseRow) : Option RawEventRow :=
  (db.runOf response).bind fun run => db.rawEvents.find? fun raw =>
    raw.sourceEventId = run.commandSourceEventId ∧
      (raw.eventKind = .c2cMessage ∨ raw.eventKind = .groupAtMessage)

/-- The binding of the managed account to the sender of the command is active. -/
def isBound (run : ActionRunRow) (command : SourceEventRow) : Bool :=
  db.action.directory.ownerBindings.any fun binding =>
    binding.managedAccountId = run.accountId ∧ binding.commandAccountId = command.accountId ∧
      binding.ownerActorId = command.actorPlatformId ∧ binding.isActive

def isOwnerCommand (scope : OwnerResponseDeliveryScope) (run : ActionRunRow)
    (command : SourceEventRow) : Bool :=
  command.sourceEventId = run.commandSourceEventId ∧
    db.isAccount scope.commandAccount command.accountId ∧ db.isBound run command ∧
    command.sourceChannel = .qqOpenPlatform ∧ command.eventType = .message ∧
    command.actorKind = .owner ∧ command.messageRole = .ownerCommand ∧
    command.actorPlatformId = scope.ownerActorId

/-- What both the materialisation and the claim join a response with. -/
def isAuthorized (scope : OwnerResponseDeliveryScope) (response : ActionResponseRow) : Bool :=
  (db.gatewayEvent response).isSome &&
    (db.runOf response).any fun run =>
      run.status = .completed ∧ db.isAccount scope.managedAccount run.accountId ∧
        db.action.directory.sourceEvents.any fun command => db.isOwnerCommand scope run command

def isInvalidated (response : ActionResponseRow) : Bool :=
  response.responseId ∈ db.invalidated

end DeliveryDb

/-- `ORDER BY response.created_at, response.response_id`. -/
def ActionResponseRow.listedBefore (response other : ActionResponseRow) : Prop :=
  response.createdAt < other.createdAt ∨
    response.createdAt = other.createdAt ∧ response.responseId ≤ other.responseId

instance : DecidableRel ActionResponseRow.listedBefore := fun response other =>
  inferInstanceAs (Decidable (response.createdAt < other.createdAt ∨
    response.createdAt = other.createdAt ∧ response.responseId ≤ other.responseId))

def oldestFirst (responses : List ActionResponseRow) : List ActionResponseRow :=
  responses.insertionSort ActionResponseRow.listedBefore

/-! ## Claiming -/

def MATERIALIZE_LIMIT : ℕ := 100

/-- The first statement of the claim: the completed responses that have no row yet. -/
def materialize (scope : OwnerResponseDeliveryScope) (db : DeliveryDb) : DeliveryDb :=
  let candidates := db.action.responses.filter fun response =>
    !db.isInvalidated response && !db.outbox.any (fun row => row.responseId = response.responseId) &&
      db.isAuthorized scope response
  let rows := ((oldestFirst candidates).take MATERIALIZE_LIMIT).map fun response =>
    ({ responseId := response.responseId } : OutboxRow)
  { db with outbox := insertIgnore (fun a b => a.responseId = b.responseId) db.outbox rows }

/-- What the second statement writes into a row that has left the reply window. -/
def OutboxRow.expireContext (row : OutboxRow) : OutboxRow :=
  { row with
    status := .failed
    lastErrorCode := some "reply_context_expired"
    leaseToken := none
    leaseExpiresAt := none
    nextEligibleAt := none }

def leftReplyWindow (scope : OwnerResponseDeliveryScope) (cutoff : Int) (db : DeliveryDb)
    (row : OutboxRow) : Bool :=
  row.status = .pending ∧ db.action.responses.any fun response =>
    response.responseId = row.responseId ∧ db.isManaged scope response ∧
      (db.commandEvent response).any fun event => event.occurredAtUnixSecs < cutoff

def expireReplyContexts (scope : OwnerResponseDeliveryScope) (cutoff : Int) (db : DeliveryDb) :
    DeliveryDb :=
  { db with outbox := updateWhere (leftReplyWindow scope cutoff db) (·.expireContext) db.outbox }

/-- What the third statement writes into a row whose lease is over: nobody knows whether the request
was sent. -/
def OutboxRow.expireLease (row : OutboxRow) : OutboxRow :=
  { row with
    status := .unknownCommit
    lastErrorCode := some "lease_expired_in_flight"
    leaseToken := none
    leaseExpiresAt := none
    nextEligibleAt := none }

def leaseIsOver (scope : OwnerResponseDeliveryScope) (utc : Timestamp) (db : DeliveryDb)
    (row : OutboxRow) : Bool :=
  row.status = .claimed ∧ row.leaseExpiresAt.any (· < utc) ∧ db.action.responses.any fun response =>
    response.responseId = row.responseId ∧ db.isManaged scope response

def expireLeases (scope : OwnerResponseDeliveryScope) (utc : Timestamp) (db : DeliveryDb) :
    DeliveryDb :=
  { db with outbox := updateWhere (leaseIsOver scope utc db) (·.expireLease) db.outbox }

/-- `OwnerResponseClaimRow`; `event_kind` and `group_openid` are those of the gateway event. -/
structure OwnerResponseClaimRow where
  responseId : String
  response : OwnerResponseDraft
  replyToPlatformMessageId : String
  rawEvent : RawEventRow
deriving DecidableEq

def isDue (utc : Timestamp) (db : DeliveryDb) (response : ActionResponseRow) : Bool :=
  db.outbox.any fun row => row.responseId = response.responseId ∧ row.status = .pending ∧
    row.nextEligibleAt.all (· ≤ utc)

/-- The columns of the select, for a command within the reply window. -/
def claimRow (cutoff : Int) (db : DeliveryDb) (response : ActionResponseRow) :
    Option OwnerResponseClaimRow := do
  let event ← (db.commandEvent response).filter fun event => cutoff ≤ event.occurredAtUnixSecs
  let raw ← db.gatewayEvent response
  pure ⟨response.responseId, response.response, event.platformEventId, raw⟩

/-- The select, in its order and without its limit. -/
def waiting (scope : OwnerResponseDeliveryScope) (cutoff : Int) (utc : Timestamp) (db : DeliveryDb) :
    List OwnerResponseClaimRow :=
  (oldestFirst (db.action.responses.filter fun response =>
    isDue utc db response && !db.isInvalidated response && db.isAuthorized scope response)).filterMap
      (claimRow cutoff db)

structure ClaimedOwnerResponse where
  responseId : OwnerResponseId
  leaseToken : OwnerResponseLeaseToken
  draft : OwnerResponseDraft
  replyToPlatformMessageId : String
  target : OwnerResponseTarget
deriving DecidableEq

def checkNotInvalidated (draft : OwnerResponseDraft) : Except InboundEventStoreError Unit :=
  if draft.invalidated then .error (.invalidData "claimed owner response draft is invalidated")
  else .ok ()

def replyTarget (raw : RawEventRow) : Except InboundEventStoreError OwnerResponseTarget :=
  match raw.eventKind, raw.groupOpenid with
  | .c2cMessage, _ => .ok .c2c
  | .groupAtMessage, some groupOpenid => OwnerResponseTarget.newGroup groupOpenid
  | .groupAtMessage, none =>
    .error (.invalidData "authoritative group reply event has no group target")
  | .groupMessage, _ =>
    .error (.invalidData "owner response has an unsupported gateway event kind")

def OutboxRow.claim (token : OwnerResponseLeaseToken) (leaseExpires : Timestamp) (row : OutboxRow) :
    OutboxRow :=
  { row with
    status := .claimed
    attempts := row.attempts + 1
    leaseToken := some token.asStr
    leaseExpiresAt := some leaseExpires
    nextEligibleAt := none
    lastErrorCode := none }

/-- `UPDATE secretary_owner_response_outbox SET set WHERE cond`, and the check of the one row. -/
def updateOutbox (cond : OutboxRow → Bool) (set : OutboxRow → OutboxRow) (db : DeliveryDb) :
    Except InboundEventStoreError DeliveryDb :=
  if db.outbox.countP cond = 1 then .ok { db with outbox := updateWhere cond set db.outbox }
  else .error .leaseLost

/-- From the selected row to the commit. -/
def handOut (token : OwnerResponseLeaseToken) (leaseExpires : Timestamp)
    (row : OwnerResponseClaimRow) (db : DeliveryDb) :
    Except InboundEventStoreError (ClaimedOwnerResponse × DeliveryDb) := do
  checkNotInvalidated row.response
  let responseId ← BoundedId.new "owner response id" row.responseId
  let target ← replyTarget row.rawEvent
  let db ← updateOutbox (fun outbox => outbox.responseId = responseId.asStr ∧ outbox.status = .pending)
    (·.claim token leaseExpires) db
  .ok (⟨responseId, token, row.response, row.replyToPlatformMessageId, target⟩, db)

/-- The arguments of a claim; `utc` is `UTC_TIMESTAMP(6)`, and `token` the one it generates. -/
structure ClaimArgs where
  scope : OwnerResponseDeliveryScope
  nowUnixSecs : Int
  leaseSecs : ℕ
  maxReplyAgeSecs : ℕ
  utc : Timestamp
  token : OwnerResponseLeaseToken

namespace ClaimArgs

variable (args : ClaimArgs)

def isBounded : Bool :=
  0 ≤ args.nowUnixSecs ∧ (1 ≤ args.leaseSecs ∧ args.leaseSecs ≤ 3600) ∧
    (30 ≤ args.maxReplyAgeSecs ∧ args.maxReplyAgeSecs ≤ 300)

def cutoff : Int := args.nowUnixSecs - args.maxReplyAgeSecs

def leaseExpires : Timestamp := args.utc + args.leaseSecs * microsPerSec

/-- The tables after the first three statements. -/
def prepare (db : DeliveryDb) : DeliveryDb :=
  expireLeases args.scope args.utc (expireReplyContexts args.scope args.cutoff
    (materialize args.scope db))

/-- The rows that the claim selects the first of. -/
def queue (db : DeliveryDb) : List OwnerResponseClaimRow :=
  waiting args.scope args.cutoff args.utc (args.prepare db)

end ClaimArgs

def claimPendingResponse (args : ClaimArgs) (db : DeliveryDb) :
    Except InboundEventStoreError (Option ClaimedOwnerResponse × DeliveryDb) :=
  if !args.isBounded then .error (.invalidData "owner response claim bounds are invalid")
  else
    match args.queue db with
    | [] => .ok (none, args.prepare db)
    | row :: _ =>
      (handOut args.token args.leaseExpires row (args.prepare db)).map fun handed =>
        (some handed.1, handed.2)

/-! ## Reports -/

/-- The row is claimed under this token, and the lease is not over. -/
def isLeased (responseId : OwnerResponseId) (token : OwnerResponseLeaseToken) (utc : Timestamp)
    (row : OutboxRow) : Bool :=
  row.responseId = responseId.asStr ∧ row.status = .claimed ∧ row.leaseToken = some token.asStr ∧
    row.leaseExpiresAt.any (utc ≤ ·)

def OutboxRow.deliver (platformMessageId : String) (utc : Timestamp) (row : OutboxRow) : OutboxRow :=
  { row with
    status := .delivered
    platformMessageId := some platformMessageId
    deliveredAt := some utc
    leaseToken := none
    leaseExpiresAt := none
    nextEligibleAt := none
    lastErrorCode := none }

def markResponseDelivered (responseId : OwnerResponseId) (token : OwnerResponseLeaseToken)
    (platformMessageId : String) (utc : Timestamp) (db : DeliveryDb) :
    Except InboundEventStoreError DeliveryDb :=
  updateOutbox (isLeased responseId token utc) (·.deliver platformMessageId utc) db

def NotificationFailureKind.status : NotificationFailureKind → DeliveryStatus
  | .retryable => .pending
  | .permanent => .failed
  | .unknownCommit => .unknownCommit

/-- `next_eligible_sql`: a retry waits longer after each attempt, five minutes at most. -/
def NotificationFailureKind.nextEligibleAt (attempts : ℕ) (utc : Timestamp) :
    NotificationFailureKind → Option Timestamp
  | .retryable => some (utc + (min 300 (2 ^ min (attempts - 1) 8) : ℕ) * microsPerSec)
  | .permanent => none
  | .unknownCommit => none

def OutboxRow.fail (kind : NotificationFailureKind) (errorCode : String) (utc : Timestamp)
    (row : OutboxRow) : OutboxRow :=
  { row with
    status := kind.status
    lastErrorCode := some errorCode
    leaseToken := none
    leaseExpiresAt := none
    nextEligibleAt := kind.nextEligibleAt row.attempts utc }

def markResponseFailed (responseId : OwnerResponseId) (token : OwnerResponseLeaseToken)
    (errorCode : String) (kind : NotificationFailureKind) (utc : Timestamp) (db : DeliveryDb) :
    Except InboundEventStoreError DeliveryDb :=
  updateOutbox (isLeased responseId token utc) (·.fail kind errorCode utc) db

end ServerRS.OwnerResponse

import ServerRS.Lib.Exec
import ServerRS.Lib.Table
import ServerRS.Domain.Response

/-!
# The tables of the action store

Models the rows that `personal-secretary-mysql/src/repo/mysql_action_store` reads and writes,
the identifiers and errors of `application/action_graph/port.rs`, and
`owner_authorization.rs`.

A table is the list of its rows, in the order of its index. A column with a `CHECK` on its
values has the type of these values; a foreign key that a query joins over is looked up.
-/

namespace ServerRS.ActionStore

open Lib

/-! ## Identifiers and errors -/

inductive ActionStoreError where
  | invalidData (text : String)
  | unavailable
  | database (text : String)
  | leaseLost
  | unknownCommit (text : String)
deriving DecidableEq

/-- `$name::new` of `action_id!`. -/
def validateActionId (field value : String) : Except ActionStoreError Unit :=
  if isBlank value then .error (.invalidData (field ++ " must not be empty"))
  else if value.utf8ByteSize > 36 then .error (.invalidData (field ++ " must not exceed 36 bytes"))
  else .ok ()

/-- The newtypes of `action_id!`. -/
structure ActionId (field : String) where
  asStr : String
  valid : validateActionId field asStr = .ok ()
deriving DecidableEq

abbrev ActionRunId := ActionId "action_run_id"

abbrev ActionLeaseToken := ActionId "action_lease_token"

/-- `DATETIME(6)`, in microseconds since the epoch. -/
abbrev Timestamp := Int

def microsPerSec : Int := 1000000

/-- `DateTime::from_timestamp(secs, 0)`: the seconds that `chrono` can represent. -/
def fromTimestamp (secs : Int) : Option Timestamp :=
  if -8334601228800 ≤ secs ∧ secs ≤ 8210266876799 then some (secs * microsPerSec) else none

structure ActionRunSeed where
  account : SourceAccountRef
  commandSourceEventId : SourceEventId
  commandText : String
  conversationId : String
  occurredAtUnixSecs : Int
  timezoneOffsetSecs : Int
  timezone : String
  recentEvents : List RecentEventRef

structure SuspendedRunClaim where
  runId : ActionRunId
  checkpointId : String
  proposalId : String
  commandSourceEventId : SourceEventId
  workerId : String
  leaseSecs : UInt64
  nowUnixSecs : Int

structure SuspendedActionRun where
  runId : ActionRunId
  checkpointId : String
  proposalId : String
  commandSourceEventId : SourceEventId
deriving DecidableEq

structure ClaimedActionRun where
  runId : ActionRunId
  leaseToken : ActionLeaseToken
  account : SourceAccountRef
  commandSourceEventId : SourceEventId
  commandText : String
  conversationId : String
  occurredAtUnixSecs : Int
  timezoneOffsetSecs : Int
  timezone : String
  recentEvents : List RecentEventRef
deriving DecidableEq

/-! ## Rows -/

inductive ActionRunStatus where
  | pending
  | running
  | suspended
  | completed
  | failed
deriving DecidableEq

/-- The index of a suspension that `last_checkpoint_json` holds. -/
structure CheckpointSummary where
  checkpointId : String
  proposalId : String
  reason : String
  nextNode : String
deriving DecidableEq

structure ActionRunRow where
  runId : ActionRunId
  accountId : Nat
  commandSourceEventId : SourceEventId
  commandText : String
  conversationId : String
  occurredAtUnixSecs : Int
  timezoneOffsetSecs : Int
  timezoneName : String
  recentEvents : List RecentEventRef
  status : ActionRunStatus := .pending
  workerId : Option String := none
  leaseToken : Option ActionLeaseToken := none
  leaseExpiresAt : Option Timestamp := none
  nextEligibleAt : Option Timestamp := none
  attempt : Nat := 0
  lastError : Option String := none
  lastCheckpoint : Option CheckpointSummary := none
  responseDraft : Option OwnerResponseDraft := none
  createdAt : Timestamp
  updatedAt : Timestamp
  completedAt : Option Timestamp := none
deriving DecidableEq

structure EffectReceiptRow where
  effectId : String
  runId : ActionRunId
  proposal : SecretaryActionProposal
  resultRef : String
  createdAt : Timestamp

structure ActionResponseRow where
  responseId : String
  runId : ActionRunId
  response : OwnerResponseDraft
  serializedBytes : Nat
  createdAt : Timestamp

structure AccountRow where
  id : Nat
  sourceChannel : MessageSource
  platformAccountId : String
  isActive : Bool
deriving DecidableEq

inductive SourceEventType where
  | message
  | recall
deriving DecidableEq

structure SourceEventRow where
  sourceEventId : SourceEventId
  accountId : Nat
  conversationId : Nat
  sourceChannel : MessageSource
  eventType : SourceEventType
  actorPlatformId : String
  actorKind : VerifiedActorKind
  messageRole : MessageRole
deriving DecidableEq

structure ConversationRow where
  id : Nat
  conversationKind : ConversationKind
deriving DecidableEq

structure OwnerBindingRow where
  managedAccountId : Nat
  commandAccountId : Nat
  ownerActorId : String
  isActive : Bool
deriving DecidableEq

/-- The tables that the action store reads only. -/
structure Directory where
  accounts : List AccountRow
  sourceEvents : List SourceEventRow
  conversations : List ConversationRow
  ownerBindings : List OwnerBindingRow

/-- The database, as far as the action store uses it. -/
structure ActionDb where
  runs : List ActionRunRow := []
  receipts : List EffectReceiptRow := []
  responses : List ActionResponseRow := []
  directory : Directory

/-- A transaction or a single statement of the store. -/
abbrev Tx (α : Type) := Exec ActionDb ActionStoreError α

/-! ## Authorization -/

namespace Directory

/-- The active bindings of a managed account. -/
def activeBindings (directory : Directory) (managedAccountId : Nat) : List OwnerBindingRow :=
  directory.ownerBindings.filter fun binding =>
    binding.isActive && binding.managedAccountId == managedAccountId

/-- What both claims join `r` with: its command is a message of the Owner in the control
conversation, and the only active binding of its account is for the sender. -/
def commandAuthorized (directory : Directory) (row : ActionRunRow) : Bool :=
  directory.sourceEvents.any fun command =>
    command.sourceEventId == row.commandSourceEventId &&
    directory.accounts.any (fun account =>
      account.id == command.accountId && account.sourceChannel == .qqOpenPlatform) &&
    directory.conversations.any (fun conversation =>
      conversation.id == command.conversationId &&
        conversation.conversationKind == .ownerControl) &&
    (directory.activeBindings row.accountId).any (fun binding =>
      binding.commandAccountId == command.accountId &&
        binding.ownerActorId == command.actorPlatformId) &&
    command.messageRole == .ownerCommand && command.actorKind == .owner &&
    command.eventType == .message && command.sourceChannel == .qqOpenPlatform &&
    (directory.activeBindings row.accountId).length == 1

def verifyOwnerCommand (directory : Directory) (commandSourceEventId : SourceEventId)
    (managedAccountId : Nat) : Bool :=
  (directory.sourceEvents.find? fun command => command.sourceEventId == commandSourceEventId).any
    fun command =>
      command.messageRole == .ownerCommand && command.actorKind == .owner &&
      command.eventType == .message &&
      directory.accounts.any (fun account =>
        account.id == command.accountId && account.sourceChannel == .qqOpenPlatform) &&
      directory.conversations.any (fun conversation =>
        conversation.id == command.conversationId &&
          conversation.conversationKind == .ownerControl) &&
      match directory.activeBindings managedAccountId with
      | [binding] =>
        binding.commandAccountId == command.accountId &&
          binding.ownerActorId == command.actorPlatformId
      | _ => false

def resolveAccountId (directory : Directory) (account : SourceAccountRef) :
    Except ActionStoreError Nat :=
  match directory.accounts.find? fun row =>
      row.sourceChannel == account.channel && row.platformAccountId == account.accountId &&
        row.isActive with
  | some row => .ok row.id
  | none => .error (.invalidData
      ("account not found: " ++ account.channel.asStr ++ "/" ++ account.accountId ++ ")"))

end Directory

end ServerRS.ActionStore

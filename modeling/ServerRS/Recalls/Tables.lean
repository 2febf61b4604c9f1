import ServerRS.Domain.Action
import ServerRS.Lib.Table
import ServerRS.Lib.Window
import Mathlib.Data.String.Basic

/-!
# Recalls and artifacts

Models the parts of `personal-secretary/src/domain/recall.rs` and `domain/artifact.rs` that the
stores read, and the rows of the tables `secretary_source_events`, `secretary_message_contents`,
`secretary_recall_events`, `secretary_message_tombstones`, `secretary_artifacts` and
`secretary_artifact_derivations`.

An account and a conversation stand for the ids of their rows: both tables have those columns
as a unique key, and no row of them is ever deleted.
-/

namespace ServerRS.Recalls

/-! ## Recall events -/

inductive RecallKind where
  | group
  | friend
deriving DecidableEq

/-- A colon between every two parts. -/
def joinKey (accountChannel accountId kind conversationId messageId : String) : String :=
  accountChannel ++ ":" ++ accountId ++ ":" ++ kind ++ ":" ++ conversationId ++ ":" ++ messageId

def keyString (correlation : RecallCorrelationKey) : String :=
  joinKey correlation.account.channel.asStr correlation.account.accountId
    correlation.conversation.kind.asStr correlation.conversation.id correlation.platformMessageId

/-- Whoever builds one takes the account of the correlation for the account of the recall. -/
structure RecallEvent where
  recallEventId : SourceEventId
  account : SourceAccountRef
  kind : RecallKind
  correlation : RecallCorrelationKey
  operatorPlatformId : Option String
  occurredAtUnixSecs : Int
  sameAccount : correlation.account = account
deriving DecidableEq

inductive TombstoneStatus where
  | pending
  | applied
  | idempotentReapply
deriving DecidableEq

/-! ## Artifacts -/

inductive ArtifactAvailability where
  | available
  | expired
  | recalled
  | ownerDeleted
  | policyBlocked
deriving DecidableEq

def maxPlatformReferenceChars : ℕ := 500

def maxDisplayNameChars : ℕ := 500

def maxDescriptionChars : ℕ := 2000

def bounded (value : String) (maxChars : ℕ) : String :=
  if value.length ≤ maxChars then value else String.ofList (value.toList.take maxChars)

structure ArtifactEnvelope where
  artifactId : ArtifactId
  account : SourceAccountRef
  sourceEventId : SourceEventId
  conversation : ConversationRef
  artifactKind : ArtifactKind
  platformReference : String
  displayName : Option String
  mimeType : Option String
  sizeBytes : Option ℕ
  hashOrSourceKey : Option String
  description : Option String
  availability : ArtifactAvailability
  contentPolicy : ContentTrustLevel
  createdAtUnixSecs : Int
  ttlExpiresAtUnixSecs : Option Int
deriving DecidableEq

inductive ArtifactError where
  | policyViolation (text : String)
deriving DecidableEq

namespace ArtifactEnvelope

def new (artifactId : ArtifactId) (account : SourceAccountRef) (sourceEventId : SourceEventId)
    (conversation : ConversationRef) (artifactKind : ArtifactKind) (platformReference : String)
    (contentPolicy : ContentTrustLevel) (createdAtUnixSecs : Int)
    (ttlExpiresAtUnixSecs : Option Int) : Except ArtifactError ArtifactEnvelope :=
  if contentPolicy = .neverLongTerm then
    .error (.policyViolation "never_long_term must not create persistent artifacts")
  else .ok {
    artifactId, account, sourceEventId, conversation, artifactKind
    platformReference := bounded platformReference maxPlatformReferenceChars
    displayName := none
    mimeType := none
    sizeBytes := none
    hashOrSourceKey := none
    description := none
    availability := .available
    contentPolicy, createdAtUnixSecs, ttlExpiresAtUnixSecs }

def withDisplayName (name : Option String) (envelope : ArtifactEnvelope) : ArtifactEnvelope :=
  if envelope.contentPolicy = .envelopeOnly then envelope
  else { envelope with displayName := name.map fun name => bounded name maxDisplayNameChars }

def withDescription (description : Option String) (envelope : ArtifactEnvelope) :
    ArtifactEnvelope :=
  if envelope.contentPolicy = .envelopeOnly then envelope
  else { envelope with
    description := description.map fun description => bounded description maxDescriptionChars }

def markRecalled (envelope : ArtifactEnvelope) : ArtifactEnvelope :=
  { envelope with availability := .recalled }

end ArtifactEnvelope

/-! ## Rows -/

inductive EventType where
  | message
  | recallNotice
deriving DecidableEq

/-- `secretary_source_events`, joined to its conversation. -/
structure SourceEventRow where
  sourceEventId : SourceEventId
  account : SourceAccountRef
  conversation : ConversationRef
  sourceChannel : MessageSource
  platformEventId : String
  eventType : EventType
  occurredAtUnixSecs : Int
deriving DecidableEq

/-- `secretary_message_contents`. -/
structure MessageContentRow where
  sourceEventId : SourceEventId
  segments : List ContentSegment
deriving DecidableEq

/-- `secretary_recall_events`. -/
structure RecallEventRow where
  recallEventId : SourceEventId
  account : SourceAccountRef
  recallKind : RecallKind
  channel : MessageSource
  conversation : ConversationRef
  platformMessageId : String
  correlationKey : String
  operatorPlatformId : Option String
  occurredAtUnixSecs : Int
deriving DecidableEq

/-- `secretary_message_tombstones`. -/
structure TombstoneRow where
  account : SourceAccountRef
  sourceEventId : Option SourceEventId
  recallEventId : SourceEventId
  channel : MessageSource
  conversation : ConversationRef
  platformMessageId : String
  correlationKey : String
  status : TombstoneStatus
  invalidationReason : String
  invalidatedAtUnixSecs : Int
deriving DecidableEq

inductive DerivationStatus where
  | pending
  | claimed
  | completed
  | failed
deriving DecidableEq

/-- `secretary_artifact_derivations`. -/
structure DerivationJobRow where
  sourceEventId : SourceEventId
  status : DerivationStatus
  attempts : ℕ
  leaseToken : Option String
  leaseExpiresAt : Option Int
  lastErrorCode : Option String
  createdAt : Int
deriving DecidableEq

/-- The tables. An artifact row is its envelope. -/
structure RecallDb where
  accounts : List SourceAccountRef
  conversations : List (SourceAccountRef × ConversationRef)
  events : List SourceEventRow
  contents : List MessageContentRow
  recallEvents : List RecallEventRow
  tombstones : List TombstoneRow
  artifacts : List ArtifactEnvelope
  derivations : List DerivationJobRow

def RecallDb.empty : RecallDb := ⟨[], [], [], [], [], [], [], []⟩

end ServerRS.Recalls

import Mathlib.Data.Prod.Lex
import ServerRS.Spool.Format

/-!
# Inbound messages

Models the parts of `personal-secretary/src/domain/inbound.rs`,
`domain/continuity.rs`, `domain/artifact.rs`, `domain/recall.rs` and
`application/store.rs` that recovery and backfill read: where a message comes from, its
segments, what the store answers to its insertion, and the keys of its hooks.
-/

namespace ServerRS

export Spool (isBlank trim ConnectionEpochId)

open Spool (SpoolMessage)

/-! ## Where a message comes from -/

inductive MessageSource where
  | napCat
  | qqOpenPlatform
deriving DecidableEq

def MessageSource.asStr : MessageSource → String
  | .napCat => "napcat"
  | .qqOpenPlatform => "qq_open_platform"

structure SourceAccountRef where
  channel : MessageSource
  accountId : String
deriving DecidableEq

structure SourceMessageRef where
  channel : MessageSource
  accountId : String
  messageId : String
deriving DecidableEq

def SourceMessageRef.accountRef (source : SourceMessageRef) : SourceAccountRef :=
  ⟨source.channel, source.accountId⟩

inductive ConversationKind where
  | «private»
  | group
  | ownerControl
deriving DecidableEq

def ConversationKind.asStr : ConversationKind → String
  | .«private» => "private"
  | .group => "group"
  | .ownerControl => "owner_control"

structure ConversationRef where
  kind : ConversationKind
  id : String
deriving DecidableEq

inductive VerifiedActorKind where
  | owner
  | officialBot
  | external
deriving DecidableEq

structure VerifiedActor where
  kind : VerifiedActorKind
  id : String
deriving DecidableEq

/-! ## Content -/

inductive MediaKind where
  | image
  | audio
  | video
  | file
deriving DecidableEq

inductive RichContentKind where
  | json
  | xml
  | card
deriving DecidableEq

inductive ContentSegment where
  | text (content : String)
  | mention (actorId : String)
  | mentionAll
  | reply (platformMessageId : String)
  | face (sourceId : String) (displayText : Option String)
  | media (kind : MediaKind) (sourceKey : String) (sourceUrl displayName : Option String)
  | fileVersionReference (currentSourceKey previousSourceKey : String)
  | forward (sourceKey : String)
  | rich (kind : RichContentKind) (sourceKey : String) (summary : Option String)
  | unknown (protocolValue : String)
deriving DecidableEq

structure ObservedSenderProfile where
  nickname : String
  groupCard : Option String
  groupRole : Option String
deriving DecidableEq

structure InboundMessageEnvelope where
  source : SourceMessageRef
  conversation : ConversationRef
  actor : VerifiedActor
  occurredAtUnixSecs : Int
  normalizedText : String
  segments : List ContentSegment
  connectionEpochId : Option ConnectionEpochId
  senderProfile : Option ObservedSenderProfile
deriving DecidableEq

/-! ## Validation -/

inductive InboundIdentityError where
  | emptyField (field : String)
  | negativeTimestamp (secs : Int)
  | invalid (text : String)
deriving DecidableEq

def requireNonEmpty (field value : String) : Except InboundIdentityError Unit :=
  if isBlank value then .error (.emptyField field) else .ok ()

def SourceMessageRef.validate (source : SourceMessageRef) : Except InboundIdentityError Unit := do
  requireNonEmpty "source.account_id" source.accountId
  requireNonEmpty "source.message_id" source.messageId

def ContentSegment.validate : ContentSegment → Except InboundIdentityError Unit
  | .mention actorId => requireNonEmpty "segment.mention.actor_id" actorId
  | .reply platformMessageId => requireNonEmpty "segment.reply.platform_message_id" platformMessageId
  | .media _ sourceKey _ _ => requireNonEmpty "segment.media.source_key" sourceKey
  | .fileVersionReference currentSourceKey previousSourceKey => do
    requireNonEmpty "segment.file_version_reference.current_source_key" currentSourceKey
    requireNonEmpty "segment.file_version_reference.previous_source_key" previousSourceKey
    if currentSourceKey = previousSourceKey then
      .error (.invalid "file version current and previous source keys must differ")
    else .ok ()
  | .forward sourceKey => requireNonEmpty "segment.forward.source_key" sourceKey
  | .rich _ sourceKey _ => requireNonEmpty "segment.rich.source_key" sourceKey
  | .text _ | .mentionAll | .face _ _ | .unknown _ => .ok ()

def ObservedSenderProfile.validate (profile : ObservedSenderProfile) :
    Except InboundIdentityError Unit :=
  if 200 < profile.nickname.length then
    .error (.invalid "sender_profile.nickname exceeds 200 chars")
  else if profile.groupCard.any fun card => 200 < card.length then
    .error (.invalid "sender_profile.group_card exceeds 200 chars")
  else if profile.groupRole.any fun role => 16 < role.length then
    .error (.invalid "sender_profile.group_role exceeds 16 chars")
  else .ok ()

def InboundMessageEnvelope.validate (message : InboundMessageEnvelope) :
    Except InboundIdentityError Unit := do
  message.source.validate
  requireNonEmpty "conversation.id" message.conversation.id
  requireNonEmpty "actor.id" message.actor.id
  if message.occurredAtUnixSecs < 0 then
    .error (.negativeTimestamp message.occurredAtUnixSecs)
  else do
    message.segments.forM ContentSegment.validate
    message.senderProfile.elim (.ok ()) ObservedSenderProfile.validate

/-- What recovery reads of the message in a frame, besides its epoch. A valid message has a
message id. -/
class SourceMessage (M : Type) extends SpoolMessage M where
  source : M → SourceMessageRef
  conversation : M → ConversationRef
  segments : M → List ContentSegment
  messageId_not_blank : ∀ message, validate message = true → isBlank (source message).messageId = false

instance : SourceMessage InboundMessageEnvelope where
  validate message := message.validate.isOk
  connectionEpochId := InboundMessageEnvelope.connectionEpochId
  source := InboundMessageEnvelope.source
  conversation := InboundMessageEnvelope.conversation
  segments := InboundMessageEnvelope.segments
  messageId_not_blank := by
    intro message hval
    by_contra hblank
    rw [Bool.not_eq_false] at hblank
    -- the check of the source fails, whatever its account is
    have hsrc : ∃ e, message.source.validate = .error e := by
      rw [SourceMessageRef.validate, requireNonEmpty, requireNonEmpty, if_pos hblank]
      split
      · exact ⟨_, rfl⟩
      · exact ⟨_, rfl⟩
    obtain ⟨e, he⟩ := hsrc
    rw [InboundMessageEnvelope.validate, he] at hval
    cases hval

/-! ## Answers of the store -/

/-- `SourceEventId`; `new` refuses blank text. -/
structure SourceEventId where
  asStr : String
  not_blank : isBlank asStr = false
deriving DecidableEq

theorem SourceEventId.asStr_injective : Function.Injective SourceEventId.asStr := by
  rintro ⟨a, ha⟩ ⟨b, hb⟩ rfl
  rfl

/-- The key by which events are ordered in time. -/
abbrev SourceEventId.atTime (self : SourceEventId) (occurredAtUnixSecs : Int) : ℤ ×ₗ String :=
  toLex (occurredAtUnixSecs, self.asStr)

inductive IngestMessageOutcome where
  | accepted (sourceEventId : SourceEventId) (replyToEventId : Option SourceEventId)
  | duplicate (sourceEventId : SourceEventId)
deriving DecidableEq

def IngestMessageOutcome.sourceEventId : IngestMessageOutcome → SourceEventId
  | .accepted sourceEventId _ => sourceEventId
  | .duplicate sourceEventId => sourceEventId

inductive InboundEventStoreError where
  | invalidData (text : String)
  | unavailable
  | database (text : String)
  | leaseLost
deriving DecidableEq

def InboundEventStoreError.toText : InboundEventStoreError → String
  | .invalidData text => "invalid inbound event data: " ++ text
  | .unavailable => "inbound event store is unavailable"
  | .database text => "inbound event database operation failed: " ++ text
  | .leaseLost => "backfill lease ownership was lost"

/-! ## Connection epochs -/

inductive ConnectionEpochStatus where
  | connecting
  | connected
  | disconnected
  | shutdown
  | connectFailed
deriving DecidableEq

/-! ## Keys of the hooks -/

structure RecallCorrelationKey where
  account : SourceAccountRef
  channel : MessageSource
  conversation : ConversationRef
  platformMessageId : String
deriving DecidableEq

inductive RecallError where
  | invalidIdentity (text : String)
deriving DecidableEq

def RecallCorrelationKey.new (account : SourceAccountRef) (channel : MessageSource)
    (conversation : ConversationRef) (platformMessageId : String) :
    Except RecallError RecallCorrelationKey :=
  if isBlank platformMessageId then
    .error (.invalidIdentity "platform_message_id must not be empty")
  else .ok ⟨account, channel, conversation, platformMessageId⟩

inductive ArtifactKind where
  | image
  | file
  | record
  | video
  | forward
  | richJson
  | richXml
  | richCard
deriving DecidableEq

def ArtifactKind.asStr : ArtifactKind → String
  | .image => "image"
  | .file => "file"
  | .record => "record"
  | .video => "video"
  | .forward => "forward"
  | .richJson => "rich_json"
  | .richXml => "rich_xml"
  | .richCard => "rich_card"

structure ArtifactId where
  asStr : String
deriving DecidableEq

/-- `ArtifactId::for_source_segment`; `newV5` is the text of `Uuid::new_v5` of a name. -/
def ArtifactId.forSourceSegment (newV5 : String → String) (sourceEventId : SourceEventId)
    (segmentOrdinal : ℕ) (kind : ArtifactKind) : ArtifactId :=
  ⟨newV5 (sourceEventId.asStr ++ ":" ++ toString segmentOrdinal ++ ":" ++ kind.asStr)⟩

end ServerRS

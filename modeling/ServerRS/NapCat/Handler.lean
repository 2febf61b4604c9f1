import ServerRS.Ingestion.Worker
import ServerRS.NapCat.Events
import ServerRS.Recalls.Tables
import ServerRS.Spool.MessageSpool

/-!
# The inbound handler

Models what stands behind a text frame: the mapper of `adapters/inbound.rs`, the handler of
`runtime/handlers.rs` with its two kinds of admission, the recall handler of
`infrastructure/recall.rs`, and `handle_one_message` of `listener/transport.rs`, which logs every
error of a text frame. A call of `try_enqueue` runs alone here; its single steps are those of
`Ingestion.State`. What the recall spool answers to an append is an argument.
-/

namespace ServerRS.NapCat

open Ingestion (IngestionConfig OverflowState)
open Spool (RealtimeSpoolAdmission RealtimeSpoolAdmissionId RealtimeSpoolFatalKind SpoolId)
open Recalls (RecallEvent RecallKind)

/-! ## The mapper -/

def conversationRef (kind : ConversationKind) (id : String) :
    Except InboundIdentityError ConversationRef := do
  requireNonEmpty "conversation.id" id
  return ⟨kind, id⟩

def verifiedActor (kind : VerifiedActorKind) (id : String) :
    Except InboundIdentityError VerifiedActor := do
  requireNonEmpty "actor.id" id
  return ⟨kind, id⟩

def sourceMessageRef (channel : MessageSource) (accountId messageId : String) :
    Except InboundIdentityError SourceMessageRef := do
  let source : SourceMessageRef := ⟨channel, accountId, messageId⟩
  source.validate
  return source

/-- `InboundMessageEnvelope::new`. -/
def newEnvelope (source : SourceMessageRef) (conversation : ConversationRef) (actor : VerifiedActor)
    (occurredAtUnixSecs : ℤ) (normalizedText : String) (segments : List ContentSegment) :
    Except InboundIdentityError InboundMessageEnvelope := do
  let value : InboundMessageEnvelope :=
    ⟨source, conversation, actor, occurredAtUnixSecs, normalizedText, segments, none, none⟩
  value.validate
  return value

def withSenderProfile (message : InboundMessageEnvelope) (profile : Option ObservedSenderProfile) :
    Except InboundIdentityError InboundMessageEnvelope := do
  profile.elim (.ok ()) ObservedSenderProfile.validate
  return { message with senderProfile := profile }

def observedIn (message : InboundMessageEnvelope) (connectionEpochId : ConnectionEpochId) :
    InboundMessageEnvelope :=
  { message with connectionEpochId := some connectionEpochId }

def senderProfileFromSenderInfo (sender : SenderInfo) : ObservedSenderProfile where
  nickname := String.ofList (sender.nickname.toList.take 200)
  groupCard := sender.card.map fun card => String.ofList (card.toList.take 200)
  groupRole := sender.role.map fun role => String.ofList (role.toList.take 16)

def isAsciiHexdigit (c : Char) : Bool :=
  c.isDigit || ('a' ≤ c && c ≤ 'f') || ('A' ≤ c && c ≤ 'F')

def mapRichSegment (kind : RichContentKind) (fallbackSourceKey : String)
    (contentSha256 summary : Option String) : ContentSegment :=
  match contentSha256.filter fun digest =>
      digest.utf8ByteSize = 64 ∧ digest.toList.all isAsciiHexdigit with
  | some digest => .rich kind ("sha256:" ++ digest) summary
  | none => .rich kind fallbackSourceKey summary

def mapSegment : MessageSegment → ContentSegment
  | .text content => .text content
  | .face id text => .face (toString id) text
  | .image file url => .media .image file url none
  | .«at» qq =>
    if String.ofList (qq.toList.map Char.toLower) = "all" then .mentionAll else .mention qq
  | .reply id => .reply id
  | .record file => .media .audio file none none
  | .video file url => .media .video file url none
  | .file file name => .media .file file none name
  | .forward id => .forward id
  | .rich .json _ contentSha256 summary => mapRichSegment .json "rich_json" contentSha256 summary
  | .rich .xml _ contentSha256 summary => mapRichSegment .xml "rich_xml" contentSha256 summary
  | .rich .card _ contentSha256 summary => mapRichSegment .card "rich_card" contentSha256 summary
  | .rich .other _ _ _ => .unknown "rich_other"
  | .unknown segType _ => .unknown ("unknown:" ++ segType)

def mapCore (selfQqId : ℤ) (messageId : String) (conversationKind : ConversationKind)
    (conversationId : ℤ) (actorKind : VerifiedActorKind) (actorId occurredAtUnixSecs : ℤ)
    (normalizedText : String) (segments : List MessageSegment)
    (senderProfile : Option ObservedSenderProfile) :
    Except InboundIdentityError InboundMessageEnvelope := do
  let source ← sourceMessageRef .napCat (toString selfQqId) messageId
  let conversation ← conversationRef conversationKind (toString conversationId)
  let actor ← verifiedActor actorKind (toString actorId)
  let message ← newEnvelope source conversation actor occurredAtUnixSecs normalizedText
    (segments.map mapSegment)
  withSenderProfile message senderProfile

def mapIdentityError {α : Type} : Except InboundIdentityError α → Except NapCatError α
  | .ok value => .ok value
  | .error _ =>
    .error (.protocol "cannot map NapCat message into personal secretary identity boundary")

/-- `NapCatInboundMapper::map`. -/
def mapMessage (selfQqId : ℤ) (messageId : String) (conversationKind : ConversationKind)
    (conversationId protocolActorId : ℤ) (isSelf : Bool) (occurredAtUnixSecs : ℤ)
    (normalizedText : String) (segments : List MessageSegment) (sender : Option SenderInfo) :
    Except NapCatError InboundMessageEnvelope :=
  mapIdentityError (mapCore selfQqId messageId conversationKind conversationId
    (if isSelf then .owner else .external) (if isSelf then selfQqId else protocolActorId)
    occurredAtUnixSecs normalizedText segments (sender.map senderProfileFromSenderInfo))

def mapGroup (selfQqId : ℤ) (event : GroupMessageEvent) :
    Except NapCatError InboundMessageEnvelope :=
  mapMessage selfQqId event.messageId .group event.groupId event.userId event.isSelf event.time
    event.normalizedText event.segments event.sender

def mapPrivate (selfQqId : ℤ) (event : PrivateMessageEvent) :
    Except NapCatError InboundMessageEnvelope :=
  mapMessage selfQqId event.messageId .«private» event.peerId event.userId event.isSelf event.time
    event.normalizedText event.segments event.sender

/-! ## Admission -/

/-- The sending end of a bounded channel. -/
structure BoundedSender (α : Type) where
  items : List α
  capacity : ℕ
  /-- The receiving end is gone. -/
  disconnected : Bool

structure IngestionQueue where
  worker : Ingestion.State InboundMessageEnvelope
  config : IngestionConfig
  connectionEpochId : ConnectionEpochId

/-- `OverflowState::record_drop`. -/
def recordDrop (overflow : OverflowState) : OverflowState :=
  { gapPersisted := false, droppedCount := overflow.droppedCount + 1 }

def IngestionQueue.tryEnqueue (queue : IngestionQueue) (message : InboundMessageEnvelope) :
    Except String Unit × IngestionQueue :=
  let worker := queue.worker
  if worker.finished then (.error "personal secretary ingestion queue is closed", queue)
  else if worker.queue.length < queue.config.queueCapacity then
    let message := observedIn message queue.connectionEpochId
    (.ok (), { queue with worker := { worker with queue := worker.queue ++ [message] } })
  else
    (.error "personal secretary ingestion queue is full",
      { queue with worker := { worker with overflow := recordDrop worker.overflow } })

structure RealtimeSpoolAdmissionQueue where
  sender : BoundedSender (RealtimeSpoolAdmission InboundMessageEnvelope)
  connectionEpochId : ConnectionEpochId
  /-- What the connection loop has yet to receive. -/
  fatal : List RealtimeSpoolFatalKind

namespace RealtimeSpoolAdmissionQueue

def sendFatal (queue : RealtimeSpoolAdmissionQueue) (kind : RealtimeSpoolFatalKind) :
    RealtimeSpoolAdmissionQueue :=
  { queue with fatal := queue.fatal ++ [kind] }

def trySend (queue : RealtimeSpoolAdmissionQueue)
    (admission : RealtimeSpoolAdmission InboundMessageEnvelope) :
    Except String Unit × RealtimeSpoolAdmissionQueue :=
  let sender := queue.sender
  if sender.disconnected then
    (.error "realtime spool writer is closed", queue.sendFatal .writerStopped)
  else if sender.items.length < sender.capacity then
    (.ok (), { queue with sender := { sender with items := sender.items ++ [admission] } })
  else (.error "realtime spool admission queue is full", queue.sendFatal .capacityExhausted)

/-- `RealtimeSpoolAdmissionQueue::try_admit`, with the text of a fresh uuid. -/
def tryAdmit (queue : RealtimeSpoolAdmissionQueue) (admissionUuid : String)
    (message : InboundMessageEnvelope) : Except String Unit × RealtimeSpoolAdmissionQueue :=
  let admission := do
    let admissionId ← SpoolId.new admissionUuid
    RealtimeSpoolAdmission.new admissionId queue.connectionEpochId
      (observedIn message queue.connectionEpochId)
  match admission with
  | .ok admission => queue.trySend admission
  | .error _ => (.error "realtime spool admission is invalid", queue)

end RealtimeSpoolAdmissionQueue

inductive MessageAdmission where
  | memory (queue : IngestionQueue)
  | durable (queue : RealtimeSpoolAdmissionQueue)

def MessageAdmission.tryAdmit (admission : MessageAdmission) (admissionUuid : String)
    (message : InboundMessageEnvelope) : Except String Unit × MessageAdmission :=
  match admission with
  | .memory queue =>
    let (result, queue) := queue.tryEnqueue message
    (result, .memory queue)
  | .durable queue =>
    let (result, queue) := queue.tryAdmit admissionUuid message
    (result, .durable queue)

/-! ## The handler -/

structure NonMessageHistorySignalQueue where
  sender : BoundedSender ConversationRef
  fatal : Bool

def NonMessageHistorySignalQueue.trySchedule (queue : NonMessageHistorySignalQueue)
    (conversation : ConversationRef) : Except String Unit × NonMessageHistorySignalQueue :=
  let sender := queue.sender
  if sender.disconnected then
    (.error "non-message history signal queue is closed", { queue with fatal := true })
  else if sender.items.length < sender.capacity then
    (.ok (), { queue with sender := { sender with items := sender.items ++ [conversation] } })
  else (.error "non-message history signal queue is full", { queue with fatal := true })

/-- `RecallHandler`, and the recalls that are in its spool. -/
structure RecallHandler where
  account : SourceAccountRef
  spooled : List RecallEvent

structure PersonalSecretaryInboundHandler where
  selfQqId : ℤ
  admission : MessageAdmission
  groupWhitelist : List ℤ
  nonMessageHistory : NonMessageHistorySignalQueue
  recallHandler : Option RecallHandler

/-- What a frame finds: the texts of `Uuid::new_v4`, and the answer of `RecallWal::append`. -/
structure FrameEnv where
  admissionUuid : String
  admissionUuid_not_blank : isBlank admissionUuid = false
  recallEventId : SourceEventId
  recallAppend : Except String Unit

/-- `GroupWhitelist::contains`. -/
def whitelistContains (whitelist : List ℤ) (groupId : ℤ) : Bool :=
  0 < groupId && whitelist.contains groupId

/-- `RecallHandler::handle_group_recall` and `handle_friend_recall`, which differ in the
conversation, the kind and the operator. -/
def RecallHandler.handleRecall (env : FrameEnv) (handler : RecallHandler)
    (conversationKind : ConversationKind) (conversationId : ℤ) (kind : RecallKind)
    (messageId : String) (operatorId : Option ℤ) (time : ℤ) :
    Except NapCatError Unit × RecallHandler :=
  match conversationRef conversationKind (toString conversationId) with
  | .error _ => (.error (.protocol "invalid conversation"), handler)
  | .ok conversation =>
    match h : RecallCorrelationKey.new handler.account .napCat conversation messageId with
    | .error _ => (.error (.protocol "invalid correlation key"), handler)
    | .ok correlation =>
      match env.recallAppend with
      | .error _ => (.error (.handler "personal secretary recall spool append failed"), handler)
      | .ok () =>
        (.ok (), { handler with
          spooled := handler.spooled ++ [{
            recallEventId := env.recallEventId
            account := handler.account
            kind
            correlation
            operatorPlatformId := operatorId.map toString
            occurredAtUnixSecs := time
            sameAccount := by
              unfold RecallCorrelationKey.new at h
              split at h
              · cases h
              · cases h
                rfl }] })

def RecallHandler.handleGroupRecall (env : FrameEnv) (handler : RecallHandler)
    (event : GroupRecallEvent) : Except NapCatError Unit × RecallHandler :=
  handler.handleRecall env .group event.groupId .group event.messageId event.operatorId event.time

def RecallHandler.handleFriendRecall (env : FrameEnv) (handler : RecallHandler)
    (event : FriendRecallEvent) : Except NapCatError Unit × RecallHandler :=
  handler.handleRecall env .«private» event.userId .friend event.messageId (some event.userId)
    event.time

namespace PersonalSecretaryInboundHandler

/-- A mapped message is admitted; a failed admission is an error of the handler. -/
def admitMapped (env : FrameEnv) (handler : PersonalSecretaryInboundHandler)
    (mapped : Except NapCatError InboundMessageEnvelope) :
    Except NapCatError Unit × PersonalSecretaryInboundHandler :=
  match mapped with
  | .error error => (.error error, handler)
  | .ok message =>
    let (result, admission) := handler.admission.tryAdmit env.admissionUuid message
    (result.mapError .handler, { handler with admission })

/-- A recall goes to the recall handler, where there is one. -/
def withRecallHandler (handler : PersonalSecretaryInboundHandler)
    (handleRecall : RecallHandler → Except NapCatError Unit × RecallHandler) :
    Except NapCatError Unit × PersonalSecretaryInboundHandler :=
  match handler.recallHandler with
  | none => (.ok (), handler)
  | some recallHandler =>
    let (result, recallHandler) := handleRecall recallHandler
    (result, { handler with recallHandler := some recallHandler })

def handle (env : FrameEnv) (handler : PersonalSecretaryInboundHandler) :
    NapCatEvent → Except NapCatError Unit × PersonalSecretaryInboundHandler
  | .groupMessage event =>
    if whitelistContains handler.groupWhitelist event.groupId then
      handler.admitMapped env (mapGroup handler.selfQqId event)
    else (.ok (), handler)
  | .privateMessage event => handler.admitMapped env (mapPrivate handler.selfQqId event)
  | .groupMemberIncrease | .groupMemberDecrease | .poke => (.ok (), handler)
  | .groupUpload groupId =>
    if whitelistContains handler.groupWhitelist groupId then
      match conversationRef .group (toString groupId) with
      | .error _ => (.error (.protocol "invalid group upload conversation"), handler)
      | .ok conversation =>
        let (result, nonMessageHistory) := handler.nonMessageHistory.trySchedule conversation
        (result.mapError .handler, { handler with nonMessageHistory })
    else (.ok (), handler)
  | .groupRecall event =>
    if whitelistContains handler.groupWhitelist event.groupId then
      handler.withRecallHandler fun recallHandler => recallHandler.handleGroupRecall env event
    else (.ok (), handler)
  | .friendRecall event =>
    handler.withRecallHandler fun recallHandler => recallHandler.handleFriendRecall env event

/-- The connection loop ends the epoch: one of its fatal channels is ready. -/
def epochEnds (handler : PersonalSecretaryInboundHandler) : Bool :=
  handler.nonMessageHistory.fatal ||
    match handler.admission with
    | .memory _ => false
    | .durable queue => !queue.fatal.isEmpty

end PersonalSecretaryInboundHandler

/-! ## The transport -/

/-- What the WebSocket delivers. -/
inductive WsMessage where
  | text (text : String)
  /-- A ping, and whether its pong gets sent. -/
  | ping (ponged : Bool)
  | close
  | other
  | failed (text : String)

def handleWsMessage (crates : Crates) (env : FrameEnv) (handler : PersonalSecretaryInboundHandler)
    (text : String) : Except NapCatError Unit × PersonalSecretaryInboundHandler :=
  match wsEvent crates handler.selfQqId text with
  | .error error => (.error error, handler)
  | .ok none => (.ok (), handler)
  | .ok (some event) => handler.handle env event

/-- `handle_one_message`: whether the connection is closed. -/
def handleOneMessage (crates : Crates) (env : FrameEnv) (handler : PersonalSecretaryInboundHandler) :
    Option WsMessage → Except NapCatError Bool × PersonalSecretaryInboundHandler
  | none | some .close => (.ok true, handler)
  -- an error of the frame is logged, and the connection goes on
  | some (.text text) => (.ok false, (handleWsMessage crates env handler text).2)
  | some (.ping ponged) =>
    (if ponged then .ok false else .error (.connection "WebSocket pong failed"), handler)
  | some .other => (.ok false, handler)
  | some (.failed _) => (.error (.connection "WebSocket receive failed"), handler)

end ServerRS.NapCat

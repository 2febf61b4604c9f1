import ServerRS.Lib.Except
import ServerRS.NapCat.Handler

/-!
# Frames that carry an event

The transport logs every error that a text frame ends in, and the connection goes on. A frame that
carries a message or a recall is therefore dropped without a trace whenever a layer refuses it
(`long_frame_dropped`); while the ingestion worker receives and the recall spool appends, it is kept
if and only if it passes the checks of all the layers (`frame_kept_iff`).
-/

namespace ServerRS.NapCat

open Lib.Except
open Spool (isWhitespace RealtimeSpoolAdmission SpoolId SpoolMessage)

/-! ## Texts that are not blank -/

theorem not_blank_of_mem {s : String} {c : Char} (hmem : c ∈ s.toList)
    (hc : isWhitespace c = false) : isBlank s = false := by
  rw [Spool.isBlank, List.all_eq_false]
  exact ⟨c, hmem, by simp [hc]⟩

theorem not_blank_repr (n : ℕ) : isBlank n.repr = false := by
  obtain ⟨c, hmem⟩ := List.exists_mem_of_ne_nil _ (Nat.toDigits_ne_nil (n := n) (b := 10))
  have hdigit : 48 ≤ c.val.toNat ∧ c.val.toNat ≤ 57 := by
    simpa [Char.isDigit, UInt32.le_iff_toNat_le] using
      Nat.isDigit_of_mem_toDigits (by decide) (by decide) hmem
  refine not_blank_of_mem (c := c) ?_ (isWhitespace_printable (by omega) (by omega))
  rw [Nat.toList_repr]
  exact hmem

theorem isBlank_append (s t : String) : isBlank (s ++ t) = (isBlank s && isBlank t) := by
  simp [Spool.isBlank, String.toList_append, List.all_append]

theorem not_blank_toString (n : ℤ) : isBlank (toString n) = false := by
  rw [Int.toString_eq_repr, Int.repr_eq_if]
  split
  · exact not_blank_repr _
  · rw [isBlank_append, not_blank_repr, Bool.and_false]

/-! ## The mapper -/

theorem requireNonEmpty_eq_ok {field value : String} :
    requireNonEmpty field value = .ok () ↔ isBlank value = false := by
  unfold requireNonEmpty
  split
  · next h => simp [h]
  · next h => simpa using h

/-- What the mapper needs of a segment: the id or the file that it refers to. -/
def MessageSegment.Keyed : MessageSegment → Prop
  | .image key _ | .record key | .video key _ | .file key _ => isBlank key = false
  | .«at» qq => isBlank qq = false
  | .reply id | .forward id => isBlank id = false
  | .text _ | .face _ _ | .rich _ _ _ _ | .unknown _ _ => True

theorem mapRichSegment_valid (kind : RichContentKind) {fallbackSourceKey : String}
    (contentSha256 summary : Option String) (h : isBlank fallbackSourceKey = false) :
    (mapRichSegment kind fallbackSourceKey contentSha256 summary).validate = .ok () := by
  unfold mapRichSegment
  split
  · rw [ContentSegment.validate, requireNonEmpty_eq_ok, isBlank_append]
    rfl
  · rw [ContentSegment.validate, requireNonEmpty_eq_ok]
    exact h

/-- Where everyone is mentioned, the text is not blank. -/
theorem not_blank_of_all {qq : String} (h : String.ofList (qq.toList.map Char.toLower) = "all") :
    isBlank qq = false := by
  have hmem : 'a' ∈ qq.toList.map Char.toLower := by
    rw [← String.toList_ofList (l := qq.toList.map Char.toLower), h]
    decide
  obtain ⟨c, hc, hlower⟩ := List.mem_map.mp hmem
  refine not_blank_of_mem hc ?_
  unfold Char.toLower at hlower
  split at hlower
  · next hupper =>
    obtain ⟨hlow, hhigh⟩ := hupper
    rw [ge_iff_le, UInt32.le_iff_toNat_le] at hlow
    rw [UInt32.le_iff_toNat_le] at hhigh
    exact isWhitespace_printable (le_trans (by decide) hlow) (le_trans hhigh (by decide))
  · rw [hlower]
    decide

theorem mapSegment_valid_iff (seg : MessageSegment) :
    (mapSegment seg).validate = .ok () ↔ seg.Keyed := by
  cases seg with
  | text | face | unknown => simp [mapSegment, ContentSegment.validate, MessageSegment.Keyed]
  | image | record | video | file | reply | forward =>
    simp only [mapSegment, ContentSegment.validate, MessageSegment.Keyed, requireNonEmpty_eq_ok]
  | «at» qq =>
    simp only [mapSegment, MessageSegment.Keyed]
    split
    · next hall => simp [ContentSegment.validate, not_blank_of_all hall]
    · exact requireNonEmpty_eq_ok
  | rich kind data contentSha256 summary =>
    cases kind with
    | json | xml | card =>
      simp only [mapSegment, MessageSegment.Keyed, iff_true]
      exact mapRichSegment_valid _ _ _ (by decide)
    | other => simp [mapSegment, ContentSegment.validate, MessageSegment.Keyed]

theorem senderProfile_valid (sender : SenderInfo) :
    (senderProfileFromSenderInfo sender).validate = .ok () := by
  unfold ObservedSenderProfile.validate senderProfileFromSenderInfo
  have htake : ∀ (n : ℕ) (s : String), (String.ofList (s.toList.take n)).length ≤ n := by
    intro n s
    rw [String.length_ofList]
    exact List.length_take_le n _
  have hnick : ¬ 200 < (String.ofList (sender.nickname.toList.take 200)).length :=
    Nat.not_lt.mpr (htake 200 _)
  have hcard : ∀ n (text : Option String), ¬ ((text.map fun s => String.ofList (s.toList.take n)).any
      fun s => decide (n < s.length)) = true := by
    intro n text
    cases text with
    | none => simp
    | some s => simp
  rw [if_neg hnick, if_neg (hcard 200 _), if_neg (hcard 16 _)]

theorem validate_eq_ok {message : InboundMessageEnvelope} : message.validate = .ok () ↔
    message.source.validate = .ok () ∧ isBlank message.conversation.id = false ∧
    isBlank message.actor.id = false ∧ 0 ≤ message.occurredAtUnixSecs ∧
    (∀ segment ∈ message.segments, segment.validate = .ok ()) ∧
    message.senderProfile.elim (.ok ()) ObservedSenderProfile.validate = .ok () := by
  unfold InboundMessageEnvelope.validate
  rw [and_then_eq_ok, and_then_eq_ok, and_then_eq_ok, requireNonEmpty_eq_ok, requireNonEmpty_eq_ok]
  split
  · next h => simp [Int.not_le.mpr h]
  · next h => rw [and_then_eq_ok, forM_eq_ok]; simp [Int.not_lt.mp h]

section

variable {selfQqId : ℤ} {messageId : String} {kind : ConversationKind}
  {actorKind : VerifiedActorKind} {conversationId protocolActorId actorId time : ℤ}
  {isSelf : Bool} {text : String} {segments : List MessageSegment} {sender : Option SenderInfo}
  {message : InboundMessageEnvelope}

theorem napCatSource_valid_iff :
    SourceMessageRef.validate ⟨.napCat, toString selfQqId, messageId⟩ = .ok () ↔
      isBlank messageId = false := by
  rw [SourceMessageRef.validate, and_then_eq_ok, requireNonEmpty_eq_ok, requireNonEmpty_eq_ok]
  simp only [not_blank_toString, true_and]

theorem observedProfile_valid (sender : Option SenderInfo) :
    (sender.map senderProfileFromSenderInfo).elim (.ok ()) ObservedSenderProfile.validate =
      .ok () := by
  cases sender with
  | none => rfl
  | some sender => rw [Option.map_some, Option.elim_some, senderProfile_valid]

variable (sender) in
/-- Of a mapped message, the id, the time and the segments can be refused. -/
theorem mapped_valid_iff : InboundMessageEnvelope.validate
      ⟨⟨.napCat, toString selfQqId, messageId⟩, ⟨kind, toString conversationId⟩,
        ⟨actorKind, toString actorId⟩, time, text, segments.map mapSegment, none,
        sender.map senderProfileFromSenderInfo⟩ = .ok () ↔
    isBlank messageId = false ∧ 0 ≤ time ∧ ∀ seg ∈ segments, seg.Keyed := by
  rw [validate_eq_ok, napCatSource_valid_iff]
  simp only [not_blank_toString, observedProfile_valid, List.forall_mem_map, mapSegment_valid_iff,
    true_and, and_true]

/-- The message that the mapper builds, where it builds one. -/
theorem mapCore_eq_ok : mapCore selfQqId messageId kind conversationId actorKind actorId time text
      segments (sender.map senderProfileFromSenderInfo) = .ok message ↔
    (isBlank messageId = false ∧ 0 ≤ time ∧ ∀ seg ∈ segments, seg.Keyed) ∧
    message = ⟨⟨.napCat, toString selfQqId, messageId⟩, ⟨kind, toString conversationId⟩,
      ⟨actorKind, toString actorId⟩, time, text, segments.map mapSegment, none,
      sender.map senderProfileFromSenderInfo⟩ := by
  unfold mapCore sourceMessageRef conversationRef verifiedActor newEnvelope withSenderProfile
  constructor
  · intro h
    obtain ⟨source, hsrc, h⟩ := bind_ok h
    cases (and_then_eq_ok.mp hsrc).2
    obtain ⟨conversation, hconv, h⟩ := bind_ok h
    cases (and_then_eq_ok.mp hconv).2
    obtain ⟨actor, hactor, h⟩ := bind_ok h
    cases (and_then_eq_ok.mp hactor).2
    obtain ⟨base, hbase, h⟩ := bind_ok h
    obtain ⟨hval, hbase⟩ := and_then_eq_ok.mp hbase
    cases hbase
    cases (and_then_eq_ok.mp h).2
    exact ⟨(mapped_valid_iff none).mp hval, rfl⟩
  · rintro ⟨hchec, rfl⟩
    refine bind_eq_of_ok (and_then_eq_ok.mpr ⟨napCatSource_valid_iff.mpr hchec.1, rfl⟩) ?_
    refine bind_eq_of_ok (and_then_eq_ok.mpr
      ⟨requireNonEmpty_eq_ok.mpr (not_blank_toString _), rfl⟩) ?_
    refine bind_eq_of_ok (and_then_eq_ok.mpr
      ⟨requireNonEmpty_eq_ok.mpr (not_blank_toString _), rfl⟩) ?_
    refine bind_eq_of_ok (and_then_eq_ok.mpr ⟨(mapped_valid_iff none).mpr hchec, rfl⟩) ?_
    exact and_then_eq_ok.mpr ⟨observedProfile_valid sender, rfl⟩

theorem mapMessage_ok
    (h : mapMessage selfQqId messageId kind conversationId protocolActorId isSelf time text segments
      sender = .ok message) :
    (0 ≤ time ∧ ∀ seg ∈ segments, seg.Keyed) ∧ message.source.messageId = messageId ∧
      message.validate = .ok () := by
  unfold mapMessage mapIdentityError at h
  split at h
  · next mapped hmap =>
    cases h
    obtain ⟨hchec, rfl⟩ := mapCore_eq_ok.mp hmap
    exact ⟨hchec.2, rfl, (mapped_valid_iff sender).mpr hchec⟩
  · cases h

theorem mapMessage_of_checks (hid : isBlank messageId = false) (htime : 0 ≤ time)
    (hsegm : ∀ seg ∈ segments, seg.Keyed) :
    ∃ message, mapMessage selfQqId messageId kind conversationId protocolActorId isSelf time text
      segments sender = .ok message := by
  unfold mapMessage
  rw [mapCore_eq_ok.mpr ⟨⟨hid, htime, hsegm⟩, rfl⟩]
  exact ⟨_, rfl⟩

end

/-! ## What a frame carries, and what becomes of it -/

def textAt (rawEvent : Value) (key : String) : Option String := (rawEvent.get key).bind Value.asStr

def IsMessage (rawEvent : Value) : Prop :=
  postType rawEvent = "message" ∨ postType rawEvent = "message_sent"

def InWhitelist (whitelist : List ℤ) (rawEvent : Value) : Prop :=
  ∃ groupId, rawEvent.get "group_id" = some (.number (.int groupId)) ∧
    whitelistContains whitelist groupId = true

/-- The event is a private message, a message of a group in the whitelist, or a recall of one of
these. -/
inductive Carries (whitelist : List ℤ) (rawEvent : Value) : Prop where
  | privateMessage (hpost : IsMessage rawEvent) (htype : textAt rawEvent "message_type" = some "private")
  | groupMessage (hpost : IsMessage rawEvent) (htype : textAt rawEvent "message_type" = some "group")
      (hlist : InWhitelist whitelist rawEvent)
  | friendRecall (hpost : postType rawEvent = "notice")
      (htype : textAt rawEvent "notice_type" = some "friend_recall")
  | groupRecall (hpost : postType rawEvent = "notice")
      (htype : textAt rawEvent "notice_type" = some "group_recall")
      (hlist : InWhitelist whitelist rawEvent)

/-- What becomes of the event: it is on a queue or in the spool under its id, or the epoch ends, or
a drop is counted and no gap counts as persisted any more. -/
inductive Kept (rawEvent : Value) (handler handler' : PersonalSecretaryInboundHandler) : Prop where
  | enqueued {queue queue' : IngestionQueue} {message : InboundMessageEnvelope}
      (hbef : handler.admission = .memory queue) (haft : handler'.admission = .memory queue')
      (hque : queue'.worker.queue = queue.worker.queue ++ [message])
      (hid : messageIdField (rawEvent.get "message_id") = some message.source.messageId)
  | counted {queue queue' : IngestionQueue} (hbef : handler.admission = .memory queue)
      (haft : handler'.admission = .memory queue')
      (hdrop : queue'.worker.overflow = recordDrop queue.worker.overflow)
  | admitted {queue queue' : RealtimeSpoolAdmissionQueue}
      {admission : RealtimeSpoolAdmission InboundMessageEnvelope}
      (hbef : handler.admission = .durable queue) (haft : handler'.admission = .durable queue')
      (hque : queue'.sender.items = queue.sender.items ++ [admission])
      (hid : messageIdField (rawEvent.get "message_id") = some admission.message.source.messageId)
  | spooled {recallHandler recallHandler' : RecallHandler} {event : Recalls.RecallEvent}
      (hbef : handler.recallHandler = some recallHandler)
      (haft : handler'.recallHandler = some recallHandler')
      (hspo : recallHandler'.spooled = recallHandler.spooled ++ [event])
      (hid : messageIdField (rawEvent.get "message_id") = some event.correlation.platformMessageId)
  | ended (h : handler'.epochEnds = true)

/-- The checks of a message. -/
structure MessageAccepted (crates : Crates) (selfQqId : ℤ) (sentBySelf : Bool)
    (event : OneBotMessageEvent) : Prop where
  messageId : isBlank event.messageId = false
  userId : 0 < event.userId
  /-- The peer of a private message that the account has sent is known. -/
  peer : event.messageType = "private" → (sentBySelf || event.userId == selfQqId) = true →
    (∃ targetId, event.targetId = some targetId ∧ 0 < targetId) ∨ event.userId ≠ selfQqId
  time : 0 ≤ event.time
  segments : ∀ seg ∈ parseStructuredOrCq crates event.message event.rawMessage, seg.Keyed

/-- The checks of a recall. -/
structure RecallAccepted (event : OneBotNoticeEvent) : Prop where
  messageId : isBlank event.messageId = false
  userId : 0 < event.userId

/-- The checks of all the layers. -/
structure Accepted (crates : Crates) (selfQqId : ℤ) (text : String) (rawEvent : Value) : Prop where
  frame : text.utf8ByteSize ≤ MAX_WS_TEXT_BYTES
  event : (crates.toJson rawEvent).utf8ByteSize ≤ MAX_WS_TEXT_BYTES
  message : IsMessage rawEvent → ∃ event, OneBotMessageEvent.fromValue rawEvent = some event ∧
    MessageAccepted crates selfQqId (postType rawEvent == "message_sent") event
  notice : postType rawEvent = "notice" →
    ∃ event, OneBotNoticeEvent.fromValue rawEvent = some event ∧ RecallAccepted event

/-- The ingestion worker has not returned: it still receives. -/
def PersonalSecretaryInboundHandler.Receiving (handler : PersonalSecretaryInboundHandler) : Prop :=
  ∀ queue, handler.admission = .memory queue → queue.worker.finished = false

/-- Recalls are spooled, and the spool appends. -/
def RecallsStored (env : FrameEnv) (handler : PersonalSecretaryInboundHandler) : Prop :=
  handler.recallHandler.isSome = true ∧ env.recallAppend = .ok ()

section

variable {crates : Crates} {env : FrameEnv} {handler : PersonalSecretaryInboundHandler}
  {text : String} {rawEvent : Value} {message : InboundMessageEnvelope}

theorem not_kept_self (h : handler.epochEnds = false) : ¬ Kept rawEvent handler handler := by
  intro hkept
  cases hkept with
  | enqueued hbef haft hque =>
    cases hbef.symm.trans haft
    simp at hque
  | counted hbef haft hdrop =>
    cases hbef.symm.trans haft
    simpa [recordDrop] using congrArg Ingestion.OverflowState.droppedCount hdrop
  | admitted hbef haft hque =>
    cases hbef.symm.trans haft
    simp at hque
  | spooled hbef haft hspo =>
    cases hbef.symm.trans haft
    simp at hspo
  | ended hends => exact absurd (h.symm.trans hends) Bool.false_ne_true

/-! ### Admission -/

theorem tryEnqueue_cases {queue : IngestionQueue} (hopen : queue.worker.finished = false)
    (message : InboundMessageEnvelope) :
    (queue.tryEnqueue message).2.worker.queue =
        queue.worker.queue ++ [observedIn message queue.connectionEpochId] ∨
      (queue.tryEnqueue message).2.worker.overflow = recordDrop queue.worker.overflow := by
  unfold IngestionQueue.tryEnqueue
  simp only [hopen, Bool.false_eq_true, if_false]
  split
  · exact .inl rfl
  · exact .inr rfl

theorem trySend_cases (queue : RealtimeSpoolAdmissionQueue)
    (admission : RealtimeSpoolAdmission InboundMessageEnvelope) :
    (queue.trySend admission).2.sender.items = queue.sender.items ++ [admission] ∨
      (queue.trySend admission).2.fatal ≠ [] := by
  unfold RealtimeSpoolAdmissionQueue.trySend
  simp only []
  split
  · exact .inr (by simp [RealtimeSpoolAdmissionQueue.sendFatal])
  · split
    · exact .inl rfl
    · exact .inr (by simp [RealtimeSpoolAdmissionQueue.sendFatal])

/-- A valid message always becomes an admission. -/
theorem tryAdmit_eq (queue : RealtimeSpoolAdmissionQueue) (hval : message.validate = .ok ()) :
    ∃ admission : RealtimeSpoolAdmission InboundMessageEnvelope,
      admission.message = observedIn message queue.connectionEpochId ∧
      queue.tryAdmit env.admissionUuid message = queue.trySend admission := by
  have hobs :
      SpoolMessage.validate (observedIn message queue.connectionEpochId) = true := by
    show Except.isOk message.validate = true
    rw [hval]
    rfl
  have hep : SpoolMessage.connectionEpochId (observedIn message queue.connectionEpochId) =
      some queue.connectionEpochId := rfl
  have hid : SpoolId.new env.admissionUuid =
      .ok (⟨env.admissionUuid⟩ : Spool.RealtimeSpoolAdmissionId) := by
    unfold SpoolId.new
    rw [if_neg (by simp [env.admissionUuid_not_blank])]
  refine ⟨⟨⟨env.admissionUuid⟩, queue.connectionEpochId,
    observedIn message queue.connectionEpochId, hobs, hep⟩, rfl, ?_⟩
  unfold RealtimeSpoolAdmissionQueue.tryAdmit
  rw [hid]
  simp only [bind, Except.bind, RealtimeSpoolAdmission.new]
  rw [dif_pos hobs, dif_pos hep]

/-- A message that the mapper has built is kept, whatever the queues say. -/
theorem admit_kept (hrec : handler.Receiving) (hval : message.validate = .ok ())
    (hid : messageIdField (rawEvent.get "message_id") = some message.source.messageId) :
    Kept rawEvent handler (handler.admitMapped env (.ok message)).2 := by
  unfold PersonalSecretaryInboundHandler.admitMapped MessageAdmission.tryAdmit
  cases hadm : handler.admission with
  | memory queue =>
    rcases tryEnqueue_cases (hrec queue hadm) message with hque | hdrop
    · exact .enqueued hadm rfl hque hid
    · exact .counted hadm rfl hdrop
  | durable queue =>
    obtain ⟨admission, hmsg, heq⟩ := @tryAdmit_eq env _ queue hval
    simp only [heq]
    rcases trySend_cases queue admission with hque | hfatal
    · refine .admitted hadm rfl hque ?_
      rw [hmsg]
      exact hid
    · refine .ended ?_
      simp [PersonalSecretaryInboundHandler.epochEnds, hfatal]

variable {error : NapCatError} {event : OneBotMessageEvent}

/-- An error of the mapper changes nothing. -/
theorem admit_error : (handler.admitMapped env (.error error)).2 = handler := rfl

/-- What the mapper and the admission do with a message that has passed the earlier checks. -/
theorem admit_mapped_kept_iff {messageId : String} {kind : ConversationKind}
    {conversationId userId time : ℤ} {isSelf : Bool} {normalizedText : String}
    {segments : List MessageSegment} {sender : Option SenderInfo} {selfQqId : ℤ}
    (hrec : handler.Receiving) (hends : handler.epochEnds = false)
    (hblank : isBlank messageId = false)
    (hid : messageIdField (rawEvent.get "message_id") = some messageId) :
    Kept rawEvent handler (handler.admitMapped env
        (mapMessage selfQqId messageId kind conversationId userId
      isSelf time normalizedText segments sender)).2 ↔
    0 ≤ time ∧ ∀ seg ∈ segments, seg.Keyed := by
  constructor
  · intro hkept
    cases hmap : mapMessage selfQqId messageId kind conversationId userId isSelf time
        normalizedText segments sender with
    | error error =>
      rw [hmap, admit_error] at hkept
      exact absurd hkept (not_kept_self hends)
    | ok message => exact (mapMessage_ok hmap).1
  · rintro ⟨htime, hsegm⟩
    obtain ⟨message, hmap⟩ : ∃ message, mapMessage selfQqId messageId kind conversationId userId
        isSelf time normalizedText segments sender = .ok message :=
      mapMessage_of_checks hblank htime hsegm
    obtain ⟨-, hmessageId, hval⟩ := mapMessage_ok hmap
    rw [hmap]
    refine admit_kept hrec hval ?_
    rw [hmessageId]
    exact hid

/-! ### Recalls -/

theorem handleRecall_spooled (recallHandler : RecallHandler) {messageId : String}
    (kind : ConversationKind) (conversationId time : ℤ) (recallKind : Recalls.RecallKind)
    (operatorId : Option ℤ) (happ : env.recallAppend = .ok ())
    (hblank : isBlank messageId = false) :
    ∃ event : Recalls.RecallEvent, event.correlation.platformMessageId = messageId ∧
      (recallHandler.handleRecall env kind conversationId recallKind messageId operatorId time).2.spooled =
        recallHandler.spooled ++ [event] := by
  have hconv : conversationRef kind (toString conversationId) =
      .ok ⟨kind, toString conversationId⟩ :=
    and_then_eq_ok.mpr ⟨requireNonEmpty_eq_ok.mpr (not_blank_toString _), rfl⟩
  unfold RecallHandler.handleRecall
  split
  · next h =>
    rw [hconv] at h
    cases h
  · next conversation h =>
    split
    · next hcor =>
      unfold RecallCorrelationKey.new at hcor
      rw [if_neg (by simp [hblank])] at hcor
      cases hcor
    · next correlation hcor =>
      unfold RecallCorrelationKey.new at hcor
      rw [if_neg (by simp [hblank])] at hcor
      cases hcor
      split
      · next hfail =>
        rw [happ] at hfail
        cases hfail
      · exact ⟨_, rfl, rfl⟩

theorem handleRecall_kept (hstd : RecallsStored env handler) {messageId : String}
    (hblank : isBlank messageId = false)
    (hid : messageIdField (rawEvent.get "message_id") = some messageId) (kind : ConversationKind)
    (conversationId time : ℤ) (recallKind : Recalls.RecallKind) (operatorId : Option ℤ) :
    Kept rawEvent handler (handler.withRecallHandler fun recallHandler =>
      recallHandler.handleRecall env kind conversationId recallKind messageId operatorId time).2 := by
  obtain ⟨hsome, happ⟩ := hstd
  obtain ⟨recallHandler, hrecall⟩ := Option.isSome_iff_exists.mp hsome
  obtain ⟨event, hmessageId, hspo⟩ :=
    handleRecall_spooled recallHandler kind conversationId time recallKind operatorId happ hblank
  unfold PersonalSecretaryInboundHandler.withRecallHandler
  simp only [hrecall]
  refine .spooled hrecall rfl hspo ?_
  rw [hmessageId]
  exact hid

/-! ### The layers in front of the handler -/

theorem handled_of_error (h : wsEvent crates handler.selfQqId text = .error error) :
    (handleWsMessage crates env handler text).2 = handler := by
  unfold handleWsMessage
  rw [h]

theorem handled_of_none (h : wsEvent crates handler.selfQqId text = .ok none) :
    (handleWsMessage crates env handler text).2 = handler := by
  unfold handleWsMessage
  rw [h]

theorem handled_of_event {event : NapCatEvent}
    (h : wsEvent crates handler.selfQqId text = .ok (some event)) :
    (handleWsMessage crates env handler text).2 = (handler.handle env event).2 := by
  unfold handleWsMessage
  rw [h]

/-- The transport does not pass an error of a frame on. -/
theorem handleOneMessage_text : (handleOneMessage crates env handler (some (.text text))).2 =
    (handleWsMessage crates env handler text).2 := rfl

theorem postType_of_isMeta (h : (parseMetaEvent rawEvent).isSome = true) :
    postType rawEvent = "meta_event" := by
  unfold parseMetaEvent at h
  split at h
  · cases h
  · next hpost =>
    rw [ne_eq, not_not] at hpost
    simp [postType, hpost]

/-- A frame of a business event, within its bound. -/
theorem wsEvent_eq (hjson : crates.fromStr text = some rawEvent)
    (hfrm : text.utf8ByteSize ≤ MAX_WS_TEXT_BYTES)
    (hpost : IsMessage rawEvent ∨ postType rawEvent = "notice") :
    wsEvent crates handler.selfQqId text = businessEvent crates handler.selfQqId rawEvent := by
  have hmeta : parseMetaEvent rawEvent = none := by
    by_contra hmeta
    have hpostType := postType_of_isMeta (Option.isSome_iff_ne_none.mpr hmeta)
    rcases hpost with (h | h) | h
    all_goals
      rw [h] at hpostType
      exact absurd hpostType (by decide)
  unfold wsEvent
  rw [if_neg (Nat.not_lt.mpr hfrm), hjson]
  simp only [hmeta]

theorem businessEvent_notice (hpost : postType rawEvent = "notice") :
    businessEvent crates handler.selfQqId rawEvent = handleNotice (boundRawEvent crates rawEvent) := by
  unfold businessEvent
  rw [hpost]
  rfl

theorem businessEvent_message (hpost : IsMessage rawEvent) :
    businessEvent crates handler.selfQqId rawEvent =
      handleMessage crates handler.selfQqId (boundRawEvent crates rawEvent)
        (postType rawEvent == "message_sent") := by
  unfold businessEvent
  rcases hpost with h | h
  · rw [h]
    rfl
  · rw [h]
    rfl

/-- The summary of an event that is too long is ignored: it has no type. -/
theorem businessEvent_summary (hpost : IsMessage rawEvent ∨ postType rawEvent = "notice")
    (hlong : ¬ (crates.toJson rawEvent).utf8ByteSize ≤ MAX_WS_TEXT_BYTES) :
    businessEvent crates handler.selfQqId rawEvent = .ok none := by
  rcases hpost with hpost | hpost
  · rw [businessEvent_message hpost, boundRawEvent]
    simp only [if_neg hlong]
    rfl
  · rw [businessEvent_notice hpost, boundRawEvent]
    simp only [if_neg hlong]
    rfl

theorem boundRawEvent_eq (hshort : (crates.toJson rawEvent).utf8ByteSize ≤ MAX_WS_TEXT_BYTES) :
    boundRawEvent crates rawEvent = rawEvent := by
  unfold boundRawEvent
  simp only [if_pos hshort]

/-! ### Messages -/

/-- The fields of a message event that its checks read. -/
theorem messageFields (h : OneBotMessageEvent.fromValue rawEvent = some event) :
    stringField (rawEvent.get "message_type") = some event.messageType ∧
    messageIdField (rawEvent.get "message_id") = some event.messageId ∧
    i64Field (rawEvent.get "group_id") = some event.groupId := by
  simp only [OneBotMessageEvent.fromValue, Option.bind_eq_bind, Option.bind_eq_some_iff, Option.pure_def,
    Option.some.injEq] at h
  obtain ⟨messageType, htype, subType, -, messageId, hid, groupId, hgrp, rest⟩ := h
  obtain ⟨-, -, -, -, -, -, -, -, -, -, rfl⟩ := rest
  exact ⟨htype, hid, hgrp⟩

theorem stringField_of_textAt {key text' : String} (h : textAt rawEvent key = some text') :
    stringField (rawEvent.get key) = some text' := by
  unfold textAt at h
  cases hget : rawEvent.get key with
  | none => simp [hget] at h
  | some value =>
    rw [hget] at h
    cases value with
    | string value => simpa [Value.asStr, stringField] using h
    | null | bool | number | array | object => cases h

theorem groupId_listed {whitelist : List ℤ} {groupId : ℤ} (hlist : InWhitelist whitelist rawEvent)
    (hgrp : i64Field (rawEvent.get "group_id") = some groupId) :
    whitelistContains whitelist groupId = true ∧ 0 < groupId := by
  obtain ⟨listed, hget, hcont⟩ := hlist
  rw [hget, i64Field, asI64] at hgrp
  split at hgrp
  · cases hgrp
    exact ⟨hcont, by simpa using (Bool.and_eq_true_iff.mp hcont).1⟩
  · cases hgrp

theorem require_bind {α : Type} {condition : Prop} [Decidable condition] {error : String}
    {next : Except NapCatError α} (h : condition) :
    (do require condition error; next) = next := by
  unfold require
  rw [if_pos h]
  rfl

theorem require_refused {α : Type} {condition : Prop} [Decidable condition] {error : String}
    {next : Except NapCatError α} (h : ¬ condition) :
    (do require condition error; next) = .error (.protocol error) := by
  unfold require
  rw [if_neg h]
  rfl

theorem privatePeer_cases (selfQqId : ℤ) (event : OneBotMessageEvent) (isSelf : Bool) :
    (∃ peerId, privatePeer selfQqId event isSelf = .ok peerId) ∧
        (isSelf = true → (∃ targetId, event.targetId = some targetId ∧ 0 < targetId) ∨
          event.userId ≠ selfQqId) ∨
      (∃ error, privatePeer selfQqId event isSelf = .error error) ∧ isSelf = true ∧
        ¬ ((∃ targetId, event.targetId = some targetId ∧ 0 < targetId) ∨
          event.userId ≠ selfQqId) := by
  unfold privatePeer
  cases isSelf with
  | false => exact .inl ⟨⟨_, rfl⟩, fun h => absurd h Bool.false_ne_true⟩
  | true =>
    rw [if_pos rfl]
    split
    · next targetId htgt =>
      obtain ⟨hsome, hpos⟩ := Option.filter_eq_some_iff.mp htgt
      exact .inl ⟨⟨_, rfl⟩, fun _ => .inl ⟨targetId, hsome, by simpa using hpos⟩⟩
    · next htgt =>
      split
      · next hoth => exact .inl ⟨⟨_, rfl⟩, fun _ => .inr hoth⟩
      · next hself =>
        refine .inr ⟨⟨_, rfl⟩, rfl, ?_⟩
        rintro (⟨targetId, hsome, hpos⟩ | hoth)
        · exact Option.filter_eq_none_iff.mp htgt targetId hsome (by simpa using hpos)
        · exact hself hoth

/-- A message of a type that is modelled is kept if and only if it passes its checks. -/
theorem message_kept_iff {sentBySelf : Bool} {event : OneBotMessageEvent}
    (hrec : handler.Receiving) (hends : handler.epochEnds = false)
    (hws : wsEvent crates handler.selfQqId text =
      handleMessage crates handler.selfQqId rawEvent sentBySelf)
    (hev : OneBotMessageEvent.fromValue rawEvent = some event)
    (htype : event.messageType = "private" ∨ event.messageType = "group" ∧ 0 < event.groupId ∧
      whitelistContains handler.groupWhitelist event.groupId = true) :
    Kept rawEvent handler (handleWsMessage crates env handler text).2 ↔
      MessageAccepted crates handler.selfQqId sentBySelf event := by
  obtain ⟨-, hid, -⟩ := messageFields hev
  have href : ∀ error, wsEvent crates handler.selfQqId text = .error error →
      ¬ Kept rawEvent handler (handleWsMessage crates env handler text).2 := by
    intro error herr
    rw [handled_of_error herr]
    exact not_kept_self hends
  have hmod : ¬ (event.messageType ≠ "group" ∧ event.messageType ≠ "private") := by
    rcases htype with h | ⟨h, -⟩
    · exact fun hne => hne.2 h
    · exact fun hne => hne.1 h
  unfold handleMessage at hws
  rw [hev] at hws
  simp only [if_neg hmod] at hws
  by_cases hblank : isBlank event.messageId = false
  · rw [require_bind hblank] at hws
    by_cases huser : 0 < event.userId
    · rw [require_bind huser] at hws
      unfold messageEvent at hws
      rcases htype with htype | ⟨htype, hposit, hlist⟩
      · have hpriv : event.messageType ≠ "group" := by
          rw [htype]
          decide
        simp only [if_neg hpriv] at hws
        rcases privatePeer_cases handler.selfQqId event (sentBySelf || event.userId == handler.selfQqId)
          with ⟨⟨peerId, hpeer⟩, hkn⟩ | ⟨⟨error, herr⟩, hself, hunknown⟩
        · rw [hpeer] at hws
          rw [handled_of_event hws]
          unfold PersonalSecretaryInboundHandler.handle mapPrivate
          rw [admit_mapped_kept_iff hrec hends hblank hid]
          exact ⟨fun ⟨htime, hsegm⟩ => ⟨hblank, huser, fun _ => hkn, htime, hsegm⟩,
            fun hacpt => ⟨hacpt.time, hacpt.segments⟩⟩
        · rw [herr] at hws
          exact iff_of_false (href _ hws) fun hacpt => hunknown (hacpt.peer htype hself)
      · have hactors : validateActorIds event.groupId event.userId "group message" = .ok () := by
          unfold validateActorIds
          rw [if_neg (by omega)]
        have hgrp : event.messageType ≠ "private" := by
          rw [htype]
          decide
        simp only [if_pos htype, hactors] at hws
        rw [handled_of_event hws]
        unfold PersonalSecretaryInboundHandler.handle mapGroup
        simp only [hlist, if_true]
        rw [admit_mapped_kept_iff hrec hends hblank hid]
        exact ⟨fun ⟨htime, hsegm⟩ =>
            ⟨hblank, huser, fun hpriv => absurd hpriv hgrp, htime, hsegm⟩,
          fun hacpt => ⟨hacpt.time, hacpt.segments⟩⟩
    · rw [require_refused huser] at hws
      exact iff_of_false (href _ hws) fun hacpt => huser hacpt.userId
  · rw [require_refused hblank] at hws
    exact iff_of_false (href _ hws) fun hacpt => hblank hacpt.messageId

/-! ### Recall notices -/

/-- The fields of a notice that its checks read. -/
theorem noticeFields {event : OneBotNoticeEvent}
    (h : OneBotNoticeEvent.fromValue rawEvent = some event) :
    stringField (rawEvent.get "notice_type") = some event.noticeType ∧
    messageIdField (rawEvent.get "message_id") = some event.messageId ∧
    i64Field (rawEvent.get "group_id") = some event.groupId := by
  simp only [OneBotNoticeEvent.fromValue, Option.bind_eq_bind, Option.bind_eq_some_iff, Option.pure_def,
    Option.some.injEq] at h
  obtain ⟨noticeType, htype, groupId, hgrp, rest⟩ := h
  obtain ⟨-, -, -, -, -, -, -, -, messageId, hid, -, -, rfl⟩ := rest
  exact ⟨htype, hid, hgrp⟩

/-- A recall is kept if and only if it passes its checks, where the spool appends it. -/
theorem recall_kept_iff {event : OneBotNoticeEvent} (hends : handler.epochEnds = false)
    (hstd : RecallsStored env handler)
    (hws : wsEvent crates handler.selfQqId text = handleNotice rawEvent)
    (hev : OneBotNoticeEvent.fromValue rawEvent = some event)
    (htype : event.noticeType = "friend_recall" ∨ event.noticeType = "group_recall" ∧
      0 < event.groupId ∧ whitelistContains handler.groupWhitelist event.groupId = true) :
    Kept rawEvent handler (handleWsMessage crates env handler text).2 ↔ RecallAccepted event := by
  obtain ⟨-, hid, -⟩ := noticeFields hev
  have href : ∀ error, wsEvent crates handler.selfQqId text = .error error →
      ¬ Kept rawEvent handler (handleWsMessage crates env handler text).2 := by
    intro error herr
    rw [handled_of_error herr]
    exact not_kept_self hends
  unfold handleNotice at hws
  rw [hev] at hws
  rcases htype with htype | ⟨htype, hposit, hlist⟩
  · simp only [htype, String.reduceEq, false_and, if_false, if_true] at hws
    unfold friendRecallNotice at hws
    by_cases huser : 0 < event.userId
    · rw [require_bind huser] at hws
      by_cases hblank : isBlank event.messageId = false
      · rw [require_bind hblank] at hws
        rw [handled_of_event hws]
        exact iff_of_true (handleRecall_kept hstd hblank hid _ _ _ _ _) ⟨hblank, huser⟩
      · rw [require_refused hblank] at hws
        exact iff_of_false (href _ hws) fun hacpt => hblank hacpt.messageId
    · rw [require_refused huser] at hws
      exact iff_of_false (href _ hws) fun hacpt => huser hacpt.userId
  · simp only [htype, String.reduceEq, false_and, if_false, if_true] at hws
    unfold groupRecallNotice validateActorIds at hws
    by_cases huser : 0 < event.userId
    · rw [if_neg (by omega)] at hws
      by_cases hblank : isBlank event.messageId = false
      · simp only [hblank] at hws
        rw [handled_of_event hws]
        unfold PersonalSecretaryInboundHandler.handle
        simp only [hlist, if_true]
        exact iff_of_true (handleRecall_kept hstd hblank hid _ _ _ _ _) ⟨hblank, huser⟩
      · exact iff_of_false (href _ (hws.trans (require_refused hblank)))
          fun hacpt => hblank hacpt.messageId
    · rw [if_pos (by omega)] at hws
      exact iff_of_false (href _ hws) fun hacpt => huser hacpt.userId

/-! ### All layers -/

theorem carried_message (hcar : Carries handler.groupWhitelist rawEvent)
    (hpost : IsMessage rawEvent) (hev : OneBotMessageEvent.fromValue rawEvent = some event) :
    event.messageType = "private" ∨ event.messageType = "group" ∧ 0 < event.groupId ∧
      whitelistContains handler.groupWhitelist event.groupId = true := by
  obtain ⟨hfield, -, hgrp⟩ := messageFields hev
  have hntc : ¬ postType rawEvent = "notice" := by
    rcases hpost with h | h
    all_goals
      rw [h]
      decide
  cases hcar with
  | privateMessage _ htype =>
    rw [stringField_of_textAt htype] at hfield
    exact .inl (Option.some.inj hfield).symm
  | groupMessage _ htype hlist =>
    rw [stringField_of_textAt htype] at hfield
    obtain ⟨hcont, hposit⟩ := groupId_listed hlist hgrp
    exact .inr ⟨(Option.some.inj hfield).symm, hposit, hcont⟩
  | friendRecall hpost' | groupRecall hpost' => exact absurd hpost' hntc

theorem carried_recall {event : OneBotNoticeEvent}
    (hcar : Carries handler.groupWhitelist rawEvent) (hpost : postType rawEvent = "notice")
    (hev : OneBotNoticeEvent.fromValue rawEvent = some event) :
    event.noticeType = "friend_recall" ∨ event.noticeType = "group_recall" ∧ 0 < event.groupId ∧
      whitelistContains handler.groupWhitelist event.groupId = true := by
  obtain ⟨hfield, -, hgrp⟩ := noticeFields hev
  have hmsg : ¬ IsMessage rawEvent := by
    unfold IsMessage
    rw [hpost]
    decide
  cases hcar with
  | privateMessage hpost' | groupMessage hpost' => exact absurd hpost' hmsg
  | friendRecall _ htype =>
    rw [stringField_of_textAt htype] at hfield
    exact .inl (Option.some.inj hfield).symm
  | groupRecall _ htype hlist =>
    rw [stringField_of_textAt htype] at hfield
    obtain ⟨hcont, hposit⟩ := groupId_listed hlist hgrp
    exact .inr ⟨(Option.some.inj hfield).symm, hposit, hcont⟩

theorem notice_of_message (hpost : IsMessage rawEvent) : postType rawEvent ≠ "notice" := by
  rcases hpost with h | h
  all_goals
    rw [h]
    decide

/-- A frame that is a message, within the bounds. -/
theorem messageFrame_kept_iff (hcar : Carries handler.groupWhitelist rawEvent)
    (hends : handler.epochEnds = false) (hrec : handler.Receiving)
    (hpost : IsMessage rawEvent) (hfrm : text.utf8ByteSize ≤ MAX_WS_TEXT_BYTES)
    (hshort : (crates.toJson rawEvent).utf8ByteSize ≤ MAX_WS_TEXT_BYTES)
    (hws : wsEvent crates handler.selfQqId text =
      handleMessage crates handler.selfQqId rawEvent (postType rawEvent == "message_sent")) :
    Kept rawEvent handler (handleWsMessage crates env handler text).2 ↔
      Accepted crates handler.selfQqId text rawEvent := by
  cases hev : OneBotMessageEvent.fromValue rawEvent with
  | none =>
    rw [handleMessage, hev] at hws
    refine iff_of_false ?_ fun hacpt => ?_
    · rw [handled_of_error hws]
      exact not_kept_self hends
    · obtain ⟨event, hsome, -⟩ := hacpt.message hpost
      cases hev.symm.trans hsome
  | some event =>
    rw [message_kept_iff hrec hends hws hev (carried_message hcar hpost hev)]
    constructor
    · intro h
      exact ⟨hfrm, hshort, fun _ => ⟨event, hev, h⟩, fun h => absurd h (notice_of_message hpost)⟩
    · intro hacpt
      obtain ⟨event', hsome, h⟩ := hacpt.message hpost
      cases hev.symm.trans hsome
      exact h

/-- A frame that is a recall, within the bounds. -/
theorem recallFrame_kept_iff (hcar : Carries handler.groupWhitelist rawEvent)
    (hends : handler.epochEnds = false) (hstd : RecallsStored env handler)
    (hpost : postType rawEvent = "notice") (hfrm : text.utf8ByteSize ≤ MAX_WS_TEXT_BYTES)
    (hshort : (crates.toJson rawEvent).utf8ByteSize ≤ MAX_WS_TEXT_BYTES)
    (hws : wsEvent crates handler.selfQqId text = handleNotice rawEvent) :
    Kept rawEvent handler (handleWsMessage crates env handler text).2 ↔
      Accepted crates handler.selfQqId text rawEvent := by
  cases hev : OneBotNoticeEvent.fromValue rawEvent with
  | none =>
    rw [handleNotice, hev] at hws
    refine iff_of_false ?_ fun hacpt => ?_
    · rw [handled_of_error hws]
      exact not_kept_self hends
    · obtain ⟨event, hsome, -⟩ := hacpt.notice hpost
      cases hev.symm.trans hsome
  | some event =>
    rw [recall_kept_iff hends hstd hws hev (carried_recall hcar hpost hev)]
    constructor
    · intro h
      exact ⟨hfrm, hshort, fun hmsg => absurd hpost (notice_of_message hmsg),
        fun _ => ⟨event, hev, h⟩⟩
    · intro hacpt
      obtain ⟨event', hsome, h⟩ := hacpt.notice hpost
      cases hev.symm.trans hsome
      exact h

/-- While the epoch goes on, the ingestion worker receives and recalls are stored, a frame that
carries an event is kept if and only if it passes the checks of all the layers. -/
theorem frame_kept_iff (hjson : crates.fromStr text = some rawEvent)
    (hcarries : Carries handler.groupWhitelist rawEvent) (hends : handler.epochEnds = false)
    (hreceiving : handler.Receiving)
    (hstored : postType rawEvent = "notice" → RecallsStored env handler) :
    Kept rawEvent handler (handleOneMessage crates env handler (some (.text text))).2 ↔
      Accepted crates handler.selfQqId text rawEvent := by
  rw [handleOneMessage_text]
  have hpost : IsMessage rawEvent ∨ postType rawEvent = "notice" := by
    cases hcarries with
    | privateMessage hpost | groupMessage hpost => exact .inl hpost
    | friendRecall hpost | groupRecall hpost => exact .inr hpost
  by_cases hfrm : text.utf8ByteSize ≤ MAX_WS_TEXT_BYTES
  · have hws : wsEvent crates handler.selfQqId text =
        businessEvent crates handler.selfQqId rawEvent := wsEvent_eq hjson hfrm hpost
    by_cases hshort : (crates.toJson rawEvent).utf8ByteSize ≤ MAX_WS_TEXT_BYTES
    · rcases hpost with hpost | hpost
      · rw [businessEvent_message hpost, boundRawEvent_eq hshort] at hws
        exact messageFrame_kept_iff hcarries hends hreceiving hpost hfrm hshort hws
      · rw [businessEvent_notice hpost, boundRawEvent_eq hshort] at hws
        exact recallFrame_kept_iff hcarries hends (hstored hpost) hpost hfrm hshort hws
    · -- the summary of the event carries nothing
      refine iff_of_false ?_ fun hacpt => hshort hacpt.event
      rw [handled_of_none (hws.trans (businessEvent_summary hpost hshort))]
      exact not_kept_self hends
  · have hws : ∃ error, wsEvent crates handler.selfQqId text = .error error := by
      unfold wsEvent
      rw [if_pos (Nat.not_le.mp hfrm)]
      exact ⟨_, rfl⟩
    obtain ⟨error, hws⟩ := hws
    refine iff_of_false ?_ fun hacpt => hfrm hacpt.frame
    rw [handled_of_error hws]
    exact not_kept_self hends

end

/-! ## Scripted frames -/

namespace Scripted

/-- A worker that waits for its first message, and a recall spool that appends. -/
def handler : PersonalSecretaryInboundHandler where
  selfQqId := 10001
  admission := .memory ⟨{}, ⟨16, 4⟩, ⟨"epoch-1"⟩⟩
  groupWhitelist := []
  nonMessageHistory := ⟨⟨[], 16, false⟩, false⟩
  recallHandler := some ⟨⟨.napCat, "10001"⟩, []⟩

def env : FrameEnv where
  admissionUuid := "admission-1"
  admissionUuid_not_blank := by decide
  recallEventId := ⟨"recall-1", by decide⟩
  recallAppend := .ok ()

/-- What `serde_json` does with one text and its event. -/
def crates (text : String) (rawEvent : Value) : Crates where
  fromStr other := if other = text then some rawEvent else none
  toJson _ := text
  sha256 _ := []
  isDecimal := Char.isDigit

def letters (n : ℕ) : String := String.ofList (List.replicate n 'x')

theorem utf8ByteSize_letters (n : ℕ) : (letters n).utf8ByteSize = n := by
  induction n with
  | zero => rfl
  | succ n ih =>
    unfold letters at ih ⊢
    rw [List.replicate_succ', String.ofList_append, String.utf8ByteSize_append, ih]
    rfl

/-- A private message with a text. -/
def privateEvent (content : String) : Value :=
  .object [
    ("message_id", .number (.int 7)),
    ("message_type", .string "private"),
    ("post_type", .string "message"),
    ("raw_message", .string content),
    ("time", .number (.int 1)),
    ("user_id", .number (.int 20002))]

def textEnd : String := "\",\"time\":1,\"user_id\":20002\x7d"

def privateText (content : String) : String :=
  "\x7b\"message_id\":7,\"message_type\":\"private\",\"post_type\":\"message\",\"raw_message\":\"" ++
    content ++ textEnd

theorem fromStr_crates (text : String) (rawEvent : Value) :
    (crates text rawEvent).fromStr text = some rawEvent := if_pos rfl

theorem carries_privateEvent (content : String) : Carries [] (privateEvent content) :=
  .privateMessage (.inl rfl) rfl

theorem receiving : handler.Receiving := by
  intro queue hque
  cases hque
  rfl

end Scripted

open Scripted in
theorem frame_kept_iff_short :
    Kept (privateEvent "hi") handler (handleOneMessage (crates (privateText "hi") (privateEvent "hi"))
        env handler (some (.text (privateText "hi")))).2 ↔
      Accepted (crates (privateText "hi") (privateEvent "hi")) 10001 (privateText "hi")
        (privateEvent "hi") :=
  frame_kept_iff (fromStr_crates _ _) (carries_privateEvent _) rfl receiving fun hpost =>
    absurd hpost (by decide)

open Scripted in
/-- A private message whose frame is too long is dropped, although the queue is empty: the epoch
goes on, and no drop is counted. -/
theorem long_frame_dropped :
    (crates (privateText (letters 65536)) (privateEvent (letters 65536))).fromStr
        (privateText (letters 65536)) = some (privateEvent (letters 65536)) ∧
      Carries [] (privateEvent (letters 65536)) ∧ handler.Receiving ∧ RecallsStored env handler ∧
      handler.epochEnds = false ∧
      ¬ Kept (privateEvent (letters 65536)) handler
        (handleOneMessage (crates (privateText (letters 65536)) (privateEvent (letters 65536))) env
          handler (some (.text (privateText (letters 65536))))).2 := by
  refine ⟨fromStr_crates _ _, carries_privateEvent _, receiving, ⟨rfl, rfl⟩, rfl, ?_⟩
  have hlong : MAX_WS_TEXT_BYTES < (privateText (letters 65536)).utf8ByteSize := by
    unfold privateText
    rw [String.utf8ByteSize_append, String.utf8ByteSize_append, utf8ByteSize_letters]
    have hend : 0 < textEnd.utf8ByteSize := by decide
    unfold MAX_WS_TEXT_BYTES
    omega
  have hws : ∃ error, wsEvent (crates (privateText (letters 65536)) (privateEvent (letters 65536)))
      handler.selfQqId (privateText (letters 65536)) = .error error := by
    unfold wsEvent
    rw [if_pos hlong]
    exact ⟨_, rfl⟩
  obtain ⟨error, hws⟩ := hws
  rw [handleOneMessage_text, handled_of_error hws]
  exact not_kept_self rfl

end ServerRS.NapCat

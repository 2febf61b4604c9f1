import ServerRS.NapCat.Segments

/-!
# Events of NapCat

Models `event.rs` of `qqbot/src/napcat` and, in its `listener`, `bounds.rs`, `message_event.rs`,
`notice_event.rs` and `dispatch.rs`, up to the call of the handler: what a text frame is turned
into, and the checks that refuse it. Of an event, what the handler and the heartbeat watchdog read
of it is kept.
-/

namespace ServerRS.NapCat

/-! ## Events -/

structure SenderInfo where
  nickname : String
  card : Option String
  role : Option String
deriving DecidableEq

structure GroupMessageEvent where
  messageId : String
  groupId : ℤ
  userId : ℤ
  normalizedText : String
  segments : List MessageSegment
  time : ℤ
  sender : Option SenderInfo
  isSelf : Bool
deriving DecidableEq

structure PrivateMessageEvent where
  messageId : String
  userId : ℤ
  peerId : ℤ
  normalizedText : String
  segments : List MessageSegment
  time : ℤ
  sender : Option SenderInfo
  isSelf : Bool
deriving DecidableEq

structure GroupRecallEvent where
  groupId : ℤ
  userId : ℤ
  operatorId : Option ℤ
  messageId : String
  time : ℤ
deriving DecidableEq

structure FriendRecallEvent where
  userId : ℤ
  messageId : String
  time : ℤ
deriving DecidableEq

inductive NapCatEvent where
  | groupMessage (event : GroupMessageEvent)
  | privateMessage (event : PrivateMessageEvent)
  | groupMemberIncrease
  | groupMemberDecrease
  | poke
  | groupUpload (groupId : ℤ)
  | groupRecall (event : GroupRecallEvent)
  | friendRecall (event : FriendRecallEvent)
deriving DecidableEq

inductive NapCatError where
  | connection (text : String)
  | protocol (text : String)
  | handler (text : String)
deriving DecidableEq

/-! ## Bounds -/

def MAX_WS_TEXT_BYTES : ℕ := 65536

def parseStructuredOrCq (crates : Crates) (message : Value) (rawMessage : String) :
    List MessageSegment :=
  match message with
  | .array (item :: rest) => (parseStructuredSegments crates (item :: rest)).1
  | _ => parseMessageSegments (truncateBytes rawMessage MAX_MESSAGE_TOTAL_BYTES)

def postType (rawEvent : Value) : String := ((rawEvent.get "post_type").bind Value.asStr).getD ""

def boundRawEvent (crates : Crates) (rawEvent : Value) : Value :=
  let serialized := crates.toJson rawEvent
  if serialized.utf8ByteSize ≤ MAX_WS_TEXT_BYTES then rawEvent
  else .object [
    ("post_type", .string (postType rawEvent)),
    ("_bounded", .bool true),
    ("_original_bytes", .number (.int serialized.utf8ByteSize)),
    ("raw_text", .string (truncateBytes serialized MAX_WS_TEXT_BYTES))]

def validateActorIds (groupId userId : ℤ) (eventName : String) : Except NapCatError Unit :=
  if groupId ≤ 0 ∨ userId ≤ 0 then
    .error (.protocol (eventName ++ " requires positive group_id and user_id"))
  else .ok ()

/-- An early return with a protocol error. -/
def require (condition : Prop) [Decidable condition] (text : String) : Except NapCatError Unit :=
  if condition then .ok () else .error (.protocol text)

/-! ## Messages -/

/-- `deserialize_message_id`. -/
def messageIdField : Option Value → Option String
  | none | some .null => some ""
  | some (.number (.int value)) => some (toString value)
  | some (.string value) => some value
  | some _ => none

structure OneBotSender where
  nickname : String
  card : Option String
  role : Option String
deriving DecidableEq

def senderFromValue (value : Value) : Option OneBotSender := do
  let fields ← value.structFields ["nickname", "card", "role"]
  match fields with
  | [nickname, card, role] =>
    return ⟨← stringField nickname, ← optionField stringField card, ← optionField stringField role⟩
  | _ => none

def senderField : Option Value → Option (Option OneBotSender)
  | none | some .null => some none
  | some value => (senderFromValue value).map some

structure OneBotMessageEvent where
  messageType : String
  subType : String
  messageId : String
  groupId : ℤ
  userId : ℤ
  targetId : Option ℤ
  message : Value
  rawMessage : String
  time : ℤ
  sender : Option OneBotSender

/-- `serde_json::from_value`, of an event that is an object. -/
def OneBotMessageEvent.fromValue (rawEvent : Value) : Option OneBotMessageEvent := do
  return {
    messageType := ← stringField (rawEvent.get "message_type")
    subType := ← stringField (rawEvent.get "sub_type")
    messageId := ← messageIdField (rawEvent.get "message_id")
    groupId := ← i64Field (rawEvent.get "group_id")
    userId := ← i64Field (rawEvent.get "user_id")
    targetId := ← optionField i64Field (rawEvent.get "target_id")
    message := (rawEvent.get "message").getD .null
    rawMessage := ← stringField (rawEvent.get "raw_message")
    time := ← i64Field (rawEvent.get "time")
    sender := ← senderField (rawEvent.get "sender") }

def mapSender (sender : OneBotSender) : SenderInfo := ⟨sender.nickname, sender.card, sender.role⟩

def messageContent (crates : Crates) (selfQqId : ℤ) (event : OneBotMessageEvent) :
    List MessageSegment × String :=
  let segments := parseStructuredOrCq crates event.message event.rawMessage
  (segments,
    if segments = [] then normalizeText crates event.rawMessage selfQqId
    else segmentsToCanonicalText segments)

def privatePeer (selfQqId : ℤ) (event : OneBotMessageEvent) (isSelf : Bool) :
    Except NapCatError ℤ :=
  if isSelf then
    match event.targetId.filter (0 < ·) with
    | some targetId => .ok targetId
    | none =>
      if event.userId ≠ selfQqId then .ok event.userId
      else .error (.protocol "self-sent private message requires a positive target_id")
  else .ok event.userId

/-- A group or private message, after the checks they share. -/
def messageEvent (crates : Crates) (selfQqId : ℤ) (event : OneBotMessageEvent) (sentBySelf : Bool) :
    Except NapCatError NapCatEvent := do
  let (segments, normalizedText) := messageContent crates selfQqId event
  let isSelf := sentBySelf || event.userId == selfQqId
  if event.messageType = "group" then
    validateActorIds event.groupId event.userId "group message"
    return .groupMessage {
      messageId := event.messageId
      groupId := event.groupId
      userId := event.userId
      normalizedText
      segments
      time := event.time
      sender := event.sender.map mapSender
      isSelf }
  else
    let peerId ← privatePeer selfQqId event isSelf
    return .privateMessage {
      messageId := event.messageId
      userId := event.userId
      peerId
      normalizedText
      segments
      time := event.time
      sender := event.sender.map mapSender
      isSelf }

/-- `handle_message`, up to the call of the handler. -/
def handleMessage (crates : Crates) (selfQqId : ℤ) (rawEvent : Value) (sentBySelf : Bool) :
    Except NapCatError (Option NapCatEvent) :=
  match OneBotMessageEvent.fromValue rawEvent with
  | none => .error (.protocol "invalid message event")
  | some event =>
    -- a type that is not modelled is ignored
    if event.messageType ≠ "group" ∧ event.messageType ≠ "private" then .ok none
    else do
      require (isBlank event.messageId = false) "message requires a non-empty message_id"
      require (0 < event.userId) "message requires a positive user_id"
      return some (← messageEvent crates selfQqId event sentBySelf)

/-! ## Notices -/

structure OneBotNoticeEvent where
  noticeType : String
  groupId : ℤ
  userId : ℤ
  subType : String
  operatorId : Option ℤ
  targetId : Option ℤ
  messageId : String
  time : ℤ

def OneBotNoticeEvent.fromValue (rawEvent : Value) : Option OneBotNoticeEvent := do
  return {
    noticeType := ← stringField (rawEvent.get "notice_type")
    groupId := ← i64Field (rawEvent.get "group_id")
    userId := ← i64Field (rawEvent.get "user_id")
    subType := ← stringField (rawEvent.get "sub_type")
    operatorId := ← optionField i64Field (rawEvent.get "operator_id")
    targetId := ← optionField i64Field (rawEvent.get "target_id")
    messageId := ← messageIdField (rawEvent.get "message_id")
    time := ← i64Field (rawEvent.get "time") }

/-- The notices of a group that only need its ids. -/
def groupNotice (event : OneBotNoticeEvent) (eventName : String) (built : NapCatEvent) :
    Except NapCatError (Option NapCatEvent) := do
  validateActorIds event.groupId event.userId eventName
  return some built

def groupRecallNotice (event : OneBotNoticeEvent) : Except NapCatError (Option NapCatEvent) := do
  validateActorIds event.groupId event.userId "group_recall notice"
  require (isBlank event.messageId = false) "group_recall notice requires a non-empty message_id"
  return some (.groupRecall
    ⟨event.groupId, event.userId, event.operatorId, event.messageId, event.time⟩)

def friendRecallNotice (event : OneBotNoticeEvent) : Except NapCatError (Option NapCatEvent) := do
  require (0 < event.userId) "friend_recall notice requires a positive user_id"
  require (isBlank event.messageId = false) "friend_recall notice requires a non-empty message_id"
  return some (.friendRecall ⟨event.userId, event.messageId, event.time⟩)

/-- `handle_notice`, up to the call of the handler. -/
def handleNotice (rawEvent : Value) : Except NapCatError (Option NapCatEvent) :=
  match OneBotNoticeEvent.fromValue rawEvent with
  | none => .error (.protocol "invalid notice event")
  | some event =>
    if event.noticeType = "group_increase" then
      groupNotice event "group_increase notice" .groupMemberIncrease
    else if event.noticeType = "group_decrease" then
      groupNotice event "group_decrease notice" .groupMemberDecrease
    else if event.noticeType = "notify" ∧ event.subType = "poke" then
      groupNotice event "poke notice" .poke
    else if event.noticeType = "group_upload" then
      groupNotice event "group_upload notice" (.groupUpload event.groupId)
    else if event.noticeType = "group_recall" then groupRecallNotice event
    else if event.noticeType = "friend_recall" then friendRecallNotice event
    else .ok none

/-! ## Dispatch -/

inductive MetaEvent where
  | heartbeat (intervalSecs : Option ℕ)
  | lifecycle
deriving DecidableEq

def Value.asU64 : Value → Option ℕ
  | .number (.int value) => if 0 ≤ value ∧ value < 2 ^ 64 then some value.toNat else none
  | _ => none

-- an interval is declared in milliseconds
def parseMetaEvent (raw : Value) : Option MetaEvent :=
  if (raw.get "post_type").bind Value.asStr ≠ some "meta_event" then none
  else
    match (raw.get "meta_event_type").bind Value.asStr with
    | some "heartbeat" =>
      some (.heartbeat (((raw.get "interval").bind Value.asU64).map (· / 1000)))
    | some "lifecycle" => some .lifecycle
    | _ => none

/-- The event of a frame that is not a meta event. -/
def businessEvent (crates : Crates) (selfQqId : ℤ) (rawEvent : Value) :
    Except NapCatError (Option NapCatEvent) :=
  let bounded := boundRawEvent crates rawEvent
  match postType rawEvent with
  | "notice" => handleNotice bounded
  | "message" => handleMessage crates selfQqId bounded false
  | "message_sent" => handleMessage crates selfQqId bounded true
  | _ => .ok none

/-- `handle_ws_message`, up to the call of the handler. -/
def wsEvent (crates : Crates) (selfQqId : ℤ) (text : String) :
    Except NapCatError (Option NapCatEvent) :=
  if MAX_WS_TEXT_BYTES < text.utf8ByteSize then
    .error (.protocol "WebSocket text frame exceeds 65536 bytes; rejected before deserialization")
  else
    match crates.fromStr text with
    | none => .error (.protocol "invalid JSON")
    | some rawEvent =>
      match parseMetaEvent rawEvent with
      | some _ => .ok none
      | none => businessEvent crates selfQqId rawEvent

end ServerRS.NapCat

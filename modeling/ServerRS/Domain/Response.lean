import ServerRS.Domain.Planner

/-!
# Responses to the Owner

Models `domain/agent_runtime/response.rs` and the draft half of `validation.rs`: the
bounded draft that answers the Owner, and the one function that makes it from a receipt.

How `serde_json` reads the artifacts of the notification policies, of which the texts that
are shown are kept, and how long a serialized draft is, are parameters, `ResponseFormat`.
-/

namespace ServerRS

open Lib

def MAX_RESPONSE_SEGMENTS : ℕ := 20

def MAX_SEGMENT_CHARS : ℕ := 1000

def MAX_DRAFT_TOTAL_CHARS : ℕ := 8000

def MAX_EVIDENCE : ℕ := 100

inductive ResponseSegment where
  | excerpt (sourceEventId : SourceEventId) (text : String)
  | summary (text : String)
deriving DecidableEq

def ResponseSegment.text : ResponseSegment → String
  | .excerpt _ text => text
  | .summary text => text

structure OwnerResponseDraft where
  segments : List ResponseSegment
  sourceEventIds : List SourceEventId
  createdAtUnixSecs : Int
  invalidated : Bool
deriving DecidableEq

structure NotificationPolicyResponseArtifact where
  scope : String
  status : String
  typedReason : String
  auditReference : String
deriving DecidableEq

/-- What `serde_json` makes of the receipt of a policy action, and of a draft. -/
class ResponseFormat where
  /-- `serde_json::from_str::<Vec<NotificationPolicyResponseArtifact>>`. -/
  parseArtifacts : String → Option (List NotificationPolicyResponseArtifact)
  /-- `serde_json::from_str::<Option<NotificationPolicyResponseArtifact>>`. -/
  parseOptionalArtifact : String → Option (Option NotificationPolicyResponseArtifact)
  /-- `serde_json::from_str::<NotificationPolicyResponseArtifact>`. -/
  parseArtifact : String → Option NotificationPolicyResponseArtifact
  /-- `serde_json::to_vec(draft)` in bytes, if it succeeds. -/
  draftLen : OwnerResponseDraft → Option ℕ

/-! ## Drafts -/

def requireDraft (condition : Prop) [Decidable condition] (text : String) :
    Except SecretaryAgentRuntimeError Unit :=
  if condition then .ok () else .error (.invalidResponseDraft text)

def OwnerResponseDraft.totalCharCount (draft : OwnerResponseDraft) : ℕ :=
  (draft.segments.map fun segment => segment.text.length).sum

/-- The body of the loop over the segments; an excerpt may be empty, a summary may not. -/
def validateSegment (segment : ResponseSegment) : Except SecretaryAgentRuntimeError Unit := do
  requireDraft (segment.text.length ≤ MAX_SEGMENT_CHARS)
    ("segment text must not exceed " ++ toString MAX_SEGMENT_CHARS ++ " characters")
  match segment with
  | .excerpt _ text => requireDraft (text = "" ∨ isBlank text = false) "segment text must not be blank"
  | .summary text => requireDraft (isBlank text = false) "segment text must not be blank"

def validateResponseDraft (draft : OwnerResponseDraft) : Except SecretaryAgentRuntimeError Unit := do
  requireDraft (draft.segments ≠ []) "response draft must contain at least one segment"
  requireDraft (draft.segments.length ≤ MAX_RESPONSE_SEGMENTS)
    ("response draft must not exceed " ++ toString MAX_RESPONSE_SEGMENTS ++ " segments")
  draft.segments.forM validateSegment
  requireDraft (draft.totalCharCount ≤ MAX_DRAFT_TOTAL_CHARS)
    ("response draft total characters must not exceed " ++ toString MAX_DRAFT_TOTAL_CHARS)
  requireDraft (draft.sourceEventIds.length ≤ MAX_EVIDENCE)
    ("response draft source_event_ids must not exceed " ++ toString MAX_EVIDENCE ++ " items")
  requireDraft (draft.sourceEventIds.map SourceEventId.asStr).Nodup
    "response draft source_event_ids must be unique"
  requireDraft (0 ≤ draft.createdAtUnixSecs) "created_at_unix_secs must not be negative"

def OwnerResponseDraft.new (segments : List ResponseSegment) (sourceEventIds : List SourceEventId)
    (createdAtUnixSecs : Int) : Except SecretaryAgentRuntimeError OwnerResponseDraft := do
  let draft : OwnerResponseDraft := ⟨segments, sourceEventIds, createdAtUnixSecs, false⟩
  validateResponseDraft draft
  .ok draft

/-! ## Texts -/

def startsWith (text pattern : String) : Bool := pattern.toList.isPrefixOf text.toList

def containsText (text pattern : String) : Bool := decide (pattern.toList <:+: text.toList)

def isNotificationPolicyAction : SecretaryToolKind → Bool
  | .listNotificationPolicies | .explainNotificationDecision | .setAccountDefaultNotificationMode
  | .setConversationNotificationMode | .setQuietHours | .setImportantContact
  | .setNotificationCategoryImportance | .recordNotificationFeedback
  | .createSimilarNotificationRule | .disableNotificationPolicy
  | .setAutomaticReplyDeniedForContact => true
  | _ => false

def conflictReasonCn (reasonCode : MemoryConflictReasonCode) (summary : String) : String :=
  (match reasonCode with
    | .activeFactPayloadDiffers => "记忆内容冲突"
    | .reReadSourcesInvalidated => "记忆来源已失效"
    | .reReadAccountMismatch => "记忆归属异常"
    | .reReadFailed => "记忆回读失败") ++ "：" ++ summary

def fallbackSegments : List ResponseSegment :=
  [.summary "操作结果已经记录，但无法安全展示详细结果，请通过审计记录查询。"]

def scopePrefix (scope : String) : String :=
  if startsWith scope "conversation" then "会话范围"
  else if startsWith scope "actor" then "联系人范围"
  else if startsWith scope "category" then "类别范围"
  else if startsWith scope "account" then "账号范围"
  else "范围"

def statusCn (status : String) : String :=
  match status with
  | "rule" => "规则"
  | "tombstone" => "已停用"
  | "remind" => "提醒"
  | "delay" => "延迟"
  | "suppress" => "静默"
  | "recorded" => "已记录"
  | _ => "已配置"

def outcomeCn (outcome : String) : String :=
  match outcome with
  | "remind" => "提醒"
  | "delay" => "延迟"
  | "suppress" => "静默"
  | "candidate_expired" => "候选已过期"
  | "evaluation_failed_terminal" => "评估失败"
  | "delivery_window_expired" => "投递窗口已过期"
  | "schedule_time_ambiguous" => "时区歧义"
  | _ => "策略判定"

def translateReason (reason : String) : String :=
  if containsText reason "schedule_time_ambiguous" then
    "规则时间存在时区歧义，需要重新确认静默时段。"
  else
    match reason with
    | "quiet_hours" => "当前处于静默时段。"
    | "fully_silent" => "该会话已设为完全静默。"
    | "account_default_policy" => "根据账号默认策略。"
    | "conversation_policy" => "根据会话策略。"
    | "contact_policy" => "根据联系人策略。"
    | "category_policy" => "根据类别策略。"
    | "candidate_expired" => "候选已过期。"
    | "delivery_window_expired" => "投递窗口已过期。"
    | "evaluation_failed_terminal" => "策略评估失败。"
    | "invalid_quiet_hours" => "静默时段配置无效。"
    | "feedback_recorded" => "反馈已记录。"
    | "policy_written" => "策略已写入。"
    | _ => "策略引擎判定。"

/-! ## The response of a policy action -/

def listHeader : String := "当前提醒规则：\n"

def truncationNote : String := "其余规则已省略，请缩小查询范围。"

/-- The line of one rule. -/
def listLine (i : ℕ) (artifact : NotificationPolicyResponseArtifact) : String :=
  toString (i + 1) ++ ". " ++ scopePrefix artifact.scope ++ " " ++ artifact.scope ++ "，状态 " ++
    statusCn artifact.status ++ "，版本 " ++ artifact.typedReason

/-- The loop of `build_list_segments`: the lines that fit, and whether any was left out. -/
def listLines : ℕ → List NotificationPolicyResponseArtifact → List String → ℕ → List String × Bool
  | _, [], lines, _ => (lines, false)
  | i, artifact :: rest, lines, total =>
    let line := listLine i artifact
    if 1000 < total + line.length + 1 + truncationNote.length ∧ 0 < i then (lines, true)
    else listLines (i + 1) rest (lines ++ [line]) (total + (line.length + 1))

/-- The rules that fit, one a line, with a note where some are left out. -/
def listText (artifacts : List NotificationPolicyResponseArtifact) : String :=
  let (lines, truncated) := listLines 0 artifacts [] listHeader.length
  listHeader ++ String.intercalate "\n" lines ++ (if truncated then truncationNote else "")

/-- The text cut to `maxChars` characters. -/
def cutText (text : String) (maxChars : ℕ) : String :=
  if maxChars < text.length then takeChars text maxChars else text

def buildListSegments (artifacts : List NotificationPolicyResponseArtifact) : List ResponseSegment :=
  if artifacts.isEmpty then [.summary "当前没有已配置的提醒规则。"]
  else [.summary (cutText (listText artifacts) 1000)]

def buildExplainSegments : Option NotificationPolicyResponseArtifact → List ResponseSegment
  | none => [.summary "未找到该提醒决策，或该决策不属于当前账号。"]
  | some artifact => [.summary ("该提醒的处理结果为：" ++ outcomeCn artifact.status ++ "。\n原因：" ++
      translateReason artifact.typedReason ++ "。\n审计引用：" ++ artifact.auditReference)]

def buildMutationSegments (kind : SecretaryToolKind) : List ResponseSegment :=
  [.summary (match kind with
    | .recordNotificationFeedback => "你的反馈已记录。"
    | .disableNotificationPolicy => "提醒规则已停用。"
    | .setAutomaticReplyDeniedForContact => "已记录该联系人的自动回复禁用策略。"
    | _ => "提醒规则已更新。")]

section Draft

variable [PlannerFormat] [ResponseFormat]

def buildPolicyResponse (kind : SecretaryToolKind) (resultRef : String) : List ResponseSegment :=
  match kind with
  | .listNotificationPolicies =>
    match ResponseFormat.parseArtifacts resultRef with
    | some artifacts => buildListSegments artifacts
    | none => fallbackSegments
  | .explainNotificationDecision =>
    match ResponseFormat.parseOptionalArtifact resultRef with
    | some artifact => buildExplainSegments artifact
    | none => fallbackSegments
  | kind =>
    match ResponseFormat.parseArtifact resultRef with
    | some _ => buildMutationSegments kind
    | none => fallbackSegments

/-- The segments for a receipt, or for none. -/
def receiptSegments : Option SecretaryActionReceipt → List ResponseSegment
  | none => [.summary "无需执行动作"]
  | some receipt =>
    match receipt.toolKind with
    | some .approveMemoryCandidate =>
      match PlannerFormat.parseConflictResult receipt.resultRef with
      | some conflict =>
        if conflict.version = 1 then
          [.summary (conflictReasonCn conflict.reasonCode conflict.summary)]
        else [.summary ("动作已执行：" ++ receipt.resultRef)]
      | none => [.summary ("动作已执行：" ++ receipt.resultRef)]
    | some kind =>
      if isNotificationPolicyAction kind then buildPolicyResponse kind receipt.resultRef
      else [.summary ("动作已执行：" ++ receipt.resultRef)]
    | none => [.summary ("动作已执行：" ++ receipt.resultRef)]

/-- The draft of a policy action is at most 8 KiB when serialized. -/
def checkPolicyDraft (draft : OwnerResponseDraft) : Except SecretaryAgentRuntimeError Unit :=
  match ResponseFormat.draftLen draft with
  | none => .error (.invalidResponseDraft "策略响应草稿序列化失败")
  | some size =>
    requireDraft (size ≤ 8 * 1024) "策略响应草稿序列化后超过 8 KiB 上限"

def buildActionResponseDraft (receipt : Option SecretaryActionReceipt)
    (sourceEventIds : List SourceEventId) (createdAtUnixSecs : Int) :
    Except SecretaryAgentRuntimeError OwnerResponseDraft := do
  let isPolicy := (receipt.bind SecretaryActionReceipt.toolKind).any isNotificationPolicyAction
  let draft ← OwnerResponseDraft.new (receiptSegments receipt) sourceEventIds createdAtUnixSecs
  if isPolicy then do
    checkPolicyDraft draft
    .ok draft
  else .ok draft

end Draft

end ServerRS

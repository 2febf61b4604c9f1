import ServerRS.Domain.ActionValidation
import ServerRS.Domain.WorkingContext

/-!
# The planner's input and output

Models `domain/planner.rs` of the personal secretary: the observations of query tools, the
typed results that effects leave in their receipts, and the checks on what the planner is
given and what it answers.

Parsing a receipt and recognising a time zone are parameters, `PlannerFormat`.
-/

namespace ServerRS

open Lib

/-! ## Limits -/

namespace Planner

def MAX_COMMAND_TEXT_CHARS : ℕ := 4000

def MAX_RECENT_EVENTS : ℕ := 8

def MAX_RETRIEVED_EXCERPTS : ℕ := 20

def MAX_EXCERPT_CHARS : ℕ := 1000

def MAX_RECENT_EVENT_VIEWS : ℕ := 8

def MAX_MENTIONED_ACTORS : ℕ := 20

def MAX_TIMEZONE_NAME_BYTES : ℕ := 64

def MAX_REASON_CHARS : ℕ := 1000

def MAX_QUESTION_CHARS : ℕ := 1000

def MAX_EVIDENCE : ℕ := 20

def MIN_OFFSET_SECS : Int := -50400

def MAX_OFFSET_SECS : Int := 50400

def MAX_OBSERVATION_EVENT_REFS : ℕ := 30

def MAX_TYPED_EVENTS_PER_OBSERVATION : ℕ := 30

def MAX_TYPED_EVENT_EXCERPT_CHARS : ℕ := 200

def MAX_TYPED_EVENT_ACTOR_ID_BYTES : ℕ := 256

end Planner

def MAX_REPLAN_ROUNDS : UInt8 := 2

def MAX_TOOL_OBSERVATIONS : ℕ := 2

def MAX_TOOL_OBSERVATION_CHARS : ℕ := 2000

def MAX_TOOL_OBSERVATION_TOTAL_CHARS : ℕ := 4000

open Planner

/-! ## Which actions and tools -/

/-- `is_replan_observation_tool`: the queries whose result the planner is shown. -/
def isReplanObservationTool : SecretaryToolKind → Bool
  | .searchRecentEvents | .readSourceEvent | .searchEventThreads | .resolveReference
  | .listUpcomingItems | .getSecretaryStatus | .listPendingOwnerWork | .listMemoryCandidates => true
  | _ => false

/-- A query is read-only and needs no confirmation. -/
theorem isReplanObservationTool_policy {kind : SecretaryToolKind}
    (h : isReplanObservationTool kind = true) :
    kind.policy.risk = .l0ReadOnly ∧ kind.policy.requiresConfirmation = false := by
  cases kind <;> first | exact ⟨rfl, rfl⟩ | cases h

/-- `is_allowed_action_in_batch`: every action but a message to the Owner. -/
def isAllowedActionInBatch : SecretaryAction → Bool
  | .searchRecentEvents .. | .readSourceEvent .. | .searchEventThreads .. | .resolveReference ..
  | .listUpcomingItems .. | .getSecretaryStatus | .listPendingOwnerWork .. | .getThreadContext ..
  | .getEventCausalContext .. | .getParticipantContext .. | .getParticipantContextByName ..
  | .draftReminder .. | .askOwnerClarification .. | .createSchedule .. | .createTask ..
  | .createReminder .. | .rescheduleItem .. | .cancelItem .. | .completeItem .. | .snoozeItem ..
  | .listNotificationPolicies .. | .explainNotificationDecision ..
  | .setAccountDefaultNotificationMode .. | .setConversationNotificationMode .. | .setQuietHours ..
  | .setImportantContact .. | .setNotificationCategoryImportance ..
  | .recordNotificationFeedback .. | .createSimilarNotificationRule ..
  | .disableNotificationPolicy .. | .setAutomaticReplyDeniedForContact .. | .listMemoryFacts ..
  | .readMemoryFactSources .. | .correctMemoryFact .. | .deleteMemoryFact .. | .setMemoryFactTtl ..
  | .setConversationMemoryMode .. | .confirmThreadDecision .. | .revokeThreadDecision ..
  | .dismissThreadQuestion .. | .reconfirmThreadSemantics .. | .retryFailedArtifactDerivations ..
  | .setThreadLifecycle .. | .mergeThreads .. | .splitThread .. | .dismissFollowUp ..
  | .snoozeFollowUp .. | .dismissFollowUps .. | .snoozeFollowUps .. | .completeFollowUp ..
  | .completeFollowUps .. | .dismissResponseExpectation .. | .dismissResponseExpectations ..
  | .listMemoryCandidates .. | .listThreadLinkCandidates .. | .approveMemoryCandidate ..
  | .rejectMemoryCandidate .. | .listProjects .. | .queryProject .. | .listCommitments .. => true
  | .sendOwnerMessage .. => false

def isAllowedAfterMemoryConflict : SecretaryAction → Bool
  | .askOwnerClarification _ | .correctMemoryFact .. => true
  | _ => false

/-- After a conflict nothing runs without the Owner. -/
theorem isAllowedAfterMemoryConflict_needsOwner {action : SecretaryAction}
    (h : isAllowedAfterMemoryConflict action = true) : action.NeedsOwner := by
  cases action <;> first | exact .inl rfl | exact .inr rfl | cases h

/-! ## Input -/

inductive MessageRole where
  | ownerCommand
  | ownerObservation
  | externalObservation
  | assistantOutput
deriving DecidableEq

structure RecentEventRef where
  sourceEventId : SourceEventId
  summary : String
deriving DecidableEq

structure PlannerCommandEvent where
  sourceEventId : SourceEventId
  conversation : ConversationRef
  occurredAtUnixSecs : Int
  normalizedText : String

structure PlannerRetrievedExcerpt where
  sourceEventId : SourceEventId
  excerpt : String
  occurredAtUnixSecs : Int
  actorId : String
  actorKind : VerifiedActorKind

structure AgentEventView where
  sourceEventId : SourceEventId
  conversation : ConversationRef
  actor : ThreadActorRef
  occurredAtUnixSecs : Int
  role : MessageRole
  contentTrustLevel : ContentTrustLevel
  excerpt : String
  mentionedActors : List ThreadActorRef
  mentionAll : Bool
  replyToEventId : Option SourceEventId
  threadId : Option EventThreadId

inductive AgentEventViewError where
  | emptyField (field : String)
  | tooLarge (field : String) (max : ℕ)
  | actorAccountMismatch
  | mentionedActorAccountMismatch (index : ℕ)
deriving DecidableEq

/-- `Display for AgentEventViewError`. -/
def AgentEventViewError.toText : AgentEventViewError → String
  | .emptyField field => "event view " ++ field ++ " must not be empty"
  | .tooLarge field max => "event view " ++ field ++ " exceeds max " ++ toString max
  | .actorAccountMismatch => "actor account mismatch"
  | .mentionedActorAccountMismatch index =>
    "mentioned actor account mismatch at index " ++ toString index

def validateAgentEventView (view : AgentEventView) (account : SourceAccountRef) :
    Except AgentEventViewError Unit :=
  if view.actor.account ≠ account then .error .actorAccountMismatch
  else if MAX_EXCERPT_CHARS < view.excerpt.length then .error (.tooLarge "excerpt" MAX_EXCERPT_CHARS)
  else if MAX_MENTIONED_ACTORS < view.mentionedActors.length then
    .error (.tooLarge "mentioned_actors" MAX_MENTIONED_ACTORS)
  else
    match view.mentionedActors.findIdx? fun mentioned => mentioned.account ≠ account with
    | some index => .error (.mentionedActorAccountMismatch index)
    | none =>
      if view.replyToEventId.any fun replyId => isBlank replyId.asStr then
        .error (.emptyField "reply_to_event_id")
      else if view.threadId.any fun threadId => isBlank threadId.asStr then
        .error (.emptyField "thread_id")
      else .ok ()

/-! ## Observations and results of effects -/

structure QueryEffectTypedEvent where
  sourceEventId : SourceEventId
  actorId : String
  actorKind : PlatformIdentityKind
  occurredAtUnixSecs : Int
  excerpt : String
deriving DecidableEq

inductive QueryEffectNextCursor where
  | threadSearch (cursor : ThreadSearchCursor)
  | pendingOwnerWork (cursor : PendingOwnerWorkCursor)
deriving DecidableEq

structure PlannerToolObservation where
  proposalId : String
  toolKind : SecretaryToolKind
  success : Bool
  sourceEventIds : List SourceEventId
  summary : String
  typedEvents : List QueryEffectTypedEvent
  version : UInt8
  ambiguous : Bool
  nextCursor : Option QueryEffectNextCursor
deriving DecidableEq

structure QueryEffectResultV1 where
  version : UInt8
  toolKind : SecretaryToolKind
  summary : String
  sourceEventIds : List SourceEventId
  eventCount : ℕ
  typedEvents : List QueryEffectTypedEvent
  ambiguous : Bool
  nextCursor : Option QueryEffectNextCursor
deriving DecidableEq

def QueryEffectResultV1.toObservation (self : QueryEffectResultV1) (proposalId : String)
    (success : Bool) : PlannerToolObservation where
  proposalId := proposalId
  toolKind := self.toolKind
  success := success
  sourceEventIds := self.sourceEventIds
  summary := self.summary
  version := 1
  typedEvents := self.typedEvents
  ambiguous := self.ambiguous
  nextCursor := self.nextCursor

structure MemoryCandidateConflictResultV1 where
  version : UInt8
  candidateId : MemoryCandidateId
  factId : MemoryFactId
  reasonCode : MemoryConflictReasonCode
  summary : String
deriving DecidableEq

/-- What `serde_json` makes of a `result_ref`, and `chrono_tz` of a time zone name. -/
class PlannerFormat where
  /-- `serde_json::from_str::<QueryEffectResultV1>`. -/
  parseQueryEffectResult : String → Option QueryEffectResultV1
  /-- `serde_json::from_str::<MemoryCandidateConflictResultV1>`. -/
  parseConflictResult : String → Option MemoryCandidateConflictResultV1
  /-- `timezone.parse::<chrono_tz::Tz>().is_ok()`. -/
  isTimezone : String → Bool

/-! ## Planner -/

structure PlannerInput where
  account : SourceAccountRef
  command : PlannerCommandEvent
  recentEvents : List RecentEventRef
  recentEventViews : List AgentEventView
  timezoneOffsetSecs : Int
  timezone : String
  nowUnixSecs : Int
  retrieved : List PlannerRetrievedExcerpt
  observations : List PlannerToolObservation
  workingContext : Option WorkingContextProjection
  replanRound : UInt8
  remainingQueryBudget : UInt8

inductive PlannerOutput where
  | noAction (reason : String)
  | clarification (question : String) (evidence : List SourceEventId)
  | proposal (proposal : SecretaryActionProposal)

inductive PlannerError where
  | invalidInput (text : String)
  | invalidOutput (text : String)
  | disallowedAction (text : String)
  | llmCall (text : String)
  | unparseableOutput (text : String)
  | timeout
deriving DecidableEq

/-- `Display for PlannerError`. -/
def PlannerError.toText : PlannerError → String
  | .invalidInput text => "invalid planner input: " ++ text
  | .invalidOutput text => "invalid planner output: " ++ text
  | .disallowedAction text => "planner produced disallowed action: " ++ text
  | .llmCall text => "llm call failed: " ++ text
  | .unparseableOutput text => "llm returned unparseable output: " ++ text
  | .timeout => "planner timed out"

/-! ## Checks -/

namespace Planner

def requireInput (condition : Prop) [Decidable condition] (text : String) :
    Except PlannerError Unit :=
  if condition then .ok () else .error (.invalidInput text)

@[simp] theorem requireInput_ok {condition : Prop} [Decidable condition] {text : String} :
    requireInput condition text = .ok () ↔ condition := by
  unfold requireInput
  split <;> simp_all

def boundedText (field value : String) (min max : ℕ) : Except PlannerError Unit :=
  requireInput (min ≤ value.length ∧ value.length ≤ max)
    (field ++ " must contain " ++ toString min ++ "..=" ++ toString max ++ " characters")

def nonEmptyBoundedText (field value : String) (min max : ℕ) : Except PlannerError Unit := do
  requireInput (isBlank value = false) (field ++ " must not be blank")
  boundedText field value min max

/-- The cursor of an observation belongs to the tool that made it. -/
def cursorMatchesTool : Option QueryEffectNextCursor → SecretaryToolKind → Bool
  | none, _ => true
  | some (.threadSearch _), .searchEventThreads => true
  | some (.pendingOwnerWork _), .listPendingOwnerWork => true
  | _, _ => false

/-- The loop over `typed_events`; `seen` are the events before them. -/
def validateTypedEvents (sourceEventIds : List SourceEventId) :
    List QueryEffectTypedEvent → List SourceEventId → Except PlannerError Unit
  | [], _ => .ok ()
  | event :: rest, seen => do
    requireInput (isBlank event.actorId = false) "typed_event.actor_id must not be empty"
    requireInput (event.actorId.utf8ByteSize ≤ MAX_TYPED_EVENT_ACTOR_ID_BYTES)
      ("typed_event.actor_id exceeds max " ++ toString MAX_TYPED_EVENT_ACTOR_ID_BYTES ++ " bytes")
    requireInput (event.excerpt.length ≤ MAX_TYPED_EVENT_EXCERPT_CHARS)
      ("typed_event.excerpt exceeds max " ++ toString MAX_TYPED_EVENT_EXCERPT_CHARS ++ " chars")
    requireInput (event.sourceEventId ∉ seen)
      ("typed_events contains duplicate source_event_id: " ++ event.sourceEventId.asStr)
    requireInput (event.sourceEventId ∈ sourceEventIds)
      ("typed_event.source_event_id " ++ event.sourceEventId.asStr ++
        " not in observation.source_event_ids")
    validateTypedEvents sourceEventIds rest (event.sourceEventId :: seen)

end Planner

def validateToolObservation (obs : PlannerToolObservation) : Except PlannerError Unit := do
  requireInput (isBlank obs.proposalId = false) "observation.proposal_id must not be empty"
  requireInput (obs.summary.length ≤ MAX_TOOL_OBSERVATION_CHARS)
    ("observation summary exceeds max " ++ toString MAX_TOOL_OBSERVATION_CHARS ++ " chars")
  requireInput (obs.sourceEventIds.length ≤ MAX_OBSERVATION_EVENT_REFS)
    ("observation source_event_ids exceeds max " ++ toString MAX_OBSERVATION_EVENT_REFS)
  requireInput (cursorMatchesTool obs.nextCursor obs.toolKind = true)
    "observation cursor does not match its tool kind"
  requireInput (obs.typedEvents.length ≤ MAX_TYPED_EVENTS_PER_OBSERVATION)
    ("observation typed_events exceeds max " ++ toString MAX_TYPED_EVENTS_PER_OBSERVATION)
  validateTypedEvents obs.sourceEventIds obs.typedEvents []

/-- The characters of all summaries together. -/
def totalSummaryChars (observations : List PlannerToolObservation) : ℕ :=
  (observations.map fun obs => obs.summary.length).sum

theorem validateToolObservation_summary {obs : PlannerToolObservation}
    (h : validateToolObservation obs = .ok ()) :
    obs.summary.length ≤ MAX_TOOL_OBSERVATION_CHARS := by
  unfold validateToolObservation at h
  simp only [Except.and_then_eq_ok, requireInput_ok] at h
  exact h.2.1

namespace Planner

/-- The part of `validate_planner_input` that checks what the graph puts into the input itself:
the observations, the round and the working context. -/
def validatePlanningState (observations : List PlannerToolObservation) (replanRound : UInt8)
    (workingContext : Option WorkingContextProjection) : Except PlannerError Unit := do
  requireInput (observations.length ≤ MAX_TOOL_OBSERVATIONS)
    ("observations must not exceed " ++ toString MAX_TOOL_OBSERVATIONS ++ " items")
  observations.forM validateToolObservation
  requireInput (totalSummaryChars observations ≤ MAX_TOOL_OBSERVATION_TOTAL_CHARS)
    ("observation total chars " ++ toString (totalSummaryChars observations) ++ " exceeds max " ++
      toString MAX_TOOL_OBSERVATION_TOTAL_CHARS)
  requireInput (replanRound ≤ MAX_REPLAN_ROUNDS)
    ("replan_round " ++ toString replanRound ++ " exceeds max " ++ toString MAX_REPLAN_ROUNDS)
  workingContext.elim (.ok ()) fun projection =>
    (validateWorkingContextProjection projection).mapError fun e =>
      .invalidInput ("working_context: " ++ e.toText)

end Planner

def validatePlannerInput [PlannerFormat] (input : PlannerInput) : Except PlannerError Unit := do
  nonEmptyBoundedText "command.normalized_text" input.command.normalizedText 1
    MAX_COMMAND_TEXT_CHARS
  requireInput (input.recentEvents.length ≤ MAX_RECENT_EVENTS)
    ("recent_events must not exceed " ++ toString MAX_RECENT_EVENTS ++ " items")
  requireInput (input.recentEventViews.length ≤ MAX_RECENT_EVENT_VIEWS)
    ("recent_event_views must not exceed " ++ toString MAX_RECENT_EVENT_VIEWS ++ " items")
  input.recentEventViews.forM fun view =>
    (validateAgentEventView view input.account).mapError fun e =>
      .invalidInput ("invalid agent event view: " ++ e.toText)
  requireInput
    (MIN_OFFSET_SECS ≤ input.timezoneOffsetSecs ∧ input.timezoneOffsetSecs ≤ MAX_OFFSET_SECS)
    ("timezone_offset_secs must be in " ++ toString MIN_OFFSET_SECS ++ "..=" ++
      toString MAX_OFFSET_SECS)
  requireInput
    (isBlank input.timezone = false ∧ input.timezone.utf8ByteSize ≤ MAX_TIMEZONE_NAME_BYTES ∧
      PlannerFormat.isTimezone input.timezone = true)
    "timezone must be a valid IANA timezone"
  requireInput (input.retrieved.length ≤ MAX_RETRIEVED_EXCERPTS)
    ("retrieved must not exceed " ++ toString MAX_RETRIEVED_EXCERPTS ++ " items")
  input.retrieved.forM fun excerpt => do
    Planner.boundedText "retrieved.excerpt" excerpt.excerpt 0 MAX_EXCERPT_CHARS
    nonEmptyBoundedText "retrieved.actor_id" excerpt.actorId 1 191
  validatePlanningState input.observations input.replanRound input.workingContext

def validatePlannerOutput : PlannerOutput → Except PlannerError Unit
  | .noAction reason => nonEmptyBoundedText "NoAction.reason" reason 1 MAX_REASON_CHARS
  | .clarification question evidence => do
    nonEmptyBoundedText "Clarification.question" question 1 MAX_QUESTION_CHARS
    if MAX_EVIDENCE < evidence.length then
      .error (.invalidOutput
        ("Clarification.evidence must not exceed " ++ toString MAX_EVIDENCE ++ " items"))
    else .ok ()
  | .proposal proposal => do
    (validateActionProposal proposal).mapError fun error => .invalidOutput error.toText
    if isAllowedActionInBatch proposal.action then .ok ()
    else .error (.disallowedAction
      (proposal.action.kind.toText ++ " is not allowed in this batch"))

end ServerRS

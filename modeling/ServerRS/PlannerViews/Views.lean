import ServerRS.Domain.Planner
import ServerRS.Lib.Exec
import ServerRS.Lib.Labels

/-!
# What the model is shown

Models `build_llm_views` and `resolve_event_refs` of the adapter `action_planner.rs`. The model never
sees the id of an event, a participant, a conversation or a thread: it sees labels, and what it
answers is resolved through the labels of the same request.

The text of an observation's summary is its lines, and of the working context the parts without
labels are left out: the conflict, the open references and the facts, which have labels of their own.
-/

namespace ServerRS

def PlatformIdentityKind.asStr : PlatformIdentityKind → String
  | .owner => "owner"
  | .officialBot => "official_bot"
  | .external => "external"

def PlatformIdentityKind.fromVerifiedActorKind : VerifiedActorKind → PlatformIdentityKind
  | .owner => .owner
  | .officialBot => .officialBot
  | .external => .external

def MessageRole.asStr : MessageRole → String
  | .ownerCommand => "owner_command"
  | .ownerObservation => "owner_observation"
  | .externalObservation => "external_observation"
  | .assistantOutput => "assistant_output"

namespace PlannerViews

open Lib

/-! ## Labels of one request -/

inductive BuildError where
  | planner (error : PlannerError)
  | panic (message : String)

structure AccountScopedParticipantRef where
  account : SourceAccountRef
  platformKind : PlatformIdentityKind
  stableId : String
deriving DecidableEq

/-- `"{identity_kind}:{actor_id}"`. -/
def AccountScopedParticipantRef.actorKey (participant : AccountScopedParticipantRef) : String :=
  participant.platformKind.asStr ++ ":" ++ participant.stableId

def conversationKey (conversation : ConversationRef) : String :=
  conversation.kind.asStr ++ ":" ++ conversation.id

/-- The maps and counters of `build_llm_views`. -/
structure ViewLabels where
  events : Labels "evt" SourceEventId
  actors : Labels "actor" AccountScopedParticipantRef
  conversations : Labels "conv" String
  threads : Labels "thread" String
  cursors : Labels "cursor" QueryEffectNextCursor
  /-- `obs_event_label`: the ids that observations mention, with their labels. -/
  observed : List (String × String)

def ViewLabels.empty : ViewLabels := ⟨.empty, .empty, .empty, .empty, .empty, []⟩

def ViewLabels.observedLabel (labels : ViewLabels) (eventId : SourceEventId) : Option String :=
  (labels.observed.find? fun entry => entry.1 = eventId.asStr).map Prod.snd

abbrev Build (α : Type) := Exec ViewLabels BuildError α

/-- `temp_events.insert` under the next label. -/
def registerEvent (eventId : SourceEventId) : Build String := fun labels =>
  (.ok (labels.events.register eventId).1,
    { labels with events := (labels.events.register eventId).2 })

/-- The label of an event in `temp_events`, or the next one. -/
def reuseEvent (order : MapOrder (String × SourceEventId)) (eventId : SourceEventId) :
    Build String := fun labels =>
  (.ok (labels.events.reuse order eventId).1,
    { labels with events := (labels.events.reuse order eventId).2 })

/-- The entry of `actor_refs`; `message` is that of the `expect` on a participant without an id. -/
def actorLabel (account : SourceAccountRef) (kind : PlatformIdentityKind) (actorId message : String) :
    Build String := fun labels =>
  let participant : AccountScopedParticipantRef := ⟨account, kind, actorId⟩
  if isBlank actorId ∧
      participant.actorKey ∉ labels.actors.values.map AccountScopedParticipantRef.actorKey then
    (.error (.panic message), labels)
  else
    (.ok (labels.actors.intern AccountScopedParticipantRef.actorKey participant).1,
      { labels with
        actors := (labels.actors.intern AccountScopedParticipantRef.actorKey participant).2 })

def conversationLabel (conversation : ConversationRef) : Build String := fun labels =>
  (.ok (labels.conversations.intern id (conversationKey conversation)).1,
    { labels with
      conversations := (labels.conversations.intern id (conversationKey conversation)).2 })

def threadLabel (threadId : EventThreadId) : Build String := fun labels =>
  (.ok (labels.threads.intern id threadId.asStr).1,
    { labels with threads := (labels.threads.intern id threadId.asStr).2 })

def cursorLabel (cursor : QueryEffectNextCursor) : Build String := fun labels =>
  (.ok (labels.cursors.register cursor).1,
    { labels with cursors := (labels.cursors.register cursor).2 })

/-- `Option::map` with a label. -/
def labelOf {α : Type} (label : α → Build String) : Option α → Build (Option String)
  | none => pure none
  | some a => do
    let text ← label a
    pure (some text)

/-! ## Views -/

structure RecentEventLlmView where
  eventRef : String
  actorRef : String
  conversationRef : String
  threadRef : Option String
  occurredAtUnixSecs : Int
  role : String
  contentVisible : Bool
  excerpt : String
  mentionedActorRefs : List String
  mentionAll : Bool
  replyToEventRef : Option String

structure RetrievedLlmView where
  eventRef : String
  actorRef : String
  occurredAtUnixSecs : Int
  excerpt : String

/-- A line of an observation's summary. -/
structure SummaryLine where
  eventRef : String
  actorRef : String
  excerpt : String

structure ObservationLlmView where
  toolKind : SecretaryToolKind
  success : Bool
  lines : List SummaryLine
  sourceEventRefs : List String
  nextCursorRef : Option String

structure WorkingContextLlmView where
  selectedEventRefs : List String
  resolvedConversationRefs : List String
  resolvedThreadRefs : List String
  resolvedActorRefs : List String

structure TempRefMap where
  events : Labels "evt" SourceEventId
  actors : Labels "actor" AccountScopedParticipantRef

def TempRefMap.resolveEvent (self : TempRefMap) (eventRef : String) : Option SourceEventId :=
  self.events.resolve eventRef

/-- What `build_llm_views` returns. -/
structure LlmViews where
  commandEventRef : String
  recentEventViews : List RecentEventLlmView
  retrieved : List RetrievedLlmView
  toolObservations : List ObservationLlmView
  workingContext : Option WorkingContextLlmView
  tempRefMap : TempRefMap

/-- `content_visible`: local content only reaches a verified loopback. -/
def isContentVisible (isLocalLoopback : Bool) : ContentTrustLevel → Bool
  | .normal => true
  | .localOnly => isLocalLoopback
  | .envelopeOnly | .neverLongTerm => false

/-- The label of a participant in an event view. An event without a kind is of an external. -/
def viewActorLabel (account : SourceAccountRef) (message : String) (actor : ThreadActorRef) :
    Build String :=
  actorLabel account (actor.platformIdentityKind.getD .external) actor.actorId message

/-- A round of the loop over `recent_event_views`. -/
def recentEventView (account : SourceAccountRef) (isLocalLoopback : Bool) (view : AgentEventView) :
    Build RecentEventLlmView := do
  let eventRef ← registerEvent view.sourceEventId
  let actorRef ← viewActorLabel account "validated event view actor id" view.actor
  let conversationRef ← conversationLabel view.conversation
  let threadRef ← labelOf threadLabel view.threadId
  let mentionedActorRefs ←
    Exec.each (viewActorLabel account "validated mentioned actor id") view.mentionedActors
  pure
    { eventRef := eventRef
      actorRef := actorRef
      conversationRef := conversationRef
      threadRef := threadRef
      occurredAtUnixSecs := view.occurredAtUnixSecs
      role := view.role.asStr
      contentVisible := isContentVisible isLocalLoopback view.contentTrustLevel
      excerpt := if isContentVisible isLocalLoopback view.contentTrustLevel then view.excerpt else ""
      mentionedActorRefs := mentionedActorRefs
      mentionAll := view.mentionAll
      -- the second pass fills it in
      replyToEventRef := none }

/-- `view_event_refs`: of two views of one event the last one counts. -/
def viewEventRefs (views : List AgentEventView) (llmViews : List RecentEventLlmView) :
    List (SourceEventId × String) :=
  ((views.map (·.sourceEventId)).zip (llmViews.map (·.eventRef))).reverse

/-- The second pass for one view. -/
def fillReply (refs : List (SourceEventId × String)) (view : AgentEventView)
    (llmView : RecentEventLlmView) : RecentEventLlmView :=
  { llmView with
    replyToEventRef := view.replyToEventId.bind fun parentId =>
      (refs.find? fun entry => entry.1 = parentId).map Prod.snd }

/-- A round of the loop over `retrieved`. -/
def retrievedView (account : SourceAccountRef) (excerpt : PlannerRetrievedExcerpt) :
    Build RetrievedLlmView := do
  let eventRef ← registerEvent excerpt.sourceEventId
  let actorRef ← actorLabel account (.fromVerifiedActorKind excerpt.actorKind) excerpt.actorId
    "validated retrieved excerpt actor id"
  pure
    { eventRef := eventRef
      actorRef := actorRef
      occurredAtUnixSecs := excerpt.occurredAtUnixSecs
      excerpt := excerpt.excerpt }

/-- A round of the loop that registers what the observations mention. -/
def registerObserved (order : MapOrder (String × SourceEventId)) (eventId : SourceEventId) :
    Build Unit := fun labels =>
  if eventId.asStr ∈ labels.observed.map Prod.fst then (.ok (), labels)
  else
    (.ok (),
      { labels with
        events := (labels.events.reuse order eventId).2
        observed := labels.observed ++ [(eventId.asStr, (labels.events.reuse order eventId).1)] })

def workingContextView (order : MapOrder (String × SourceEventId)) (account : SourceAccountRef) :
    Option WorkingContextProjection → Build (Option WorkingContextLlmView)
  | none => pure none
  | some working => do
    let selectedEventRefs ← Exec.each (reuseEvent order) working.evidenceRefs
    let resolvedConversationRefs ← Exec.each conversationLabel working.resolvedConversationRefs
    let resolvedThreadRefs ← Exec.each threadLabel working.resolvedThreadRefs
    let resolvedActorRefs ← Exec.each
      (fun participant => actorLabel account participant.platformKind participant.stableId
        "validated working-context participant id") working.resolvedParticipantRefs
    pure (some
      { selectedEventRefs := selectedEventRefs
        resolvedConversationRefs := resolvedConversationRefs
        resolvedThreadRefs := resolvedThreadRefs
        resolvedActorRefs := resolvedActorRefs })

/-- A typed event must be one of the observation's source events. -/
def checkTypedEvents (obs : PlannerToolObservation) : Except BuildError Unit :=
  match obs.typedEvents.find? fun event => event.sourceEventId ∉ obs.sourceEventIds with
  | some event => .error (.planner (.invalidOutput ("typed_event.source_event_id " ++
      event.sourceEventId.asStr ++ " 不在 observation.source_event_ids 中")))
  | none => .ok ()

def observedRef (eventId : SourceEventId) : Build String := fun labels =>
  match labels.observedLabel eventId with
  | some eventRef => (.ok eventRef, labels)
  | none => (.error (.planner (.invalidOutput ("typed_event.source_event_id " ++ eventId.asStr ++
      " 无临时映射"))), labels)

/-- A round of the loop over `typed_events`. -/
def summaryLine (account : SourceAccountRef) (event : QueryEffectTypedEvent) : Build SummaryLine := do
  let actorRef ← actorLabel account event.actorKind event.actorId "validated typed event actor id"
  let eventRef ← observedRef event.sourceEventId
  pure ⟨eventRef, actorRef, takeChars event.excerpt 120⟩

/-- A round of the loop over `observations`. -/
def observationView (account : SourceAccountRef) (obs : PlannerToolObservation) :
    Build ObservationLlmView := do
  let nextCursorRef ← labelOf cursorLabel obs.nextCursor
  let labels ← Exec.get
  Exec.ofExcept (checkTypedEvents obs)
  let lines ← Exec.each (summaryLine account) obs.typedEvents
  pure
    { toolKind := obs.toolKind
      success := obs.success
      lines := lines
      sourceEventRefs := obs.sourceEventIds.filterMap labels.observedLabel
      nextCursorRef := nextCursorRef }

def buildViews (order : MapOrder (String × SourceEventId)) (isLocalLoopback : Bool)
    (input : PlannerInput) : Build LlmViews := do
  let commandEventRef ← registerEvent input.command.sourceEventId
  let eventViews ← Exec.each (recentEventView input.account isLocalLoopback) input.recentEventViews
  let retrievedViews ← Exec.each (retrievedView input.account) input.retrieved
  let _ ← Exec.each (registerObserved order)
    (input.observations.flatMap PlannerToolObservation.sourceEventIds)
  let workingContext ← workingContextView order input.account input.workingContext
  let observationViews ← Exec.each (observationView input.account) input.observations
  let labels ← Exec.get
  pure
    { commandEventRef := commandEventRef
      recentEventViews := List.zipWith
        (fillReply (viewEventRefs input.recentEventViews eventViews)) input.recentEventViews eventViews
      retrieved := retrievedViews
      toolObservations := observationViews
      workingContext := workingContext
      tempRefMap := ⟨labels.events, labels.actors⟩ }

def buildLlmViews (order : MapOrder (String × SourceEventId)) (isLocalLoopback : Bool)
    (input : PlannerInput) : Except BuildError LlmViews :=
  (buildViews order isLocalLoopback input ViewLabels.empty).1

/-- Every event label in the request that the model is sent. -/
def LlmViews.eventRefs (views : LlmViews) : List String :=
  views.commandEventRef :: views.recentEventViews.map (·.eventRef) ++
    views.recentEventViews.filterMap (·.replyToEventRef) ++ views.retrieved.map (·.eventRef) ++
    views.toolObservations.flatMap (fun obs => obs.sourceEventRefs ++ obs.lines.map (·.eventRef)) ++
    views.workingContext.elim [] (·.selectedEventRefs)

/-- A round of the loop of `resolve_event_refs`. -/
def resolveEventRef (tempRefMap : TempRefMap) (ref : String) : Except PlannerError SourceEventId :=
  match tempRefMap.resolveEvent ref with
  | some eventId => .ok eventId
  | none => .error (.invalidOutput ("模型引用了不在当前输入批次中的临时引用 " ++ ref))

def resolveEventRefs (refs : List String) (tempRefMap : TempRefMap) :
    Except PlannerError (List SourceEventId) :=
  refs.mapM (resolveEventRef tempRefMap)

end PlannerViews

end ServerRS

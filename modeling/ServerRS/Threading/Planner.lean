import Mathlib.Data.List.Sort
import Mathlib.Data.String.Basic
import ServerRS.Domain.Action
import ServerRS.Lib.Drain

/-!
# The deterministic thread planner

Models `domain/threading.rs`. A batch of events is put in order of time, with the parents of replies
before the replies, and each event is assigned to the thread of its reply, or else to that of the
last event of its conversation, or else to a new one.

A `HashMap` is a function. `Uuid::new_v4()` draws the identifiers `uuid 0`, `uuid 1`, ….
-/

namespace ServerRS.Threading

open Lib

/-! ## Batches -/

structure ThreadContextEvent where
  sourceEventId : SourceEventId
  threadId : EventThreadId
  actorId : String
  occurredAtUnixSecs : Int
deriving DecidableEq

structure ThreadProjectionEvent where
  sourceEventId : SourceEventId
  account : SourceAccountRef
  conversation : ConversationRef
  actorId : String
  occurredAtUnixSecs : Int
  replyToEventId : Option SourceEventId
  replyParentThreadId : Option EventThreadId
  replyChildThreadId : Option EventThreadId
  previousInConversation : Option ThreadContextEvent
  replyParentThreadIsTerminal : Bool
  replyChildThreadIsTerminal : Bool
  previousThreadIsTerminal : Bool
deriving DecidableEq

structure ClaimedThreadProjectionBatch where
  leaseToken : String
  events : List ThreadProjectionEvent
deriving DecidableEq

/-! ## Plans -/

inductive ThreadRelationKind where
  | reply
  | sameConversationWindow
  | sameActorWithinConversationWindow
  | explicitProjectId
  | fileVersion
deriving DecidableEq

structure ThreadRelation where
  relationId : String
  threadId : EventThreadId
  fromEventId : SourceEventId
  toEventId : SourceEventId
  kind : ThreadRelationKind
  confidenceBps : ℕ
  reason : String
deriving DecidableEq

structure ThreadAssignment where
  sourceEventId : SourceEventId
  threadId : EventThreadId
  account : SourceAccountRef
  rootEventId : SourceEventId
  occurredAtUnixSecs : Int
  createsThread : Bool
deriving DecidableEq

structure ThreadProjectionPlan where
  leaseToken : String
  assignments : List ThreadAssignment
  relations : List ThreadRelation
deriving DecidableEq

/-- `DeterministicThreadPolicy`; `new` refuses windows that are not positive. -/
structure DeterministicThreadPolicy where
  sameConversationWindowSecs : Int
  positive : 0 < sameConversationWindowSecs

/-! ## The order of a batch -/

namespace ThreadProjectionEvent

def byTime (event : ThreadProjectionEvent) : ℤ ×ₗ String :=
  event.sourceEventId.atTime event.occurredAtUnixSecs

/-- `event` is a reply to `candidate`. -/
def isReplyTo (event candidate : ThreadProjectionEvent) : Bool :=
  event.replyToEventId = some candidate.sourceEventId

end ThreadProjectionEvent

/-- `reply_parents_first`: the first event whose parent is not left is moved out, or else the first
one. -/
def replyParentsFirst (events : List ThreadProjectionEvent) : List ThreadProjectionEvent :=
  drain (firstReady ThreadProjectionEvent.isReplyTo) events.length events

/-- The order in which a batch is planned. -/
def ClaimedThreadProjectionBatch.order (batch : ClaimedThreadProjectionBatch) :
    List ThreadProjectionEvent :=
  replyParentsFirst (batch.events.insertionSort fun left right => left.byTime ≤ right.byTime)

/-! ## The thread of an event -/

/-- `i64::saturating_sub`. -/
def saturatingSub (a b : Int) : Int := max (-2 ^ 63) (min (2 ^ 63 - 1) (a - b))

/-- An event of the time `occurred` is within the window of one of the time `previous`. -/
def DeterministicThreadPolicy.within (policy : DeterministicThreadPolicy) (occurred previous : Int) :
    Bool :=
  saturatingSub occurred previous ≤ policy.sameConversationWindowSecs

/-- The maps and vectors of the loop, and how many identifiers have been drawn. -/
structure Planning where
  assigned : String → Option EventThreadId
  latest : String → Option ThreadContextEvent
  assignments : List ThreadAssignment
  relations : List ThreadRelation
  drawn : ℕ

namespace ThreadProjectionEvent

variable (event : ThreadProjectionEvent)

def conversationKey : String :=
  event.account.channel.asStr ++ ":" ++ event.account.accountId ++ ":" ++
    event.conversation.kind.asStr ++ ":" ++ event.conversation.id

/-- A reply to an event of a finished thread is kept out of all threads of the store. -/
def forceNewThread : Bool := event.replyToEventId.isSome && event.replyParentThreadIsTerminal

/-- The unfinished thread that the store has for the parent, or else for a reply to the event. -/
def storedReplyThread : Option EventThreadId :=
  (event.replyParentThreadId.filter fun _ => !event.replyParentThreadIsTerminal).or
    (event.replyChildThreadId.filter fun _ => !event.replyChildThreadIsTerminal)

def replyThread (assigned : String → Option EventThreadId) : Option EventThreadId :=
  let parentThread := event.replyToEventId.bind fun id => assigned id.asStr
  if event.forceNewThread then parentThread else parentThread.or event.storedReplyThread

/-- The event that came last in the conversation, if it is within the window. -/
def previous (policy : DeterministicThreadPolicy) (latest : String → Option ThreadContextEvent) :
    Option ThreadContextEvent :=
  (if event.forceNewThread then none
  else if event.previousThreadIsTerminal then latest event.conversationKey
  else (latest event.conversationKey).or event.previousInConversation).filter fun previous =>
    policy.within event.occurredAtUnixSecs previous.occurredAtUnixSecs

/-- The thread of the event, whether it is new, and the event that it comes from. -/
def chooseThread (policy : DeterministicThreadPolicy) (uuid : ℕ → String) (state : Planning) :
    EventThreadId × Bool × SourceEventId :=
  match event.replyThread state.assigned with
  | some threadId => (threadId, false, event.replyToEventId.getD event.sourceEventId)
  | none =>
    match event.previous policy state.latest with
    | some previous => (previous.threadId, false, previous.sourceEventId)
    | none => (⟨uuid state.drawn⟩, true, event.sourceEventId)

def relation (relationId : String) (threadId : EventThreadId) (toEventId : SourceEventId)
    (kind : ThreadRelationKind) (reason : String) : ThreadRelation where
  relationId := relationId
  threadId := threadId
  fromEventId := event.sourceEventId
  toEventId := toEventId
  kind := kind
  confidenceBps := 10000
  reason := reason

/-- The relations of the event, with the identifiers from `drawn` on. -/
def relationsOf (policy : DeterministicThreadPolicy) (uuid : ℕ → String) (drawn : ℕ)
    (previous : Option ThreadContextEvent) (threadId : EventThreadId) : List ThreadRelation :=
  match event.replyToEventId with
  | some parentId =>
    if event.replyParentThreadIsTerminal then []
    else [event.relation (uuid drawn) threadId parentId .reply "structured reply_to_event_id"]
  | none =>
    match previous with
    | none => []
    | some previous =>
      event.relation (uuid drawn) threadId previous.sourceEventId .sameConversationWindow
        ("same conversation within " ++ toString policy.sameConversationWindowSecs ++ " seconds") ::
      if previous.actorId = event.actorId then
        [event.relation (uuid (drawn + 1)) threadId previous.sourceEventId
          .sameActorWithinConversationWindow "same verified actor inside the same conversation window"]
      else []

def context (threadId : EventThreadId) : ThreadContextEvent where
  sourceEventId := event.sourceEventId
  threadId := threadId
  actorId := event.actorId
  occurredAtUnixSecs := event.occurredAtUnixSecs

end ThreadProjectionEvent

/-! ## The loop -/

/-- One round of the loop of `plan`. -/
def planEvent (policy : DeterministicThreadPolicy) (uuid : ℕ → String) (state : Planning)
    (event : ThreadProjectionEvent) : Planning :=
  let (threadId, createsThread, rootEventId) := event.chooseThread policy uuid state
  let drawn := if createsThread then state.drawn + 1 else state.drawn
  let relations := event.relationsOf policy uuid drawn (event.previous policy state.latest) threadId
  { assigned := Function.update state.assigned event.sourceEventId.asStr (some threadId)
    latest := Function.update state.latest event.conversationKey (some (event.context threadId))
    assignments := state.assignments ++ [{
      sourceEventId := event.sourceEventId
      threadId
      account := event.account
      rootEventId
      occurredAtUnixSecs := event.occurredAtUnixSecs
      createsThread }]
    relations := state.relations ++ relations
    drawn := drawn + relations.length }

def Planning.start : Planning := ⟨fun _ => none, fun _ => none, [], [], 0⟩

/-- The state of the loop after `events`. -/
def planAll (policy : DeterministicThreadPolicy) (uuid : ℕ → String)
    (events : List ThreadProjectionEvent) : Planning :=
  events.foldl (planEvent policy uuid) .start

/-- `DeterministicThreadPlanner::plan`, which never fails. -/
def plan (policy : DeterministicThreadPolicy) (uuid : ℕ → String)
    (batch : ClaimedThreadProjectionBatch) : ThreadProjectionPlan :=
  let state := planAll policy uuid batch.order
  ⟨batch.leaseToken, state.assignments, state.relations⟩

end ServerRS.Threading

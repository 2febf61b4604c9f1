import ServerRS.Domain.Planner
import ServerRS.Lib.Table
import ServerRS.Lib.Window

/-!
# The tables of the follow-up scheduler

Models the rows that `mysql_follow_up.rs`, `mysql_notification_candidate_producer.rs` and
`mysql_follow_up_control/` read and write, as `20260806_qqbot_schema_v2.sql` declares them.

A `char(36)` identifier is the number its bytes spell, so the two are ordered alike. Joins along
a foreign key always find their row and are left out, and so are the columns that no statement
here reads: the match key of a candidate, the texts of questions and facts, the outbox that the
scans only write to.
-/

namespace ServerRS.FollowUp

abbrev Uuid := Nat

/-! ## Rows -/

/-- What the statements extract from the `MemoryFact` in `fact_json`: `payload.data.blockers` by its
length, `due_at_unix_secs` when it is an integer, `status`. The payload's kind is `fact_kind`. -/
inductive FactPayload where
  | person
  | project (blockers : Nat)
  | commitment (dueAtUnixSecs : Option Int) (status : CommitmentStatus)
deriving DecidableEq

/-- `secretary_memory_facts`; `updatedAt` counts microseconds. -/
structure MemoryFactRow where
  factId : Uuid
  accountId : Nat
  payload : FactPayload
  factStatus : MemoryFactStatus
  supersedesFactId : Option Uuid
  updatedAt : Nat
deriving DecidableEq

inductive ReasonCode where
  | commitmentDue
  | projectBlocked
deriving DecidableEq

inductive FollowUpStatus where
  | scheduled
  | completed
  | dismissed
  | superseded
deriving DecidableEq

/-- `secretary_follow_up_items`. -/
structure FollowUpItem where
  followUpId : Uuid
  accountId : Nat
  sourceMemoryFactId : Uuid
  sourceVersion : Nat
  reasonCode : ReasonCode
  dueAtUnixSecs : Int
  status : FollowUpStatus
  updatedAt : Nat
deriving DecidableEq

inductive QuestionStatus where
  | «open»
  | answered
  | dismissed
deriving DecidableEq

/-- `secretary_thread_open_questions`. -/
structure OpenQuestion where
  questionId : Uuid
  threadId : Uuid
  status : QuestionStatus
deriving DecidableEq

/-- `secretary_thread_question_sources`. -/
structure QuestionSource where
  questionId : Uuid
  sourceEventId : Uuid
deriving DecidableEq

/-- `secretary_event_threads`. -/
structure EventThread where
  threadId : Uuid
  accountId : Nat
  status : ThreadStatus
deriving DecidableEq

/-- `secretary_thread_events`: an event belongs to one thread at most. -/
structure ThreadEvent where
  sourceEventId : Uuid
  threadId : Uuid
deriving DecidableEq

/-- `secretary_source_events`. -/
structure SourceEvent where
  sourceEventId : Uuid
  accountId : Nat
  conversationId : Nat
  actorKind : VerifiedActorKind
  messageRole : MessageRole
  occurredAtUnixSecs : Int
  replyToEventId : Option Uuid
deriving DecidableEq

/-- `secretary_conversations`. -/
structure Conversation where
  id : Nat
  conversationKind : ConversationKind
deriving DecidableEq

inductive ExpectationStatus where
  | active
  | resolved
  | dismissed
  | superseded
deriving DecidableEq

/-- `secretary_response_expectations`. -/
structure ResponseExpectation where
  expectationId : Uuid
  accountId : Nat
  sourceQuestionId : Uuid
  threadId : Uuid
  sourceVersion : Nat
  dueAtUnixSecs : Int
  expectationStatus : ExpectationStatus
  updatedAt : Nat
deriving DecidableEq

inductive SourceKind where
  | followUp
  | responseExpectation
deriving DecidableEq

/-- `uk_secretary_notification_candidate_source`: the source of a candidate and its version. -/
structure CandidateSource where
  accountId : Nat
  sourceKind : SourceKind
  sourceId : Uuid
  sourceVersion : Nat
deriving DecidableEq

/-- `secretary_notification_candidates`. -/
structure NotificationCandidate where
  notificationCandidateId : Uuid
  source : CandidateSource
deriving DecidableEq

/-- `secretary_notification_evaluation_requests`. -/
structure EvaluationRequest where
  evaluationRequestId : Uuid
  notificationCandidateId : Uuid
  evaluationGeneration : Nat
deriving DecidableEq

structure Store where
  facts : List MemoryFactRow
  followUps : List FollowUpItem
  questions : List OpenQuestion
  questionSources : List QuestionSource
  threads : List EventThread
  threadEvents : List ThreadEvent
  events : List SourceEvent
  conversations : List Conversation
  expectations : List ResponseExpectation
  candidates : List NotificationCandidate
  requests : List EvaluationRequest
deriving DecidableEq

/-! ## Unique keys -/

/-- Primary key, and `uk_secretary_follow_up_source`. -/
def FollowUpItem.conflicts (a b : FollowUpItem) : Bool :=
  a.followUpId = b.followUpId ||
    a.sourceMemoryFactId = b.sourceMemoryFactId && a.reasonCode = b.reasonCode

/-- Primary key, and `uk_secretary_response_expectation_question`. -/
def ResponseExpectation.conflicts (a b : ResponseExpectation) : Bool :=
  a.expectationId = b.expectationId || a.sourceQuestionId = b.sourceQuestionId

/-- Primary key, and `uk_secretary_notification_candidate_source`. -/
def NotificationCandidate.conflicts (a b : NotificationCandidate) : Bool :=
  a.notificationCandidateId = b.notificationCandidateId || a.source = b.source

/-- Primary key, and `uk_secretary_notification_evaluation_generation`. -/
def EvaluationRequest.conflicts (a b : EvaluationRequest) : Bool :=
  a.evaluationRequestId = b.evaluationRequestId ||
    a.notificationCandidateId = b.notificationCandidateId &&
      a.evaluationGeneration = b.evaluationGeneration

/-- No two rows of a table share one of its keys. -/
structure Store.Keyed (s : Store) : Prop where
  facts : s.facts.Pairwise fun a b => a.factId ≠ b.factId
  followUps : s.followUps.Pairwise fun a b => a.conflicts b = false
  expectations : s.expectations.Pairwise fun a b => a.conflicts b = false
  questions : s.questions.Pairwise fun a b => a.questionId ≠ b.questionId
  candidates : s.candidates.Pairwise fun a b => a.conflicts b = false
  requests : s.requests.Pairwise fun a b => a.conflicts b = false

end ServerRS.FollowUp

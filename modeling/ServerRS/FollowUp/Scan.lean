import ServerRS.FollowUp.Tables

/-!
# The scans of the follow-up scheduler

Models `scan_commitments`, `scan_response_expectations` and `scan_project_blockers` of
`mysql_follow_up.rs` with `produce_from_locked_source`, and the Owner's controls of
`mysql_follow_up_control/follow_up.rs` and `mysql_response_expectation_control.rs`.

Each scan is one transaction: it settles items, materialises the items of the first `limit`
sources and makes candidates for the first `limit` due items. `UUID()` is a function from what
an identifier is for, and `clock` is `CURRENT_TIMESTAMP(6)`.
-/

namespace ServerRS.FollowUp

open Lib

/-- What `UUID()` names. -/
inductive Purpose where
  | followUp (factId : Uuid) (reasonCode : ReasonCode)
  | responseExpectation (questionId : Uuid)
  | candidate (source : CandidateSource)
  | request (candidateId : Uuid)
deriving DecidableEq

/-! ## Conditions of the statements -/

def FactPayload.isFulfilled : FactPayload → Bool
  | .commitment _ .fulfilled => true
  | _ => false

def FactPayload.isCancelled : FactPayload → Bool
  | .commitment _ .cancelled => true
  | _ => false

/-- `fact_kind = 'commitment'` and the status is `pending` or `proposed`. -/
def FactPayload.isPendingCommitment : FactPayload → Bool
  | .commitment _ status => status = .pending || status = .proposed
  | _ => false

/-- `fact_kind = 'project'` and `JSON_LENGTH(blockers) > 0`. -/
def FactPayload.isBlockedProject : FactPayload → Bool
  | .project blockers => decide (0 < blockers)
  | _ => false

def FactPayload.dueAt : FactPayload → Option Int
  | .commitment due _ => due
  | _ => none

namespace Store

variable (s : Store)

def hasSuccessor (factId : Uuid) : Bool := s.facts.any fun fact => fact.supersedesFactId = some factId

/-- A confirmed fact without a successor whose payload satisfies `p`. -/
def standing (p : FactPayload → Bool) (fact : MemoryFactRow) : Bool :=
  fact.factStatus = .confirmed && !s.hasSuccessor fact.factId && p fact.payload

/-- `JOIN secretary_memory_facts fact ON fact.fact_id = item.source_memory_fact_id`, with a
condition on the fact. -/
def ofFact (p : MemoryFactRow → Bool) (item : FollowUpItem) : Bool :=
  s.facts.any fun fact => fact.factId = item.sourceMemoryFactId && p fact

def isPrivate (conversationId : Nat) : Bool :=
  s.conversations.any fun conversation =>
    conversation.id = conversationId && conversation.conversationKind = .«private»

def isMember (event : SourceEvent) (threadId : Uuid) : Bool :=
  s.threadEvents.any fun member =>
    member.sourceEventId = event.sourceEventId && member.threadId = threadId

/-- `reply` is a later message that answers `asked`. -/
def answers (threadId : Uuid) (asked reply : SourceEvent) : Bool :=
  reply.accountId = asked.accountId && reply.conversationId = asked.conversationId &&
    (asked.occurredAtUnixSecs < reply.occurredAtUnixSecs ||
      reply.occurredAtUnixSecs = asked.occurredAtUnixSecs &&
        asked.sourceEventId < reply.sourceEventId) &&
    (reply.messageRole = .assistantOutput && s.isMember reply threadId ||
      reply.messageRole = .ownerObservation &&
        (s.isPrivate asked.conversationId || s.isMember reply threadId ||
          reply.replyToEventId = some asked.sourceEventId))

def isAnswered (threadId : Uuid) (asked : SourceEvent) : Bool :=
  s.events.any (s.answers threadId asked)

def sourcesOf (questionId : Uuid) : List SourceEvent :=
  s.events.filter fun event => s.questionSources.contains ⟨questionId, event.sourceEventId⟩

def isFinished (threadId : Uuid) : Bool :=
  s.threads.any fun thread =>
    thread.threadId = threadId && (thread.status = .resolved || thread.status = .closed)

/-- The question of an expectation is no longer open, its thread is finished, or one of its
sources has been answered. -/
def isSettled (expectation : ResponseExpectation) : Bool :=
  (s.questions.any fun question =>
    question.questionId = expectation.sourceQuestionId && question.status ≠ .«open») ||
  s.isFinished expectation.threadId ||
  (s.sourcesOf expectation.sourceQuestionId).any (s.isAnswered expectation.threadId)

end Store

/-! ## Producing candidates -/

def FollowUpItem.source (self : FollowUpItem) : CandidateSource :=
  ⟨self.accountId, .followUp, self.followUpId, self.sourceVersion⟩

def ResponseExpectation.source (self : ResponseExpectation) : CandidateSource :=
  ⟨self.accountId, .responseExpectation, self.expectationId, self.sourceVersion⟩

def loadCandidateId (candidates : List NotificationCandidate) (source : CandidateSource) :
    Except String Uuid :=
  match candidates.find? fun candidate => decide (candidate.source = source) with
  | some candidate => .ok candidate.notificationCandidateId
  | none => .error "notification candidate uniqueness check found no row"

def ensureGenerationOneRequest (requests : List EvaluationRequest) (candidateId : Uuid) :
    Except String Unit :=
  if requests.any fun request =>
      request.notificationCandidateId = candidateId && request.evaluationGeneration = 1 then .ok ()
  else .error "notification evaluation request uniqueness check found no row"

/-- How many candidates and requests were made. -/
structure Production where
  candidatesCreated : Nat := 0
  requestsCreated : Nat := 0
deriving DecidableEq

/-- The candidate of a source, its identifier, and how many rows were inserted. -/
def insertCandidate (uuid : Purpose → Uuid) (s : Store) (source : CandidateSource) :
    Except String (List NotificationCandidate × Uuid × Nat) :=
  let candidateId := uuid (.candidate source)
  let candidates := insertIgnore NotificationCandidate.conflicts s.candidates [⟨candidateId, source⟩]
  match candidates.length - s.candidates.length with
  | 1 => .ok (candidates, candidateId, 1)
  | 0 => do return (candidates, ← loadCandidateId candidates source, 0)
  | _ => .error "notification candidate insert affected multiple rows"

/-- The first request of a candidate, and how many rows were inserted. -/
def insertRequest (uuid : Purpose → Uuid) (s : Store) (candidateId : Uuid) :
    Except String (List EvaluationRequest × Nat) :=
  let requests := insertIgnore EvaluationRequest.conflicts s.requests
    [⟨uuid (.request candidateId), candidateId, 1⟩]
  match requests.length - s.requests.length with
  | 1 => .ok (requests, 1)
  | 0 => do
    ensureGenerationOneRequest requests candidateId
    return (requests, 0)
  | _ => .error "notification evaluation request insert affected multiple rows"

/-- `produce_from_locked_source`: a candidate and its first request, unless they exist. -/
def produceFromLockedSource (uuid : Purpose → Uuid) (s : Store) (source : CandidateSource) :
    Except String (Store × Production) := do
  let (candidates, candidateId, candidatesCreated) ← insertCandidate uuid s source
  let (requests, requestsCreated) ← insertRequest uuid s candidateId
  return ({ s with candidates, requests }, { candidatesCreated, requestsCreated })

def produceAll (uuid : Purpose → Uuid) (s : Store) :
    List CandidateSource → Except String (Store × Production)
  | [] => .ok (s, {})
  | source :: sources => do
    let (s, first) ← produceFromLockedSource uuid s source
    let (s, rest) ← produceAll uuid s sources
    return (s, ⟨first.candidatesCreated + rest.candidatesCreated,
      first.requestsCreated + rest.requestsCreated⟩)

/-! ## Commitments -/

/-- The parameters of the scans, within the bounds that each of them checks. -/
structure ScanParams where
  nowUnixSecs : Int
  horizonSecs : Int
  responseTimeoutSecs : Int
  blockerEscalationSecs : Int
  limit : Nat
deriving DecidableEq

structure FollowUpScanReport where
  commitmentsMaterialized : Nat := 0
  itemsReconciled : Nat := 0
  responseExpectationsMaterialized : Nat := 0
  responseExpectationsResolved : Nat := 0
  projectBlockersMaterialized : Nat := 0
  notificationCandidatesCreated : Nat := 0
  notificationEvaluationRequestsCreated : Nat := 0
deriving DecidableEq

def saturatingAdd (a b : Int) : Int := max (-2 ^ 63) (min (2 ^ 63 - 1) (a + b))

def ScanParams.horizon (self : ScanParams) : Int := saturatingAdd self.nowUnixSecs self.horizonSecs

/-- `UPDATE … WHERE id IN (SELECT id … WHERE cond ORDER BY updated_at, id LIMIT ?)`. -/
def updateFirst {α : Type} (key : α → Nat ×ₗ Uuid) (limit : Nat) (cond : α → Bool) (set : α → α)
    (rows : List α) : List α :=
  let bounded := (firstRows key limit (rows.filter cond)).map fun row => (ofLex (key row)).2
  updateWhere (fun row => bounded.contains (ofLex (key row)).2) set rows

/-- `ORDER BY item.updated_at, item.follow_up_id`. -/
def FollowUpItem.byUpdate (self : FollowUpItem) : Nat ×ₗ Uuid :=
  toLex (self.updatedAt, self.followUpId)

/-- `ORDER BY item.due_at_unix_secs, item.follow_up_id`. -/
def FollowUpItem.byDue (self : FollowUpItem) : Int ×ₗ Uuid :=
  toLex (self.dueAtUnixSecs, self.followUpId)

/-- `ORDER BY fact.updated_at, fact.fact_id`. -/
def MemoryFactRow.byUpdate (self : MemoryFactRow) : Nat ×ₗ Uuid := toLex (self.updatedAt, self.factId)

def FollowUpItem.finish (clock : Nat) (status : FollowUpStatus) (self : FollowUpItem) :
    FollowUpItem :=
  { self with status, sourceVersion := self.sourceVersion + 1, updatedAt := clock }

namespace Store

variable (s : Store)

/-- A scheduled item whose fact was replaced, withdrawn or cancelled. -/
def isSuperseded (item : FollowUpItem) : Bool :=
  item.status = .scheduled && s.ofFact (fun fact =>
    fact.factStatus ≠ .confirmed || fact.payload.isCancelled || s.hasSuccessor fact.factId) item

/-- A scheduled item whose commitment was fulfilled. -/
def isCompleted (item : FollowUpItem) : Bool :=
  item.status = .scheduled && s.ofFact (s.standing FactPayload.isFulfilled) item

def supersede (clock limit : Nat) : Store :=
  { s with
    followUps := updateFirst FollowUpItem.byUpdate limit s.isSuperseded
      (.finish clock .superseded) s.followUps }

def complete (clock limit : Nat) : Store :=
  { s with
    followUps := updateFirst FollowUpItem.byUpdate limit s.isCompleted
      (.finish clock .completed) s.followUps }

/-- The commitments a scan may materialise. -/
def eligibleCommitments (horizon : Int) : List MemoryFactRow :=
  s.facts.filter fun fact => s.standing FactPayload.isPendingCommitment fact &&
    fact.payload.dueAt.any fun due => decide (due ≤ horizon)

def dueCommitments (now : Int) : List FollowUpItem :=
  s.followUps.filter fun item => item.status = .scheduled && decide (item.dueAtUnixSecs ≤ now) &&
    s.ofFact (s.standing FactPayload.isPendingCommitment) item

end Store

def commitmentItem (uuid : Purpose → Uuid) (clock : Nat) (fact : MemoryFactRow) : FollowUpItem where
  followUpId := uuid (.followUp fact.factId .commitmentDue)
  accountId := fact.accountId
  sourceMemoryFactId := fact.factId
  sourceVersion := 1
  reasonCode := .commitmentDue
  dueAtUnixSecs := fact.payload.dueAt.getD 0
  status := .scheduled
  updatedAt := clock

def Store.materializeCommitments (uuid : Purpose → Uuid) (clock : Nat) (horizon : Int)
    (limit : Nat) (s : Store) : Store :=
  { s with
    followUps := insertIgnore FollowUpItem.conflicts s.followUps
      ((firstRows MemoryFactRow.byUpdate limit (s.eligibleCommitments horizon)).map
        (commitmentItem uuid clock)) }

/-- `rows_affected` of an `UPDATE` that changes the version of each row it meets. -/
def changed {α : Type} [DecidableEq α] (before after : List α) : Nat :=
  (before.zip after).countP fun rows => decide (rows.1 ≠ rows.2)

def scanCommitments (uuid : Purpose → Uuid) (clock : Nat) (params : ScanParams) (s : Store) :
    Except String (Store × FollowUpScanReport) := do
  if ¬(60 ≤ params.horizonSecs ∧ params.horizonSecs ≤ 31536000) ∨
      ¬(1 ≤ params.limit ∧ params.limit ≤ 1000) then
    throw "follow-up scan bounds are invalid"
  let superseded := s.supersede clock params.limit
  let completed := superseded.complete clock params.limit
  let materialized := completed.materializeCommitments uuid clock params.horizon params.limit
  let rows := firstRows FollowUpItem.byDue params.limit (materialized.dueCommitments params.nowUnixSecs)
  let (s', production) ← produceAll uuid materialized (rows.map FollowUpItem.source)
  return (s', {
    commitmentsMaterialized := materialized.followUps.length - completed.followUps.length
    itemsReconciled := changed s.followUps superseded.followUps +
      changed superseded.followUps completed.followUps
    notificationCandidatesCreated := production.candidatesCreated
    notificationEvaluationRequestsCreated := production.requestsCreated })

/-! ## Response expectations -/

/-- A row of the `SELECT` that finds open questions without an answer. -/
structure OverdueQuestion where
  accountId : Nat
  questionId : Uuid
  threadId : Uuid
  occurredAtUnixSecs : Int
deriving DecidableEq

/-- `ORDER BY MIN(source.occurred_at_unix_secs), question.question_id`. -/
def OverdueQuestion.byOccurrence (self : OverdueQuestion) : Int ×ₗ Uuid :=
  toLex (self.occurredAtUnixSecs, self.questionId)

def ResponseExpectation.byUpdate (self : ResponseExpectation) : Nat ×ₗ Uuid :=
  toLex (self.updatedAt, self.expectationId)

/-- `ORDER BY expectation.due_at_unix_secs, expectation.expectation_id`. -/
def ResponseExpectation.byDue (self : ResponseExpectation) : Int ×ₗ Uuid :=
  toLex (self.dueAtUnixSecs, self.expectationId)

def ResponseExpectation.finish (clock : Nat) (status : ExpectationStatus)
    (self : ResponseExpectation) : ResponseExpectation :=
  { self with
    expectationStatus := status, sourceVersion := self.sourceVersion + 1, updatedAt := clock }

namespace Store

variable (s : Store)

def resolveExpectations (clock limit : Nat) : Store :=
  { s with
    expectations := updateFirst ResponseExpectation.byUpdate limit
      (fun expectation => expectation.expectationStatus = .active && s.isSettled expectation)
      (.finish clock .resolved) s.expectations }

def waitingSources (timeout horizon : Int) (question : OpenQuestion) : List SourceEvent :=
  (s.sourcesOf question.questionId).filter fun event =>
    event.actorKind = .external && event.messageRole = .externalObservation &&
      decide (event.occurredAtUnixSecs + timeout ≤ horizon) && !s.isAnswered question.threadId event

/-- The row that the `GROUP BY` makes of a question, if it has one. -/
def overdue (timeout horizon : Int) (question : OpenQuestion) : Option OverdueQuestion := do
  if question.status ≠ .«open» then none
  let thread ← s.threads.find? fun thread => decide (thread.threadId = question.threadId)
  if thread.status = .resolved ∨ thread.status = .closed then none
  let first ← ((s.waitingSources timeout horizon question).map SourceEvent.occurredAtUnixSecs).min?
  return ⟨thread.accountId, question.questionId, question.threadId, first⟩

/-- The questions a scan may materialise. -/
def eligibleQuestions (timeout horizon : Int) : List OverdueQuestion :=
  s.questions.filterMap (s.overdue timeout horizon)

def dueExpectations (now : Int) : List ResponseExpectation :=
  s.expectations.filter fun expectation =>
    expectation.expectationStatus = .active && decide (expectation.dueAtUnixSecs ≤ now)

end Store

def responseExpectation (uuid : Purpose → Uuid) (clock : Nat) (timeout : Int)
    (question : OverdueQuestion) : ResponseExpectation where
  expectationId := uuid (.responseExpectation question.questionId)
  accountId := question.accountId
  sourceQuestionId := question.questionId
  threadId := question.threadId
  sourceVersion := 1
  dueAtUnixSecs := question.occurredAtUnixSecs + timeout
  expectationStatus := .active
  updatedAt := clock

def Store.materializeExpectations (uuid : Purpose → Uuid) (clock : Nat) (timeout horizon : Int)
    (limit : Nat) (s : Store) : Store :=
  { s with
    expectations := insertIgnore ResponseExpectation.conflicts s.expectations
      ((firstRows OverdueQuestion.byOccurrence limit (s.eligibleQuestions timeout horizon)).map
        (responseExpectation uuid clock timeout)) }

def scanResponseExpectations (uuid : Purpose → Uuid) (clock : Nat) (params : ScanParams)
    (s : Store) : Except String (Store × FollowUpScanReport) := do
  if ¬(60 ≤ params.horizonSecs ∧ params.horizonSecs ≤ 31536000) ∨
      ¬(300 ≤ params.responseTimeoutSecs ∧ params.responseTimeoutSecs ≤ 2592000) ∨
      ¬(1 ≤ params.limit ∧ params.limit ≤ 1000) then
    throw "response expectation scan bounds are invalid"
  let resolved := s.resolveExpectations clock params.limit
  let materialized := resolved.materializeExpectations uuid clock params.responseTimeoutSecs
    params.horizon params.limit
  let rows := firstRows ResponseExpectation.byDue params.limit
    (materialized.dueExpectations params.nowUnixSecs)
  let (s', production) ← produceAll uuid materialized (rows.map ResponseExpectation.source)
  return (s', {
    responseExpectationsMaterialized := materialized.expectations.length - resolved.expectations.length
    responseExpectationsResolved := changed s.expectations resolved.expectations
    notificationCandidatesCreated := production.candidatesCreated
    notificationEvaluationRequestsCreated := production.requestsCreated })

/-! ## Project blockers -/

/-- `UNIX_TIMESTAMP(fact.updated_at) + escalation`, in microseconds. -/
def MemoryFactRow.escalatesAt (escalation : Int) (self : MemoryFactRow) : Int :=
  self.updatedAt + escalation * 1000000

namespace Store

variable (s : Store)

/-- The blocked projects a scan may materialise. -/
def eligibleProjects (escalation horizon : Int) : List MemoryFactRow :=
  s.facts.filter fun fact => s.standing FactPayload.isBlockedProject fact &&
    decide (fact.escalatesAt escalation ≤ horizon * 1000000)

def dueProjects (now : Int) : List FollowUpItem :=
  s.followUps.filter fun item => item.status = .scheduled && item.reasonCode = .projectBlocked &&
    decide (item.dueAtUnixSecs ≤ now) && s.ofFact (s.standing FactPayload.isBlockedProject) item

end Store

/-- The due time is rounded to a second when it is stored. -/
def blockerItem (uuid : Purpose → Uuid) (clock : Nat) (escalation : Int) (fact : MemoryFactRow) :
    FollowUpItem where
  followUpId := uuid (.followUp fact.factId .projectBlocked)
  accountId := fact.accountId
  sourceMemoryFactId := fact.factId
  sourceVersion := 1
  reasonCode := .projectBlocked
  dueAtUnixSecs := (fact.escalatesAt escalation + 500000) / 1000000
  status := .scheduled
  updatedAt := clock

def Store.materializeBlockers (uuid : Purpose → Uuid) (clock : Nat) (escalation horizon : Int)
    (limit : Nat) (s : Store) : Store :=
  { s with
    followUps := insertIgnore FollowUpItem.conflicts s.followUps
      ((firstRows MemoryFactRow.byUpdate limit (s.eligibleProjects escalation horizon)).map
        (blockerItem uuid clock escalation)) }

def scanProjectBlockers (uuid : Purpose → Uuid) (clock : Nat) (params : ScanParams) (s : Store) :
    Except String (Store × FollowUpScanReport) := do
  if ¬(60 ≤ params.horizonSecs ∧ params.horizonSecs ≤ 31536000) ∨
      ¬(3600 ≤ params.blockerEscalationSecs ∧ params.blockerEscalationSecs ≤ 31536000) ∨
      ¬(1 ≤ params.limit ∧ params.limit ≤ 1000) then
    throw "project blocker scan bounds are invalid"
  let materialized := s.materializeBlockers uuid clock params.blockerEscalationSecs params.horizon
    params.limit
  let rows := firstRows FollowUpItem.byDue params.limit (materialized.dueProjects params.nowUnixSecs)
  let (s', production) ← produceAll uuid materialized (rows.map FollowUpItem.source)
  return (s', {
    projectBlockersMaterialized := materialized.followUps.length - s.followUps.length
    notificationCandidatesCreated := production.candidatesCreated
    notificationEvaluationRequestsCreated := production.requestsCreated })

end ServerRS.FollowUp

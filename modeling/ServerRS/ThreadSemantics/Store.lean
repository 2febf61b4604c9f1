import Mathlib.Data.String.Basic
import ServerRS.Lib.Table
import ServerRS.Lib.Window
import ServerRS.ThreadSemantics.Patch

/-!
# The store of thread semantics

Models `personal-secretary-mysql/src/repo/mysql_thread_semantics.rs` and the rows it reads and
writes. The events of a thread are the rows of `secretary_effective_thread_events` whose
conversation and content are in mode `normal`, joined to their event. Times are microseconds.
-/

namespace ServerRS.ThreadSemantics

open Lib

/-! ## Rows -/

inductive ClaimStatus where
  | proposed
  | contested
  | confirmed
  | withdrawn
deriving DecidableEq

inductive DecisionStatus where
  | proposed
  | confirmed
  | superseded
  | revoked
deriving DecidableEq

inductive QuestionStatus where
  | «open»
  | answered
  | dismissed
deriving DecidableEq

/-- `secretary_event_threads`. -/
structure ThreadRow where
  threadId : EventThreadId
  status : ThreadStatus
  updatedAt : Int
deriving DecidableEq

/-- `secretary_thread_semantic_state`; both columns of the cursor are set or neither is. -/
structure SemanticStateRow where
  threadId : EventThreadId
  cursor : Option ThreadSemanticCursor
  leaseToken : Option String
  leaseExpiresAt : Option Int
  attempts : ℕ
  lastError : Option String
  updatedAt : Int
deriving DecidableEq

structure ThreadEventRow where
  threadId : EventThreadId
  sourceEventId : SourceEventId
  addedAt : Int
  account : SourceAccountRef
  actorPlatformId : String
  messageRole : MessageRole
  occurredAtUnixSecs : Int
  normalizedText : String
deriving DecidableEq

/-- `secretary_thread_claims`. -/
structure ThreadClaimRow where
  claimId : ThreadClaimId
  threadId : EventThreadId
  claimKind : ClaimKind
  claimantAccount : SourceAccountRef
  claimantActorId : String
  statement : String
  status : ClaimStatus
  confidenceBps : UInt16
  createdAt : Int
  updatedAt : Int
deriving DecidableEq

/-- `secretary_thread_decisions`. -/
structure ThreadDecisionRow where
  decisionId : ThreadDecisionId
  threadId : EventThreadId
  statement : String
  status : DecisionStatus
  confidenceBps : UInt16
  supersedesId : Option ThreadDecisionId
  createdAt : Int
  updatedAt : Int
deriving DecidableEq

/-- `secretary_thread_open_questions`. -/
structure ThreadQuestionRow where
  questionId : OpenQuestionId
  threadId : EventThreadId
  raisedByAccount : SourceAccountRef
  raisedByActorId : String
  question : String
  status : QuestionStatus
  confidenceBps : UInt16
  createdAt : Int
  updatedAt : Int
deriving DecidableEq

/-- `secretary_thread_status_history`. -/
structure StatusHistoryRow where
  changeId : ThreadStatusChangeId
  threadId : EventThreadId
  fromStatus : ThreadStatus
  toStatus : ThreadStatus
  authority : LifecycleAuthority
  reason : String
  createdAt : Int
deriving DecidableEq

/-- `secretary_thread_semantic_invalidations` and `secretary_thread_semantic_reconfirmations`. -/
structure SemanticMark where
  threadId : EventThreadId
  createdAt : Int
deriving DecidableEq

/-- The tables. The last four are the tables of the sources that a row cites. -/
structure SemanticDb where
  threads : List ThreadRow
  states : List SemanticStateRow
  events : List ThreadEventRow
  claims : List ThreadClaimRow
  decisions : List ThreadDecisionRow
  questions : List ThreadQuestionRow
  history : List StatusHistoryRow
  invalidations : List SemanticMark
  reconfirmations : List SemanticMark
  claimSources : List (ThreadClaimId × SourceEventId)
  decisionSources : List (ThreadDecisionId × SourceEventId)
  questionSources : List (OpenQuestionId × SourceEventId)
  statusSources : List (ThreadStatusChangeId × SourceEventId)

def SemanticDb.empty : SemanticDb := ⟨[], [], [], [], [], [], [], [], [], [], [], [], []⟩

/-! ## What is current -/

namespace SemanticDb

/-- A reconfirmation of the thread that is not older than the mark. -/
def isReconfirmed (db : SemanticDb) (mark : SemanticMark) : Bool :=
  db.reconfirmations.any fun reconfirmation => reconfirmation.threadId = mark.threadId &&
    mark.createdAt ≤ reconfirmation.createdAt

/-- A derived row of the thread with this date is void: an invalidation as new as the row is not
reconfirmed. -/
def isVoid (db : SemanticDb) (threadId : EventThreadId) (updatedAt : Int) : Bool :=
  db.invalidations.any fun invalidation => invalidation.threadId = threadId &&
    updatedAt ≤ invalidation.createdAt && !db.isReconfirmed invalidation

def isOpen (db : SemanticDb) (threadId : EventThreadId) (question : ThreadQuestionRow) : Bool :=
  question.threadId = threadId && question.status = .«open» && !db.isVoid threadId question.updatedAt

def openQuestions (db : SemanticDb) (threadId : EventThreadId) : List ThreadQuestionRow :=
  db.questions.filter (db.isOpen threadId)

def isConfirmed (db : SemanticDb) (threadId : EventThreadId) (decision : ThreadDecisionRow) : Bool :=
  decision.threadId = threadId && decision.status = .confirmed &&
    !db.isVoid threadId decision.updatedAt

def confirmedDecisions (db : SemanticDb) (threadId : EventThreadId) : List ThreadDecisionRow :=
  db.decisions.filter (db.isConfirmed threadId)

def statusOf (db : SemanticDb) (threadId : EventThreadId) : Option ThreadStatus :=
  (db.threads.find? fun row => row.threadId = threadId).map ThreadRow.status

def stateOf (db : SemanticDb) (threadId : EventThreadId) : Option SemanticStateRow :=
  db.states.find? fun row => row.threadId = threadId

end SemanticDb

def duplicateEntry : String := "database operation failed"

/-! ## Claiming a batch -/

def ThreadEventRow.order (row : ThreadEventRow) : ℤ ×ₗ String :=
  toLex (row.addedAt, row.sourceEventId.asStr)

/-- The event comes after the cursor. -/
def ThreadEventRow.isAfter (cursor : Option ThreadSemanticCursor) (row : ThreadEventRow) : Bool :=
  match cursor with
  | none => true
  | some cursor => cursor.addedAtUnixMicros < row.addedAt ||
    row.addedAt = cursor.addedAtUnixMicros && cursor.sourceEventId.asStr < row.sourceEventId.asStr

namespace SemanticDb

def pendingEvents (db : SemanticDb) (threadId : EventThreadId)
    (cursor : Option ThreadSemanticCursor) : List ThreadEventRow :=
  db.events.filter fun row => row.threadId = threadId && row.isAfter cursor

def isClaimable (db : SemanticDb) (now : Int) (thread : ThreadRow) : Bool :=
  let state := db.stateOf thread.threadId
  (state.all fun row => row.leaseToken.isNone || row.leaseExpiresAt.any (· < now)) &&
    !(db.pendingEvents thread.threadId (state.bind SemanticStateRow.cursor)).isEmpty

end SemanticDb

def ThreadRow.order (row : ThreadRow) : ℤ ×ₗ String := toLex (row.updatedAt, row.threadId.asStr)

/-- The events of a batch; a text that is longer than what is left of the budget is omitted. -/
def boundedEvents : ℕ → List ThreadEventRow → List ThreadSemanticEvent
  | _, [] => []
  | remainingChars, row :: rows =>
    let contentOmitted := remainingChars < row.normalizedText.length
    { sourceEventId := row.sourceEventId
      actor := ⟨row.account, row.actorPlatformId, none⟩
      role := row.messageRole
      occurredAtUnixSecs := row.occurredAtUnixSecs
      normalizedText := if contentOmitted then "" else row.normalizedText
      contentOmitted } ::
      boundedEvents (if contentOmitted then remainingChars
        else remainingChars - row.normalizedText.length) rows

/-- `INSERT … ON DUPLICATE KEY UPDATE` of the lease. -/
def takeLease (threadId : EventThreadId) (token : String) (now expiresAt : Int)
    (rows : List SemanticStateRow) : List SemanticStateRow :=
  if rows.any fun row => row.threadId = threadId then
    updateWhere (fun row => row.threadId = threadId) (fun row => { row with
      leaseToken := some token
      leaseExpiresAt := some expiresAt
      attempts := row.attempts + 1
      lastError := none
      updatedAt := now }) rows
  else rows ++ [⟨threadId, none, some token, some expiresAt, 1, none, now⟩]

def byCreation (row : ThreadQuestionRow) : ℤ ×ₗ String :=
  toLex (row.createdAt, row.questionId.asStr)

def decisionByCreation (row : ThreadDecisionRow) : ℤ ×ₗ String :=
  toLex (row.createdAt, row.decisionId.asStr)

/-- `token` is drawn by `Uuid::new_v4`; `isLocked` are the rows that `SKIP LOCKED` passes over. -/
def claimSemanticBatch (maxEvents maxTotalChars : ℕ) (leaseMicros now : Int) (token : String)
    (isLocked : EventThreadId → Bool) (db : SemanticDb) :
    Except InboundEventStoreError (SemanticDb × Option ClaimedThreadSemanticBatch) :=
  match firstRows ThreadRow.order 1
    (db.threads.filter fun row => !isLocked row.threadId && db.isClaimable now row) with
  | [] => .ok (db, none)
  | thread :: _ =>
    let cursor := (db.stateOf thread.threadId).bind SemanticStateRow.cursor
    let rows := firstRows ThreadEventRow.order maxEvents (db.pendingEvents thread.threadId cursor)
    match rows.getLast? with
    | none => .error (.invalidData "claimed semantic thread did not contain a readable event")
    | some last =>
      .ok ({ db with
        states := takeLease thread.threadId token now (now + leaseMicros) db.states }, some {
          leaseToken := token
          threadId := thread.threadId
          currentStatus := thread.status
          confirmedDecisionIds := ((db.confirmedDecisions thread.threadId).insertionSort
            fun a b => decisionByCreation a ≤ decisionByCreation b).map ThreadDecisionRow.decisionId
          openQuestionIds := ((db.openQuestions thread.threadId).insertionSort
            fun a b => byCreation a ≤ byCreation b).map ThreadQuestionRow.questionId
          events := boundedEvents maxTotalChars rows
          nextCursor := ⟨last.addedAt, last.sourceEventId⟩ })

/-! ## Committing a patch -/

def ThreadStatus.debug : ThreadStatus → String
  | .«open» => "Open"
  | .waiting => "Waiting"
  | .resolved => "Resolved"
  | .closed => "Closed"
  | .reopened => "Reopened"

def ThreadSemanticError.text : ThreadSemanticError → String
  | .invalidData text => "invalid thread semantic data: " ++ text
  | .invalidTransition fromStatus toStatus =>
    "invalid thread lifecycle transition " ++ ThreadStatus.debug fromStatus ++ " -> " ++
      ThreadStatus.debug toStatus
  | .closeRequiresOwnerConfirmation => "closing a thread requires a verified OwnerCommand source"
  | .closeWithOpenQuestions => "a thread with open questions cannot be closed"
  | .resolveRequiresExplicitEvidence => "resolving a thread requires typed explicit source evidence"
  | .resolveWithOpenQuestions => "a thread with open questions cannot be resolved automatically"
  | .resolutionEvidenceMismatch => "resolution evidence does not match the cited source events"
  | .invalidResolutionAuthority => "resolution authority is not valid for the cited evidence"
  | .resolutionEvidenceOnNonResolvedTransition =>
    "resolution evidence is only valid on a transition to resolved"

/-- A plain `INSERT`: a row that conflicts with one of the table fails. -/
def insertRow {α : Type} (conflicts : α → α → Bool) (rows : List α) (row : α) :
    Except InboundEventStoreError (List α) :=
  if rows.any (conflicts row) then .error (.database duplicateEntry) else .ok (rows ++ [row])

def insertSources {ι : Type} [DecidableEq ι] (id : ι) (sources : List SourceEventId)
    (rows : List (ι × SourceEventId)) : Except InboundEventStoreError (List (ι × SourceEventId)) :=
  sources.foldlM (fun rows source => insertRow (· == ·) rows (id, source)) rows

def insertClaim (now : Int) (db : SemanticDb) (claim : ThreadClaimCandidate) :
    Except InboundEventStoreError SemanticDb := do
  let claims ← insertRow (fun a b => a.claimId == b.claimId) db.claims {
    claimId := claim.claimId
    threadId := claim.threadId
    claimKind := claim.kind
    claimantAccount := claim.claimant.account
    claimantActorId := claim.claimant.actorId
    statement := claim.statement
    status := .proposed
    confidenceBps := claim.confidenceBps
    createdAt := now
    updatedAt := now }
  let claimSources ← insertSources claim.claimId claim.sourceEventIds db.claimSources
  return { db with claims, claimSources }

/-- The primary key and `uk_secretary_thread_decision_supersedes`. -/
def ThreadDecisionRow.conflicts (a b : ThreadDecisionRow) : Bool :=
  a.decisionId == b.decisionId || a.supersedesId.isSome && a.supersedesId == b.supersedesId

def insertDecision (now : Int) (db : SemanticDb) (decision : ThreadDecisionCandidate) :
    Except InboundEventStoreError SemanticDb := do
  let decisions ← insertRow ThreadDecisionRow.conflicts db.decisions {
    decisionId := decision.decisionId
    threadId := decision.threadId
    statement := decision.statement
    status := .proposed
    confidenceBps := decision.confidenceBps
    supersedesId := decision.supersedes
    createdAt := now
    updatedAt := now }
  let decisionSources ←
    insertSources decision.decisionId decision.sourceEventIds db.decisionSources
  return { db with decisions, decisionSources }

def OpenQuestionCandidate.row (question : OpenQuestionCandidate) (now : Int) :
    ThreadQuestionRow where
  questionId := question.questionId
  threadId := question.threadId
  raisedByAccount := question.raisedBy.account
  raisedByActorId := question.raisedBy.actorId
  question := question.question
  status := .«open»
  confidenceBps := question.confidenceBps
  createdAt := now
  updatedAt := now

def insertQuestion (now : Int) (db : SemanticDb) (question : OpenQuestionCandidate) :
    Except InboundEventStoreError SemanticDb := do
  let questions ← insertRow (fun a b => a.questionId == b.questionId) db.questions
    (question.row now)
  let questionSources ←
    insertSources question.questionId question.sourceEventIds db.questionSources
  return { db with questions, questionSources }

def applyChange (now : Int) (db : SemanticDb) (change : ThreadLifecycleChange) :
    Except InboundEventStoreError SemanticDb := do
  let isTarget (row : ThreadRow) : Bool :=
    row.threadId = change.threadId && row.status = change.fromStatus
  if db.threads.countP isTarget ≠ 1 then .error .leaseLost
  else do
    let history ← insertRow (fun a b => a.changeId == b.changeId) db.history {
      changeId := change.changeId
      threadId := change.threadId
      fromStatus := change.fromStatus
      toStatus := change.toStatus
      authority := change.authority
      reason := change.reason
      createdAt := now }
    let statusSources ← insertSources change.changeId change.sourceEventIds db.statusSources
    return { db with
      threads := updateWhere isTarget
        (fun row => { row with status := change.toStatus, updatedAt := now }) db.threads
      history, statusSources }

def applyLifecycle (now : Int) (db : SemanticDb) :
    Option ThreadLifecycleChange → Except InboundEventStoreError SemanticDb
  | some change => applyChange now db change
  | none => .ok db

def SemanticStateRow.isHeld (batch : ClaimedThreadSemanticBatch) (row : SemanticStateRow) : Bool :=
  row.threadId = batch.threadId && row.leaseToken = some batch.leaseToken

def advanceCursor (batch : ClaimedThreadSemanticBatch) (now : Int) (db : SemanticDb) :
    Except InboundEventStoreError SemanticDb :=
  if db.states.countP (SemanticStateRow.isHeld batch) ≠ 1 then .error .leaseLost
  else .ok { db with
    states := updateWhere (SemanticStateRow.isHeld batch) (fun row => { row with
      cursor := some batch.nextCursor
      leaseToken := none
      leaseExpiresAt := none
      lastError := none
      updatedAt := now }) db.states }

def commitSemanticPatch (now : Int) (batch : ClaimedThreadSemanticBatch)
    (patch : ThreadSemanticPatch) (db : SemanticDb) : Except InboundEventStoreError SemanticDb := do
  (validateSemanticPatch batch patch).mapError fun error =>
    .invalidData (ThreadSemanticError.text error)
  if db.states.countP (fun row => row.isHeld batch && row.leaseExpiresAt.any (now ≤ ·)) ≠ 1 then
    .error .leaseLost
  else do
    let db ← patch.claims.foldlM (insertClaim now) db
    let db ← patch.decisions.foldlM (insertDecision now) db
    let db ← patch.questions.foldlM (insertQuestion now) db
    let db ← applyLifecycle now db patch.lifecycleChange
    advanceCursor batch now db

def releaseSemanticClaim (token error : String) (now : Int) (db : SemanticDb) : SemanticDb :=
  { db with
    states := updateWhere (fun row => row.leaseToken = some token) (fun row => { row with
      leaseToken := none
      leaseExpiresAt := none
      lastError := some (String.ofList (error.toList.take 512))
      updatedAt := now }) db.states }

end ServerRS.ThreadSemantics

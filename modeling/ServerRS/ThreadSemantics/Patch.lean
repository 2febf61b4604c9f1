import ServerRS.Domain.Planner

/-!
# Semantic patches

Models `personal-secretary/src/domain/thread_semantics.rs`: the batch of events that was claimed
for a thread, the patch that an extractor makes of it, and the checks that a patch has to pass.
-/

namespace ServerRS.ThreadSemantics

structure ThreadClaimId where
  asStr : String
deriving DecidableEq

structure ThreadStatusChangeId where
  asStr : String
deriving DecidableEq

inductive ClaimKind where
  | request
  | objection
  | confirmation
deriving DecidableEq

inductive LifecycleAuthority where
  | evidenceDerived
  | ownerConfirmed
  | systemRecovery
deriving DecidableEq

inductive ThreadResolutionEvidenceKind where
  | explicitCompletion
  | explicitResolution
  | explicitNoFurtherAction
deriving DecidableEq

def ThreadResolutionEvidenceKind.asReasonCode : ThreadResolutionEvidenceKind → String
  | .explicitCompletion => "explicit_completion_evidence"
  | .explicitResolution => "explicit_resolution_evidence"
  | .explicitNoFurtherAction => "explicit_no_further_action_evidence"

structure ThreadSemanticCursor where
  addedAtUnixMicros : Int
  sourceEventId : SourceEventId
deriving DecidableEq

structure ThreadSemanticEvent where
  sourceEventId : SourceEventId
  actor : ThreadActorRef
  role : MessageRole
  occurredAtUnixSecs : Int
  normalizedText : String
  contentOmitted : Bool
deriving DecidableEq

structure ClaimedThreadSemanticBatch where
  leaseToken : String
  threadId : EventThreadId
  currentStatus : ThreadStatus
  confirmedDecisionIds : List ThreadDecisionId
  openQuestionIds : List OpenQuestionId
  events : List ThreadSemanticEvent
  nextCursor : ThreadSemanticCursor
deriving DecidableEq

structure ThreadClaimCandidate where
  claimId : ThreadClaimId
  threadId : EventThreadId
  kind : ClaimKind
  claimant : ThreadActorRef
  statement : String
  confidenceBps : UInt16
  sourceEventIds : List SourceEventId
deriving DecidableEq

structure ThreadDecisionCandidate where
  decisionId : ThreadDecisionId
  threadId : EventThreadId
  statement : String
  confidenceBps : UInt16
  supersedes : Option ThreadDecisionId
  sourceEventIds : List SourceEventId
deriving DecidableEq

structure OpenQuestionCandidate where
  questionId : OpenQuestionId
  threadId : EventThreadId
  question : String
  raisedBy : ThreadActorRef
  confidenceBps : UInt16
  sourceEventIds : List SourceEventId
deriving DecidableEq

structure ThreadLifecycleChange where
  changeId : ThreadStatusChangeId
  threadId : EventThreadId
  fromStatus : ThreadStatus
  toStatus : ThreadStatus
  authority : LifecycleAuthority
  resolutionEvidence : Option ThreadResolutionEvidenceKind
  reason : String
  sourceEventIds : List SourceEventId
deriving DecidableEq

structure ThreadSemanticPatch where
  claims : List ThreadClaimCandidate
  decisions : List ThreadDecisionCandidate
  questions : List OpenQuestionCandidate
  lifecycleChange : Option ThreadLifecycleChange
deriving DecidableEq

inductive ThreadSemanticError where
  | invalidData (text : String)
  | invalidTransition (fromStatus toStatus : ThreadStatus)
  | closeRequiresOwnerConfirmation
  | closeWithOpenQuestions
  | resolveRequiresExplicitEvidence
  | resolveWithOpenQuestions
  | resolutionEvidenceMismatch
  | invalidResolutionAuthority
  | resolutionEvidenceOnNonResolvedTransition
deriving DecidableEq

/-! ## Evidence and transitions -/

def stripPrefix (text start : String) : Option String :=
  (text.toList.dropPrefix? start.toList).map String.ofList

def hasNonemptyDetail (text : String) (starts : List String) : Bool :=
  starts.any fun start => (stripPrefix text start).any fun detail => !isBlank detail

def classifyThreadResolutionEvidence (text : String) : Option ThreadResolutionEvidenceKind :=
  let text := trim text
  if text ∈ ["已完成", "任务已完成", "处理完成"] ∨
      hasNonemptyDetail text ["完成确认：", "完成确认:", "已完成：", "已完成:"] then
    some .explicitCompletion
  else if text ∈ ["已解决", "问题已解决"] ∨
      hasNonemptyDetail text ["解决确认：", "解决确认:", "问题已解决：", "问题已解决:"] then
    some .explicitResolution
  else if text ∈ ["无需继续处理", "不用再处理", "不需要继续处理"] ∨
      hasNonemptyDetail text ["无需继续处理：", "无需继续处理:", "不用再处理：", "不用再处理:"] then
    some .explicitNoFurtherAction
  else none

/-- The transitions of the table; staying is none of them. -/
def transitions : List (ThreadStatus × ThreadStatus) :=
  [(.«open», .waiting), (.«open», .resolved), (.waiting, .«open»), (.waiting, .resolved),
    (.resolved, .closed), (.resolved, .reopened), (.closed, .reopened), (.reopened, .«open»),
    (.reopened, .waiting), (.reopened, .resolved)]

def validateThreadTransition (fromStatus toStatus : ThreadStatus) : Except ThreadSemanticError Unit :=
  if fromStatus = toStatus then .ok ()
  else if (fromStatus, toStatus) ∈ transitions then .ok ()
  else .error (.invalidTransition fromStatus toStatus)

/-! ## Checks of a candidate -/

def require (ok : Bool) (error : ThreadSemanticError) : Except ThreadSemanticError Unit :=
  if ok then .ok () else .error error

def requireThread (expected actual : EventThreadId) : Except ThreadSemanticError Unit :=
  require (expected = actual) (.invalidData "semantic candidate belongs to another thread")

def requireTextWithMax (field value : String) (maxChars : ℕ) : Except ThreadSemanticError Unit :=
  require (!isBlank value && value.length ≤ maxChars)
    (.invalidData (field ++ " must contain 1..=" ++ toString maxChars ++ " characters"))

def requireText (field value : String) : Except ThreadSemanticError Unit :=
  requireTextWithMax field value 4000

def requireConfidence (value : UInt16) : Except ThreadSemanticError Unit :=
  require (value ≤ 10000) (.invalidData "confidence_bps must be <= 10000")

def requireSources (allowed sources : List SourceEventId) : Except ThreadSemanticError Unit := do
  require (!sources.isEmpty) (.invalidData "semantic candidate must cite at least one source event")
  require (sources.length ≤ 32)
    (.invalidData "semantic candidate may cite at most 32 source events")
  require sources.Nodup (.invalidData "semantic candidate contains duplicate source events")
  require (sources.all (· ∈ allowed))
    (.invalidData "semantic candidate cites an event outside the claimed thread batch")

def ClaimedThreadSemanticBatch.eventIds (batch : ClaimedThreadSemanticBatch) : List SourceEventId :=
  batch.events.map ThreadSemanticEvent.sourceEventId

def ClaimedThreadSemanticBatch.observes (batch : ClaimedThreadSemanticBatch)
    (actor : ThreadActorRef) : Bool :=
  batch.events.any fun event => event.actor = actor

/-- What claims, decisions and questions have in common. `seen` are the ids of the candidates
before. -/
def validateCandidate (batch : ClaimedThreadSemanticBatch) (seen : List String)
    (threadId : EventThreadId) (field text : String) (confidenceBps : UInt16)
    (sources : List SourceEventId) (key : String) : Except ThreadSemanticError (List String) := do
  requireThread batch.threadId threadId
  requireText field text
  requireConfidence confidenceBps
  requireSources batch.eventIds sources
  require (key ∉ seen) (.invalidData "semantic patch contains a duplicate candidate id")
  return seen ++ [key]

def validateClaim (batch : ClaimedThreadSemanticBatch) (seen : List String)
    (claim : ThreadClaimCandidate) : Except ThreadSemanticError (List String) := do
  let seen ← validateCandidate batch seen claim.threadId "claim.statement" claim.statement
    claim.confidenceBps claim.sourceEventIds ("claim:" ++ claim.claimId.asStr)
  require (batch.observes claim.claimant)
    (.invalidData "claimant must be an actor observed in the claimed batch")
  return seen

def validateDecision (batch : ClaimedThreadSemanticBatch) (seen : List String)
    (decision : ThreadDecisionCandidate) : Except ThreadSemanticError (List String) := do
  let seen ← validateCandidate batch seen decision.threadId "decision.statement"
    decision.statement decision.confidenceBps decision.sourceEventIds
    ("decision:" ++ decision.decisionId.asStr)
  require (decision.supersedes.all (· ∈ batch.confirmedDecisionIds))
    (.invalidData "decision may supersede only a confirmed decision in the same thread")
  return seen

def validateQuestion (batch : ClaimedThreadSemanticBatch) (seen : List String)
    (question : OpenQuestionCandidate) : Except ThreadSemanticError (List String) := do
  let seen ← validateCandidate batch seen question.threadId "question.question" question.question
    question.confidenceBps question.sourceEventIds ("question:" ++ question.questionId.asStr)
  require (batch.observes question.raisedBy)
    (.invalidData "question raiser must be an actor observed in the claimed batch")
  return seen

/-! ## Checks of a lifecycle change -/

/-- The cited events of the batch; none when one is missing. -/
def citedEvents (batch : ClaimedThreadSemanticBatch) (sources : List SourceEventId) :
    Option (List ThreadSemanticEvent) :=
  sources.mapM fun source => batch.events.find? fun event => event.sourceEventId = source

def validateResolution (batch : ClaimedThreadSemanticBatch) (patch : ThreadSemanticPatch)
    (change : ThreadLifecycleChange) : Except ThreadSemanticError Unit :=
  match change.resolutionEvidence with
  | none => .error .resolveRequiresExplicitEvidence
  | some evidence => do
    require (change.authority = .evidenceDerived || change.authority = .ownerConfirmed)
      .invalidResolutionAuthority
    require (batch.openQuestionIds.isEmpty && patch.questions.isEmpty) .resolveWithOpenQuestions
    require (change.reason = evidence.asReasonCode) .resolutionEvidenceMismatch
    match citedEvents batch change.sourceEventIds with
    | none => .error .resolutionEvidenceMismatch
    | some cited => do
      require (cited.all fun event => !event.contentOmitted &&
        classifyThreadResolutionEvidence event.normalizedText = some evidence)
        .resolutionEvidenceMismatch
      require (change.authority ≠ .ownerConfirmed ||
        cited.any fun event => event.role = .ownerCommand) .invalidResolutionAuthority

def validateClose (batch : ClaimedThreadSemanticBatch) (change : ThreadLifecycleChange) :
    Except ThreadSemanticError Unit := do
  require (change.authority = .ownerConfirmed) .closeRequiresOwnerConfirmation
  require batch.openQuestionIds.isEmpty .closeWithOpenQuestions
  require (batch.events.any fun event => event.role = .ownerCommand &&
    event.sourceEventId ∈ change.sourceEventIds) .closeRequiresOwnerConfirmation

def validateChange (batch : ClaimedThreadSemanticBatch) (patch : ThreadSemanticPatch)
    (change : ThreadLifecycleChange) : Except ThreadSemanticError Unit := do
  requireThread batch.threadId change.threadId
  require (change.fromStatus = batch.currentStatus)
      (.invalidTransition batch.currentStatus change.toStatus)
  validateThreadTransition change.fromStatus change.toStatus
  requireTextWithMax "lifecycle.reason" change.reason 1000
  requireSources batch.eventIds change.sourceEventIds
  if change.toStatus = .resolved then validateResolution batch patch change
  else require change.resolutionEvidence.isNone .resolutionEvidenceOnNonResolvedTransition
  if change.toStatus = .closed then validateClose batch change else .ok ()

def maxItemsPerKind : ℕ := 1000

def validateSemanticPatch (batch : ClaimedThreadSemanticBatch) (patch : ThreadSemanticPatch) :
    Except ThreadSemanticError Unit := do
  require (patch.claims.length ≤ maxItemsPerKind && patch.decisions.length ≤ maxItemsPerKind &&
      patch.questions.length ≤ maxItemsPerKind)
    (.invalidData "semantic patch exceeds the maximum number of candidates")
  let seen ← patch.claims.foldlM (validateClaim batch) []
  let seen ← patch.decisions.foldlM (validateDecision batch) seen
  let _ ← patch.questions.foldlM (validateQuestion batch) seen
  match patch.lifecycleChange with
  | some change => validateChange batch patch change
  | none => .ok ()

end ServerRS.ThreadSemantics

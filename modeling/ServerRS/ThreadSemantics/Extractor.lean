import ServerRS.ThreadSemantics.Checked

/-!
# The conservative extractor

Models `ConservativeThreadSemanticExtractor::extract` and `derive_evidence_based_resolution`. The
extractor reads the events of a batch in order and makes candidates of the texts that begin with
a marker or ask something. `extract_holds` says what the patch holds: one candidate for each
marked text, numbered in the order of the events.
-/

namespace ServerRS.ThreadSemantics

open Lib Lib.Except

/-- What `generate` draws: the `n`-th claim of a patch gets `claimId n`, and so on. -/
structure CandidateIds where
  claimId : ℕ → ThreadClaimId
  decisionId : ℕ → ThreadDecisionId
  questionId : ℕ → OpenQuestionId
  changeId : ThreadStatusChangeId

/-! ## Markers -/

def explicitValue (text : String) (starts : List String) : Option String :=
  starts.findSome? fun start =>
    ((stripPrefix text start).map trim).filter fun value => !value.isEmpty

def startsWith (text start : String) : Bool := (stripPrefix text start).isSome

def requestMarkers : List String := ["请求：", "请求:", "请", "麻烦", "务必", "需要你"]

def objectionMarkers : List String := ["反对：", "反对:", "我反对", "不同意", "不赞成"]

def confirmationMarkers : List String := ["确认：", "确认:", "已确认：", "已确认:"]

def decisionMarkers : List String := ["最终决定：", "最终决定:", "决定：", "决定:", "结论：", "结论:"]

def requestOf (text : String) : Option String :=
  if startsWith text "请问" then none else explicitValue text requestMarkers

def objectionOf (text : String) : Option String := explicitValue text objectionMarkers

def confirmationOf (text : String) : Option String := explicitValue text confirmationMarkers

def decisionOf (text : String) : Option String := explicitValue text decisionMarkers

def raisesQuestion (text : String) : Bool :=
  text.toList.getLast? = some '？' || text.toList.getLast? = some '?' || startsWith text "请问"

/-! ## Extraction -/

/-- An event that the extractor does not pass over. -/
def ThreadSemanticEvent.isRead (maxEventChars : ℕ) (event : ThreadSemanticEvent) : Bool :=
  let text := trim event.normalizedText
  !(event.contentOmitted || text.isEmpty || maxEventChars < text.length)

section

variable (ids : CandidateIds) (maxEventChars : ℕ) (batch : ClaimedThreadSemanticBatch)

def pushClaim (event : ThreadSemanticEvent) (kind : ClaimKind) (confidenceBps : UInt16)
    (statement : Option String) (patch : ThreadSemanticPatch) : ThreadSemanticPatch :=
  match statement with
  | none => patch
  | some statement =>
    { patch with
      claims := patch.claims ++ [{
        claimId := ids.claimId patch.claims.length
        threadId := batch.threadId
        kind
        claimant := event.actor
        statement
        confidenceBps
        sourceEventIds := [event.sourceEventId] }] }

def pushDecision (event : ThreadSemanticEvent) (statement : Option String)
    (patch : ThreadSemanticPatch) : ThreadSemanticPatch :=
  match statement with
  | none => patch
  | some statement =>
    { patch with
      decisions := patch.decisions ++ [{
        decisionId := ids.decisionId patch.decisions.length
        threadId := batch.threadId
        statement
        confidenceBps := 9500
        supersedes := none
        sourceEventIds := [event.sourceEventId] }] }

def pushQuestion (event : ThreadSemanticEvent) (text : String) (patch : ThreadSemanticPatch) :
    ThreadSemanticPatch :=
  { patch with
    questions := patch.questions ++ [{
      questionId := ids.questionId patch.questions.length
      threadId := batch.threadId
      question := text
      raisedBy := event.actor
      confidenceBps := 9000
      sourceEventIds := [event.sourceEventId] }] }

def extractEvent (patch : ThreadSemanticPatch) (event : ThreadSemanticEvent) :
    ThreadSemanticPatch :=
  let text := trim event.normalizedText
  if !event.isRead maxEventChars then patch
  else
    let patch := pushClaim ids batch event .request 9000 (requestOf text) patch
    let patch := pushClaim ids batch event .objection 9000 (objectionOf text) patch
    let patch := pushClaim ids batch event .confirmation 9500 (confirmationOf text) patch
    let patch := pushDecision ids batch event (decisionOf text) patch
    if raisesQuestion text then pushQuestion ids batch event text patch else patch

def ThreadSemanticPatch.empty : ThreadSemanticPatch := ⟨[], [], [], none⟩

/-- `ConservativeThreadSemanticExtractor::extract`, which always succeeds. -/
def extract : ThreadSemanticPatch :=
  batch.events.foldl (extractEvent ids maxEventChars batch) .empty

def deriveEvidenceBasedResolution : Option ThreadLifecycleChange :=
  if !(batch.currentStatus = .«open» || batch.currentStatus = .waiting ||
      batch.currentStatus = .reopened) || !batch.openQuestionIds.isEmpty then none
  else batch.events.getLast?.bind fun event =>
    if event.contentOmitted then none
    else (classifyThreadResolutionEvidence event.normalizedText).map fun evidence => {
      changeId := ids.changeId
      threadId := batch.threadId
      fromStatus := batch.currentStatus
      toStatus := .resolved
      authority := if event.role = .ownerCommand then .ownerConfirmed else .evidenceDerived
      resolutionEvidence := some evidence
      reason := evidence.asReasonCode
      sourceEventIds := [event.sourceEventId] }

/-- The patch of `run_once`: a resolution is derived where the extractor left room for one. -/
def extractedPatch : ThreadSemanticPatch :=
  let patch := extract ids maxEventChars batch
  if patch.lifecycleChange.isNone && patch.questions.isEmpty then
    { patch with lifecycleChange := deriveEvidenceBasedResolution ids batch }
  else patch

end

/-! ## What a patch holds -/

/-- The statements that the extractor takes from a text as claims. -/
def claimsOf (text : String) : List (ClaimKind × UInt16 × String) :=
  (requestOf text).toList.map (.request, 9000, ·) ++
    (objectionOf text).toList.map (.objection, 9000, ·) ++
    (confirmationOf text).toList.map (.confirmation, 9500, ·)

def ThreadSemanticEvent.claims (maxEventChars : ℕ) (event : ThreadSemanticEvent) :
    List (ThreadSemanticEvent × ClaimKind × UInt16 × String) :=
  if event.isRead maxEventChars then (claimsOf (trim event.normalizedText)).map (event, ·) else []

def ThreadSemanticEvent.decisions (maxEventChars : ℕ) (event : ThreadSemanticEvent) :
    List (ThreadSemanticEvent × String) :=
  if event.isRead maxEventChars then
    (decisionOf (trim event.normalizedText)).toList.map (event, ·)
  else []

def ThreadSemanticEvent.questions (maxEventChars : ℕ) (event : ThreadSemanticEvent) :
    List ThreadSemanticEvent :=
  if event.isRead maxEventChars && raisesQuestion (trim event.normalizedText) then [event] else []

section

variable {ids : CandidateIds} {maxEventChars : ℕ} {batch : ClaimedThreadSemanticBatch}

def claimAt (ids : CandidateIds) (batch : ClaimedThreadSemanticBatch) (n : ℕ)
    (draft : ThreadSemanticEvent × ClaimKind × UInt16 × String) : ThreadClaimCandidate where
  claimId := ids.claimId n
  threadId := batch.threadId
  kind := draft.2.1
  claimant := draft.1.actor
  statement := draft.2.2.2
  confidenceBps := draft.2.2.1
  sourceEventIds := [draft.1.sourceEventId]

def decisionAt (ids : CandidateIds) (batch : ClaimedThreadSemanticBatch) (n : ℕ)
    (draft : ThreadSemanticEvent × String) : ThreadDecisionCandidate where
  decisionId := ids.decisionId n
  threadId := batch.threadId
  statement := draft.2
  confidenceBps := 9500
  supersedes := none
  sourceEventIds := [draft.1.sourceEventId]

def questionAt (ids : CandidateIds) (batch : ClaimedThreadSemanticBatch) (n : ℕ)
    (event : ThreadSemanticEvent) : OpenQuestionCandidate where
  questionId := ids.questionId n
  threadId := batch.threadId
  question := trim event.normalizedText
  raisedBy := event.actor
  confidenceBps := 9000
  sourceEventIds := [event.sourceEventId]

/-- The patch holds the candidates of these drafts. -/
structure Holds (ids : CandidateIds) (batch : ClaimedThreadSemanticBatch)
    (claims : List (ThreadSemanticEvent × ClaimKind × UInt16 × String))
    (decisions : List (ThreadSemanticEvent × String)) (questions : List ThreadSemanticEvent)
    (patch : ThreadSemanticPatch) : Prop where
  claimRows : patch.claims = claims.mapIdx (claimAt ids batch)
  decisionRows : patch.decisions = decisions.mapIdx (decisionAt ids batch)
  questionRows : patch.questions = questions.mapIdx (questionAt ids batch)
  lifecycle : patch.lifecycleChange = none

section

variable {claims : List (ThreadSemanticEvent × ClaimKind × UInt16 × String)}
  {decisions : List (ThreadSemanticEvent × String)} {questions : List ThreadSemanticEvent}
  {patch : ThreadSemanticPatch}

section

variable (h : Holds ids batch claims decisions questions patch)
include h

theorem Holds.pushClaim (event : ThreadSemanticEvent) (kind : ClaimKind) (confidenceBps : UInt16)
    (statement : Option String) :
    Holds ids batch
      (claims ++ statement.toList.map fun text => (event, kind, confidenceBps, text)) decisions
      questions (pushClaim ids batch event kind confidenceBps statement patch) := by
  cases statement with
  | none =>
    rw [Option.toList_none, List.map_nil, List.append_nil]
    exact h
  | some statement =>
    refine ⟨?_, h.decisionRows, h.questionRows, h.lifecycle⟩
    show patch.claims ++ [_] = _
    rw [h.claimRows, Option.toList_some, List.map_singleton, List.mapIdx_concat,
      List.length_mapIdx]
    rfl

theorem Holds.pushDecision (event : ThreadSemanticEvent) (statement : Option String) :
    Holds ids batch claims (decisions ++ statement.toList.map (event, ·)) questions
      (pushDecision ids batch event statement patch) := by
  cases statement with
  | none =>
    rw [Option.toList_none, List.map_nil, List.append_nil]
    exact h
  | some statement =>
    refine ⟨h.claimRows, ?_, h.questionRows, h.lifecycle⟩
    show patch.decisions ++ [_] = _
    rw [h.decisionRows, Option.toList_some, List.map_singleton, List.mapIdx_concat,
      List.length_mapIdx]
    rfl

theorem Holds.pushQuestion (event : ThreadSemanticEvent) :
    Holds ids batch claims decisions (questions ++ [event])
      (pushQuestion ids batch event (trim event.normalizedText) patch) := by
  refine ⟨h.claimRows, h.decisionRows, ?_, h.lifecycle⟩
  show patch.questions ++ [_] = _
  rw [h.questionRows, List.mapIdx_concat, List.length_mapIdx]
  rfl

/-- One event of the loop. -/
theorem Holds.extractEvent (event : ThreadSemanticEvent) :
    Holds ids batch (claims ++ event.claims maxEventChars)
      (decisions ++ event.decisions maxEventChars) (questions ++ event.questions maxEventChars)
      (extractEvent ids maxEventChars batch patch event) := by
  unfold ThreadSemanticEvent.claims ThreadSemanticEvent.decisions ThreadSemanticEvent.questions
    ThreadSemantics.extractEvent
  cases event.isRead maxEventChars with
  | false => simpa using h
  | true =>
    have hread := (((h.pushClaim event .request 9000 (requestOf (trim event.normalizedText))).pushClaim
      event .objection 9000 (objectionOf (trim event.normalizedText))).pushClaim
      event .confirmation 9500 (confirmationOf (trim event.normalizedText))).pushDecision
      event (decisionOf (trim event.normalizedText))
    have hclaims : claims ++ (claimsOf (trim event.normalizedText)).map (event, ·) =
        claims ++ (requestOf (trim event.normalizedText)).toList.map (event, .request, 9000, ·) ++
          (objectionOf (trim event.normalizedText)).toList.map (event, .objection, 9000, ·) ++
          (confirmationOf (trim event.normalizedText)).toList.map (event, .confirmation, 9500, ·) := by
      simp only [claimsOf, List.map_append, List.map_map, List.append_assoc]
      rfl
    rw [if_pos rfl, if_pos rfl, hclaims, Bool.true_and]
    dsimp only
    cases raisesQuestion (trim event.normalizedText) with
    | false => simpa using hread
    | true => simpa using hread.pushQuestion event

end

end

/-- The patch after the whole batch. -/
theorem extract_holds : Holds ids batch
    (batch.events.flatMap (ThreadSemanticEvent.claims maxEventChars))
    (batch.events.flatMap (ThreadSemanticEvent.decisions maxEventChars))
    (batch.events.flatMap (ThreadSemanticEvent.questions maxEventChars))
    (extract ids maxEventChars batch) := by
  unfold extract
  induction batch.events using List.reverseRecOn with
  | nil => exact ⟨rfl, rfl, rfl, rfl⟩
  | append_singleton events event ih =>
    rw [List.foldl_append, List.flatMap_append, List.flatMap_append, List.flatMap_append,
      List.flatMap_singleton, List.flatMap_singleton, List.flatMap_singleton]
    exact ih.extractEvent event

end

end ServerRS.ThreadSemantics

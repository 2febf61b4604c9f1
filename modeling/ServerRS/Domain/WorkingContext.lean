import ServerRS.Domain.Action
import ServerRS.Lib.Except
import Mathlib.Data.List.Nodup

/-!
# The working context

Models `domain/agent_runtime/working_context.rs`: the bounded references that the agent
carries from one phase to the next.

A merge is made on a copy and validated as a whole, so it is a function from the old
context to the new one or to the error; a context over a limit is refused, never cut.
The length of the serialized context is a parameter, `WorkingContextFormat`.
-/

namespace ServerRS

open Lib

/-! ## Limits -/

def WORKING_CONTEXT_VERSION : UInt8 := 1

def MAX_WORKING_EVIDENCE_REFS : ℕ := 20

def MAX_WORKING_RESOLVED_CONVERSATIONS : ℕ := 8

def MAX_WORKING_RESOLVED_THREADS : ℕ := 8

def MAX_WORKING_RESOLVED_PARTICIPANTS : ℕ := 20

def MAX_WORKING_RESOLVED_FACTS : ℕ := 8

def MAX_WORKING_OPEN_REFERENCES : ℕ := 10

def MAX_OPEN_REFERENCE_SOURCES : ℕ := 5

def MAX_WORKING_TEXT_CHARS : ℕ := 1000

def MAX_WORKING_BYTES : ℕ := 32 * 1024

/-! ## Data -/

structure ParticipantRef where
  platformKind : PlatformIdentityKind
  stableId : String
deriving DecidableEq

inductive RetrievalTriggerKind where
  | initialOwnerCommand
  | replanObservation
  | memoryConflictReRead
deriving DecidableEq

inductive OpenReferenceKind where
  | ambiguousReference
deriving DecidableEq

/-- `OpenReference`: a reference that is not resolved yet. -/
structure OpenReference where
  kind : OpenReferenceKind
  label : String
  sourceEventIds : List SourceEventId
  reason : String
deriving DecidableEq

inductive MemoryConflictReasonCode where
  | activeFactPayloadDiffers
  | reReadSourcesInvalidated
  | reReadAccountMismatch
  | reReadFailed
deriving DecidableEq

structure MemoryCandidateConflictContext where
  candidateId : MemoryCandidateId
  factId : MemoryFactId
  factKind : String
  reasonCode : MemoryConflictReasonCode
  summary : String
  sourceEventIds : List SourceEventId
  factSummary : Option String
  reReadValid : Bool
deriving DecidableEq

structure AgentWorkingContextV1 where
  version : UInt8 := WORKING_CONTEXT_VERSION
  selectedEvidenceRefs : List SourceEventId := []
  resolvedConversationRefs : List ConversationRef := []
  resolvedThreadRefs : List EventThreadId := []
  resolvedParticipantRefs : List ParticipantRef := []
  resolvedFactRefs : List MemoryFactId := []
  openReferences : List OpenReference := []
  lastRetrieval : Option RetrievalTriggerKind := none
  conflict : Option MemoryCandidateConflictContext := none
deriving DecidableEq

inductive WorkingContextUpdate where
  | initialRetrieval (evidenceRefs : List SourceEventId)
      (resolvedConversationRefs : List ConversationRef) (trigger : RetrievalTriggerKind)
  | replanEvidence (evidenceRefs : List SourceEventId) (resolvedThreadRefs : List EventThreadId)
      (resolvedParticipantRefs : List ParticipantRef) (resolvedFactRefs : List MemoryFactId)
      (openReferences : List OpenReference)
  | conflictReRead (conflict : MemoryCandidateConflictContext)

/-- `WorkingContextProjection`: what the planner is given of the context. -/
structure WorkingContextProjection where
  evidenceRefs : List SourceEventId
  resolvedConversationRefs : List ConversationRef
  resolvedThreadRefs : List EventThreadId
  resolvedParticipantRefs : List ParticipantRef
  resolvedFactRefs : List MemoryFactId
  openReferences : List OpenReference
  lastRetrieval : Option RetrievalTriggerKind
  conflict : Option MemoryCandidateConflictContext

/-- The serialization of a context by `serde_json`. -/
class WorkingContextFormat where
  /-- `serde_json::to_string(context)` in bytes, or `usize::MAX` where it fails. -/
  serializedLen : AgentWorkingContextV1 → ℕ

inductive WorkingContextError where
  | tooLarge (field : String) (max : ℕ)
  | duplicate (field : String)
  | blank (field : String)
  | serializedTooLarge (size max : ℕ)
  | unsupportedVersion (version : UInt8)
deriving DecidableEq

/-- `Display for WorkingContextError`. -/
def WorkingContextError.toText : WorkingContextError → String
  | .tooLarge field max => "working context " ++ field ++ " exceeds max " ++ toString max
  | .duplicate field => "working context " ++ field ++ " must be unique"
  | .blank field => "working context " ++ field ++ " must not be blank"
  | .serializedTooLarge size max =>
    "working context serialized size " ++ toString size ++ " exceeds max " ++ toString max
  | .unsupportedVersion version =>
    "working context version " ++ toString version ++ " is not supported"

/-! ## Checks -/

namespace WorkingContext

def check (condition : Prop) [Decidable condition] (error : WorkingContextError) :
    Except WorkingContextError Unit :=
  if condition then .ok () else .error error

def checkLen {T : Type} (field : String) (items : List T) (max : ℕ) :
    Except WorkingContextError Unit :=
  check (items.length ≤ max) (.tooLarge field max)

def ensureUnique {T : Type} [DecidableEq T] (field : String) (items : List T) :
    Except WorkingContextError Unit :=
  check items.Nodup (.duplicate field)

def boundedText (field value : String) (max : ℕ) : Except WorkingContextError Unit := do
  check (isBlank value = false) (.blank field)
  check (value.length ≤ max) (.tooLarge field max)

/-- `append_unique`: in order of first occurrence. -/
def appendUnique {T : Type} [DecidableEq T] : List T → List T → List T
  | list, [] => list
  | list, item :: rest =>
    if item ∈ list then appendUnique list rest else appendUnique (list ++ [item]) rest

variable {T : Type} {field : String} {items : List T} {max : ℕ}

@[simp] theorem check_ok {condition : Prop} [Decidable condition] {error : WorkingContextError} :
    check condition error = .ok () ↔ condition := by
  unfold check
  split <;> simp_all

@[simp] theorem checkLen_ok : checkLen field items max = .ok () ↔ items.length ≤ max := check_ok

@[simp] theorem ensureUnique_ok [DecidableEq T] : ensureUnique field items = .ok () ↔ items.Nodup :=
  check_ok

@[simp] theorem boundedText_ok {value : String} :
    boundedText field value max = .ok () ↔ isBlank value = false ∧ value.length ≤ max := by
  unfold boundedText
  rw [Except.and_then_eq_ok, check_ok, check_ok]

end WorkingContext

open WorkingContext

def validateOpenReference (self : OpenReference) : Except WorkingContextError Unit := do
  WorkingContext.boundedText "open_reference.label" self.label MAX_WORKING_TEXT_CHARS
  WorkingContext.boundedText "open_reference.reason" self.reason MAX_WORKING_TEXT_CHARS
  checkLen "open_reference.source_event_ids" self.sourceEventIds MAX_OPEN_REFERENCE_SOURCES
  ensureUnique "open_reference.source_event_ids" self.sourceEventIds

def validateConflictContext (conflict : MemoryCandidateConflictContext) :
    Except WorkingContextError Unit := do
  WorkingContext.boundedText "conflict.fact_kind" conflict.factKind 16
  WorkingContext.boundedText "conflict.summary" conflict.summary MAX_WORKING_TEXT_CHARS
  checkLen "conflict.source_event_ids" conflict.sourceEventIds MAX_WORKING_EVIDENCE_REFS
  ensureUnique "conflict.source_event_ids" conflict.sourceEventIds
  conflict.factSummary.elim (.ok ()) fun factSummary =>
    WorkingContext.boundedText "conflict.fact_summary" factSummary MAX_WORKING_TEXT_CHARS
  check (conflict.reReadValid = true → conflict.factSummary.isSome = true)
    (.blank "conflict.fact_summary")
  check (conflict.reReadValid = true → conflict.sourceEventIds ≠ [])
    (.blank "conflict.source_event_ids")

namespace MemoryCandidateConflictContext

/-- Return a context that passes its own checks. -/
def validated (context : MemoryCandidateConflictContext) :
    Except WorkingContextError MemoryCandidateConflictContext := do
  validateConflictContext context
  .ok context

def valid (candidateId : MemoryCandidateId) (factId : MemoryFactId) (factKind : String)
    (reasonCode : MemoryConflictReasonCode) (summary : String) (sourceEventIds : List SourceEventId)
    (factSummary : String) : Except WorkingContextError MemoryCandidateConflictContext :=
  validated {
    candidateId, factId, factKind, reasonCode, summary, sourceEventIds
    factSummary := some factSummary
    reReadValid := true }

def invalid (candidateId : MemoryCandidateId) (factId : MemoryFactId)
    (reasonCode : MemoryConflictReasonCode) (summary : String) :
    Except WorkingContextError MemoryCandidateConflictContext :=
  validated {
    candidateId, factId, reasonCode, summary
    factKind := ""
    sourceEventIds := []
    factSummary := none
    reReadValid := false }

theorem valid_ok {candidateId : MemoryCandidateId} {factId : MemoryFactId} {factKind : String}
    {reasonCode : MemoryConflictReasonCode} {summary : String} {sourceEventIds : List SourceEventId}
    {factSummary : String} {context : MemoryCandidateConflictContext}
    (h : valid candidateId factId factKind reasonCode summary sourceEventIds factSummary =
      .ok context) :
    context.candidateId = candidateId ∧ context.factId = factId ∧
      context.sourceEventIds = sourceEventIds ∧ context.reReadValid = true := by
  obtain ⟨⟨⟩, -, hctx⟩ := Except.bind_ok h
  cases hctx
  exact ⟨rfl, rfl, rfl, rfl⟩

end MemoryCandidateConflictContext

namespace AgentWorkingContextV1

def projection (self : AgentWorkingContextV1) : WorkingContextProjection where
  evidenceRefs := self.selectedEvidenceRefs
  resolvedConversationRefs := self.resolvedConversationRefs
  resolvedThreadRefs := self.resolvedThreadRefs
  resolvedParticipantRefs := self.resolvedParticipantRefs
  resolvedFactRefs := self.resolvedFactRefs
  openReferences := self.openReferences
  lastRetrieval := self.lastRetrieval
  conflict := self.conflict

variable [WorkingContextFormat]

def validate (self : AgentWorkingContextV1) : Except WorkingContextError Unit := do
  check (self.version = WORKING_CONTEXT_VERSION) (.unsupportedVersion self.version)
  checkLen "selected_evidence_refs" self.selectedEvidenceRefs MAX_WORKING_EVIDENCE_REFS
  checkLen "resolved_conversation_refs" self.resolvedConversationRefs
    MAX_WORKING_RESOLVED_CONVERSATIONS
  checkLen "resolved_thread_refs" self.resolvedThreadRefs MAX_WORKING_RESOLVED_THREADS
  checkLen "resolved_participant_refs" self.resolvedParticipantRefs
    MAX_WORKING_RESOLVED_PARTICIPANTS
  checkLen "resolved_fact_refs" self.resolvedFactRefs MAX_WORKING_RESOLVED_FACTS
  checkLen "open_references" self.openReferences MAX_WORKING_OPEN_REFERENCES
  ensureUnique "selected_evidence_refs" self.selectedEvidenceRefs
  ensureUnique "resolved_conversation_refs" self.resolvedConversationRefs
  ensureUnique "resolved_thread_refs" self.resolvedThreadRefs
  ensureUnique "resolved_participant_refs" self.resolvedParticipantRefs
  ensureUnique "resolved_fact_refs" self.resolvedFactRefs
  self.openReferences.forM validateOpenReference
  self.conflict.elim (.ok ()) validateConflictContext
  check (WorkingContextFormat.serializedLen self ≤ MAX_WORKING_BYTES)
    (.serializedTooLarge (WorkingContextFormat.serializedLen self) MAX_WORKING_BYTES)

def mergeInitialRetrieval (self : AgentWorkingContextV1) (evidenceRefs : List SourceEventId)
    (resolvedConversationRefs : List ConversationRef) (trigger : RetrievalTriggerKind) :
    Except WorkingContextError AgentWorkingContextV1 := do
  let merged := { self with
    selectedEvidenceRefs := appendUnique self.selectedEvidenceRefs evidenceRefs
    resolvedConversationRefs := appendUnique self.resolvedConversationRefs resolvedConversationRefs
    lastRetrieval := some trigger }
  merged.validate
  .ok merged

/-- The loop over `open_references`: one of the same kind and label is not repeated. -/
def pushOpenReferences : List OpenReference → List OpenReference → List OpenReference
  | existing, [] => existing
  | existing, «open» :: rest =>
    if existing.any fun other => other.kind == «open».kind && other.label == «open».label then
      pushOpenReferences existing rest
    else pushOpenReferences (existing ++ [«open»]) rest

def mergeReplanEvidence (self : AgentWorkingContextV1) (evidenceRefs : List SourceEventId)
    (resolvedThreadRefs : List EventThreadId) (resolvedParticipantRefs : List ParticipantRef)
    (resolvedFactRefs : List MemoryFactId) (openReferences : List OpenReference) :
    Except WorkingContextError AgentWorkingContextV1 := do
  let merged := { self with
    selectedEvidenceRefs := appendUnique self.selectedEvidenceRefs evidenceRefs
    resolvedThreadRefs := appendUnique self.resolvedThreadRefs resolvedThreadRefs
    resolvedParticipantRefs := appendUnique self.resolvedParticipantRefs resolvedParticipantRefs
    resolvedFactRefs := appendUnique self.resolvedFactRefs resolvedFactRefs
    openReferences := pushOpenReferences self.openReferences openReferences
    lastRetrieval := some .replanObservation }
  merged.validate
  .ok merged

/-- `AgentWorkingContextV1::merge_conflict`: the conflict of a candidate is recorded once. -/
def mergeConflict (self : AgentWorkingContextV1) (conflict : MemoryCandidateConflictContext) :
    Except WorkingContextError AgentWorkingContextV1 :=
  if self.conflict.any fun existing => existing.candidateId == conflict.candidateId then .ok self
  else do
    let merged := { self with
      resolvedFactRefs := appendUnique self.resolvedFactRefs [conflict.factId]
      selectedEvidenceRefs := appendUnique self.selectedEvidenceRefs conflict.sourceEventIds
      conflict := some conflict
      lastRetrieval := some .memoryConflictReRead }
    merged.validate
    .ok merged

/-- The merge that a typed update asks for. -/
def merge (self : AgentWorkingContextV1) :
    WorkingContextUpdate → Except WorkingContextError AgentWorkingContextV1
  | .initialRetrieval evidenceRefs resolvedConversationRefs trigger =>
    self.mergeInitialRetrieval evidenceRefs resolvedConversationRefs trigger
  | .replanEvidence evidenceRefs resolvedThreadRefs resolvedParticipantRefs resolvedFactRefs
      openReferences =>
    self.mergeReplanEvidence evidenceRefs resolvedThreadRefs resolvedParticipantRefs
      resolvedFactRefs openReferences
  | .conflictReRead conflict => self.mergeConflict conflict

end AgentWorkingContextV1

def validateWorkingContextProjection (projection : WorkingContextProjection) :
    Except WorkingContextError Unit := do
  checkLen "evidence_refs" projection.evidenceRefs MAX_WORKING_EVIDENCE_REFS
  checkLen "resolved_conversation_refs" projection.resolvedConversationRefs
    MAX_WORKING_RESOLVED_CONVERSATIONS
  checkLen "resolved_thread_refs" projection.resolvedThreadRefs MAX_WORKING_RESOLVED_THREADS
  checkLen "resolved_participant_refs" projection.resolvedParticipantRefs
    MAX_WORKING_RESOLVED_PARTICIPANTS
  checkLen "resolved_fact_refs" projection.resolvedFactRefs MAX_WORKING_RESOLVED_FACTS
  checkLen "open_references" projection.openReferences MAX_WORKING_OPEN_REFERENCES
  ensureUnique "evidence_refs" projection.evidenceRefs
  ensureUnique "resolved_conversation_refs" projection.resolvedConversationRefs
  ensureUnique "resolved_thread_refs" projection.resolvedThreadRefs
  ensureUnique "resolved_participant_refs" projection.resolvedParticipantRefs
  ensureUnique "resolved_fact_refs" projection.resolvedFactRefs
  projection.openReferences.forM validateOpenReference
  projection.conflict.elim (.ok ()) validateConflictContext

/-- `text.chars().take(max_chars).collect()`. -/
def takeChars (text : String) (maxChars : ℕ) : String := String.ofList (text.toList.take maxChars)

theorem takeChars_length_le (text : String) (maxChars : ℕ) :
    (takeChars text maxChars).length ≤ maxChars := by
  rw [takeChars, String.length_ofList]
  exact List.length_take_le maxChars text.toList

def summarizeMemoryPayload (payload : MemoryPayload) (maxChars : ℕ) : String :=
  takeChars
    (match payload with
      | .person person =>
        match person.relationship with
        | some relationship => "人物记忆（关系：" ++ relationship ++ "）"
        | none => "人物记忆"
      | .project project => "项目记忆（目标：" ++ project.goal ++ "）"
      | .commitment commitment => "承诺记忆（行动：" ++ commitment.action ++ "）")
    maxChars

namespace AgentWorkingContextV1

/-- An open reference that is there, or is to be added, is there afterwards. -/
theorem pushOpenReferences_ne_nil {existing references : List OpenReference}
    (h : existing ≠ [] ∨ references ≠ []) : pushOpenReferences existing references ≠ [] := by
  induction references generalizing existing with
  | nil => simpa [pushOpenReferences] using h
  | cons «open» rest ih =>
    unfold pushOpenReferences
    split
    · next hany =>
      refine ih (.inl ?_)
      rintro rfl
      cases hany
    · exact ih (.inl (by simp))

end AgentWorkingContextV1

/-! ## What the checks establish -/

section Established

variable [WorkingContextFormat] {context : AgentWorkingContextV1}

namespace AgentWorkingContextV1

/-- Within every limit: the counts, the texts, no repetition, and the serialized size. -/
structure Bounded (context : AgentWorkingContextV1) : Prop where
  version : context.version = WORKING_CONTEXT_VERSION
  evidence : context.selectedEvidenceRefs.length ≤ MAX_WORKING_EVIDENCE_REFS
  conversations : context.resolvedConversationRefs.length ≤ MAX_WORKING_RESOLVED_CONVERSATIONS
  threads : context.resolvedThreadRefs.length ≤ MAX_WORKING_RESOLVED_THREADS
  participants : context.resolvedParticipantRefs.length ≤ MAX_WORKING_RESOLVED_PARTICIPANTS
  facts : context.resolvedFactRefs.length ≤ MAX_WORKING_RESOLVED_FACTS
  openReferences : context.openReferences.length ≤ MAX_WORKING_OPEN_REFERENCES
  evidenceUnique : context.selectedEvidenceRefs.Nodup
  conversationsUnique : context.resolvedConversationRefs.Nodup
  threadsUnique : context.resolvedThreadRefs.Nodup
  participantsUnique : context.resolvedParticipantRefs.Nodup
  factsUnique : context.resolvedFactRefs.Nodup
  eachOpen : ∀ «open» ∈ context.openReferences, validateOpenReference «open» = .ok ()
  conflict : context.conflict.elim (.ok ()) validateConflictContext = .ok ()
  bytes : WorkingContextFormat.serializedLen context ≤ MAX_WORKING_BYTES

/-- The checks of `validate` are exactly the limits. -/
theorem validate_eq_ok : context.validate = .ok () ↔ Bounded context := by
  unfold validate
  simp only [Except.and_then_eq_ok, check_ok, checkLen_ok, ensureUnique_ok, Except.forM_eq_ok]
  constructor
  · rintro ⟨h₁, h₂, h₃, h₄, h₅, h₆, h₇, h₈, h₉, h₁₀, h₁₁, h₁₂, h₁₃, h₁₄, h₁₅⟩
    exact ⟨h₁, h₂, h₃, h₄, h₅, h₆, h₇, h₈, h₉, h₁₀, h₁₁, h₁₂, h₁₃, h₁₄, h₁₅⟩
  · rintro ⟨h₁, h₂, h₃, h₄, h₅, h₆, h₇, h₈, h₉, h₁₀, h₁₁, h₁₂, h₁₃, h₁₄, h₁₅⟩
    exact ⟨h₁, h₂, h₃, h₄, h₅, h₆, h₇, h₈, h₉, h₁₀, h₁₁, h₁₂, h₁₃, h₁₄, h₁₅⟩

/-- The planner is never given a projection that it refuses: the checks of the projection are
among those of the context. -/
theorem projection_valid (h : context.validate = .ok ()) :
    validateWorkingContextProjection context.projection = .ok () := by
  have hb := validate_eq_ok.mp h
  unfold validateWorkingContextProjection projection
  simp only [Except.and_then_eq_ok, checkLen_ok, ensureUnique_ok, Except.forM_eq_ok]
  exact ⟨hb.evidence, hb.conversations, hb.threads, hb.participants, hb.facts, hb.openReferences,
    hb.evidenceUnique, hb.conversationsUnique, hb.threadsUnique, hb.participantsUnique,
    hb.factsUnique, hb.eachOpen, hb.conflict⟩

variable {merged : AgentWorkingContextV1} {update : WorkingContextUpdate} {ids : List SourceEventId}

/-- `validate` at the end of a merge is all that can refuse it. -/
theorem validated_ok {context : AgentWorkingContextV1} :
    (do context.validate; Except.ok context : Except WorkingContextError AgentWorkingContextV1) =
      .ok merged ↔ Bounded context ∧ merged = context := by
  rw [Except.and_then_eq_ok, validate_eq_ok]
  simp [eq_comm]

theorem merge_openReferences (h : context.merge update = .ok merged)
    (hopen : context.openReferences ≠ []) : merged.openReferences ≠ [] := by
  cases update with
  | initialRetrieval evidenceRefs resolvedConversationRefs trigger =>
    obtain ⟨-, rfl⟩ := validated_ok.mp h
    exact hopen
  | replanEvidence evidenceRefs resolvedThreadRefs resolvedParticipantRefs resolvedFactRefs
      openReferences =>
    obtain ⟨-, rfl⟩ := validated_ok.mp h
    exact pushOpenReferences_ne_nil (.inl hopen)
  | conflictReRead conflict =>
    rw [merge, mergeConflict] at h
    split at h
    · cases h
      exact hopen
    · obtain ⟨-, rfl⟩ := validated_ok.mp h
      exact hopen

/-- The first two kinds of updates leave the conflict as it is. -/
theorem merge_initialRetrieval_conflict {conversations : List ConversationRef}
    {trigger : RetrievalTriggerKind}
    (h : context.merge (.initialRetrieval ids conversations trigger) = .ok merged) :
    merged.conflict = context.conflict := by
  obtain ⟨⟨⟩, -, hmerg⟩ := Except.bind_ok h
  cases hmerg
  rfl

theorem merge_replanEvidence_conflict {threads : List EventThreadId}
    {participants : List ParticipantRef} {facts : List MemoryFactId}
    {references : List OpenReference}
    (h : context.merge (.replanEvidence ids threads participants facts references) = .ok merged) :
    merged.conflict = context.conflict := by
  obtain ⟨⟨⟩, -, hmerg⟩ := Except.bind_ok h
  cases hmerg
  rfl

/-- After the update with a conflict there is one of its candidate. -/
theorem merge_conflictReRead_conflict {conflict : MemoryCandidateConflictContext}
    (h : context.merge (.conflictReRead conflict) = .ok merged) :
    (merged.conflict.any fun existing => existing.candidateId == conflict.candidateId) = true := by
  rw [merge, mergeConflict] at h
  split at h
  · next hany =>
    cases h
    exact hany
  · obtain ⟨⟨⟩, -, hmerg⟩ := Except.bind_ok h
    cases hmerg
    simp

/-- A merge that is accepted leaves a context within its limits. -/
theorem merge_valid (hctx : context.validate = .ok ()) (h : context.merge update = .ok merged) :
    merged.validate = .ok () := by
  cases update with
  | initialRetrieval evidenceRefs resolvedConversationRefs trigger =>
    obtain ⟨⟨⟩, hval, hmerg⟩ := Except.bind_ok h
    cases hmerg
    exact hval
  | replanEvidence evidenceRefs resolvedThreadRefs resolvedParticipantRefs resolvedFactRefs
      openReferences =>
    obtain ⟨⟨⟩, hval, hmerg⟩ := Except.bind_ok h
    cases hmerg
    exact hval
  | conflictReRead conflict =>
    rw [merge, mergeConflict] at h
    split at h
    · cases h
      exact hctx
    · obtain ⟨⟨⟩, hval, hmerg⟩ := Except.bind_ok h
      cases hmerg
      exact hval

/-- So does the first merge of a run. -/
theorem merge_new_valid (h : merge {} update = .ok merged) : merged.validate = .ok () := by
  cases update with
  | initialRetrieval evidenceRefs resolvedConversationRefs trigger =>
    obtain ⟨⟨⟩, hval, hmerg⟩ := Except.bind_ok h
    cases hmerg
    exact hval
  | replanEvidence evidenceRefs resolvedThreadRefs resolvedParticipantRefs resolvedFactRefs
      openReferences =>
    obtain ⟨⟨⟩, hval, hmerg⟩ := Except.bind_ok h
    cases hmerg
    exact hval
  | conflictReRead conflict =>
    obtain ⟨⟨⟩, hval, hmerg⟩ := Except.bind_ok h
    cases hmerg
    exact hval

end AgentWorkingContextV1

end Established

end ServerRS

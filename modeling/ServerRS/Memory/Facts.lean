import ServerRS.Domain.Planner

/-!
# Memory facts

Models `validate_memory_fact` of `domain/memory.rs`.
-/

namespace ServerRS.Memory

open Lib

inductive MemoryFactError where
  | invalid (text : String)
deriving DecidableEq

/-- `Display for MemoryFactError`. -/
def MemoryFactError.toText : MemoryFactError → String
  | .invalid text => "invalid memory fact: " ++ text

/-! ## Validation -/

def requireFact (condition : Prop) [Decidable condition] (text : String) :
    Except MemoryFactError Unit :=
  if condition then .ok () else .error (.invalid text)

@[simp] theorem requireFact_ok {condition : Prop} [Decidable condition] {text : String} :
    requireFact condition text = .ok () ↔ condition := by
  unfold requireFact
  split <;> simp_all

def validateText (field value : String) (max : ℕ) : Except MemoryFactError Unit :=
  requireFact (isBlank value = false ∧ value.length ≤ max)
    (field ++ " must contain 1..=" ++ toString max ++ " characters")

def validateOptionalText (field : String) (value : Option String) (max : ℕ) :
    Except MemoryFactError Unit :=
  match value with
  | some value => validateText field value max
  | none => .ok ()

def validateTextList (field : String) (values : List String) (maxItems maxChars : ℕ) :
    Except MemoryFactError Unit := do
  requireFact (values.length ≤ maxItems)
    (field ++ " must not exceed " ++ toString maxItems ++ " items")
  values.forM fun value => validateText field value maxChars

def ensureActorAccount (account : SourceAccountRef) (actor : ThreadActorRef) :
    Except MemoryFactError Unit := do
  requireFact (actor.account = account) "memory actor must belong to the managed account scope"
  validateText "actor_id" actor.actorId 191

/-- The bounds of a member id, which are in bytes. -/
def validateMemberId (name memberId : String) : Except MemoryFactError Unit :=
  requireFact (isBlank memberId = false ∧ memberId.utf8ByteSize ≤ 191)
    (name ++ " " ++ memberId ++ " must contain 1..=191 bytes")

-- The kind of a member is one of the three that the source matches it against.
def validateProject (project : ProjectMemory) : Except MemoryFactError Unit := do
  validateText "project_key" project.projectKey 191
  validateText "goal" project.goal 4000
  validateOptionalText "progress" project.progress 4000
  requireFact (project.memberActorIds.length ≤ 100) "member_actor_ids must not exceed 100 items"
  project.memberActorIds.forM (validateMemberId "member_actor_id")
  requireFact (project.memberActorRefs.length ≤ 100) "member_actor_refs must not exceed 100 items"
  project.memberActorRefs.forM fun member =>
    validateMemberId "ProjectMemberRef.actor_id" member.actorId
  validateTextList "risks" project.risks 100 1000
  validateTextList "blockers" project.blockers 100 1000
  validateTextList "artifact_refs" project.artifactRefs 100 1000

def validatePerson (account : SourceAccountRef) (person : PersonMemory) :
    Except MemoryFactError Unit := do
  ensureActorAccount account person.person
  validateOptionalText "relationship" person.relationship 1000
  validateTextList "responsibilities" person.responsibilities 50 1000
  validateTextList "communication_preferences" person.communicationPreferences 50 1000

def validateCommitment (account : SourceAccountRef) (sourceEventIds : List SourceEventId)
    (commitment : CommitmentMemory) : Except MemoryFactError Unit := do
  ensureActorAccount account commitment.promisor
  ensureActorAccount account commitment.beneficiary
  validateText "commitment.action" commitment.action 4000
  requireFact (commitment.status = .fulfilled → commitment.completionSourceEventId.isSome = true)
    "fulfilled commitment requires completion evidence"
  requireFact (∀ completion ∈ commitment.completionSourceEventId, completion ∈ sourceEventIds)
    "completion evidence must be included in source_event_ids"

def MAX_SOURCE_EVENTS : ℕ := 100

def validateMemoryPayload (payload : MemoryPayload) (account : SourceAccountRef)
    (sourceEventIds : List SourceEventId) : Except MemoryFactError Unit := do
  requireFact (sourceEventIds ≠ [] ∧ sourceEventIds.length ≤ MAX_SOURCE_EVENTS)
    "memory fact must reference 1..=100 source events"
  requireFact sourceEventIds.Nodup "memory fact contains duplicate source events"
  match payload with
  | .person person => validatePerson account person
  | .project project => validateProject project
  | .commitment commitment => validateCommitment account sourceEventIds commitment

def validateMemoryFact (fact : MemoryFact) : Except MemoryFactError Unit := do
  requireFact (isBlank fact.subjectKey = false ∧ fact.subjectKey.length ≤ 191)
    "subject_key must contain 1..=191 characters"
  requireFact (fact.status = .proposed ∨ fact.status = .confirmed)
    "new memory fact status must be proposed or confirmed"
  requireFact (fact.confidenceBps ≤ 10000) "memory confidence_bps must not exceed 10000"
  requireFact (fact.supersedesFactId ≠ some fact.factId) "memory fact cannot supersede itself"
  validateMemoryPayload fact.payload fact.account fact.sourceEventIds

section

variable {sourceEventIds : List SourceEventId} {commitment : CommitmentMemory}
  {account : SourceAccountRef}

theorem validateMemoryFact_ok_iff {fact : MemoryFact} : validateMemoryFact fact = .ok () ↔
    (isBlank fact.subjectKey = false ∧ fact.subjectKey.length ≤ 191) ∧
      (fact.status = .proposed ∨ fact.status = .confirmed) ∧ fact.confidenceBps ≤ 10000 ∧
      fact.supersedesFactId ≠ some fact.factId ∧
      validateMemoryPayload fact.payload fact.account fact.sourceEventIds = .ok () := by
  simp only [validateMemoryFact, Except.and_then_eq_ok, requireFact_ok]

theorem validateMemoryPayload_ok_iff :
    validateMemoryPayload (.commitment commitment) account sourceEventIds = .ok () ↔
      (sourceEventIds ≠ [] ∧ sourceEventIds.length ≤ MAX_SOURCE_EVENTS) ∧ sourceEventIds.Nodup ∧
        validateCommitment account sourceEventIds commitment = .ok () := by
  simp only [validateMemoryPayload, Except.and_then_eq_ok, requireFact_ok]

theorem validateCommitment_ok_iff :
    validateCommitment account sourceEventIds commitment = .ok () ↔
      ensureActorAccount account commitment.promisor = .ok () ∧
        ensureActorAccount account commitment.beneficiary = .ok () ∧
        validateText "commitment.action" commitment.action 4000 = .ok () ∧
        (commitment.status = .fulfilled → commitment.completionSourceEventId.isSome = true) ∧
        ∀ evidence ∈ commitment.completionSourceEventId, evidence ∈ sourceEventIds := by
  simp only [validateCommitment, Except.and_then_eq_ok, requireFact_ok]

end

end ServerRS.Memory

import ServerRS.Memory.Facts
import ServerRS.ThreadSemantics.Patch

/-!
# Memory candidates

Models `domain/memory_candidate.rs`: what an extractor proposes for the memory, the batch of
events it was read from, `validate_memory_candidate` and `candidate_to_confirmed_fact`.

`accepted_iff` takes the validation apart. The conversion never fails on what was accepted
(`confirmed_of_accepted`), and `validate_backs_identities_iff` says when an accepted candidate is
backed by its sources: the validator compares the ids of actors but neither their platform kind
nor the time of the event, and looks for typed project members in the whole batch.
-/

namespace ServerRS.Memory

open Lib

def MAX_CANDIDATE_SOURCES : ℕ := 20
def MAX_CANDIDATE_PAYLOAD_BYTES : ℕ := 16 * 1024
def INITIAL_CANDIDATE_VERSION : UInt64 := 1
def APPROVED_CANDIDATE_CONFIDENCE_BPS : UInt16 := 10000

inductive MemoryCandidateError where
  | invalidData (text : String)
deriving DecidableEq

structure MemoryCandidateSource where
  sourceEventId : SourceEventId
  actor : ThreadActorRef
  occurredAtUnixSecs : Int
  contentTrustLevel : ContentTrustLevel
deriving DecidableEq

structure MemoryCandidate where
  candidateId : MemoryCandidateId
  account : SourceAccountRef
  subjectKey : String
  payload : MemoryPayload
  status : MemoryCandidateStatus
  version : UInt64
  extractorVersion : String
  deterministicFingerprint : String
  sources : List MemoryCandidateSource
deriving DecidableEq

structure MemoryCandidateEvent where
  sourceEventId : SourceEventId
  actor : ThreadActorRef
  role : MessageRole
  occurredAtUnixSecs : Int
  contentTrustLevel : ContentTrustLevel
  normalizedText : String
  contentOmitted : Bool
deriving DecidableEq

/-- A batch, without the lease and the cursor, which only the store reads. -/
structure MemoryCandidateBatch where
  account : SourceAccountRef
  conversation : ConversationRef
  events : List MemoryCandidateEvent
deriving DecidableEq

def MemoryCandidateBatch.event? (batch : MemoryCandidateBatch) (id : SourceEventId) :
    Option MemoryCandidateEvent :=
  batch.events.find? fun event => event.sourceEventId = id

def isEligibleForCandidateExtraction (trust : ContentTrustLevel) (allowLocalOnly : Bool) : Bool :=
  match trust with
  | .normal => true
  | .localOnly => allowLocalOnly
  | .envelopeOnly | .neverLongTerm => false

/-! ## Fingerprints -/

/-- What the fingerprint is made of. -/
structure FingerprintParts where
  account : String × String
  kind : String
  subject : String
  payload : MemoryPayload
  sources : List String
  extractorVersion : String
deriving DecidableEq

/-- What the crates do: the texts that `serde_json` writes, and `Uuid::new_v5`. -/
structure CandidateCodec where
  payloadJson : MemoryPayload → String
  canonicalJson : FingerprintParts → String
  newV5 : String → String

def candidateFingerprint (codec : CandidateCodec) (account : SourceAccountRef)
    (payload : MemoryPayload) (subjectKey : String) (sources : List MemoryCandidateSource)
    (extractorVersion : String) : String :=
  let sourceIds := (sources.map fun source => source.sourceEventId.asStr).mergeSort (· ≤ ·)
  codec.newV5 (codec.canonicalJson {
    account := (account.channel.asStr, account.accountId)
    kind := payload.kind
    subject := trim subjectKey
    payload
    sources := sourceIds.destutter (· ≠ ·)
    extractorVersion })

/-! ## Validation -/

def requireCandidate (condition : Prop) [Decidable condition] (text : String) :
    Except MemoryCandidateError Unit :=
  if condition then .ok () else .error (.invalidData text)

@[simp] theorem requireCandidate_ok {condition : Prop} [Decidable condition] {text : String} :
    requireCandidate condition text = .ok () ↔ condition := by
  unfold requireCandidate
  split <;> simp_all

/-- The checks of a source against its event. -/
def validateSource (batch : MemoryCandidateBatch) (source : MemoryCandidateSource) :
    Except MemoryCandidateError Unit :=
  match batch.event? source.sourceEventId with
  | none => .error (.invalidData "source event not found")
  | some event => do
    requireCandidate (event.actor.actorId = source.actor.actorId)
      "candidate source actor does not match the authoritative source event actor"
    requireCandidate (source.contentTrustLevel = event.contentTrustLevel ∧
        isEligibleForCandidateExtraction event.contentTrustLevel true = true)
      "candidate source trust level does not match the batch event"

/-- The loop over the sources; `seen` are the ids before them. -/
def validateSources (batch : MemoryCandidateBatch) :
    List MemoryCandidateSource → List SourceEventId → Except MemoryCandidateError Unit
  | [], _ => .ok ()
  | source :: rest, seen => do
    requireCandidate (source.actor.account = batch.account)
      "candidate source actor must belong to the managed account"
    requireCandidate (source.sourceEventId ∈ batch.events.map MemoryCandidateEvent.sourceEventId)
      "candidate cites an event outside the claimed batch"
    requireCandidate (source.sourceEventId ∉ seen) "candidate contains duplicate source events"
    validateSource batch source
    validateSources batch rest (source.sourceEventId :: seen)

def coveredActors : MemoryPayload → List String
  | .person memory => [memory.person.actorId]
  | .project memory => memory.memberActorIds
  | .commitment memory => [memory.promisor.actorId, memory.beneficiary.actorId]

def validateCoverage (payload : MemoryPayload) (sources : List MemoryCandidateSource) :
    Except MemoryCandidateError Unit :=
  let sourceActors := sources.map fun source => source.actor.actorId
  match (coveredActors payload).find? fun actorId => actorId ∉ sourceActors with
  | none => .ok ()
  | some uncovered =>
    .error (.invalidData ("candidate payload actor " ++ uncovered ++ " has no source evidence"))

/-- The actors that have to be observed in the batch. -/
def requiredActors : MemoryPayload → List String
  | .person memory => [memory.person.actorId]
  | .project memory =>
    memory.memberActorIds.foldl
      (fun ids legacyId => if legacyId ∈ ids then ids else ids ++ [legacyId])
      (memory.memberActorRefs.map ProjectMemberRef.actorId)
  | .commitment memory => [memory.promisor.actorId, memory.beneficiary.actorId]

def payloadActorsObservedInBatch (payload : MemoryPayload) (batch : MemoryCandidateBatch) : Bool :=
  (requiredActors payload).all fun actorId =>
    actorId ∈ batch.events.map fun event => event.actor.actorId

-- Serialising a payload cannot fail: its maps have text keys.
def validateMemoryCandidate (codec : CandidateCodec) (candidate : MemoryCandidate)
    (batch : MemoryCandidateBatch) : Except MemoryCandidateError Unit := do
  requireCandidate (candidate.status = .proposed ∧ candidate.version = INITIAL_CANDIDATE_VERSION)
    "candidate must start as proposed with version 1"
  requireCandidate (candidate.account = batch.account)
    "candidate account must match the claimed batch account"
  requireCandidate (isBlank candidate.subjectKey = false ∧ candidate.subjectKey.length ≤ 191)
    "subject_key must contain 1..=191 characters"
  requireCandidate (isBlank candidate.extractorVersion = false ∧
      candidate.extractorVersion.utf8ByteSize ≤ 32) "extractor_version must contain 1..=32 bytes"
  requireCandidate (candidate.sources ≠ [] ∧ candidate.sources.length ≤ MAX_CANDIDATE_SOURCES)
    "candidate must cite 1..=20 source events"
  validateSources batch candidate.sources []
  validateCoverage candidate.payload candidate.sources
  (validateMemoryPayload candidate.payload candidate.account
    (candidate.sources.map MemoryCandidateSource.sourceEventId)).mapError
      fun error => .invalidData error.toText
  requireCandidate (payloadActorsObservedInBatch candidate.payload batch = true)
    "candidate payload references an actor outside the claimed batch"
  requireCandidate
    ((codec.payloadJson candidate.payload).utf8ByteSize ≤ MAX_CANDIDATE_PAYLOAD_BYTES)
    "candidate payload exceeds the 16 KiB size limit"
  requireCandidate (candidate.deterministicFingerprint =
      candidateFingerprint codec candidate.account candidate.payload candidate.subjectKey
        candidate.sources candidate.extractorVersion)
    "candidate fingerprint does not match its content"

/-! ## What is accepted -/

section Accepted

variable {codec : CandidateCodec} {candidate : MemoryCandidate}
  {batch batch' : MemoryCandidateBatch}

/-- A source is of the account and agrees with its event where the validator compares the two. -/
def MemoryCandidateSource.Cites (batch : MemoryCandidateBatch) (source : MemoryCandidateSource) :
    Prop :=
  source.actor.account = batch.account ∧ ∃ event, batch.event? source.sourceEventId = some event ∧
    event.actor.actorId = source.actor.actorId ∧
    source.contentTrustLevel = event.contentTrustLevel ∧
    isEligibleForCandidateExtraction event.contentTrustLevel true = true

theorem event?_mem {id : SourceEventId} {event : MemoryCandidateEvent}
    (h : batch.event? id = some event) : event ∈ batch.events ∧ event.sourceEventId = id :=
  ⟨List.mem_of_find?_eq_some h, by simpa using List.find?_some h⟩

variable {source : MemoryCandidateSource} {sources : List MemoryCandidateSource}
  {payload : MemoryPayload} {account : SourceAccountRef}

theorem validateSource_ok_iff :
    validateSource batch source = .ok () ↔
      ∃ event, batch.event? source.sourceEventId = some event ∧
        event.actor.actorId = source.actor.actorId ∧
        source.contentTrustLevel = event.contentTrustLevel ∧
        isEligibleForCandidateExtraction event.contentTrustLevel true = true := by
  unfold validateSource
  cases batch.event? source.sourceEventId with
  | none => simp
  | some event => simp [Except.and_then_eq_ok]

theorem validateSources_ok_iff {seen : List SourceEventId} :
    validateSources batch sources seen = .ok () ↔
      (∀ source ∈ sources, source.Cites batch ∧ source.sourceEventId ∉ seen) ∧
        (sources.map MemoryCandidateSource.sourceEventId).Nodup := by
  induction sources generalizing seen with
  | nil => simp [validateSources]
  | cons source rest ih =>
    rw [List.forall_mem_cons, List.map_cons, List.nodup_cons]
    simp only [validateSources, Except.and_then_eq_ok, requireCandidate_ok, validateSource_ok_iff,
      ih, List.mem_map, List.mem_cons, not_or]
    constructor
    · rintro ⟨hacc, -, hfr, hev, hrest, hnd⟩
      exact ⟨⟨⟨⟨hacc, hev⟩, hfr⟩, fun other hoth =>
        ⟨(hrest other hoth).1, (hrest other hoth).2.2⟩⟩,
        fun ⟨other, hoth, hsame⟩ => (hrest other hoth).2.1 hsame, hnd⟩
    · rintro ⟨⟨⟨⟨hacc, event, hfnd, hev⟩, hfr⟩, hrest⟩, hnew, hnd⟩
      obtain ⟨hmem, hid⟩ := event?_mem hfnd
      exact ⟨hacc, ⟨event, hmem, hid⟩, hfr, ⟨event, hfnd, hev⟩, fun other hoth =>
        ⟨(hrest other hoth).1, fun hsame => hnew ⟨other, hoth, hsame⟩,
          (hrest other hoth).2⟩, hnd⟩

theorem validateCoverage_ok_iff :
    validateCoverage payload sources = .ok () ↔
      ∀ actorId ∈ coveredActors payload, ∃ source ∈ sources, source.actor.actorId = actorId := by
  simp only [validateCoverage]
  split
  · next h => simpa using h
  · next uncovered h =>
    refine iff_of_false (by rintro ⟨⟩) fun hall => ?_
    obtain ⟨source, hsrc, hsame⟩ := hall uncovered (List.mem_of_find?_eq_some h)
    have hnot := List.find?_some h
    simp only [decide_eq_true_eq] at hnot
    exact hnot (List.mem_map.mpr ⟨source, hsrc, hsame⟩)

/-- The union of the two lists of members. -/
theorem mem_union {legacy ids : List String} {actorId : String} :
    actorId ∈ legacy.foldl (fun ids legacyId => if legacyId ∈ ids then ids else ids ++ [legacyId])
      ids ↔ actorId ∈ ids ∨ actorId ∈ legacy := by
  induction legacy generalizing ids with
  | nil => simp
  | cons legacyId rest ih =>
    rw [List.foldl_cons, ih, List.mem_cons]
    split
    · next h => exact ⟨fun h' => h'.elim .inl (.inr ∘ .inr), fun h' => h'.elim .inl fun h' =>
        h'.elim (fun hsame => .inl (hsame ▸ h)) .inr⟩
    · simp [or_assoc]

/-- `validate_memory_candidate` taken apart. -/
theorem accepted_iff : validateMemoryCandidate codec candidate batch = .ok () ↔
    (candidate.status = .proposed ∧ candidate.version = INITIAL_CANDIDATE_VERSION) ∧
      candidate.account = batch.account ∧
      (isBlank candidate.subjectKey = false ∧ candidate.subjectKey.length ≤ 191) ∧
      (isBlank candidate.extractorVersion = false ∧
        candidate.extractorVersion.utf8ByteSize ≤ 32) ∧
      (candidate.sources ≠ [] ∧ candidate.sources.length ≤ MAX_CANDIDATE_SOURCES) ∧
      ((∀ source ∈ candidate.sources, source.Cites batch) ∧
        (candidate.sources.map MemoryCandidateSource.sourceEventId).Nodup) ∧
      (∀ actorId ∈ coveredActors candidate.payload,
        ∃ source ∈ candidate.sources, source.actor.actorId = actorId) ∧
      validateMemoryPayload candidate.payload candidate.account
        (candidate.sources.map MemoryCandidateSource.sourceEventId) = .ok () ∧
      payloadActorsObservedInBatch candidate.payload batch = true ∧
      (codec.payloadJson candidate.payload).utf8ByteSize ≤ MAX_CANDIDATE_PAYLOAD_BYTES ∧
      candidate.deterministicFingerprint = candidateFingerprint codec candidate.account
        candidate.payload candidate.subjectKey candidate.sources candidate.extractorVersion := by
  simp only [validateMemoryCandidate, Except.and_then_eq_ok, requireCandidate_ok,
    Except.mapError_eq_ok, validateSources_ok_iff, validateCoverage_ok_iff, List.not_mem_nil,
    not_false_eq_true, and_true]

/-! ## Backing -/

/-- The identities that a payload names with their platform kind. -/
def identitiesOf : MemoryPayload → List (String × Option PlatformIdentityKind)
  | .person memory => [(memory.person.actorId, memory.person.platformIdentityKind)]
  | .project memory =>
    memory.memberActorRefs.map fun member => (member.actorId, member.platformIdentityKind)
  | .commitment memory => [(memory.promisor.actorId, memory.promisor.platformIdentityKind),
    (memory.beneficiary.actorId, memory.beneficiary.platformIdentityKind)]

/-- The actors that a payload names: a member is one of the account of the fact. -/
def actorsOf (account : SourceAccountRef) : MemoryPayload → List ThreadActorRef
  | .person memory => [memory.person]
  | .project memory =>
    memory.memberActorRefs.map fun member => ⟨account, member.actorId, member.platformIdentityKind⟩
  | .commitment memory => [memory.promisor, memory.beneficiary]

/-- The members of the plain list, which says no platform kind. -/
def plainMembersOf : MemoryPayload → List String
  | .project memory => memory.memberActorIds
  | .person _ | .commitment _ => []

/-- The batches have the same events for what the candidate cites. -/
def SameCited (candidate : MemoryCandidate) (batch batch' : MemoryCandidateBatch) : Prop :=
  batch'.account = batch.account ∧ ∀ source ∈ candidate.sources,
    batch'.event? source.sourceEventId = batch.event? source.sourceEventId

/-- Every identity of the candidate rests on what it cites. -/
structure Backed (codec : CandidateCodec) (candidate : MemoryCandidate)
    (batch : MemoryCandidateBatch) : Prop where
  recorded : ∀ source ∈ candidate.sources, ∃ event ∈ batch.events,
    batch.event? source.sourceEventId = some event ∧
    isEligibleForCandidateExtraction event.contentTrustLevel true = true ∧
    source = ⟨event.sourceEventId, event.actor, event.occurredAtUnixSecs, event.contentTrustLevel⟩
  named : ∀ actor ∈ actorsOf candidate.account candidate.payload,
    ∃ source ∈ candidate.sources, source.actor = actor
  plain : ∀ member ∈ plainMembersOf candidate.payload, ∃ source ∈ candidate.sources,
    source.actor.account = candidate.account ∧ source.actor.actorId = member
  stable : ∀ batch', SameCited candidate batch batch' →
    validateMemoryCandidate codec candidate batch' = .ok ()

/-- What the validator does not compare. -/
structure Attested (candidate : MemoryCandidate) (batch : MemoryCandidateBatch) : Prop where
  event : ∀ source ∈ candidate.sources, ∀ event ∈ batch.event? source.sourceEventId,
    event.actor.account = batch.account ∧
      event.actor.platformIdentityKind = source.actor.platformIdentityKind ∧
      event.occurredAtUnixSecs = source.occurredAtUnixSecs
  kind : ∀ identity ∈ identitiesOf candidate.payload, ∃ source ∈ candidate.sources,
    (source.actor.actorId, source.actor.platformIdentityKind) = identity

theorem mem_requiredActors {actorId : String} (h : actorId ∈ requiredActors payload) :
    actorId ∈ coveredActors payload ∨ ∃ kind, (actorId, kind) ∈ identitiesOf payload := by
  cases payload with
  | person memory => exact .inl h
  | commitment memory => exact .inl h
  | project memory =>
    rcases mem_union.mp h with hmemb | hmemb
    · obtain ⟨member, hlisted, rfl⟩ := List.mem_map.mp hmemb
      exact .inr ⟨_, List.mem_map.mpr ⟨member, hlisted, rfl⟩⟩
    · exact .inl hmemb

theorem MemoryCandidateSource.Cites.of_same (h : source.Cites batch)
    (hsrc : source ∈ candidate.sources) (hsame : SameCited candidate batch batch') :
    source.Cites batch' := by
  obtain ⟨hacc, event, hfnd, hev⟩ := h
  exact ⟨hacc.trans hsame.1.symm, event, (hsame.2 source hsrc).trans hfnd, hev⟩

theorem observed_of_cited (hcites : ∀ source ∈ sources, source.Cites batch)
    (hcov : ∀ actorId ∈ requiredActors payload,
      ∃ source ∈ sources, source.actor.actorId = actorId) :
    payloadActorsObservedInBatch payload batch = true := by
  refine List.all_eq_true.mpr fun actorId hactor => decide_eq_true ?_
  obtain ⟨source, hsrc, rfl⟩ := hcov actorId hactor
  obtain ⟨-, event, hfnd, hsame, -⟩ := hcites source hsrc
  exact List.mem_map.mpr ⟨event, (event?_mem hfnd).1, hsame⟩

theorem actor_account {ids : List SourceEventId}
    (h : validateMemoryPayload payload account ids = .ok ()) :
    ∀ actor ∈ actorsOf account payload, actor.account = account ∧
      (actor.actorId, actor.platformIdentityKind) ∈ identitiesOf payload := by
  have hacc : ∀ {actor}, ensureActorAccount account actor = .ok () →
      actor.account = account := fun h =>
    requireFact_ok.mp (Except.and_then_eq_ok.mp h).1
  simp only [validateMemoryPayload, Except.and_then_eq_ok] at h
  obtain ⟨-, -, h⟩ := h
  cases payload with
  | person memory =>
    have hperson := (Except.and_then_eq_ok.mp h).1
    rintro actor hactor
    obtain rfl := List.mem_singleton.mp hactor
    exact ⟨hacc hperson, List.mem_singleton.mpr rfl⟩
  | project memory =>
    rintro actor hactor
    obtain ⟨member, hmemb, rfl⟩ := List.mem_map.mp hactor
    exact ⟨rfl, List.mem_map.mpr ⟨member, hmemb, rfl⟩⟩
  | commitment memory =>
    obtain ⟨hprom, hben, -⟩ := validateCommitment_ok_iff.mp h
    rintro actor hactor
    rcases List.mem_pair.mp hactor with rfl | rfl
    · exact ⟨hacc hprom, List.mem_pair.mpr (.inl rfl)⟩
    · exact ⟨hacc hben, List.mem_pair.mpr (.inr rfl)⟩

theorem mem_actors {identity : String × Option PlatformIdentityKind}
    (h : identity ∈ identitiesOf payload) :
    ∃ actor ∈ actorsOf account payload, (actor.actorId, actor.platformIdentityKind) = identity := by
  cases payload with
  | person memory =>
    obtain rfl := List.mem_singleton.mp h
    exact ⟨_, List.mem_singleton.mpr rfl, rfl⟩
  | project memory =>
    obtain ⟨member, hmemb, rfl⟩ := List.mem_map.mp h
    exact ⟨_, List.mem_map_of_mem hmemb, rfl⟩
  | commitment memory =>
    rcases List.mem_pair.mp h with rfl | rfl
    · exact ⟨_, List.mem_pair.mpr (.inl rfl), rfl⟩
    · exact ⟨_, List.mem_pair.mpr (.inr rfl), rfl⟩

theorem plain_covered {member : String} (h : member ∈ plainMembersOf payload) :
    member ∈ coveredActors payload := by
  cases payload with
  | person memory => cases h
  | project memory => exact h
  | commitment memory => cases h

/-- An accepted candidate rests on its sources if and only if they also agree where the validator
does not look. -/
theorem validate_backs_identities_iff (h : validateMemoryCandidate codec candidate batch = .ok ()) :
    Backed codec candidate batch ↔ Attested candidate batch := by
  obtain ⟨hstat, hacc, hsubj, hver, hcnt, ⟨hcites, hnd⟩, hcov, hpay,
    hobs, hsize, hfing⟩ := accepted_iff.mp h
  constructor
  · intro hback
    refine ⟨fun source hsrc event hev => ?_, fun identity hident => ?_⟩
    · obtain ⟨found, -, hfnd, -, hrecd⟩ := hback.recorded source hsrc
      obtain rfl : found = event := Option.some.inj (hfnd.symm.trans hev)
      have hactor : source.actor = found.actor := by rw [hrecd]
      have htime : source.occurredAtUnixSecs = found.occurredAtUnixSecs := by rw [hrecd]
      exact ⟨hactor ▸ (hcites source hsrc).1, by rw [hactor], htime.symm⟩
    · obtain ⟨actor, hactor, rfl⟩ : ∃ actor ∈ actorsOf candidate.account candidate.payload, _ :=
        mem_actors hident
      obtain ⟨source, hsrc, rfl⟩ := hback.named actor hactor
      exact ⟨source, hsrc, rfl⟩
  · intro hatt
    refine ⟨fun source hsrc => ?_, fun actor hactor => ?_, fun member hmemb => ?_, ?_⟩
    · obtain ⟨hsourceAccount, event, hfnd, hid, htrust, helig⟩ := hcites source hsrc
      obtain ⟨heventAccount, hkind, htime⟩ := hatt.event source hsrc event hfnd
      obtain ⟨hmem, hsame⟩ := event?_mem hfnd
      refine ⟨event, hmem, hfnd, helig, ?_⟩
      obtain ⟨id, ⟨account, actorId, kind⟩, time, trust⟩ := source
      obtain ⟨eventId, ⟨eventAccount, eventActorId, eventKind⟩, role, eventTime, eventTrust, text,
        omitted⟩ := event
      simp_all
    · obtain ⟨hactorAccount, hident⟩ := actor_account hpay actor hactor
      obtain ⟨source, hsrc, hsame⟩ := hatt.kind _ hident
      refine ⟨source, hsrc, ?_⟩
      have hsourceAccount := (hcites source hsrc).1
      obtain ⟨id, ⟨account, actorId, kind⟩, time, trust⟩ := source
      obtain ⟨actorAccount, actorActorId, actorKind⟩ := actor
      simp_all
    · obtain ⟨source, hsrc, hsame⟩ := hcov member (plain_covered hmemb)
      exact ⟨source, hsrc, (hcites source hsrc).1.trans hacc.symm, hsame⟩
    · intro batch' hsame
      have hcites' : ∀ source ∈ candidate.sources, source.Cites batch' := fun source hsrc =>
        (hcites source hsrc).of_same hsrc hsame
      refine accepted_iff.mpr ⟨hstat, hacc.trans hsame.1.symm, hsubj, hver, hcnt,
        ⟨hcites', hnd⟩, hcov, hpay, observed_of_cited hcites' fun actorId hactor => ?_,
        hsize, hfing⟩
      rcases mem_requiredActors hactor with hactor | ⟨kind, hident⟩
      · exact hcov actorId hactor
      · obtain ⟨source, hsrc, hpair⟩ := hatt.kind _ hident
        exact ⟨source, hsrc, congrArg Prod.fst hpair⟩

end Accepted

namespace Scripted

def account : SourceAccountRef := ⟨.napCat, "account-1"⟩

def actor (id : String) : ThreadActorRef := ⟨account, id, some .external⟩

def event (id : SourceEventId) (sender : String) (time : Int) : MemoryCandidateEvent :=
  ⟨id, actor sender, .externalObservation, time, .normal, "项目：alpha 上线", false⟩

theorem e0_not_blank : isBlank "e0" = false := by decide

theorem e1_not_blank : isBlank "e1" = false := by decide

def e0 : SourceEventId := ⟨"e0", e0_not_blank⟩

def e1 : SourceEventId := ⟨"e1", e1_not_blank⟩

def alone : MemoryCandidateBatch := ⟨account, ⟨.group, "conv-1"⟩, [event e0 "alice" 1]⟩

def own : MemoryCandidateBatch := ⟨account, ⟨.group, "conv-1"⟩, [event e0 "bob" 1]⟩

def both : MemoryCandidateBatch :=
  ⟨account, ⟨.group, "conv-1"⟩, [event e0 "alice" 1, event e1 "bob" 2]⟩

/-- What the crates return for the project below. -/
def codec : CandidateCodec where
  payloadJson _ :=
      "\x7b\"kind\":\"project\",\"data\":\x7b\"project_key\":\"alpha\",\"goal\":\"上线\",\"member_actor_r" ++
      "efs\":[\x7b\"platform_identity_kind\":\"External\",\"actor_id\":\"bob\"\x7d],\"progress\":nu" ++
      "ll,\"decision_ids\":[],\"risks\":[],\"blockers\":[],\"artifact_refs\":[]\x7d\x7d"
  canonicalJson _ :=
      "\x7b\"account\":[\"napcat\",\"account-1\"],\"extractor_version\":\"v1\",\"kind\":\"project\"" ++
      ",\"payload\":\x7b\"data\":\x7b\"artifact_refs\":[],\"blockers\":[],\"decision_ids\":[],\"goa" ++
      "l\":\"上线\",\"member_actor_refs\":[\x7b\"actor_id\":\"bob\",\"platform_identity_kind\":\"Ex" ++
      "ternal\"\x7d],\"progress\":null,\"project_key\":\"alpha\",\"risks\":[]\x7d,\"kind\":\"project" ++
      "\"\x7d,\"sources\":[\"e0\"],\"subject\":\"project:alpha\"\x7d"
  newV5 _ := "dce81fba-f75c-58b3-8a8f-e0ac75c14964"

/-- A project with the member `bob`, read from the message `e0` of `author`. -/
def project (author : String) : MemoryCandidate where
  candidateId := ⟨"candidate-1"⟩
  account := account
  subjectKey := "project:alpha"
  payload := .project ⟨"alpha", "上线", [], [⟨some .external, "bob"⟩], none, [], [], [], []⟩
  status := .proposed
  version := 1
  extractorVersion := "v1"
  deterministicFingerprint := "dce81fba-f75c-58b3-8a8f-e0ac75c14964"
  sources := [⟨e0, actor author, 1, .normal⟩]

/-- `bob` is made a member by a message that nobody cites. -/
theorem uncited_member :
    validateMemoryCandidate codec (project "alice") both = .ok () ∧
      validateMemoryCandidate codec (project "alice") alone ≠ .ok () ∧
      ¬ Backed codec (project "alice") both := by
  have hacpt : validateMemoryCandidate codec (project "alice") both = .ok () := by decide +kernel
  refine ⟨hacpt, by decide +kernel, fun hback => ?_⟩
  obtain ⟨source, hsrc, hactor⟩ := hback.named (actor "bob") (List.mem_singleton.mpr rfl)
  obtain rfl := List.mem_singleton.mp hsrc
  exact absurd hactor (by decide)

/-- Where `bob` wrote the message, he backs his membership. -/
theorem cited_member : Backed codec (project "bob") own := by
  have hacpt : validateMemoryCandidate codec (project "bob") own = .ok () := by decide +kernel
  refine (validate_backs_identities_iff hacpt).mpr ⟨fun source hsrc event hev => ?_, ?_⟩
  · obtain rfl := List.mem_singleton.mp hsrc
    cases hev
    exact ⟨rfl, rfl, rfl⟩
  · decide

end Scripted

/-! ## Approval -/

/-- An approved commitment is pending. -/
def confirmedPayload : MemoryPayload → MemoryPayload
  | .commitment memory =>
    .commitment { memory with status := .pending, completionSourceEventId := none }
  | other => other

theorem kind_confirmedPayload (payload : MemoryPayload) :
    (confirmedPayload payload).kind = payload.kind := by
  cases payload <;> rfl

/-- The fact that an approved candidate becomes. -/
def MemoryCandidate.confirmedFact (candidate : MemoryCandidate) (factId : MemoryFactId) :
    MemoryFact where
  factId
  account := candidate.account
  subjectKey := candidate.subjectKey
  payload := confirmedPayload candidate.payload
  status := .confirmed
  confidenceBps := APPROVED_CANDIDATE_CONFIDENCE_BPS
  sourceEventIds := candidate.sources.map MemoryCandidateSource.sourceEventId
  validUntilUnixSecs := none
  supersedesFactId := none

def candidateToConfirmedFact (candidate : MemoryCandidate) (factId : MemoryFactId) :
    Except MemoryCandidateError MemoryFact := do
  requireCandidate (candidate.status = .proposed) "only a proposed candidate can be approved"
  let fact := candidate.confirmedFact factId
  (validateMemoryFact fact).mapError fun error => .invalidData error.toText
  .ok fact

theorem validate_confirmed {payload : MemoryPayload} {account : SourceAccountRef}
    {ids : List SourceEventId} (h : validateMemoryPayload payload account ids = .ok ()) :
    validateMemoryPayload (confirmedPayload payload) account ids = .ok () := by
  cases payload with
  | person memory => exact h
  | project memory => exact h
  | commitment memory =>
    obtain ⟨hsrcs, hnd, hmemory⟩ := validateMemoryPayload_ok_iff.mp h
    obtain ⟨hprom, hben, hact, -, -⟩ := validateCommitment_ok_iff.mp hmemory
    -- A pending commitment needs no completion.
    refine validateMemoryPayload_ok_iff.mpr ⟨hsrcs, hnd, validateCommitment_ok_iff.mpr
      ⟨hprom, hben, hact, fun h => ?_, fun evidence hevi => ?_⟩⟩
    · cases h
    · cases hevi

/-- What was accepted can be approved. -/
theorem confirmed_of_accepted {codec : CandidateCodec} {candidate : MemoryCandidate}
    {batch : MemoryCandidateBatch} (h : validateMemoryCandidate codec candidate batch = .ok ())
    (factId : MemoryFactId) :
    candidateToConfirmedFact candidate factId = .ok (candidate.confirmedFact factId) ∧
      validateMemoryFact (candidate.confirmedFact factId) = .ok () := by
  obtain ⟨⟨hstat, -⟩, -, hsubj, -, -, -, -, hpay, -⟩ := accepted_iff.mp h
  have hfact : validateMemoryFact (candidate.confirmedFact factId) = .ok () :=
    validateMemoryFact_ok_iff.mpr ⟨hsubj, .inr rfl, UInt16.le_refl _, (Option.some_ne_none _).symm,
      validate_confirmed hpay⟩
  refine ⟨?_, hfact⟩
  simp only [candidateToConfirmedFact, Except.and_then_eq_ok, requireCandidate_ok,
    Except.mapError_eq_ok]
  exact ⟨hstat, hfact, trivial⟩

end ServerRS.Memory

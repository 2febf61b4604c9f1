import Mathlib.Data.List.TakeWhile
import ServerRS.Memory.Candidates
import ServerRS.ThreadSemantics.Accepted

/-!
# The conservative memory extractor

Models `ConservativeMemoryCandidateExtractor`, which proposes a person, a project or a commitment
for a message that begins with their marker.

The extractor assembles keys from actor ids and pieces of the message without looking at the
limits of `validate_memory_candidate`. `extracted_become_facts_iff` says which messages fit: for a
batch as the store claims it, every candidate is accepted and can be approved if and only if the
relationship, the keys and the payloads are short enough and no project lacks a goal.
-/

namespace ServerRS.Memory

open Lib Lib.Except
open ThreadSemantics (stripPrefix explicitValue trim_not_blank explicitValue_not_blank)

/-- An extractor, as `new` lets it be. -/
structure ConservativeMemoryCandidateExtractor where
  maxEventChars : ℕ
  extractorVersion : String
  chars_le : 0 < maxEventChars ∧ maxEventChars ≤ 4000
  version_ok : isBlank extractorVersion = false ∧ extractorVersion.utf8ByteSize ≤ 32

/-! ## Texts -/

def splitFirstToken (text : String) : String × String :=
  let chars := (trim text).toList
  (String.ofList (chars.takeWhile fun c => !Spool.isWhitespace c),
    trim (String.ofList (chars.dropWhile fun c => !Spool.isWhitespace c)))

def relationshipOf (text : String) : Option String := explicitValue text ["人物：", "人物:", "人："]

def projectOf (text : String) : Option (String × String) :=
  (explicitValue text ["项目：", "项目:"]).map splitFirstToken

def promiseOf (text : String) : Option (String × String) :=
  (explicitValue text ["承诺：", "承诺:", "答应："]).map fun rest =>
    splitFirstToken (((stripPrefix rest "给").map trim).getD rest)

/-- An event that the extractor does not pass over. -/
def MemoryCandidateEvent.isRead (maxEventChars : ℕ) (event : MemoryCandidateEvent) : Bool :=
  let text := trim event.normalizedText
  !(event.contentOmitted || text.isEmpty || maxEventChars < text.length)

/-! ## Extraction -/

def candidateSource (event : MemoryCandidateEvent) : MemoryCandidateSource :=
  ⟨event.sourceEventId, event.actor, event.occurredAtUnixSecs, event.contentTrustLevel⟩

/-- What a candidate is built from. -/
structure Draft where
  subjectKey : String
  payload : MemoryPayload
  sources : List MemoryCandidateSource
deriving DecidableEq

def personOf (event : MemoryCandidateEvent) (relationship : String) : PersonMemory :=
  ⟨event.actor, some relationship, [], []⟩

def projectMemoryOf (key goal : String) : ProjectMemory := ⟨key, goal, [], [], none, [], [], [], []⟩

def commitmentOf (event beneficiary : MemoryCandidateEvent) (action : String) : CommitmentMemory :=
  ⟨event.actor, beneficiary.actor, action, none, .proposed, none⟩

def personDraft (event : MemoryCandidateEvent) (relationship : String) : Draft where
  subjectKey := "person:" ++ event.actor.actorId
  payload := .person (personOf event relationship)
  sources := [candidateSource event]

def projectDraft (event : MemoryCandidateEvent) (key goal : String) : Draft where
  subjectKey := "project:" ++ key
  payload := .project (projectMemoryOf key goal)
  sources := [candidateSource event]

def commitmentDraft (event beneficiary : MemoryCandidateEvent) (action : String) : Draft where
  subjectKey := "commitment:" ++ event.actor.actorId ++ ":" ++ beneficiary.actor.actorId ++ ":" ++
    String.ofList (action.toList.take 160)
  payload := .commitment (commitmentOf event beneficiary action)
  sources := candidateSource event ::
    if beneficiary.sourceEventId ≠ event.sourceEventId then [candidateSource beneficiary] else []

def MemoryCandidateBatch.actor? (batch : MemoryCandidateBatch) (actorId : String) :
    Option MemoryCandidateEvent :=
  batch.events.find? fun event => event.actor.actorId = actorId

section

variable (codec : CandidateCodec) (ids : ℕ → MemoryCandidateId)
  (extractor : ConservativeMemoryCandidateExtractor) (batch : MemoryCandidateBatch)

-- The source tests that a key is not empty, but takes an empty goal as it is.
def drafts (event : MemoryCandidateEvent) : List Draft :=
  let text := trim event.normalizedText
  let person := (relationshipOf text).map (personDraft event)
  let project := (projectOf text).bind fun parts =>
    if parts.1 ≠ "" then some (projectDraft event parts.1 parts.2) else none
  let commitment := (promiseOf text).bind fun parts =>
    if parts.2 ≠ "" then
      (batch.actor? parts.1).map fun beneficiary => commitmentDraft event beneficiary parts.2
    else none
  person.toList ++ project.toList ++ commitment.toList

def Draft.candidate (candidateId : MemoryCandidateId) (draft : Draft) : MemoryCandidate where
  candidateId
  account := batch.account
  subjectKey := draft.subjectKey
  payload := draft.payload
  status := .proposed
  version := INITIAL_CANDIDATE_VERSION
  extractorVersion := extractor.extractorVersion
  deterministicFingerprint := candidateFingerprint codec batch.account draft.payload
    draft.subjectKey draft.sources extractor.extractorVersion
  sources := draft.sources

def buildCandidate (candidateId : MemoryCandidateId) (draft : Draft) : Option MemoryCandidate :=
  if draft.sources = [] then none else some (draft.candidate codec extractor batch candidateId)

/-- Candidates are added one by one; `ids` are the ids that `generate` draws. -/
def pushDraft (candidates : List MemoryCandidate) (draft : Draft) : List MemoryCandidate :=
  candidates ++ (buildCandidate codec extractor batch (ids candidates.length) draft).toList

def extract : List MemoryCandidate :=
  (batch.events.filter (MemoryCandidateEvent.isRead extractor.maxEventChars)).foldl
    (fun candidates event =>
      (drafts batch event).foldl (pushDraft codec ids extractor batch) candidates) []

end

/-! ## Claimed batches -/

/-- What the store promises of the batches that it claims. -/
structure MemoryCandidateBatch.Claimed (batch : MemoryCandidateBatch) : Prop where
  account : ∀ event ∈ batch.events, event.actor.account = batch.account
  actor : ∀ event ∈ batch.events, isBlank event.actor.actorId = false
  distinct : (batch.events.map MemoryCandidateEvent.sourceEventId).Nodup
  eligible : ∀ event ∈ batch.events,
    isEligibleForCandidateExtraction event.contentTrustLevel true = true

section Fits

variable (codec : CandidateCodec) (extractor : ConservativeMemoryCandidateExtractor)
  (batch : MemoryCandidateBatch)

/-- The payload is within the limit of 16 KiB. -/
def Small (payload : MemoryPayload) : Prop :=
  (codec.payloadJson payload).utf8ByteSize ≤ MAX_CANDIDATE_PAYLOAD_BYTES

/-- A message whose parts are within the limits: 7, 8 and 13 are the lengths of what the keys add
to them. -/
def MemoryCandidateEvent.Fits (event : MemoryCandidateEvent) : Prop :=
  event.isRead extractor.maxEventChars = true →
    (∀ relationship ∈ relationshipOf (trim event.normalizedText),
      relationship.length ≤ 1000 ∧ 7 + event.actor.actorId.length ≤ 191 ∧
        Small codec (.person (personOf event relationship))) ∧
    (∀ parts ∈ projectOf (trim event.normalizedText), parts.1 ≠ "" →
      parts.2 ≠ "" ∧ 8 + parts.1.length ≤ 191 ∧
        Small codec (.project (projectMemoryOf parts.1 parts.2))) ∧
    ∀ parts ∈ promiseOf (trim event.normalizedText), parts.2 ≠ "" →
      ∀ beneficiary ∈ batch.actor? parts.1,
        13 + event.actor.actorId.length + beneficiary.actor.actorId.length +
            min 160 parts.2.length ≤ 191 ∧
          Small codec (.commitment (commitmentOf event beneficiary parts.2))

instance (payload : MemoryPayload) : Decidable (Small codec payload) :=
  inferInstanceAs (Decidable (_ ≤ _))

instance (event : MemoryCandidateEvent) : Decidable (event.Fits codec extractor batch) :=
  inferInstanceAs (Decidable (_ → _))

end Fits

/-! ## Lengths of texts -/

theorem length_trim_le (text : String) : (trim text).length ≤ text.length := by
  rw [trim, String.length_ofList, List.length_reverse, ← String.length_toList]
  calc _ ≤ (text.toList.dropWhile Spool.isWhitespace).reverse.length := List.length_dropWhile_le ..
    _ = (text.toList.dropWhile Spool.isWhitespace).length := List.length_reverse
    _ ≤ text.toList.length := List.length_dropWhile_le ..

variable {text : String} {parts : String × String}

theorem length_stripPrefix_le {start rest : String} (h : stripPrefix text start = some rest) :
    rest.length ≤ text.length := by
  obtain ⟨chars, hchars, rfl⟩ := Option.map_eq_some_iff.mp h
  obtain ⟨front, happend, -⟩ := List.dropPrefix?_eq_some_iff.mp hchars
  rw [String.length_ofList, ← String.length_toList, happend, List.length_append]
  exact Nat.le_add_left ..

theorem length_explicitValue_le {value : String} {starts : List String}
    (h : explicitValue text starts = some value) : value.length ≤ text.length := by
  obtain ⟨start, -, h⟩ := List.exists_of_findSome?_eq_some h
  obtain ⟨hvl, -⟩ := Option.filter_eq_some_iff.mp h
  obtain ⟨rest, hrest, rfl⟩ := Option.map_eq_some_iff.mp hvl
  exact (length_trim_le rest).trans (length_stripPrefix_le hrest)

theorem length_rest_le (text : String) : (splitFirstToken text).2.length ≤ text.length := by
  refine (length_trim_le _).trans ?_
  rw [String.length_ofList]
  exact (List.length_dropWhile_le ..).trans (length_trim_le text)

/-- A token has no whitespace. -/
theorem token_not_blank {text : String} (h : (splitFirstToken text).1 ≠ "") :
    isBlank (splitFirstToken text).1 = false := by
  rw [isBlank, ← Bool.not_eq_true, List.all_eq_true]
  intro hall
  obtain ⟨c, hc⟩ := List.exists_mem_of_ne_nil (splitFirstToken text).1.toList fun hnil =>
    h (String.toList_eq_nil_iff.mp hnil)
  have htok : c ∈ (trim text).toList.takeWhile fun c => !Spool.isWhitespace c := by
    rwa [splitFirstToken, String.toList_ofList] at hc
  have hnot := List.mem_takeWhile_imp htok
  rw [hall c hc] at hnot
  cases hnot

theorem rest_not_blank {text : String} (h : (splitFirstToken text).2 ≠ "") :
    isBlank (splitFirstToken text).2 = false :=
  trim_not_blank (by rwa [String.isEmpty_eq_false_iff])

theorem length_projectOf_le (h : projectOf text = some parts) : parts.2.length ≤ text.length := by
  obtain ⟨rest, hrest, rfl⟩ := Option.map_eq_some_iff.mp h
  exact (length_rest_le rest).trans (length_explicitValue_le hrest)

theorem length_promiseOf_le (h : promiseOf text = some parts) : parts.2.length ≤ text.length := by
  obtain ⟨rest, hrest, rfl⟩ := Option.map_eq_some_iff.mp h
  refine (length_rest_le _).trans (le_trans ?_ (length_explicitValue_le hrest))
  cases hstrip : stripPrefix rest "给" with
  | none => exact le_refl _
  | some stripped => exact (length_trim_le stripped).trans (length_stripPrefix_le hstrip)

theorem length_le_of_isRead {event : MemoryCandidateEvent}
    {extractor : ConservativeMemoryCandidateExtractor}
    (h : event.isRead extractor.maxEventChars = true) :
    (trim event.normalizedText).length ≤ 4000 := by
  simp only [MemoryCandidateEvent.isRead, Bool.not_eq_true', Bool.or_eq_false_iff,
    decide_eq_false_iff_not, not_lt] at h
  exact h.2.trans extractor.chars_le.2

/-! ## Drafts -/

section Drafts

variable {codec : CandidateCodec} {ids : ℕ → MemoryCandidateId}
  {extractor : ConservativeMemoryCandidateExtractor} {batch : MemoryCandidateBatch}

structure Draft.Sourced (batch : MemoryCandidateBatch) (draft : Draft) : Prop where
  subject : isBlank draft.subjectKey = false
  sources : draft.sources ≠ [] ∧ draft.sources.length ≤ MAX_CANDIDATE_SOURCES
  cites : ∀ source ∈ draft.sources, source.Cites batch
  distinct : (draft.sources.map MemoryCandidateSource.sourceEventId).Nodup
  covered : ∀ actorId ∈ coveredActors draft.payload,
    ∃ source ∈ draft.sources, source.actor.actorId = actorId
  required : ∀ actorId ∈ requiredActors draft.payload, actorId ∈ coveredActors draft.payload

variable {candidateId : MemoryCandidateId} {event beneficiary : MemoryCandidateEvent}
  {P : MemoryCandidate → Prop} {Q : Draft → Prop}

/-- Nothing but the limits is left to check. -/
theorem validate_candidate_iff {draft : Draft} (h : draft.Sourced batch) :
    validateMemoryCandidate codec (draft.candidate codec extractor batch candidateId) batch =
        .ok () ↔
      draft.subjectKey.length ≤ 191 ∧
        validateMemoryPayload draft.payload batch.account
          (draft.sources.map MemoryCandidateSource.sourceEventId) = .ok () ∧
        Small codec draft.payload := by
  rw [accepted_iff]
  constructor
  · rintro ⟨-, -, ⟨-, hsubj⟩, -, -, -, -, hpay, -, hsmall, -⟩
    exact ⟨hsubj, hpay, hsmall⟩
  · rintro ⟨hsubj, hpay, hsmall⟩
    have hobs : payloadActorsObservedInBatch draft.payload batch = true :=
      observed_of_cited h.cites fun actorId hactor => h.covered actorId (h.required actorId hactor)
    exact ⟨⟨rfl, rfl⟩, rfl, ⟨h.subject, hsubj⟩, extractor.version_ok, h.sources,
      ⟨h.cites, h.distinct⟩, h.covered, hpay, hobs, hsmall, rfl⟩

theorem event?_of_mem (h : batch.Claimed) (hev : event ∈ batch.events) :
    batch.event? event.sourceEventId = some event :=
  find?_key h.distinct hev

theorem candidateSource_cites (h : batch.Claimed) (hev : event ∈ batch.events) :
    (candidateSource event).Cites batch :=
  ⟨h.account event hev, event, event?_of_mem h hev, rfl, rfl, h.eligible event hev⟩

theorem subject_not_blank {start : String} (hsta : isBlank start = false) (rest : String) :
    isBlank (start ++ rest) = false := by
  rw [isBlank, String.toList_append, List.all_append, ← isBlank, hsta, Bool.false_and]

theorem personDraft_sourced (h : batch.Claimed) (hev : event ∈ batch.events)
    (relationship : String) :
    (personDraft event relationship).Sourced batch where
  subject := subject_not_blank rfl _
  sources := ⟨List.cons_ne_nil _ _, (by decide : 1 ≤ MAX_CANDIDATE_SOURCES)⟩
  cites := List.forall_mem_singleton.mpr (candidateSource_cites h hev)
  distinct := List.nodup_singleton _
  covered := List.forall_mem_singleton.mpr ⟨_, List.mem_singleton_self _, rfl⟩
  required _ hactor := hactor

theorem projectDraft_sourced (h : batch.Claimed) (hev : event ∈ batch.events) (key goal : String) :
    (projectDraft event key goal).Sourced batch where
  subject := subject_not_blank rfl _
  sources := ⟨List.cons_ne_nil _ _, (by decide : 1 ≤ MAX_CANDIDATE_SOURCES)⟩
  cites := List.forall_mem_singleton.mpr (candidateSource_cites h hev)
  distinct := List.nodup_singleton _
  covered _ hactor := by cases hactor
  required _ hactor := by cases hactor

/-- The beneficiary is cited too, unless the promise is its own first event. -/
theorem commitmentDraft_sourced (h : batch.Claimed) (hev : event ∈ batch.events)
    (hben : beneficiary ∈ batch.events) (action : String) :
    (commitmentDraft event beneficiary action).Sourced batch := by
  have hsubj : isBlank (commitmentDraft event beneficiary action).subjectKey = false := by
    simp only [commitmentDraft, String.append_assoc]
    exact subject_not_blank rfl _
  by_cases hsame : beneficiary.sourceEventId = event.sourceEventId
  · obtain rfl : beneficiary = event := eq_of_key_eq h.distinct hben hev hsame
    have hsrcs : (commitmentDraft beneficiary beneficiary action).sources =
        [candidateSource beneficiary] := by simp [commitmentDraft]
    refine ⟨hsubj, ?_, ?_, ?_, ?_, fun _ hactor => hactor⟩ <;> rw [hsrcs]
    · exact ⟨List.cons_ne_nil _ _, (by decide : 1 ≤ MAX_CANDIDATE_SOURCES)⟩
    · exact List.forall_mem_singleton.mpr (candidateSource_cites h hev)
    · exact List.nodup_singleton _
    · rintro actorId hactor
      refine ⟨_, List.mem_singleton_self _, ?_⟩
      rcases List.mem_pair.mp hactor with rfl | rfl <;> rfl
  · have hsrcs : (commitmentDraft event beneficiary action).sources =
        [candidateSource event, candidateSource beneficiary] := by simp [commitmentDraft, hsame]
    refine ⟨hsubj, ?_, ?_, ?_, ?_, fun _ hactor => hactor⟩ <;> rw [hsrcs]
    · exact ⟨List.cons_ne_nil _ _, (by decide : 2 ≤ MAX_CANDIDATE_SOURCES)⟩
    · rintro source hsrc
      rcases List.mem_pair.mp hsrc with rfl | rfl
      · exact candidateSource_cites h hev
      · exact candidateSource_cites h hben
    · refine List.nodup_cons.mpr ⟨fun hmem => ?_, List.nodup_singleton _⟩
      exact hsame (List.mem_singleton.mp hmem).symm
    · rintro actorId hactor
      rcases List.mem_pair.mp hactor with rfl | rfl
      · exact ⟨_, List.mem_pair.mpr (.inl rfl), rfl⟩
      · exact ⟨_, List.mem_pair.mpr (.inr rfl), rfl⟩

/-! ## Limits -/

theorem validateText_ok_iff {field value : String} {max : ℕ} :
    validateText field value max = .ok () ↔ isBlank value = false ∧ value.length ≤ max :=
  requireFact_ok

theorem ensureActorAccount_ok_iff {account : SourceAccountRef} {actor : ThreadActorRef} :
    ensureActorAccount account actor = .ok () ↔ actor.account = account ∧
      isBlank actor.actorId = false ∧ actor.actorId.length ≤ 191 := by
  simp only [ensureActorAccount, and_then_eq_ok, requireFact_ok, validateText_ok_iff]

theorem validate_person_iff (h : batch.Claimed) (hev : event ∈ batch.events)
    {relationship : String} (hrel : isBlank relationship = false) :
    validateMemoryCandidate codec ((personDraft event relationship).candidate codec extractor batch
        candidateId) batch = .ok () ↔
      relationship.length ≤ 1000 ∧ 7 + event.actor.actorId.length ≤ 191 ∧
        Small codec (.person (personOf event relationship)) := by
  rw [validate_candidate_iff (personDraft_sourced h hev relationship)]
  have hlen : (personDraft event relationship).subjectKey.length =
      7 + event.actor.actorId.length := String.length_append _ _
  have hpay : validateMemoryPayload (.person (personOf event relationship)) batch.account
      [event.sourceEventId] = .ok () ↔
        event.actor.actorId.length ≤ 191 ∧ relationship.length ≤ 1000 := by
    simp [validateMemoryPayload, validatePerson, validateOptionalText, validateTextList,
      and_then_eq_ok, ensureActorAccount_ok_iff, validateText_ok_iff, personOf, hrel,
      h.account event hev, h.actor event hev, MAX_SOURCE_EVENTS]
  rw [hlen]
  show _ ∧ validateMemoryPayload (.person (personOf event relationship)) batch.account
    [event.sourceEventId] = .ok () ∧ _ ↔ _
  rw [hpay]
  constructor
  · rintro ⟨hid, ⟨-, hrel⟩, hsmall⟩
    exact ⟨hrel, hid, hsmall⟩
  · rintro ⟨hrel, hid, hsmall⟩
    exact ⟨hid, ⟨by omega, hrel⟩, hsmall⟩

theorem validate_project_iff (h : batch.Claimed) {event : MemoryCandidateEvent}
    (hev : event ∈ batch.events) {key goal : String} (hkey : isBlank key = false)
    (hgoal : goal ≠ "" → isBlank goal = false) (hlen : goal.length ≤ 4000)
    {candidateId : MemoryCandidateId} :
    validateMemoryCandidate codec ((projectDraft event key goal).candidate codec extractor batch
        candidateId) batch = .ok () ↔
      goal ≠ "" ∧ 8 + key.length ≤ 191 ∧ Small codec (.project (projectMemoryOf key goal)) := by
  rw [validate_candidate_iff (projectDraft_sourced h hev key goal)]
  have hsubj : (projectDraft event key goal).subjectKey.length = 8 + key.length :=
    String.length_append _ _
  have hblank : isBlank goal = false ↔ goal ≠ "" := by
    refine ⟨?_, hgoal⟩
    rintro hnot rfl
    cases hnot
  have hpay : validateMemoryPayload (.project (projectMemoryOf key goal)) batch.account
      [event.sourceEventId] = .ok () ↔ key.length ≤ 191 ∧ goal ≠ "" := by
    simp [validateMemoryPayload, validateProject, validateOptionalText, validateTextList,
      and_then_eq_ok, validateText_ok_iff, projectMemoryOf, hkey, hblank, hlen,
      MAX_SOURCE_EVENTS]
  rw [hsubj]
  show _ ∧ validateMemoryPayload (.project (projectMemoryOf key goal)) batch.account
    [event.sourceEventId] = .ok () ∧ _ ↔ _
  rw [hpay]
  constructor
  · rintro ⟨hshort, ⟨-, hnemp⟩, hsmall⟩
    exact ⟨hnemp, hshort, hsmall⟩
  · rintro ⟨hnemp, hshort, hsmall⟩
    exact ⟨hshort, ⟨by omega, hnemp⟩, hsmall⟩

theorem validate_commitment_iff (h : batch.Claimed) (hev : event ∈ batch.events)
    (hben : beneficiary ∈ batch.events) {action : String} (hact : isBlank action = false)
    (hlen : action.length ≤ 4000) :
    validateMemoryCandidate codec ((commitmentDraft event beneficiary action).candidate codec
        extractor batch candidateId) batch = .ok () ↔
      13 + event.actor.actorId.length + beneficiary.actor.actorId.length +
          min 160 action.length ≤ 191 ∧
        Small codec (.commitment (commitmentOf event beneficiary action)) := by
  have hsour := commitmentDraft_sourced h hev hben action
  rw [validate_candidate_iff hsour]
  have hsubj : (commitmentDraft event beneficiary action).subjectKey.length =
      13 + event.actor.actorId.length + beneficiary.actor.actorId.length +
        min 160 action.length := by
    simp only [commitmentDraft, String.length_append, String.length_ofList, List.length_take,
      String.length_toList]
    show 11 + event.actor.actorId.length + 1 + beneficiary.actor.actorId.length + 1 + _ = _
    omega
  have hpay : event.actor.actorId.length ≤ 191 ∧ beneficiary.actor.actorId.length ≤ 191 →
      validateMemoryPayload (.commitment (commitmentOf event beneficiary action)) batch.account
        ((commitmentDraft event beneficiary action).sources.map
          MemoryCandidateSource.sourceEventId) = .ok () := by
    rintro ⟨hprom, hbeneficiaryLength⟩
    refine validateMemoryPayload_ok_iff.mpr ⟨⟨?_, ?_⟩, hsour.distinct,
      validateCommitment_ok_iff.mpr ⟨?_, ?_, ?_, ?_, ?_⟩⟩
    · simpa using hsour.sources.1
    · rw [List.length_map]
      exact hsour.sources.2.trans (by decide)
    · exact ensureActorAccount_ok_iff.mpr ⟨h.account event hev, h.actor event hev, hprom⟩
    · exact ensureActorAccount_ok_iff.mpr
        ⟨h.account beneficiary hben, h.actor beneficiary hben, hbeneficiaryLength⟩
    · exact validateText_ok_iff.mpr ⟨hact, hlen⟩
    · rintro ⟨⟩
    · rintro evidence ⟨⟩
  rw [hsubj]
  constructor
  · rintro ⟨hshort, -, hsmall⟩
    exact ⟨hshort, hsmall⟩
  · rintro ⟨hshort, hsmall⟩
    exact ⟨hshort, hpay (by omega), hsmall⟩

/-! ## Candidates -/

theorem forall_pushDraft_iff {drafts : List Draft} {candidates : List MemoryCandidate}
    (hsrcs : ∀ draft ∈ drafts, draft.sources ≠ [])
    (hPQ : ∀ draft ∈ drafts, ∀ id, P (draft.candidate codec extractor batch id) ↔ Q draft) :
    (∀ candidate ∈ drafts.foldl (pushDraft codec ids extractor batch) candidates, P candidate) ↔
      (∀ candidate ∈ candidates, P candidate) ∧ ∀ draft ∈ drafts, Q draft := by
  induction drafts generalizing candidates with
  | nil => simp
  | cons draft drafts ih =>
    rw [List.forall_mem_cons] at hsrcs hPQ
    rw [List.foldl_cons, ih hsrcs.2 hPQ.2, List.forall_mem_cons, ← and_assoc]
    refine and_congr_left' ?_
    rw [pushDraft, buildCandidate, if_neg hsrcs.1, Option.toList_some, List.forall_mem_append,
      List.forall_mem_singleton, hPQ.1]

theorem forall_extract_iff
    (hsrcs : ∀ event ∈ batch.events, ∀ draft ∈ drafts batch event, draft.sources ≠ [])
    (hPQ : ∀ event ∈ batch.events, event.isRead extractor.maxEventChars = true →
      ∀ draft ∈ drafts batch event, ∀ id, P (draft.candidate codec extractor batch id) ↔ Q draft) :
    (∀ candidate ∈ extract codec ids extractor batch, P candidate) ↔
      ∀ event ∈ batch.events, event.isRead extractor.maxEventChars = true →
        ∀ draft ∈ drafts batch event, Q draft := by
  have hrun : ∀ (events : List MemoryCandidateEvent) (candidates : List MemoryCandidate),
      (∀ event ∈ events, event ∈ batch.events ∧ event.isRead extractor.maxEventChars = true) →
      ((∀ candidate ∈ events.foldl (fun candidates event =>
          (drafts batch event).foldl (pushDraft codec ids extractor batch) candidates) candidates,
        P candidate) ↔ (∀ candidate ∈ candidates, P candidate) ∧
          ∀ event ∈ events, ∀ draft ∈ drafts batch event, Q draft) := by
    intro events
    induction events with
    | nil => intro candidates _; simp
    | cons event events ih =>
      intro candidates hevs
      rw [List.forall_mem_cons] at hevs
      obtain ⟨⟨hev, hread⟩, hevs⟩ := hevs
      rw [List.foldl_cons, ih _ hevs, forall_pushDraft_iff (hsrcs event hev)
        (hPQ event hev hread), List.forall_mem_cons, and_assoc]
  rw [extract, hrun _ _ fun event hev => ⟨List.mem_of_mem_filter hev,
    List.of_mem_filter hev⟩]
  simp [and_imp]

theorem forall_drafts_iff :
    (∀ draft ∈ drafts batch event, Q draft) ↔
      (∀ relationship ∈ relationshipOf (trim event.normalizedText),
        Q (personDraft event relationship)) ∧
      (∀ parts ∈ projectOf (trim event.normalizedText), parts.1 ≠ "" →
        Q (projectDraft event parts.1 parts.2)) ∧
      ∀ parts ∈ promiseOf (trim event.normalizedText), parts.2 ≠ "" →
        ∀ beneficiary ∈ batch.actor? parts.1, Q (commitmentDraft event beneficiary parts.2) := by
  simp only [drafts, List.forall_mem_append, Option.mem_toList, and_assoc]
  refine and_congr ?_ (and_congr ?_ ?_)
  · simp
  · cases projectOf (trim event.normalizedText) with
    | none => simp
    | some parts => by_cases hkey : parts.1 = "" <;> simp [hkey]
  · cases promiseOf (trim event.normalizedText) with
    | none => simp
    | some parts => by_cases hact : parts.2 = "" <;> simp [hact]

theorem drafts_sourced (h : batch.Claimed) (hev : event ∈ batch.events) :
    ∀ draft ∈ drafts batch event, draft.Sourced batch :=
  forall_drafts_iff.mpr ⟨fun relationship _ => personDraft_sourced h hev relationship,
    fun parts _ _ => projectDraft_sourced h hev parts.1 parts.2,
    fun parts _ _ _ hben =>
      commitmentDraft_sourced h hev (List.mem_of_find?_eq_some hben) parts.2⟩

/-- Approval makes the candidate a valid fact about the same subject. -/
def BecomesFact (candidate : MemoryCandidate) : Prop :=
  ∀ factId, ∃ fact, candidateToConfirmedFact candidate factId = .ok fact ∧
    validateMemoryFact fact = .ok () ∧ fact.account = candidate.account ∧
    fact.payload.kind = candidate.payload.kind ∧ fact.subjectKey = candidate.subjectKey ∧
    fact.sourceEventIds = candidate.sources.map MemoryCandidateSource.sourceEventId

theorem becomesFact_of_accepted {candidate : MemoryCandidate}
    (h : validateMemoryCandidate codec candidate batch = .ok ()) : BecomesFact candidate :=
  fun factId => ⟨candidate.confirmedFact factId, (confirmed_of_accepted h factId).1,
    (confirmed_of_accepted h factId).2, rfl, kind_confirmedPayload candidate.payload, rfl, rfl⟩

/-- The candidates of a claimed batch all pass and become facts if and only if every message that
the extractor reads fits. -/
theorem extracted_become_facts_iff (h : batch.Claimed) :
    ((∀ candidate ∈ extract codec ids extractor batch,
        validateMemoryCandidate codec candidate batch = .ok ()) ∧
      ∀ candidate ∈ extract codec ids extractor batch,
        validateMemoryCandidate codec candidate batch = .ok () → BecomesFact candidate) ↔
      ∀ event ∈ batch.events, event.Fits codec extractor batch := by
  rw [and_iff_left fun candidate _ hacpt => becomesFact_of_accepted hacpt]
  -- The validator does not read the id of a candidate.
  have hextract : (∀ candidate ∈ extract codec ids extractor batch,
      validateMemoryCandidate codec candidate batch = .ok ()) ↔
      ∀ event ∈ batch.events, event.isRead extractor.maxEventChars = true →
        ∀ draft ∈ drafts batch event, validateMemoryCandidate codec
          (draft.candidate codec extractor batch ⟨""⟩) batch = .ok () :=
    forall_extract_iff (fun event hev draft hdraft =>
      (drafts_sourced h hev draft hdraft).sources.1) fun _ _ _ _ _ _ => Iff.rfl
  rw [hextract]
  refine forall₂_congr fun event hev => imp_congr_right fun hread => ?_
  have hlen := length_le_of_isRead hread
  rw [forall_drafts_iff]
  refine and_congr ?_ (and_congr ?_ ?_)
  · exact forall₂_congr fun relationship hrel =>
      validate_person_iff h hev (explicitValue_not_blank hrel)
  · refine forall₂_congr fun parts hparts => imp_congr_right fun hkey => ?_
    obtain ⟨rest, -, rfl⟩ := Option.map_eq_some_iff.mp hparts
    exact validate_project_iff h hev (token_not_blank hkey) rest_not_blank
      ((length_projectOf_le hparts).trans hlen)
  · refine forall₂_congr fun parts hparts => imp_congr_right fun hact =>
      forall₂_congr fun beneficiary hben => ?_
    have hnot : isBlank parts.2 = false := by
      obtain ⟨rest, -, rfl⟩ := Option.map_eq_some_iff.mp hparts
      exact rest_not_blank hact
    exact validate_commitment_iff h hev (List.mem_of_find?_eq_some hben) hnot
      ((length_promiseOf_le hparts).trans hlen)

end Drafts

/-! ## Two messages -/

namespace Scripted

theorem within_chars : 0 < 2000 ∧ 2000 ≤ 4000 := by decide

theorem v1_ok : isBlank "v1" = false ∧ "v1".utf8ByteSize ≤ 32 := by decide

def extractor : ConservativeMemoryCandidateExtractor where
  maxEventChars := 2000
  extractorVersion := "v1"
  chars_le := within_chars
  version_ok := v1_ok

def candidateIds (n : ℕ) : MemoryCandidateId := ⟨"candidate-" ++ n.repr⟩

def message (text : String) : MemoryCandidateBatch :=
  ⟨account, ⟨.group, "conv-1"⟩,
    [⟨e0, actor "alice", .externalObservation, 1, .normal, text, false⟩]⟩

/-- What the crates return for the project without a goal. -/
def projectCodec : CandidateCodec where
  payloadJson _ :=
      "\x7b\"kind\":\"project\",\"data\":\x7b\"project_key\":\"alpha\",\"goal\":\"\",\"pro" ++
      "gress\":null,\"decision_ids\":[],\"risks\":[],\"blockers\":[],\"artifa" ++
      "ct_refs\":[]\x7d\x7d"
  canonicalJson _ :=
      "\x7b\"account\":[\"napcat\",\"account-1\"],\"extractor_version\":\"v1\",\"ki" ++
      "nd\":\"project\",\"payload\":\x7b\"data\":\x7b\"artifact_refs\":[],\"blockers\"" ++
      ":[],\"decision_ids\":[],\"goal\":\"\",\"progress\":null,\"project_key\":" ++
      "\"alpha\",\"risks\":[]\x7d,\"kind\":\"project\"\x7d,\"sources\":[\"e0\"],\"subjec" ++
      "t\":\"project:alpha\"\x7d"
  newV5 _ := "c35021a6-4c7a-55f2-8fd6-b56f67750b0f"

/-- What the crates return for the customer. -/
def personCodec : CandidateCodec where
  payloadJson _ :=
      "\x7b\"kind\":\"person\",\"data\":\x7b\"person\":\x7b\"account\":\x7b\"channel\":\"nap_c" ++
      "at\",\"account_id\":\"account-1\"\x7d,\"actor_id\":\"alice\",\"platform_ide" ++
      "ntity_kind\":\"External\"\x7d,\"relationship\":\"重要客户\",\"responsibilitie" ++
      "s\":[],\"communication_preferences\":[]\x7d\x7d"
  canonicalJson _ :=
      "\x7b\"account\":[\"napcat\",\"account-1\"],\"extractor_version\":\"v1\",\"ki" ++
      "nd\":\"person\",\"payload\":\x7b\"data\":\x7b\"communication_preferences\":[]" ++
      ",\"person\":\x7b\"account\":\x7b\"account_id\":\"account-1\",\"channel\":\"nap_" ++
      "cat\"\x7d,\"actor_id\":\"alice\",\"platform_identity_kind\":\"External\"\x7d," ++
      "\"relationship\":\"重要客户\",\"responsibilities\":[]\x7d,\"kind\":\"person\"\x7d," ++
      "\"sources\":[\"e0\"],\"subject\":\"person:alice\"\x7d"
  newV5 _ := "9f3831ff-89c2-5e3d-a8d5-f8286ca4eae8"

/-- A project is proposed without a goal, which the validator refuses. -/
theorem goalless_project : extract projectCodec candidateIds extractor (message "项目：alpha") ≠ [] ∧
    ¬ ∀ candidate ∈ extract projectCodec candidateIds extractor (message "项目：alpha"),
      validateMemoryCandidate projectCodec candidate (message "项目：alpha") = .ok () := by
  decide

theorem message_claimed (text : String) : (message text).Claimed where
  account := List.forall_mem_singleton.mpr rfl
  actor := List.forall_mem_singleton.mpr (by decide : isBlank "alice" = false)
  distinct := List.nodup_singleton _
  eligible := List.forall_mem_singleton.mpr rfl

theorem customer_becomes_fact :
    (∀ candidate ∈ extract personCodec candidateIds extractor (message "人物：重要客户"),
      validateMemoryCandidate personCodec candidate (message "人物：重要客户") = .ok ()) ∧
    ∀ candidate ∈ extract personCodec candidateIds extractor (message "人物：重要客户"),
      validateMemoryCandidate personCodec candidate (message "人物：重要客户") = .ok () →
        BecomesFact candidate := by
  have hfits : ∀ event ∈ (message "人物：重要客户").events,
      event.Fits personCodec extractor (message "人物：重要客户") := by decide +kernel
  exact (extracted_become_facts_iff (message_claimed "人物：重要客户")).mpr hfits

end Scripted

end ServerRS.Memory

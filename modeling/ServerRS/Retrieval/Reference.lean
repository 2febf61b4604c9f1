import ServerRS.Domain.Planner
import ServerRS.Lib.Table

/-!
# References to somebody or something

Models `resolve_reference_from_candidates` of `personal-secretary/src/domain/retriever.rs`: what the
store found for an expression, and whether it names one participant.

Participants count once by kind and stable id, threads and events once. A candidate without a
participant adds its thread and its events, but nothing to the count of participants; and the events
are handed on also when nothing is resolved. So the answer is never a guess exactly when every
candidate of a resolved reference has a participant, and no candidate of an open one has an event
(`neverGuesses_iff`).
-/

namespace ServerRS.Retrieval

open Lib

/-! ## Participants -/

inductive IdentityTrust where
  | verified
  | observed
  | inferred
deriving DecidableEq

structure ParticipantIdentity where
  platformKind : PlatformIdentityKind
  stableId : String
  displayName : Option String
  aliases : List String
  trust : IdentityTrust
deriving DecidableEq

/-- What tells participants apart. -/
def ParticipantIdentity.identity (participant : ParticipantIdentity) :
    PlatformIdentityKind × String :=
  (participant.platformKind, participant.stableId)

/-! ## Candidates -/

structure ReferenceCandidate where
  actorId : Option String
  participant : Option ParticipantIdentity
  threadId : Option EventThreadId
  sourceEventIds : List SourceEventId
  evidence : String
deriving DecidableEq

structure ReferenceContext where
  account : SourceAccountRef
  currentEventId : Option SourceEventId
  currentConversation : Option ConversationRef
  currentThreadId : Option EventThreadId
  recentEvents : List RecentEventRef
  nowUnixSecs : Int
  timezone : String
deriving DecidableEq

structure ReferenceResolution where
  resolvedActorId : Option String
  resolvedThreadId : Option EventThreadId
  resolvedEventIds : List SourceEventId
  ambiguous : Bool
  evidence : String
deriving DecidableEq

def distinctParticipants (candidates : List ReferenceCandidate) : List ParticipantIdentity :=
  insertIgnore (fun a b => a.identity = b.identity) []
    (candidates.filterMap ReferenceCandidate.participant)

def distinctThreads (candidates : List ReferenceCandidate) : List EventThreadId :=
  insertIgnore (fun a b => a = b) [] (candidates.filterMap ReferenceCandidate.threadId)

def distinctEvents (candidates : List ReferenceCandidate) : List SourceEventId :=
  insertIgnore (fun a b => a = b) [] (candidates.flatMap ReferenceCandidate.sourceEventIds)

def ReferenceContext.scoped (context : ReferenceContext) : Bool :=
  context.currentConversation.isSome || context.currentThreadId.isSome

/-- `resolve_reference_from_candidates`; the three lists are filled in one pass over the candidates. -/
def resolveReferenceFromCandidates (candidates : List ReferenceCandidate)
    (context : ReferenceContext) : ReferenceResolution :=
  if candidates.isEmpty then {
    resolvedActorId := none
    resolvedThreadId := none
    resolvedEventIds := []
    ambiguous := true
    evidence := "当前作用域内无匹配候选，需 Owner 澄清" }
  else
    let participants := distinctParticipants candidates
    let threadIds := distinctThreads candidates
    let allEventIds := distinctEvents candidates
    if participants.length = 1 ∧ threadIds.length ≤ 1 ∧ context.scoped = true then {
      resolvedActorId := participants.head?.map ParticipantIdentity.stableId
      resolvedThreadId := threadIds.head?
      resolvedEventIds := allEventIds
      ambiguous := false
      evidence := "匹配到唯一候选（" ++ toString candidates.length ++ "个证据）" }
    else {
      resolvedActorId := none
      resolvedThreadId := none
      resolvedEventIds := allEventIds
      ambiguous := true
      evidence := "匹配到 " ++ toString candidates.length ++ " 个候选（" ++
        toString participants.length ++ " 个参与者，" ++ toString threadIds.length ++
        " 个线程），需 Owner 澄清" }

/-! ## What the candidates have in common -/

def Denotes (who : PlatformIdentityKind × String) (candidate : ReferenceCandidate) : Prop :=
  ∃ participant ∈ candidate.participant, participant.identity = who

/-- No two candidates are in different threads. -/
def OneThread (candidates : List ReferenceCandidate) : Prop :=
  ∀ a ∈ candidates, ∀ b ∈ candidates, ∀ s ∈ a.threadId, ∀ t ∈ b.threadId, s = t

/-- Some candidate denotes a participant, and none denotes another. -/
def OneParticipant (candidates : List ReferenceCandidate) : Prop :=
  ∃ who, (∃ candidate ∈ candidates, Denotes who candidate) ∧
    ∀ candidate ∈ candidates, ∀ participant ∈ candidate.participant, participant.identity = who

/-- A reference is resolved to the one participant that all candidates denote, in one thread, and
otherwise to nothing; the order of the candidates does not matter. -/
structure NeverGuesses (candidates : List ReferenceCandidate) (context : ReferenceContext) :
    Prop where
  resolved_iff : (resolveReferenceFromCandidates candidates context).ambiguous = false ↔
    context.scoped = true ∧ candidates ≠ [] ∧
      (∃ who, ∀ candidate ∈ candidates, Denotes who candidate) ∧ OneThread candidates
  resolved : (resolveReferenceFromCandidates candidates context).ambiguous = false →
    ∃ who, (∀ candidate ∈ candidates, Denotes who candidate) ∧
      (resolveReferenceFromCandidates candidates context).resolvedActorId = some who.2 ∧
        ∀ event ∈ (resolveReferenceFromCandidates candidates context).resolvedEventIds,
          ∃ candidate ∈ candidates, Denotes who candidate ∧ event ∈ candidate.sourceEventIds
  nothing : (resolveReferenceFromCandidates candidates context).ambiguous = true →
    (resolveReferenceFromCandidates candidates context).resolvedActorId = none ∧
      (resolveReferenceFromCandidates candidates context).resolvedThreadId = none ∧
        (resolveReferenceFromCandidates candidates context).resolvedEventIds = []
  order : ∀ permuted : List ReferenceCandidate, permuted.Perm candidates →
    (resolveReferenceFromCandidates permuted context).ambiguous =
        (resolveReferenceFromCandidates candidates context).ambiguous ∧
      ∀ event, event ∈ (resolveReferenceFromCandidates permuted context).resolvedEventIds ↔
        event ∈ (resolveReferenceFromCandidates candidates context).resolvedEventIds

variable {candidates permuted : List ReferenceCandidate} {context : ReferenceContext}
  {event : SourceEventId}

/-! ## The three lists -/

theorem length_distinctParticipants_eq_one_iff :
    (distinctParticipants candidates).length = 1 ↔ OneParticipant candidates := by
  have hle : (distinctParticipants candidates).length ≤ 1 ↔
      ∀ a ∈ candidates.filterMap ReferenceCandidate.participant,
        ∀ b ∈ candidates.filterMap ReferenceCandidate.participant, a.identity = b.identity :=
    length_insertIgnore_le_one_iff
  have hnil : distinctParticipants candidates = [] ↔
      candidates.filterMap ReferenceCandidate.participant = [] := insertIgnore_nil_eq_nil_iff
  constructor
  · intro hone
    have hne : candidates.filterMap ReferenceCandidate.participant ≠ [] := fun h => by
      rw [hnil.mpr h] at hone
      cases hone
    obtain ⟨first, hfst⟩ := List.exists_mem_of_ne_nil _ hne
    obtain ⟨candidate, hcand, hpart⟩ := List.mem_filterMap.mp hfst
    refine ⟨first.identity, ⟨candidate, hcand, first, hpart, rfl⟩, ?_⟩
    intro other hoth participant hmem
    exact hle.mp hone.le participant (List.mem_filterMap.mpr ⟨other, hoth, hmem⟩) first hfst
  · rintro ⟨who, ⟨candidate, hcand, first, hpart, -⟩, hall⟩
    have hfst : first ∈ candidates.filterMap ReferenceCandidate.participant :=
      List.mem_filterMap.mpr ⟨candidate, hcand, hpart⟩
    have hpos : 0 < (distinctParticipants candidates).length :=
      List.length_pos_iff.mpr fun h => List.ne_nil_of_mem hfst (hnil.mp h)
    refine Nat.le_antisymm (hle.mpr fun a ha b hb => ?_) hpos
    obtain ⟨ca, hca, ha⟩ := List.mem_filterMap.mp ha
    obtain ⟨cb, hcb, hb⟩ := List.mem_filterMap.mp hb
    rw [hall ca hca a ha, hall cb hcb b hb]

theorem length_distinctThreads_le_one_iff :
    (distinctThreads candidates).length ≤ 1 ↔ OneThread candidates := by
  have hle : (distinctThreads candidates).length ≤ 1 ↔
      ∀ s ∈ candidates.filterMap ReferenceCandidate.threadId,
        ∀ t ∈ candidates.filterMap ReferenceCandidate.threadId, s = t :=
    @length_insertIgnore_le_one_iff _ _ id _ _
  rw [hle]
  constructor
  · intro h a ha b hb s hs t ht
    exact h s (List.mem_filterMap.mpr ⟨a, ha, hs⟩) t (List.mem_filterMap.mpr ⟨b, hb, ht⟩)
  · intro h s hs t ht
    obtain ⟨a, ha, hs⟩ := List.mem_filterMap.mp hs
    obtain ⟨b, hb, ht⟩ := List.mem_filterMap.mp ht
    exact h a ha b hb s hs t ht

theorem mem_distinctEvents :
    event ∈ distinctEvents candidates ↔ ∃ candidate ∈ candidates, event ∈ candidate.sourceEventIds :=
  mem_insertIgnore_nil_iff.trans List.mem_flatMap

/-! ## The answer -/

theorem OneParticipant.ne_nil (h : OneParticipant candidates) : candidates ≠ [] := by
  obtain ⟨_, ⟨candidate, hcand, -⟩, -⟩ := h
  exact List.ne_nil_of_mem hcand

/-- A scope, one participant among those that the candidates have, and at most one thread. -/
def Resolves (candidates : List ReferenceCandidate) (context : ReferenceContext) : Prop :=
  context.scoped = true ∧ OneParticipant candidates ∧ OneThread candidates

theorem resolve_of_resolves (h : Resolves candidates context) :
    ∃ participant ∈ candidates.filterMap ReferenceCandidate.participant,
      (resolveReferenceFromCandidates candidates context).resolvedActorId =
          some participant.stableId ∧
        (resolveReferenceFromCandidates candidates context).resolvedEventIds =
          distinctEvents candidates ∧
        (resolveReferenceFromCandidates candidates context).ambiguous = false := by
  obtain ⟨hscop, hone, hthr⟩ := h
  have hlen := length_distinctParticipants_eq_one_iff.mpr hone
  obtain ⟨participant, hlist⟩ := List.length_eq_one_iff.mp hlen
  have hmem : participant ∈ distinctParticipants candidates := by
    rw [hlist]
    exact List.mem_singleton_self participant
  refine ⟨participant, (mem_of_mem_insertIgnore hmem).resolve_left List.not_mem_nil, ?_⟩
  rw [resolveReferenceFromCandidates, if_neg (by simpa using hone.ne_nil)]
  dsimp only
  rw [if_pos ⟨hlen, length_distinctThreads_le_one_iff.mpr hthr, hscop⟩]
  refine ⟨?_, rfl, rfl⟩
  show (distinctParticipants candidates).head?.map ParticipantIdentity.stableId = _
  rw [hlist]
  rfl

theorem resolve_of_not_resolves (h : ¬Resolves candidates context) :
    (resolveReferenceFromCandidates candidates context).resolvedActorId = none ∧
      (resolveReferenceFromCandidates candidates context).resolvedThreadId = none ∧
        (resolveReferenceFromCandidates candidates context).resolvedEventIds =
            distinctEvents candidates ∧
          (resolveReferenceFromCandidates candidates context).ambiguous = true := by
  rw [resolveReferenceFromCandidates]
  split
  · next hnil =>
    rw [List.isEmpty_iff.mp hnil]
    exact ⟨rfl, rfl, rfl, rfl⟩
  · dsimp only
    rw [if_neg]
    · exact ⟨rfl, rfl, rfl, rfl⟩
    · rintro ⟨hone, hthr, hscop⟩
      exact h ⟨hscop, length_distinctParticipants_eq_one_iff.mp hone,
        length_distinctThreads_le_one_iff.mp hthr⟩

theorem ambiguous_eq_false_iff :
    (resolveReferenceFromCandidates candidates context).ambiguous = false ↔
      Resolves candidates context := by
  constructor
  · intro hfalse
    by_contra h
    rw [(resolve_of_not_resolves h).2.2.2] at hfalse
    cases hfalse
  · intro h
    obtain ⟨_, -, -, -, hfalse⟩ := resolve_of_resolves h
    exact hfalse

theorem mem_resolvedEventIds :
    event ∈ (resolveReferenceFromCandidates candidates context).resolvedEventIds ↔
      ∃ candidate ∈ candidates, event ∈ candidate.sourceEventIds := by
  rw [← mem_distinctEvents]
  by_cases h : Resolves candidates context
  · obtain ⟨_, -, -, hevs, -⟩ := resolve_of_resolves h
    rw [hevs]
  · rw [(resolve_of_not_resolves h).2.2.1]

theorem resolves_perm (hperm : permuted.Perm candidates) :
    Resolves permuted context ↔ Resolves candidates context := by
  simp only [Resolves, OneParticipant, OneThread, hperm.mem_iff]

theorem order_irrelevant (hperm : permuted.Perm candidates) :
    (resolveReferenceFromCandidates permuted context).ambiguous =
        (resolveReferenceFromCandidates candidates context).ambiguous ∧
      ∀ event, event ∈ (resolveReferenceFromCandidates permuted context).resolvedEventIds ↔
        event ∈ (resolveReferenceFromCandidates candidates context).resolvedEventIds := by
  constructor
  · rw [Bool.eq_iff_iff, ← not_iff_not, Bool.not_eq_true, Bool.not_eq_true, ambiguous_eq_false_iff,
      ambiguous_eq_false_iff, resolves_perm hperm]
  · intro event
    simp only [mem_resolvedEventIds, hperm.mem_iff]

/-- All candidates denote the participant of a resolved reference when all have one. -/
theorem denotes_iff (hone : OneParticipant candidates) :
    (∃ who, ∀ candidate ∈ candidates, Denotes who candidate) ↔
      ∀ candidate ∈ candidates, candidate.participant ≠ none := by
  constructor
  · rintro ⟨who, hall⟩ candidate hcand hnone
    obtain ⟨participant, hmem, -⟩ := hall candidate hcand
    rw [hnone] at hmem
    cases hmem
  · intro hall
    obtain ⟨who, -, hsame⟩ := hone
    refine ⟨who, fun candidate hcand => ?_⟩
    obtain ⟨participant, hpart⟩ := Option.ne_none_iff_exists'.mp (hall candidate hcand)
    exact ⟨participant, hpart, hsame candidate hcand participant hpart⟩

theorem oneParticipant_of_denotes {who : PlatformIdentityKind × String} (hne : candidates ≠ [])
    (h : ∀ candidate ∈ candidates, Denotes who candidate) : OneParticipant candidates := by
  obtain ⟨first, hfst⟩ := List.exists_mem_of_ne_nil _ hne
  refine ⟨who, ⟨first, hfst, h first hfst⟩, fun candidate hcand participant hmem => ?_⟩
  obtain ⟨other, hoth, hwho⟩ := h candidate hcand
  obtain rfl := Option.mem_unique hmem hoth
  exact hwho

/-- Nothing is guessed when every candidate of a resolved reference has a participant, and the
candidates of a reference that stays open have no events. -/
theorem neverGuesses_iff (candidates : List ReferenceCandidate) (context : ReferenceContext) :
    NeverGuesses candidates context ↔
      (context.scoped = true ∧ OneParticipant candidates ∧ OneThread candidates →
        ∀ candidate ∈ candidates, candidate.participant ≠ none) ∧
      (¬(context.scoped = true ∧ OneParticipant candidates ∧ OneThread candidates) →
        ∀ candidate ∈ candidates, candidate.sourceEventIds = []) := by
  constructor
  · intro h
    constructor
    · intro hres
      obtain ⟨-, -, hden, -⟩ := h.resolved_iff.mp (ambiguous_eq_false_iff.mpr hres)
      exact (denotes_iff hres.2.1).mp hden
    · intro hopen candidate hcand
      have hnil := (h.nothing (resolve_of_not_resolves hopen).2.2.2).2.2
      refine List.eq_nil_iff_forall_not_mem.mpr fun event hev => ?_
      have hmem : event ∈ (resolveReferenceFromCandidates candidates context).resolvedEventIds :=
        mem_resolvedEventIds.mpr ⟨candidate, hcand, hev⟩
      rw [hnil] at hmem
      cases hmem
  · rintro ⟨hcomp, hemp⟩
    refine ⟨?_, ?_, ?_, fun _ => order_irrelevant⟩
    · rw [ambiguous_eq_false_iff]
      constructor
      · intro hres
        obtain ⟨hscop, hone, hthr⟩ := hres
        exact ⟨hscop, hone.ne_nil, (denotes_iff hone).mpr (hcomp ⟨hscop, hone, hthr⟩),
          hthr⟩
      · rintro ⟨hscop, hne, ⟨who, hden⟩, hthr⟩
        exact ⟨hscop, oneParticipant_of_denotes hne hden, hthr⟩
    · intro hfalse
      have hres := ambiguous_eq_false_iff.mp hfalse
      obtain ⟨who, hden⟩ := (denotes_iff hres.2.1).mpr (hcomp hres)
      obtain ⟨participant, hpart, hactor, -, -⟩ := resolve_of_resolves hres
      obtain ⟨candidate, hcand, hmem⟩ := List.mem_filterMap.mp hpart
      obtain ⟨other, hoth, rfl⟩ := hden candidate hcand
      obtain rfl := Option.mem_unique hmem hoth
      refine ⟨participant.identity, hden, hactor, fun event hev => ?_⟩
      obtain ⟨source, hsrc, hin⟩ := mem_resolvedEventIds.mp hev
      exact ⟨source, hsrc, hden source hsrc, hin⟩
    · intro hopen
      have hnot : ¬Resolves candidates context := fun h => by
        rw [ambiguous_eq_false_iff.mpr h] at hopen
        cases hopen
      obtain ⟨hactor, hthr, hevs, -⟩ := resolve_of_not_resolves hnot
      refine ⟨hactor, hthr, List.eq_nil_iff_forall_not_mem.mpr fun event hev => ?_⟩
      obtain ⟨candidate, hcand, hin⟩ := mem_resolvedEventIds.mp hev
      rw [hemp hnot candidate hcand] at hin
      cases hin

/-! ## Two people of one name -/

namespace Scripted

def inGroup : ReferenceContext where
  account := ⟨.napCat, "10001"⟩
  currentEventId := none
  currentConversation := some ⟨.group, "20001"⟩
  currentThreadId := none
  recentEvents := []
  nowUnixSecs := 1000
  timezone := "Asia/Shanghai"

def candidate (who : String) (event : SourceEventId) : ReferenceCandidate where
  actorId := some who
  participant := some ⟨.external, who, none, [], .observed⟩
  threadId := none
  sourceEventIds := [event]
  evidence := "name"

def firstEvent : SourceEventId := ⟨"e-1", by decide⟩

def secondEvent : SourceEventId := ⟨"e-2", by decide⟩

end Scripted

open Scripted in
/-- The reference stays open, and both events are handed on. -/
theorem events_of_an_open_reference : ¬∀ (candidates : List ReferenceCandidate)
    (context : ReferenceContext), NeverGuesses candidates context := by
  intro h
  have hnoth := (h [candidate "30001" firstEvent, candidate "30002" secondEvent] inGroup).nothing
    (by decide)
  exact absurd hnoth.2.2 (by decide)

end ServerRS.Retrieval

import ServerRS.ThreadSemantics.Store

/-!
# What validation accepts

A patch that passes cites events of the batch only, supersedes confirmed decisions only, and
changes the status along the table (`validateSemanticPatch_checked`).
-/

namespace ServerRS.ThreadSemantics

open Lib Lib.Except

variable {u : Unit} {sources : List SourceEventId} {seen seen' : List String}
  {change : ThreadLifecycleChange}

theorem require_ok {ok : Bool} {error : ThreadSemanticError} :
    require ok error = .ok u ↔ ok = true := by
  cases ok <;> simp [require]

variable {batch : ClaimedThreadSemanticBatch} {patch : ThreadSemanticPatch}

/-- A candidate belongs to the thread and cites events of the batch. -/
structure Cites (batch : ClaimedThreadSemanticBatch) (threadId : EventThreadId)
    (sources : List SourceEventId) : Prop where
  thread : threadId = batch.threadId
  nonempty : sources ≠ []
  nodup : sources.Nodup
  allowed : ∀ source ∈ sources, source ∈ batch.eventIds

theorem requireSources_ok {allowed : List SourceEventId}
    (h : requireSources allowed sources = .ok u) :
    sources ≠ [] ∧ sources.Nodup ∧ ∀ source ∈ sources, source ∈ allowed := by
  rw [requireSources] at h
  obtain ⟨_, hnemp, h⟩ := bind_ok h
  obtain ⟨_, -, h⟩ := bind_ok h
  obtain ⟨_, hnd, h⟩ := bind_ok h
  rw [require_ok] at hnemp hnd h
  refine ⟨?_, of_decide_eq_true hnd, ?_⟩
  · rintro rfl
    cases hnemp
  · simpa using h

theorem requireThread_ok {expected actual : EventThreadId}
    (h : requireThread expected actual = .ok u) : actual = expected := by
  rw [requireThread, require_ok] at h
  exact (of_decide_eq_true h).symm

theorem validateCandidate_ok {threadId : EventThreadId} {field text key : String}
    {confidenceBps : UInt16}
    (h : validateCandidate batch seen threadId field text confidenceBps sources key = .ok seen') :
    Cites batch threadId sources := by
  rw [validateCandidate] at h
  obtain ⟨_, hthr, h⟩ := bind_ok h
  obtain ⟨_, -, h⟩ := bind_ok h
  obtain ⟨_, -, h⟩ := bind_ok h
  obtain ⟨_, hsrcs, -⟩ := bind_ok h
  obtain ⟨hnemp, hnd, hall⟩ := requireSources_ok hsrcs
  exact ⟨requireThread_ok hthr, hnemp, hnd, hall⟩

theorem validateClaim_ok {claim : ThreadClaimCandidate}
    (h : validateClaim batch seen claim = .ok seen') :
    Cites batch claim.threadId claim.sourceEventIds := by
  rw [validateClaim] at h
  obtain ⟨_, hcand, -⟩ := bind_ok h
  exact validateCandidate_ok hcand

theorem validateDecision_ok {decision : ThreadDecisionCandidate}
    (h : validateDecision batch seen decision = .ok seen') :
    Cites batch decision.threadId decision.sourceEventIds ∧
      ∀ old, decision.supersedes = some old → old ∈ batch.confirmedDecisionIds := by
  rw [validateDecision] at h
  obtain ⟨_, hcand, h⟩ := bind_ok h
  obtain ⟨_, hsup, -⟩ := bind_ok h
  refine ⟨validateCandidate_ok hcand, fun old hold => ?_⟩
  rw [require_ok, hold] at hsup
  simpa using hsup

theorem validateQuestion_ok {question : OpenQuestionCandidate}
    (h : validateQuestion batch seen question = .ok seen') :
    Cites batch question.threadId question.sourceEventIds := by
  rw [validateQuestion] at h
  obtain ⟨_, hcand, -⟩ := bind_ok h
  exact validateCandidate_ok hcand

/-! ## The lifecycle change -/

/-- Every source of the change carries the evidence. -/
def Evidenced (batch : ClaimedThreadSemanticBatch) (change : ThreadLifecycleChange) : Prop :=
  ∃ evidence, change.resolutionEvidence = some evidence ∧ change.sourceEventIds ≠ [] ∧
    ∀ source ∈ change.sourceEventIds, ∃ event ∈ batch.events, event.sourceEventId = source ∧
      event.contentOmitted = false ∧
      classifyThreadResolutionEvidence event.normalizedText = some evidence

/-- A command of the Owner is among the sources. -/
def Commanded (batch : ClaimedThreadSemanticBatch) (change : ThreadLifecycleChange) : Prop :=
  ∃ event ∈ batch.events, event.role = .ownerCommand ∧
    event.sourceEventId ∈ change.sourceEventIds

structure CheckedChange (batch : ClaimedThreadSemanticBatch) (patch : ThreadSemanticPatch)
    (change : ThreadLifecycleChange) : Prop where
  cites : Cites batch change.threadId change.sourceEventIds
  transition : change.fromStatus ≠ change.toStatus →
    (change.fromStatus, change.toStatus) ∈ transitions
  resolved : change.toStatus = .resolved →
    batch.openQuestionIds = [] ∧ patch.questions = [] ∧ Evidenced batch change
  closed : change.toStatus = .closed → batch.openQuestionIds = [] ∧ Commanded batch change

theorem validateThreadTransition_ok {fromStatus toStatus : ThreadStatus}
    (h : validateThreadTransition fromStatus toStatus = .ok u) (hne : fromStatus ≠ toStatus) :
    (fromStatus, toStatus) ∈ transitions := by
  rw [validateThreadTransition, if_neg hne] at h
  split at h
  · assumption
  · cases h

/-- Each cited event stands in the batch under its id. -/
theorem citedEvents_mem {cited : List ThreadSemanticEvent}
    (h : citedEvents batch sources = some cited) :
    ∀ source ∈ sources, ∃ event ∈ cited, event ∈ batch.events ∧ event.sourceEventId = source := by
  induction sources generalizing cited with
  | nil => simp
  | cons first sources ih =>
    rw [citedEvents, List.mapM_cons] at h
    obtain ⟨event, hev, h⟩ := Option.bind_eq_some_iff.mp h
    obtain ⟨rest, hrest, h⟩ := Option.bind_eq_some_iff.mp h
    cases h
    rw [List.forall_mem_cons]
    refine ⟨⟨event, List.mem_cons_self, List.mem_of_find?_eq_some hev, ?_⟩, ?_⟩
    · simpa using List.find?_some hev
    · intro source hsrc
      obtain ⟨other, hoth, hmem⟩ := ih hrest source hsrc
      exact ⟨other, List.mem_cons_of_mem _ hoth, hmem⟩

theorem validateResolution_ok (hsrcs : change.sourceEventIds ≠ [])
    (h : validateResolution batch patch change = .ok u) :
    batch.openQuestionIds = [] ∧ patch.questions = [] ∧ Evidenced batch change := by
  rw [validateResolution] at h
  split at h
  · cases h
  next evidence hevi =>
  obtain ⟨_, -, h⟩ := bind_ok h
  obtain ⟨_, hqns, h⟩ := bind_ok h
  obtain ⟨_, -, h⟩ := bind_ok h
  split at h
  · cases h
  next cited hcited =>
  obtain ⟨_, hmatch, -⟩ := bind_ok h
  rw [require_ok, Bool.and_eq_true, List.isEmpty_iff, List.isEmpty_iff] at hqns
  rw [require_ok, List.all_eq_true] at hmatch
  refine ⟨hqns.1, hqns.2, evidence, hevi, hsrcs, fun source hsrc => ?_⟩
  obtain ⟨event, hev, hmem, hid⟩ := citedEvents_mem hcited source hsrc
  have hevi := hmatch event hev
  simp only [Bool.and_eq_true, Bool.not_eq_true', decide_eq_true_eq] at hevi
  exact ⟨event, hmem, hid, hevi⟩

theorem validateClose_ok (h : validateClose batch change = .ok u) :
    batch.openQuestionIds = [] ∧ Commanded batch change := by
  rw [validateClose] at h
  obtain ⟨_, -, h⟩ := bind_ok h
  obtain ⟨_, hqns, h⟩ := bind_ok h
  rw [require_ok, List.isEmpty_iff] at hqns
  rw [require_ok, List.any_eq_true] at h
  obtain ⟨event, hev, hrole⟩ := h
  simp only [Bool.and_eq_true, decide_eq_true_eq] at hrole
  exact ⟨hqns, event, hev, hrole⟩

theorem validateChange_ok (h : validateChange batch patch change = .ok u) :
    CheckedChange batch patch change := by
  rw [validateChange] at h
  obtain ⟨_, hthr, h⟩ := bind_ok h
  obtain ⟨_, -, h⟩ := bind_ok h
  obtain ⟨_, htr, h⟩ := bind_ok h
  obtain ⟨_, -, h⟩ := bind_ok h
  obtain ⟨_, hsrcs, h⟩ := bind_ok h
  obtain ⟨hnemp, hnd, hall⟩ := requireSources_ok hsrcs
  have hcites : Cites batch change.threadId change.sourceEventIds :=
    ⟨requireThread_ok hthr, hnemp, hnd, hall⟩
  refine ⟨hcites, validateThreadTransition_ok htr, ?_, ?_⟩
  · intro hres
    rw [if_pos hres] at h
    obtain ⟨_, hresol, -⟩ := bind_ok h
    exact validateResolution_ok hnemp hresol
  · intro hcls
    have hnotResolved : change.toStatus ≠ .resolved := by
      rw [hcls]
      decide
    rw [if_neg hnotResolved] at h
    obtain ⟨_, -, h⟩ := bind_ok h
    rw [if_pos hcls] at h
    exact validateClose_ok h

/-! ## The patch -/

structure Checked (batch : ClaimedThreadSemanticBatch) (patch : ThreadSemanticPatch) : Prop where
  claims : ∀ claim ∈ patch.claims, Cites batch claim.threadId claim.sourceEventIds
  decisions : ∀ decision ∈ patch.decisions,
    Cites batch decision.threadId decision.sourceEventIds ∧
      ∀ old, decision.supersedes = some old → old ∈ batch.confirmedDecisionIds
  questions : ∀ question ∈ patch.questions, Cites batch question.threadId question.sourceEventIds
  change : ∀ change, patch.lifecycleChange = some change → CheckedChange batch patch change

theorem validateSemanticPatch_checked (h : validateSemanticPatch batch patch = .ok u) :
    Checked batch patch := by
  rw [validateSemanticPatch] at h
  obtain ⟨_, -, h⟩ := bind_ok h
  obtain ⟨_, hclaims, h⟩ := bind_ok h
  obtain ⟨_, hdecs, h⟩ := bind_ok h
  obtain ⟨_, hqns, h⟩ := bind_ok h
  constructor
  case claims =>
    intro claim hcl
    obtain ⟨_, _, hok⟩ := foldlM_step hclaims hcl
    exact validateClaim_ok hok
  case decisions =>
    intro decision hdec
    obtain ⟨_, _, hok⟩ := foldlM_step hdecs hdec
    exact validateDecision_ok hok
  case questions =>
    intro question hqn
    obtain ⟨_, _, hok⟩ := foldlM_step hqns hqn
    exact validateQuestion_ok hok
  case change =>
    intro change hchg
    rw [hchg] at h
    exact validateChange_ok h

end ServerRS.ThreadSemantics

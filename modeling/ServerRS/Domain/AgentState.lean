import ServerRS.AgentCore.State
import ServerRS.Domain.Response

/-!
# The state of the secretary agent

Models `domain/agent_runtime/state.rs` and the state half of `validation.rs`. The state
changes by typed updates only; `applyUpdate` is what each of them does and when it is
refused.

Every update has one lemma that says exactly when it is accepted and what it leaves
behind; what later modules know about the state they know from these.
-/

namespace ServerRS

open Lib AgentCore

def MAX_GOAL_CHARS : ℕ := 2000

def MAX_INVARIANTS : ℕ := 50

def MAX_RECENT_EVENTS : ℕ := 8

inductive SecretaryAgentPhase where
  | observe
  | plan
  | retrieve
  | proposeAction
  | validate
  | execute
  | suspended
  | updateState
  | respond
  | completed
deriving DecidableEq

inductive SecretaryAgentUpdate where
  | proposalAccepted (proposal : SecretaryActionProposal)
  | approvalResolved (input : SecretaryActionResumeInput)
  | actionCompleted (receipt : SecretaryActionReceipt)
  | responseReady (draft : OwnerResponseDraft)
  | observationAppended (obs : PlannerToolObservation)
  | workingContext (update : WorkingContextUpdate)
  | phaseChanged (phase : SecretaryAgentPhase)

structure SecretaryAgentState where
  goal : String
  phase : SecretaryAgentPhase
  invariants : List String
  evidenceSourceEventIds : List SourceEventId
  recentEvents : List RecentEventRef
  pendingProposal : Option SecretaryActionProposal
  lastReceipt : Option SecretaryActionReceipt
  responseDraft : Option OwnerResponseDraft
  replanRound : UInt8
  planningObservations : List PlannerToolObservation
  workingContext : Option AgentWorkingContextV1

/-- `u8::saturating_add(1)`. -/
def saturatingSucc (n : UInt8) : UInt8 := if n = 255 then 255 else n + 1

namespace SecretaryAgentState

/-! ## Checks -/

def requireState (condition : Prop) [Decidable condition] (text : String) :
    Except SecretaryAgentRuntimeError Unit :=
  if condition then .ok () else .error (.invalidState text)

/-- A check of an update; its error is the text of a business error. -/
def checked {ε : Type} (result : Except ε Unit) (toText : ε → String) :
    Exec SecretaryAgentState AgentStateError Unit :=
  Exec.ofExcept (result.mapError fun error => .business (toText error))

/-- The proposal that waits, or the refusal of the update that needs one. -/
def requirePending (text : String) : Exec SecretaryAgentState AgentStateError SecretaryActionProposal := do
  let self ← Exec.get
  match self.pendingProposal with
  | some pending => pure pending
  | none => Exec.throw (.business text)

theorem requireState_ok {condition : Prop} [Decidable condition] {text : String} :
    requireState condition text = .ok () ↔ condition := by
  unfold requireState
  split <;> simp_all

section

variable {s s' : SecretaryAgentState}

theorem checked_ok {ε : Type} {result : Except ε Unit} {toText : ε → String} :
    checked result toText s = (.ok (), s') ↔ result = .ok () ∧ s' = s := by
  unfold checked
  cases result with
  | ok u => simp [Except.mapError, eq_comm]
  | error e => simp [Except.mapError]

theorem requirePending_ok {text : String} {pending : SecretaryActionProposal} :
    requirePending text s = (.ok pending, s') ↔ s.pendingProposal = some pending ∧ s' = s := by
  unfold requirePending
  rw [Exec.get_bind_apply]
  cases s.pendingProposal with
  | none => simp
  | some proposal => simp [eq_comm]

end

section

variable [WorkingContextFormat]

/-! ## Validation -/

/-- The loop over the observations; `seen` are the proposals before them. -/
def validateObservations :
    List PlannerToolObservation → List String → Except SecretaryAgentRuntimeError Unit
  | [], _ => .ok ()
  | obs :: rest, seen => do
    (validateToolObservation obs).mapError fun e => .invalidState e.toText
    requireState (obs.proposalId ∉ seen)
      ("duplicate proposal_id in planning_observations: " ++ obs.proposalId)
    validateObservations rest (obs.proposalId :: seen)

/-- The part of `validate_agent_state` that bounds the state of re-planning and the working
context. -/
def validatePlanning (state : SecretaryAgentState) : Except SecretaryAgentRuntimeError Unit := do
  requireState (state.replanRound ≤ MAX_REPLAN_ROUNDS)
    ("replan_round " ++ toString state.replanRound ++ " exceeds MAX_REPLAN_ROUNDS " ++
      toString MAX_REPLAN_ROUNDS)
  requireState (state.planningObservations.length ≤ MAX_TOOL_OBSERVATIONS)
    ("planning_observations count " ++ toString state.planningObservations.length ++
      " exceeds max " ++ toString MAX_TOOL_OBSERVATIONS)
  validateObservations state.planningObservations []
  requireState (totalSummaryChars state.planningObservations ≤ MAX_TOOL_OBSERVATION_TOTAL_CHARS)
    ("planning_observations total chars " ++
      toString (totalSummaryChars state.planningObservations) ++ " exceeds max " ++
      toString MAX_TOOL_OBSERVATION_TOTAL_CHARS)
  state.workingContext.elim (.ok ()) fun context =>
    context.validate.mapError fun error =>
      .invalidState ("working_context violates bounded limits: " ++ error.toText)

def validateAgentState (state : SecretaryAgentState) : Except SecretaryAgentRuntimeError Unit := do
  boundedText "goal" state.goal 1 MAX_GOAL_CHARS
  requireState
    (state.invariants.length ≤ MAX_INVARIANTS ∧
      state.evidenceSourceEventIds.length ≤ MAX_EVIDENCE ∧
      state.recentEvents.length ≤ MAX_RECENT_EVENTS)
    "agent state exceeds bounded context limits"
  state.invariants.forM fun invariant => boundedText "invariant" invariant 1 1000
  state.recentEvents.forM fun recent => boundedText "recent event summary" recent.summary 1 500
  validatePlanning state

def new (goal : String) (invariants : List String) (evidenceSourceEventIds : List SourceEventId)
    (recentEvents : List RecentEventRef) :
    Except SecretaryAgentRuntimeError SecretaryAgentState := do
  let state : SecretaryAgentState := {
    goal, invariants, evidenceSourceEventIds, recentEvents
    phase := .observe
    pendingProposal := none
    lastReceipt := none
    responseDraft := none
    replanRound := 0
    planningObservations := []
    workingContext := none }
  validateAgentState state
  .ok state

/-! ## Updates -/

def phaseAfter : SecretaryApprovalDecision → SecretaryAgentPhase
  | .approve => .execute
  | .reject => .respond

def applyWorkingContextUpdate (update : WorkingContextUpdate) :
    Exec SecretaryAgentState AgentStateError Unit := do
  let self ← Exec.get
  match (self.workingContext.getD {}).merge update with
  | .ok context => Exec.modify fun self => { self with workingContext := some context }
  | .error error => Exec.throw (.business error.toText)

def applyUpdate : SecretaryAgentUpdate → Exec SecretaryAgentState AgentStateError Unit
  | .proposalAccepted proposal => do
    checked (validateActionProposal proposal) SecretaryAgentRuntimeError.toText
    Exec.modify fun self => { self with pendingProposal := some proposal, phase := .execute }
  | .approvalResolved input => do
    let pending ← requirePending "没有可恢复的待确认动作"
    if pending.proposalId ≠ input.proposalId then
      Exec.throw (.business "恢复输入与待确认动作不匹配")
    else Exec.modify fun self => { self with phase := phaseAfter input.decision }
  | .actionCompleted receipt => do
    let pending ← requirePending "动作回执缺少待执行 Proposal"
    if pending.proposalId ≠ receipt.proposalId then
      Exec.throw (.business "动作回执与待执行 Proposal 不匹配")
    else
      let canonical := pending.action.kind
      match receipt.toolKind with
      | some kind =>
        if kind ≠ canonical then
          Exec.throw (.business ("回执 tool_kind " ++ kind.toText ++ " 与 Proposal " ++
            canonical.toText ++ " 不一致"))
        else Exec.modify fun self => { self with
          lastReceipt := some receipt, pendingProposal := none, phase := .updateState }
      | none => Exec.modify fun self => { self with
          lastReceipt := some { receipt with toolKind := some canonical }
          pendingProposal := none
          phase := .updateState }
  | .responseReady draft => do
    checked (validateResponseDraft draft) SecretaryAgentRuntimeError.toText
    Exec.modify fun self => { self with responseDraft := some draft, phase := .respond }
  | .observationAppended obs => do
    checked (validateToolObservation obs) PlannerError.toText
    let self ← Exec.get
    -- the observation of a proposal is appended once
    if self.planningObservations.any fun existing => existing.proposalId == obs.proposalId then
      pure ()
    else Exec.modify fun self => { self with
      planningObservations := self.planningObservations ++ [obs]
      replanRound := saturatingSucc self.replanRound
      phase := .updateState }
  | .workingContext update => applyWorkingContextUpdate update
  | .phaseChanged phase => Exec.modify fun self => { self with phase }

/-- The business state of the action graph. -/
instance : AgentBusinessState SecretaryAgentState where
  Update := SecretaryAgentUpdate
  Effect := SecretaryActionEffect
  Receipt := SecretaryActionReceipt
  SuspendData := SecretaryActionApprovalRequest
  ResumeInput := SecretaryActionResumeInput
  resumeUpdates := fun input => [.business (.approvalResolved input)]
  applyUpdate := applyUpdate
  receiptUpdates := fun receipt => [.business (.actionCompleted receipt)]

/-! ## What an accepted update does -/

variable {s s' : SecretaryAgentState}

theorem applyUpdate_proposalAccepted {proposal : SecretaryActionProposal} :
    applyUpdate (.proposalAccepted proposal) s = (.ok (), s') ↔
      validateActionProposal proposal = .ok () ∧
        s' = { s with pendingProposal := some proposal, phase := .execute } := by
  unfold applyUpdate
  rw [Exec.bind_eq_ok]
  constructor
  · rintro ⟨⟨⟩, s₁, hchk, hmod⟩
    obtain ⟨hval, rfl⟩ := checked_ok.mp hchk
    cases hmod
    exact ⟨hval, rfl⟩
  · rintro ⟨hval, rfl⟩
    exact ⟨(), s, checked_ok.mpr ⟨hval, rfl⟩, rfl⟩

/-- A decision is accepted only for the proposal that waits. -/
theorem applyUpdate_approvalResolved {input : SecretaryActionResumeInput} :
    applyUpdate (.approvalResolved input) s = (.ok (), s') ↔
      (∃ pending, s.pendingProposal = some pending ∧ pending.proposalId = input.proposalId) ∧
        s' = { s with phase := phaseAfter input.decision } := by
  unfold applyUpdate
  rw [Exec.bind_eq_ok]
  constructor
  · rintro ⟨pending, s₁, hpend, hrest⟩
    obtain ⟨hpend, rfl⟩ := requirePending_ok.mp hpend
    split at hrest
    · cases hrest
    · next hid =>
      cases hrest
      exact ⟨⟨pending, hpend, not_not.mp hid⟩, rfl⟩
  · rintro ⟨⟨pending, hpend, hid⟩, rfl⟩
    refine ⟨pending, s, requirePending_ok.mpr ⟨hpend, rfl⟩, ?_⟩
    rw [if_neg (not_not.mpr hid)]
    rfl

/-- A receipt is accepted only for the proposal that waits, and is stored with its kind. -/
theorem applyUpdate_actionCompleted {receipt : SecretaryActionReceipt} :
    applyUpdate (.actionCompleted receipt) s = (.ok (), s') ↔
      ∃ pending, s.pendingProposal = some pending ∧ pending.proposalId = receipt.proposalId ∧
        (receipt.toolKind.all fun kind => decide (kind = pending.action.kind)) = true ∧
        s' = { s with
          lastReceipt := some { receipt with toolKind := some pending.action.kind }
          pendingProposal := none
          phase := .updateState } := by
  unfold applyUpdate
  rw [Exec.bind_eq_ok]
  constructor
  · rintro ⟨pending, s₁, hpend, hrest⟩
    obtain ⟨hpend, rfl⟩ := requirePending_ok.mp hpend
    refine ⟨pending, hpend, ?_⟩
    split at hrest
    · cases hrest
    · next hid =>
      refine ⟨not_not.mp hid, ?_⟩
      obtain ⟨proposalId, resultRef, toolKind⟩ := receipt
      cases toolKind with
      | none =>
        cases hrest
        exact ⟨rfl, rfl⟩
      | some kind =>
        dsimp only at hrest
        split at hrest
        · cases hrest
        · next hkind =>
          obtain rfl := not_not.mp hkind
          cases hrest
          exact ⟨by simp, rfl⟩
  · rintro ⟨pending, hpend, hid, hkind, rfl⟩
    refine ⟨pending, s, requirePending_ok.mpr ⟨hpend, rfl⟩, ?_⟩
    rw [if_neg (not_not.mpr hid)]
    obtain ⟨proposalId, resultRef, toolKind⟩ := receipt
    cases toolKind with
    | none => rfl
    | some kind =>
      obtain rfl : kind = pending.action.kind := by simpa using hkind
      dsimp only
      rw [if_neg (not_not.mpr rfl)]
      rfl

theorem applyUpdate_responseReady {draft : OwnerResponseDraft} :
    applyUpdate (.responseReady draft) s = (.ok (), s') ↔
      validateResponseDraft draft = .ok () ∧
        s' = { s with responseDraft := some draft, phase := .respond } := by
  unfold applyUpdate
  rw [Exec.bind_eq_ok]
  constructor
  · rintro ⟨⟨⟩, s₁, hchk, hmod⟩
    obtain ⟨hval, rfl⟩ := checked_ok.mp hchk
    cases hmod
    exact ⟨hval, rfl⟩
  · rintro ⟨hval, rfl⟩
    exact ⟨(), s, checked_ok.mpr ⟨hval, rfl⟩, rfl⟩

def HasObservation (s : SecretaryAgentState) (proposalId : String) : Prop :=
  ∃ existing ∈ s.planningObservations, existing.proposalId = proposalId

/-- A valid observation is appended, and counts as a round, unless its proposal has one. -/
theorem applyUpdate_observationAppended {obs : PlannerToolObservation} :
    applyUpdate (.observationAppended obs) s = (.ok (), s') ↔
      validateToolObservation obs = .ok () ∧
        ((HasObservation s obs.proposalId ∧ s' = s) ∨
          ¬ HasObservation s obs.proposalId ∧ s' = { s with
            planningObservations := s.planningObservations ++ [obs]
            replanRound := saturatingSucc s.replanRound
            phase := .updateState }) := by
  have hhas : (s.planningObservations.any fun existing => existing.proposalId == obs.proposalId) =
      true ↔ HasObservation s obs.proposalId := by
    simp [HasObservation]
  unfold applyUpdate
  rw [Exec.bind_eq_ok]
  constructor
  · rintro ⟨⟨⟩, s₁, hchk, hrest⟩
    obtain ⟨hval, rfl⟩ := checked_ok.mp hchk
    rw [Exec.get_bind_apply] at hrest
    refine ⟨hval, ?_⟩
    split at hrest
    · next hany =>
      cases hrest
      exact .inl ⟨hhas.mp hany, rfl⟩
    · next hany =>
      cases hrest
      exact .inr ⟨fun h => hany (hhas.mpr h), rfl⟩
  · rintro ⟨hval, hcases⟩
    refine ⟨(), s, checked_ok.mpr ⟨hval, rfl⟩, ?_⟩
    rw [Exec.get_bind_apply]
    rcases hcases with ⟨hany, rfl⟩ | ⟨hany, rfl⟩
    · rw [if_pos (hhas.mpr hany)]
      rfl
    · rw [if_neg fun h => hany (hhas.mp h)]
      rfl

theorem applyUpdate_workingContext {update : WorkingContextUpdate} :
    applyUpdate (.workingContext update) s = (.ok (), s') ↔
      ∃ context, (s.workingContext.getD {}).merge update = .ok context ∧
        s' = { s with workingContext := some context } := by
  show applyWorkingContextUpdate update s = (.ok (), s') ↔ _
  unfold applyWorkingContextUpdate
  rw [Exec.get_bind_apply]
  cases (s.workingContext.getD {}).merge update with
  | error error => simp
  | ok context => simp [eq_comm]

end

/-! ## What validation establishes -/

section Validation

theorem validateObservations_ok {observations : List PlannerToolObservation} {seen : List String} :
    validateObservations observations seen = .ok () ↔
      (∀ obs ∈ observations, validateToolObservation obs = .ok ()) ∧
        (observations.map PlannerToolObservation.proposalId).Nodup ∧
        ∀ obs ∈ observations, obs.proposalId ∉ seen := by
  induction observations generalizing seen with
  | nil => simp [validateObservations]
  | cons obs rest ih =>
    rw [validateObservations, Except.and_then_eq_ok, Except.and_then_eq_ok, ih, Except.mapError_eq_ok,
      requireState_ok]
    rw [List.forall_mem_cons, List.forall_mem_cons, List.map_cons, List.nodup_cons]
    simp only [List.mem_map, List.mem_cons, not_or]
    constructor
    · rintro ⟨hobs, hseen, hrest, hnd, hfr⟩
      refine ⟨⟨hobs, hrest⟩, ⟨?_, hnd⟩, hseen, fun other hoth => (hfr other hoth).2⟩
      rintro ⟨other, hoth, heq⟩
      exact (hfr other hoth).1 heq
    · rintro ⟨⟨hobs, hrest⟩, ⟨hnew, hnd⟩, hseen, hfr⟩
      refine ⟨hobs, hseen, hrest, hnd, fun other hoth => ⟨fun heq => ?_, hfr other hoth⟩⟩
      exact hnew ⟨other, hoth, heq⟩

variable [WorkingContextFormat] {s : SecretaryAgentState}

/-- The bounds of `validate_agent_state` on re-planning and the working context. -/
theorem validatePlanning_ok : validatePlanning s = .ok () ↔
    s.replanRound ≤ MAX_REPLAN_ROUNDS ∧
      s.planningObservations.length ≤ MAX_TOOL_OBSERVATIONS ∧
      (∀ obs ∈ s.planningObservations, validateToolObservation obs = .ok ()) ∧
      (s.planningObservations.map PlannerToolObservation.proposalId).Nodup ∧
      totalSummaryChars s.planningObservations ≤ MAX_TOOL_OBSERVATION_TOTAL_CHARS ∧
      ∀ context, s.workingContext = some context → context.validate = .ok () := by
  unfold validatePlanning
  simp only [Except.and_then_eq_ok, requireState_ok, validateObservations_ok]
  cases hctx : s.workingContext with
  | none => simp [and_assoc]
  | some context => simp [and_assoc, Except.mapError_eq_ok]

end Validation

end SecretaryAgentState

end ServerRS

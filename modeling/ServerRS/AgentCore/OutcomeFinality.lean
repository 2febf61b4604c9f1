import ServerRS.AgentCore.Runs

/-!
# The outcome is final

`AgentState.Evolves` is what updates can make of a state: the recorded lists grow at
their ends until there is an outcome, and from then on everything but the business
part is frozen. It is a preorder that one update respects, so every batch does, and
with the batches of nodes, receipts and resume inputs so does every run.
-/

namespace ServerRS.AgentCore

open Lib

variable {B : Type}

/-- Everything of a state but its business part is as it was. -/
structure AgentState.Frozen (state state' : AgentState B) : Prop where
  outcome : state'.outcome = state.outcome
  messages : state'.messages = state.messages
  promptSections : state'.promptSections = state.promptSections
  pendingActions : state'.pendingActions = state.pendingActions
  observations : state'.observations = state.observations

/-- What accepted updates can make of a state. -/
structure AgentState.Evolves (state state' : AgentState B) : Prop where
  messages : state.messages <+: state'.messages
  promptSections : state.promptSections <+: state'.promptSections
  observations : state.observations <+: state'.observations
  frozen : state.outcome.isSome = true → state.Frozen state'

namespace AgentState

variable {s₁ s₂ s₃ : AgentState B}

theorem Frozen.evolves (h : s₁.Frozen s₂) : s₁.Evolves s₂ where
  messages := by rw [h.messages]
  promptSections := by rw [h.promptSections]
  observations := by rw [h.observations]
  frozen := fun _ => h

theorem Evolves.refl (state : AgentState B) : state.Evolves state :=
  Frozen.evolves ⟨rfl, rfl, rfl, rfl, rfl⟩

theorem Evolves.trans (h₁ : s₁.Evolves s₂) (h₂ : s₂.Evolves s₃) : s₁.Evolves s₃ where
  messages := h₁.messages.trans h₂.messages
  promptSections := h₁.promptSections.trans h₂.promptSections
  observations := h₁.observations.trans h₂.observations
  frozen := fun hout => by
    have hfst := h₁.frozen hout
    have hsec := h₂.frozen (by rw [hfst.outcome]; exact hout)
    exact {
      outcome := hsec.outcome.trans hfst.outcome
      messages := hsec.messages.trans hfst.messages
      promptSections := hsec.promptSections.trans hfst.promptSections
      pendingActions := hsec.pendingActions.trans hfst.pendingActions
      observations := hsec.observations.trans hfst.observations }

variable [AgentBusinessState B]

/-! ## Updates -/

variable {update : AgentUpdate (Update B)} {updates : List (AgentUpdate (Update B))}

/-- After an outcome an update that is not a business update is rejected. -/
theorem applyOne_terminal (hout : s₁.outcome.isSome = true)
    (hupd : update.isBusiness = false) : applyOne update s₁ = (.error .terminalState, s₁) := by
  unfold applyOne
  rw [Exec.get_bind_apply, hout, hupd]
  rfl

theorem applyOne_open (h : applyOne update s₁ = (.ok (), s₂)) (hupd : update.isBusiness = false) :
    s₁.outcome = none := by
  cases hout : s₁.outcome with
  | none => rfl
  | some outcome =>
    rw [applyOne_terminal (by rw [hout]; rfl) hupd] at h
    cases h

omit [AgentBusinessState B] in
theorem Evolves.of_open (hopen : s₁.outcome = none) (hmes : s₁.messages <+: s₂.messages)
    (hsect : s₁.promptSections <+: s₂.promptSections)
    (hobs : s₁.observations <+: s₂.observations) : s₁.Evolves s₂ where
  messages := hmes
  promptSections := hsect
  observations := hobs
  frozen := fun hsome => by
    rw [hopen] at hsome
    cases hsome

/-- One accepted update. -/
theorem applyOne_evolves (h : applyOne update s₁ = (.ok (), s₂)) : s₁.Evolves s₂ := by
  have hopen := applyOne_open h
  unfold applyOne at h
  rw [Exec.get_bind_apply] at h
  cases update with
  | appendMessages messages =>
    rw [hopen rfl] at h
    cases h
    exact .of_open (hopen rfl) (List.prefix_append _ _) List.prefix_rfl List.prefix_rfl
  | appendPromptSections sections =>
    rw [hopen rfl] at h
    cases h
    exact .of_open (hopen rfl) List.prefix_rfl (List.prefix_append _ _) List.prefix_rfl
  | replacePendingActions actions =>
    rw [hopen rfl] at h
    cases h
    exact .of_open (hopen rfl) List.prefix_rfl List.prefix_rfl List.prefix_rfl
  | appendObservations observations =>
    rw [hopen rfl] at h
    cases h
    exact .of_open (hopen rfl) List.prefix_rfl List.prefix_rfl (List.prefix_append _ _)
  | setOutcome outcome =>
    rw [hopen rfl] at h
    cases h
    exact .of_open (hopen rfl) List.prefix_rfl List.prefix_rfl List.prefix_rfl
  | business update =>
    rw [AgentUpdate.isBusiness, Bool.not_true, Bool.and_false, if_neg Bool.false_ne_true] at h
    obtain ⟨business, -, rfl⟩ := Exec.zoom_eq.mp h
    exact Frozen.evolves ⟨rfl, rfl, rfl, rfl, rfl⟩

theorem applyAll_evolves (h : applyAll updates s₁ = (.ok (), s₂)) : s₁.Evolves s₂ := by
  induction updates generalizing s₁ with
  | nil =>
    cases h
    exact .refl _
  | cons update rest ih =>
    obtain ⟨next, hone, hrest⟩ := applyAll_cons_ok.mp h
    exact (applyOne_evolves hone).trans (ih hrest)

theorem applyUpdates_evolves (h : applyUpdates updates s₁ = (.ok (), s₂)) : s₁.Evolves s₂ :=
  applyAll_evolves (applyUpdates_eq_ok.mp h)

/-- A batch takes effect as a whole, its updates one after the other, or not at all. -/
theorem applyUpdates_all_or_nothing (updates : List (AgentUpdate (Update B)))
    (state : AgentState B) :
    applyAll updates state = (.ok (), (applyUpdates updates state).2) ∧
        (applyUpdates updates state).1 = .ok () ∨
      (∃ error, (applyUpdates updates state).1 = .error error) ∧
        (applyUpdates updates state).2 = state := by
  cases happ : applyUpdates updates state with
  | mk result state' =>
    cases result with
    | ok _ => exact .inl ⟨applyUpdates_eq_ok.mp happ, rfl⟩
    | error error => exact .inr ⟨⟨error, rfl⟩, applyUpdates_error happ⟩

end AgentState

/-! ## Runs -/

section Run

variable [AgentBusinessState B] {W S : Type} {runtime : GraphRuntime B W S} {context : RunContext}
  {watch : Interruption W} {vars : LoopVars B} {shared shared' : Shared B W S}
  {checkpointing : Bool} {runtimes : GraphRuntime B W S → Prop} {config config' : RunConfig B W S}
  {state' : AgentState B}

theorem DispatchRun.evolves {runStep : RunStep} {current : NodeId} {ordinal : Nat}
    {effects : List (Effect B)} {vars vars' : EffectVars B} {calls : List (EffectCall B)}
    (h : DispatchRun runtime context watch runStep current ordinal effects vars shared calls
      (.ok vars') shared') : vars.candidate.Evolves vars'.candidate := by
  generalize hres : (Except.ok vars' : Except GraphRunError (EffectVars B)) = result at h
  induction h with
  | done =>
    cases hres
    exact .refl _
  | tooMany => cases hres
  | noExecutor => cases hres
  | inactive => cases hres
  | failed => cases hres
  | rejected => cases hres
  | next _ _ _ _ hupd _ ih => exact (AgentState.applyUpdates_evolves hupd).trans (ih hres)

/-- The state a turn commits has evolved from the one it began with. -/
theorem executeNode_evolves {turn : Turn B}
    (h : executeNode runtime context watch checkpointing vars shared = (.ok turn, shared')) :
    vars.state.Evolves turn.vars.state := by
  obtain ⟨calls, hrun⟩ := executeNode_run h
  cases hrun with
  | done hrdy hprep hdisp hsel =>
    obtain ⟨_, _, _, _, _, _, _, _, _, _, hupds⟩ := prepareTurn_ok hprep
    rw [concludeTurn_vars]
    exact (AgentState.applyUpdates_evolves hupds).trans hdisp.evolves

/-- A run ends with an outcome. -/
theorem executeNode_outcome {vars' : LoopVars B}
    (h : executeNode runtime context watch checkpointing vars shared =
      (.ok (.finish vars'), shared')) : vars'.state.outcome.isSome = true := by
  obtain ⟨runStep, calls, observed, nextNode, _, hdone, hends⟩ := executeNode_ok h
  cases hends
  obtain ⟨_, _, _, hout, _⟩ := hdone.route
  exact hout

/-- The agent state that a run holds or has handed out. -/
def RunState.agentState : RunState B W S → Option (AgentState B)
  | .active _ vars => some vars.state
  | .suspended checkpoint => some checkpoint.state
  | .completed result => some result.state
  | .failed (.saveFailed _ checkpoint _) => some checkpoint.state
  | .failed _ => none

/-- One step of a run. -/
theorem step_evolves (h : Step runtimes config config')
    (hst' : config'.1.agentState = some state') :
    ∃ state, config.1.agentState = some state ∧ state.Evolves state' := by
  cases h with
  | goto watch hturn =>
    cases hst'
    exact ⟨_, rfl, executeNode_evolves hturn⟩
  | suspend watch hturn hsave =>
    cases hst'
    obtain ⟨_, ⟨hsav, _⟩ | ⟨hsav, _⟩ | ⟨_, hsav⟩⟩ := saveCheckpoint_spec hsave
    · cases hsav
      exact ⟨_, rfl, executeNode_evolves hturn⟩
    · cases hsav
    · cases hsav
  | unsaved watch hturn hsave =>
    obtain ⟨_, ⟨hsav, _⟩ | ⟨hsav, _⟩ | ⟨_, hsav⟩⟩ := saveCheckpoint_spec hsave
    · cases hsav
    · cases hsav
      cases hst'
    · cases hsav
      cases hst'
      exact ⟨_, rfl, executeNode_evolves hturn⟩
  | finish watch hturn =>
    cases hst'
    exact ⟨_, rfl, executeNode_evolves hturn⟩
  | fail watch hturn => cases hst'
  | resume shared input trace hrtm hsto hchk hin =>
    cases hst'
    exact ⟨_, rfl, AgentState.applyUpdates_evolves (applyResumeInput_ok.mp hin)⟩
  | elsewhere => exact ⟨state', hst', .refl _⟩

theorem run_evolves (h : Relation.ReflTransGen (Step runtimes) config config')
    (hst' : config'.1.agentState = some state') :
    ∃ state, config.1.agentState = some state ∧ state.Evolves state' := by
  induction h generalizing state' with
  | refl => exact ⟨state', hst', .refl _⟩
  | tail _ hstep ih =>
    obtain ⟨middle, hmiddle, hlast⟩ := step_evolves hstep hst'
    obtain ⟨state, hst, hfst⟩ := ih hmiddle
    exact ⟨state, hst, hfst.trans hlast⟩

theorem completed_outcome (h : Runs runtimes config) :
    ∀ result, config.1 = .completed result → result.state.outcome.isSome = true := by
  refine h.invariant
    (fun config => ∀ result, config.1 = .completed result → result.state.outcome.isSome = true)
    ?_ ?_
  · rintro _ ⟨⟩ _ hres
    cases hres
  · intro config config' hconfig hstep
    cases hstep with
    | finish watch hturn =>
      rintro _ hres
      cases hres
      exact executeNode_outcome hturn
    | elsewhere => exact hconfig
    | _ =>
      rintro _ hres
      cases hres

/-- Batches are atomic, the states of a run evolve from one another through every batch, receipt
and resume, and a completed run has an outcome. -/
theorem outcome_is_final (runtimes : GraphRuntime B W S → Prop) :
    (∀ (updates : List (AgentUpdate (Update B))) (state : AgentState B),
      AgentState.applyAll updates state = (.ok (), (state.applyUpdates updates).2) ∧
          (state.applyUpdates updates).1 = .ok () ∨
        (∃ error, (state.applyUpdates updates).1 = .error error) ∧
          (state.applyUpdates updates).2 = state) ∧
    (∀ config config', Relation.ReflTransGen (Step runtimes) config config' →
      ∀ state state', config.1.agentState = some state → config'.1.agentState = some state' →
        state.Evolves state') ∧
    ∀ result shared, Runs runtimes (.completed result, shared) →
      result.state.outcome.isSome = true := by
  refine ⟨AgentState.applyUpdates_all_or_nothing, ?_, ?_⟩
  · intro config config' hrun state state' hst hst'
    obtain ⟨first, hfst, hevolves⟩ := run_evolves hrun hst'
    cases hst.symm.trans hfst
    exact hevolves
  · intro result shared hrun
    exact completed_outcome hrun result rfl

end Run

end ServerRS.AgentCore

import ServerRS.ActionGraph.Machine
import ServerRS.ActionGraph.ReRead

/-!
# The runtime on the action graph makes the moves of the machine

First what each node answers when it does not fail, then what a turn at each node does, and
last `actionRuns_machine`: the history of every run of the runtime on an action graph is a
history of the machine, which stands where the run stands, in the state that the run holds.
-/

namespace ServerRS.ActionGraph

open Lib AgentCore

/-! ## What the nodes answer -/

section Checks

variable {W : Type}

theorem failing_ok {ε α : Type} {kind : NodeErrorKind} {toText : ε → String} {result : Except ε α}
    {value : α} {world world' : W} :
    failing kind toText result world = (.ok value, world') ↔ result = .ok value ∧ world' = world := by
  unfold failing
  cases result with
  | ok a => simp [Except.mapError, eq_comm]
  | error e => simp [Except.mapError]

namespace PlanNode

theorem requireOutput_ok {condition : Prop} [Decidable condition] {error : PlannerError} :
    requireOutput condition error = .ok () ↔ condition := by
  unfold requireOutput
  split <;> simp_all

theorem checkProposal_admits {context : ActionRunContext} {business : SecretaryAgentState}
    {proposal : SecretaryActionProposal} (hval : validateActionProposal proposal = .ok ())
    (h : checkProposal context business proposal = .ok ()) : Admits business proposal := by
  unfold checkProposal at h
  rw [Except.and_then_eq_ok, Except.and_then_eq_ok, requireOutput_ok, requireOutput_ok,
    requireOutput_ok] at h
  exact ⟨hval, h.2.1, h.2.2⟩

/-- A question to the Owner passes the gates in every state. -/
theorem clarification_admits (business : SecretaryAgentState) {proposalId question : String}
    {evidence : List SourceEventId}
    (hval : validateActionProposal (clarificationProposal proposalId question evidence) = .ok ()) :
    Admits business (clarificationProposal proposalId question evidence) :=
  ⟨hval, .inr rfl, .inr rfl⟩

end PlanNode

end Checks

section Graphs

variable {W S : Type} [ActionFormat]

namespace PlanNode

theorem gateSecretaryAction_ok {proposal : SecretaryActionProposal}
    {result : NodeResult SecretaryAgentState} :
    gateSecretaryAction proposal = .ok result ↔
      validateActionProposal proposal = .ok () ∧ result = gateResult proposal := by
  unfold gateSecretaryAction
  rw [Except.and_then_eq_ok]
  simp [eq_comm]

variable {ports : ActionPorts W} {context : ActionRunContext} {state : ActionState}
  {world world' : W} {result : NodeResult SecretaryAgentState}

theorem conclude_ok {update : AgentUpdate SecretaryAgentUpdate} {output : PlannerOutput}
    (hchk : checkOutput context state.business output = .ok ())
    (h : conclude ports update output world = (.ok result, world')) :
    (∃ reason, result = .continue [update, .setOutcome (.respond reason)] [] {}) ∨
      ∃ proposal, Admits state.business proposal ∧
        result = prependUpdate update (gateResult proposal) := by
  cases output with
  | noAction reason =>
    cases h
    exact .inl ⟨reason, rfl⟩
  | clarification question evidence =>
    obtain ⟨proposalId, world₁, hid, h₁⟩ := Exec.bind_eq_ok.mp h
    obtain ⟨⟨⟩, world₂, hval, h₂⟩ := Exec.bind_eq_ok.mp h₁
    obtain ⟨gated, world₃, hgate, h₃⟩ := Exec.bind_eq_ok.mp h₂
    obtain ⟨hval, -⟩ := failing_ok.mp hval
    obtain ⟨hgated, -⟩ := failing_ok.mp hgate
    obtain ⟨-, rfl⟩ := gateSecretaryAction_ok.mp hgated
    cases h₃
    exact .inr ⟨_, clarification_admits state.business hval, rfl⟩
  | proposal proposal =>
    obtain ⟨gated, world₁, hgate, h₁⟩ := Exec.bind_eq_ok.mp h
    obtain ⟨hgated, -⟩ := failing_ok.mp hgate
    obtain ⟨hval, rfl⟩ := gateSecretaryAction_ok.mp hgated
    cases h₁
    unfold checkOutput at hchk
    rw [Except.and_then_eq_ok] at hchk
    exact .inr ⟨proposal, checkProposal_admits hval hchk.2, rfl⟩

/-- What `plan` answers: that there is nothing to do, or the answer of the gate for a proposal
that passed it; before it comes the update with the retrieval. -/
theorem execute_ok (h : execute ports context state world = (.ok result, world')) :
    ∃ ids conversations,
      let update := AgentUpdate.business (.workingContext (retrieval ids conversations))
      (∃ reason, result = .continue [update, .setOutcome (.respond reason)] [] {}) ∨
        ∃ proposal, Admits state.business proposal ∧
          result = prependUpdate update (gateResult proposal) := by
  obtain ⟨retrieved, world₁, -, h₁⟩ := Exec.bind_eq_ok.mp h
  obtain ⟨views, world₂, -, h₂⟩ := Exec.bind_eq_ok.mp h₁
  obtain ⟨conversation, world₃, -, h₃⟩ := Exec.bind_eq_ok.mp h₂
  obtain ⟨⟨⟩, world₄, -, h₄⟩ := Exec.bind_eq_ok.mp h₃
  obtain ⟨output, world₅, -, h₅⟩ := Exec.bind_eq_ok.mp h₄
  obtain ⟨⟨⟩, world₆, hchk, h₆⟩ := Exec.bind_eq_ok.mp h₅
  exact ⟨_, _, conclude_ok (failing_ok.mp hchk).1 h₆⟩

end PlanNode

namespace ReplanDecisionNode

variable {ports : ActionPorts W} {context : ActionRunContext} {state : ActionState}
  {world world' : W}

/-- The node acts on what the last receipt asks for, as long as there is no outcome. -/
theorem execute_eq (ports : ActionPorts W) (context : ActionRunContext) (state : ActionState) :
    execute ports context state =
      if state.outcome.isSome then pure emptyResult
      else
        match finding state.business with
        | .nothing => pure emptyResult
        | .conflict result => do
          let conflict ← reReadConflict ports context result
          pure (.continue [.business (.workingContext (.conflictReRead conflict))] [] {})
        | .observation obs => pure (.continue (observationUpdates obs) [] {}) := by
  unfold execute finding
  dsimp only
  split
  · rfl
  · cases state.business.lastReceipt with
    | none => rfl
    | some receipt =>
      dsimp only
      cases receipt.toolKind with
      | none => rfl
      | some toolKind =>
        dsimp only
        cases conflictResult receipt with
        | some result =>
          dsimp only
          split <;> rfl
        | none =>
          dsimp only
          cases queryResult receipt toolKind <;> rfl

theorem execute_ok {answer : NodeResult SecretaryAgentState}
    (h : execute ports context state world = (.ok answer, world')) :
    answer = emptyResult ∧ (state.outcome.isSome = true ∨ finding state.business = .nothing) ∨
      (∃ result conflict, state.outcome = none ∧ finding state.business = .conflict result ∧
        reReadConflict ports context result world = (.ok conflict, world') ∧
        answer = .continue [.business (.workingContext (.conflictReRead conflict))] [] {}) ∨
      ∃ obs, state.outcome = none ∧ finding state.business = .observation obs ∧
        answer = .continue (observationUpdates obs) [] {} := by
  rw [execute_eq] at h
  split at h
  · next hout =>
    cases h
    exact .inl ⟨rfl, .inl hout⟩
  · next hout =>
    have hout : state.outcome = none := Option.not_isSome_iff_eq_none.mp hout
    cases hfdg : finding state.business with
    | nothing =>
      rw [hfdg] at h
      cases h
      exact .inl ⟨rfl, .inr rfl⟩
    | conflict result =>
      rw [hfdg] at h
      obtain ⟨conflict, world₁, hread, h₁⟩ := Exec.bind_eq_ok.mp h
      cases h₁
      exact .inr (.inl ⟨result, conflict, hout, rfl, hread, rfl⟩)
    | observation obs =>
      rw [hfdg] at h
      cases h
      exact .inr (.inr ⟨obs, hout, rfl, rfl⟩)

end ReplanDecisionNode

theorem BuildResponseNode.execute_ok {context : ActionRunContext} {state : ActionState}
    {world world' : W} {answer : NodeResult SecretaryAgentState}
    (h : execute context state world = (.ok answer, world')) :
    (∃ text draft, state.outcome = some (.respond text) ∧
        answer = .continue [.business (.responseReady draft)] [] {}) ∨
      ∃ draft, state.outcome = none ∧ receiptDraft context state.business = .ok draft ∧
        answer = .continue
          [.business (.responseReady draft), .setOutcome (.respond (firstText draft))] [] {} := by
  unfold execute at h
  cases hout : state.outcome with
  | some outcome =>
    obtain ⟨text⟩ := outcome
    rw [hout] at h
    obtain ⟨draft, world₁, -, h₁⟩ := Exec.bind_eq_ok.mp h
    cases h₁
    exact .inl ⟨text, draft, rfl, rfl⟩
  | none =>
    rw [hout] at h
    obtain ⟨draft, world₁, hdraft, h₁⟩ := Exec.bind_eq_ok.mp h
    cases h₁
    exact .inr ⟨draft, rfl, (failing_ok.mp hdraft).1, rfl⟩

/-! ## Accepted answers -/

section Accepted

variable {state candidate : ActionState}

theorem applyAll_cons {update : AgentUpdate SecretaryAgentUpdate}
    {rest : List (AgentUpdate SecretaryAgentUpdate)} :
    AgentState.applyAll (B := SecretaryAgentState) (update :: rest) state = (.ok (), candidate) ↔
      ∃ next, AgentState.applyOne (B := SecretaryAgentState) update state = (.ok (), next) ∧
        AgentState.applyAll (B := SecretaryAgentState) rest next = (.ok (), candidate) :=
  AgentState.applyAll_cons_ok

theorem applyOne_workingContext {update : WorkingContextUpdate} :
    AgentState.applyOne (B := SecretaryAgentState)
        (.business (SecretaryAgentUpdate.workingContext update)) state = (.ok (), candidate) ↔
      ∃ context, (state.business.workingContext.getD {}).merge update = .ok context ∧
        candidate = withContext state context := by
  rw [AgentState.applyOne_business_ok]
  constructor
  · rintro ⟨business, happ, rfl⟩
    obtain ⟨context, hmrg, rfl⟩ := SecretaryAgentState.applyUpdate_workingContext.mp happ
    exact ⟨context, hmrg, rfl⟩
  · rintro ⟨context, hmrg, rfl⟩
    exact ⟨_, SecretaryAgentState.applyUpdate_workingContext.mpr ⟨context, hmrg, rfl⟩, rfl⟩

theorem applyOne_proposalAccepted {proposal : SecretaryActionProposal}
    (h : AgentState.applyOne (B := SecretaryAgentState)
      (.business (SecretaryAgentUpdate.proposalAccepted proposal)) state = (.ok (), candidate)) :
    candidate = withProposal state proposal := by
  obtain ⟨business, happ, rfl⟩ := AgentState.applyOne_business_ok.mp h
  obtain ⟨-, rfl⟩ := SecretaryAgentState.applyUpdate_proposalAccepted.mp happ
  rfl

theorem applyOne_responseReady {draft : OwnerResponseDraft}
    (h : AgentState.applyOne (B := SecretaryAgentState)
      (.business (SecretaryAgentUpdate.responseReady draft)) state = (.ok (), candidate)) :
    candidate = withDraft state draft := by
  obtain ⟨business, happ, rfl⟩ := AgentState.applyOne_business_ok.mp h
  obtain ⟨-, rfl⟩ := SecretaryAgentState.applyUpdate_responseReady.mp happ
  rfl

theorem applyUpdates_actionCompleted {receipt : SecretaryActionReceipt}
    (h : state.applyUpdates (B := SecretaryAgentState) (receiptUpdates receipt) =
      (.ok (), candidate)) :
    ∃ pending, state.business.pendingProposal = some pending ∧ Answers receipt pending ∧
      candidate = withReceipt state pending receipt := by
  obtain ⟨next, hone, hnil⟩ := applyAll_cons.mp (AgentState.applyUpdates_eq_ok.mp h)
  obtain rfl := AgentState.applyAll_nil_ok.mp hnil
  obtain ⟨business, happ, rfl⟩ := AgentState.applyOne_business_ok.mp hone
  obtain ⟨pending, hpend, hid, hkind, rfl⟩ :=
    SecretaryAgentState.applyUpdate_actionCompleted.mp happ
  exact ⟨pending, hpend, ⟨hid, hkind⟩, rfl⟩

/-- What an accepted answer of `plan` is, and the state it leads to. -/
inductive Planned (state : ActionState) : NodeAnswer SecretaryAgentState → ActionState → Prop where
  | noAction {context : AgentWorkingContextV1} (usage : UsageDelta) (reason : String)
      (ids : List SourceEventId) (conversations : List ConversationRef)
      (hout : state.outcome = none)
      (hmrg : (state.business.workingContext.getD {}).merge (retrieval ids conversations) =
        .ok context) :
      Planned state
        ⟨[.business (.workingContext (retrieval ids conversations)), .setOutcome (.respond reason)],
          [], usage, none⟩
        (withOutcome (withContext state context) reason)
  | direct {context : AgentWorkingContextV1} {proposal : SecretaryActionProposal}
      (usage : UsageDelta) (ids : List SourceEventId) (conversations : List ConversationRef)
      (hmrg : (state.business.workingContext.getD {}).merge (retrieval ids conversations) =
        .ok context)
      (hadm : Admits state.business proposal) (howner : ¬ proposal.action.NeedsOwner) :
      Planned state
        ⟨[.business (.workingContext (retrieval ids conversations)),
          .business (.proposalAccepted proposal)],
          ([⟨proposal⟩] : List SecretaryActionEffect), usage, none⟩
        (withProposal (withContext state context) proposal)
  | asked {context : AgentWorkingContextV1} {proposal : SecretaryActionProposal}
      (usage : UsageDelta) (ids : List SourceEventId) (conversations : List ConversationRef)
      (request : SuspendRequest SecretaryActionApprovalRequest)
      (hmrg : (state.business.workingContext.getD {}).merge (retrieval ids conversations) =
        .ok context)
      (hadm : Admits state.business proposal) (howner : proposal.action.NeedsOwner) :
      Planned state
        ⟨[.business (.workingContext (retrieval ids conversations)),
          .business (.proposalAccepted proposal)], [], usage, some request⟩
        (withProposal (withContext state context) proposal)

variable {ports : ActionPorts W} {context : ActionRunContext}
  {result : NodeResult SecretaryAgentState}

theorem planned_of_applied {world world' : W}
    (hexec : PlanNode.execute ports context state world = (.ok result, world'))
    (h : state.applyUpdates result.answer.updates = (.ok (), candidate)) :
    Planned state result.answer candidate := by
  have hall := AgentState.applyUpdates_eq_ok.mp h
  obtain ⟨ids, conversations, ⟨reason, rfl⟩ | ⟨proposal, hadm, rfl⟩⟩ :=
    PlanNode.execute_ok hexec
  · obtain ⟨next, hfst, hrest⟩ := applyAll_cons.mp hall
    obtain ⟨merged, hmrg, rfl⟩ := applyOne_workingContext.mp hfst
    obtain ⟨last, hset, hnil⟩ := applyAll_cons.mp hrest
    obtain ⟨hout, rfl⟩ := AgentState.applyOne_setOutcome_ok.mp hset
    obtain rfl := AgentState.applyAll_nil_ok.mp hnil
    exact .noAction {} reason ids conversations hout hmrg
  · by_cases hclar : proposal.action.isClarification = true
    · rw [gateResult, if_pos hclar] at hall ⊢
      obtain ⟨next, hfst, hrest⟩ := applyAll_cons.mp hall
      obtain ⟨merged, hmrg, rfl⟩ := applyOne_workingContext.mp hfst
      obtain ⟨last, hacc, hnil⟩ := applyAll_cons.mp hrest
      obtain rfl := applyOne_proposalAccepted hacc
      obtain rfl := AgentState.applyAll_nil_ok.mp hnil
      exact .asked {} ids conversations _ hmrg hadm (.inr hclar)
    · by_cases hconf : proposal.action.kind.policy.requiresConfirmation = true
      · rw [gateResult, if_neg hclar, if_pos hconf] at hall ⊢
        obtain ⟨next, hfst, hrest⟩ := applyAll_cons.mp hall
        obtain ⟨merged, hmrg, rfl⟩ := applyOne_workingContext.mp hfst
        obtain ⟨last, hacc, hnil⟩ := applyAll_cons.mp hrest
        obtain rfl := applyOne_proposalAccepted hacc
        obtain rfl := AgentState.applyAll_nil_ok.mp hnil
        exact .asked {} ids conversations _ hmrg hadm (.inl hconf)
      · rw [gateResult, if_neg hclar, if_neg hconf] at hall ⊢
        obtain ⟨next, hfst, hrest⟩ := applyAll_cons.mp hall
        obtain ⟨merged, hmrg, rfl⟩ := applyOne_workingContext.mp hfst
        obtain ⟨last, hacc, hnil⟩ := applyAll_cons.mp hrest
        obtain rfl := applyOne_proposalAccepted hacc
        obtain rfl := AgentState.applyAll_nil_ok.mp hnil
        exact .direct {} ids conversations hmrg hadm (not_or.mpr ⟨hconf, hclar⟩)

theorem decision_of_applied {world world' : W}
    (hexec : ReplanDecisionNode.execute ports context state world = (.ok result, world'))
    (h : state.applyUpdates result.answer.updates = (.ok (), candidate)) :
    Decision state result.answer.updates candidate ∧ result.answer.effects = [] ∧
      result.answer.suspendRequest = none := by
  have hall := AgentState.applyUpdates_eq_ok.mp h
  rcases ReplanDecisionNode.execute_ok hexec with ⟨rfl, hnoth⟩ |
    ⟨found, conflict, hout, hfdg, hread, rfl⟩ | ⟨obs, hout, hfdg, rfl⟩
  · obtain rfl := AgentState.applyAll_nil_ok.mp hall
    exact ⟨.nothing hnoth, rfl, rfl⟩
  · obtain ⟨next, hfst, hnil⟩ := applyAll_cons.mp hall
    obtain ⟨merged, hmrg, rfl⟩ := applyOne_workingContext.mp hfst
    obtain rfl := AgentState.applyAll_nil_ok.mp hnil
    obtain ⟨_, _, hval⟩ := ReplanDecisionNode.reReadWith_eq_ok.mp (congrArg Prod.fst hread)
    exact ⟨.conflict hout hfdg (MemoryCandidateConflictContext.valid_ok hval).1 hmrg, rfl, rfl⟩
  · obtain ⟨next, hfst, hrest⟩ := applyAll_cons.mp hall
    obtain ⟨last, hsec, hnil⟩ := applyAll_cons.mp hrest
    obtain rfl := AgentState.applyAll_nil_ok.mp hnil
    obtain ⟨business, happend, rfl⟩ := AgentState.applyOne_business_ok.mp hfst
    obtain ⟨merged, hmrg, rfl⟩ := applyOne_workingContext.mp hsec
    obtain ⟨hval, ⟨hhas, rfl⟩ | ⟨hnew, rfl⟩⟩ :=
      SecretaryAgentState.applyUpdate_observationAppended.mp happend
    · exact ⟨.repeated hout hfdg hval hhas hmrg, rfl, rfl⟩
    · exact ⟨.observed hout hfdg hval hnew hmrg, rfl, rfl⟩

end Accepted

/-! ## Turns -/

section Turn

theorem select_route (state : ActionState) :
    ReplanRouter.select state = continueRoute ∨ ReplanRouter.select state = finishRoute := by
  unfold ReplanRouter.select
  dsimp only
  split
  · exact .inr rfl
  · split
    · exact .inr rfl
    · split
      · exact .inr rfl
      · split
        · split
          · exact .inl rfl
          · exact .inr rfl
        · split
          · exact .inr rfl
          · split
            · exact .inr rfl
            · split
              · exact .inl rfl
              · exact .inr rfl

theorem replanTargets_select (state : ActionState) :
    replanTargets[ReplanRouter.select state]? = some (routeTarget state).id := by
  unfold routeTarget
  rcases select_route state with hrt | hrt
  · rw [hrt, if_pos rfl]
    exact replanTargets_continue
  · rw [hrt, if_neg (by decide)]
    exact replanTargets_finish

/-- The one effect of an answer is dispatched in one of the ways of `Dispatch`. -/
theorem dispatch_of_run {runtime : GraphRuntime SecretaryAgentState W S} {runContext : RunContext}
    {watch : Interruption W} {runStep : RunStep} {current : NodeId}
    {proposal : SecretaryActionProposal} {candidate : ActionState}
    {shared shared' : Shared SecretaryAgentState W S}
    {calls : List (EffectCall SecretaryAgentState)}
    {result : Except GraphRunError (EffectVars SecretaryAgentState)}
    (h : DispatchRun runtime runContext watch runStep current 0
      ([⟨proposal⟩] : List SecretaryActionEffect) { candidate } shared calls result shared') :
    Dispatch proposal candidate (settle candidate (calls.map EffectCall.event))
      (result.toOption.map EffectVars.candidate) := by
  rcases h.single with ⟨error, rfl, hstory⟩ | ⟨envelope, heff, ⟨error, answer, rfl, hstory⟩ |
    ⟨effectVars, receipt, rfl, hupds, hstory⟩⟩
  · rw [hstory]
    exact .inactive
  · rw [hstory]
    exact .failed answer heff
  · obtain ⟨pending, hpend, hanss, hcand⟩ := applyUpdates_actionCompleted hupds
    rw [hstory]
    dsimp only [Except.toOption, Option.map_some]
    rw [hcand]
    exact .completed heff hpend hanss

/-- What a turn at `stage` that came to `result` says about the moves from there. -/
def TurnMoves (stage : Stage) (state : ActionState) (story : Story) :
    Except GraphRunError (Turn SecretaryAgentState) → Prop
  | .error _ => Move (.atNode stage state) story .failed
  | .ok (.goto vars) => ∃ next : Stage, vars.current = next.id ∧
      Move (.atNode stage state) story (.atNode next vars.state)
  | .ok (.suspend _ _ vars) => vars.current = l0ExecuteId ∧
      ∀ next, next = .waiting vars.state ∨ next = .failed → Move (.atNode stage state) story next
  | .ok (.finish vars) => Move (.atNode stage state) story (.completed vars.state)

variable {ports : ActionPorts W} {context : ActionRunContext}
  {effectExecutor : EffectExecutor SecretaryAgentState W}
  {checkpointStore : CheckpointStore SecretaryAgentState S} {runContext : RunContext}
  {watch : Interruption W} {checkpointing : Bool} {vars : LoopVars SecretaryAgentState}
  {shared shared₁ shared₂ shared' : Shared SecretaryAgentState W S} {runStep : RunStep}
  {transition : TransitionRule SecretaryAgentState W} {answer : NodeAnswer SecretaryAgentState}
  {candidate : ActionState} {result : Except GraphRunError (Turn SecretaryAgentState)}
  {execute : ActionState → Exec W NodeError (NodeResult SecretaryAgentState)} {stage : Stage}

theorem awaitNode_worldNode {id : NodeId} {result : NodeResult SecretaryAgentState}
    (h : awaitNode runContext watch runStep (worldNode id execute) vars shared = (.ok result, shared')) :
    execute vars.state shared.world = (.ok result, shared'.world) := by
  obtain ⟨answered, hact, -, hres⟩ := awaitNode_spec h
  have hcall : answered = (execute vars.state shared.world).1 ∧
      shared'.world = (execute vars.state shared.world).2 := by
    cases hact
    exact ⟨rfl, rfl⟩
  split at hres
  · cases hres
  · cases answered with
    | error error => cases hres
    | ok value =>
      cases hres
      rw [hcall.2, hcall.1]

/-- A turn that stops before its answer is accepted. -/
theorem unprepared_moves {error : GraphRunError} (hcur : vars.current = stage.id)
    (hrdy : checkReady runContext watch
      (buildActionGraph ports context effectExecutor checkpointStore).graph.policy.maxSteps shared =
        (.ok runStep, shared₁))
    (hprep : prepareTurn (buildActionGraph ports context effectExecutor checkpointStore) runContext
      watch checkpointing runStep vars shared₁ = (.error error, shared')) :
    Move (.atNode stage vars.state)
      (turnHistory (buildActionGraph ports context effectExecutor checkpointStore) runContext watch
        checkpointing vars shared) .failed := by
  rcases prepareTurn_error hprep with ⟨-, -, rfl⟩ | ⟨hext, -⟩
  · rw [turnHistory_unprepared hrdy hprep (.refl _)]
    exact .stopped stage vars.state
  · rw [turnHistory_unprepared hrdy hprep hext, hcur]
    exact .refused runStep stage vars.state

section Prepared

variable
    (h : prepareTurn (buildActionGraph ports context effectExecutor checkpointStore) runContext watch
      checkpointing runStep vars shared = (.ok (transition, answer, candidate), shared'))

include h

/-- A prepared turn at a node of the graph: the node answered, and the state accepted it. -/
theorem prepared_answer (hcur : vars.current = stage.id)
    (hnode : (graph ports context).node stage.id = some (worldNode stage.id execute)) :
    ∃ result world', execute vars.state shared.world = (.ok result, world') ∧
      answer = result.answer ∧ (graph ports context).transition stage.id = some transition ∧
      vars.state.applyUpdates result.answer.updates = (.ok (), candidate) := by
  obtain ⟨node, result, shared₁, hfnd, hawait, rfl, -, htr, -, -, hupds⟩ :=
    prepareTurn_ok h
  rw [hcur] at hfnd htr
  obtain rfl : worldNode stage.id execute = node := Option.some.inj (hnode.symm.trans hfnd)
  exact ⟨result, _, awaitNode_worldNode hawait, rfl, htr, hupds⟩

theorem plan_prepared (hcur : vars.current = Stage.plan.id) :
    transition = .goto l0ExecuteId ∧ Planned vars.state answer candidate := by
  obtain ⟨result, world', hexec, rfl, htr, hupds⟩ :=
    prepared_answer h hcur (graph_plan ports context)
  rw [show Stage.plan.id = planId from rfl, graph_plan_transition] at htr
  exact ⟨(Option.some.inj htr).symm, planned_of_applied hexec hupds⟩

theorem execute_prepared (hcur : vars.current = Stage.execute.id) :
    transition = .goto replanDecisionId ∧ candidate = vars.state ∧
      answer = (L0ExecuteNode.execute vars.state).answer ∧ answer.updates = [] ∧
      answer.suspendRequest = none := by
  obtain ⟨result, world', hexec, rfl, htr, hupds⟩ :=
    prepared_answer h hcur (graph_l0Execute ports context)
  rw [show Stage.execute.id = l0ExecuteId from rfl, graph_l0Execute_transition] at htr
  cases hexec
  have hans : (L0ExecuteNode.execute vars.state).answer.updates = [] ∧
      (L0ExecuteNode.execute vars.state).answer.suspendRequest = none := by
    unfold L0ExecuteNode.execute
    split
    · split <;> exact ⟨rfl, rfl⟩
    · exact ⟨rfl, rfl⟩
  have hall := AgentState.applyUpdates_eq_ok.mp hupds
  rw [hans.1] at hall
  exact ⟨(Option.some.inj htr).symm, AgentState.applyAll_nil_ok.mp hall, rfl, hans⟩

theorem decide_prepared (hcur : vars.current = Stage.decide.id) :
    transition = .branch replanRouter replanTargets ∧
      Decision vars.state answer.updates candidate ∧ answer.effects = [] ∧
      answer.suspendRequest = none := by
  obtain ⟨result, world', hexec, rfl, htr, hupds⟩ :=
    prepared_answer h hcur (graph_replanDecision ports context)
  rw [show Stage.decide.id = replanDecisionId from rfl, graph_replanDecision_transition]
    at htr
  exact ⟨(Option.some.inj htr).symm, decision_of_applied hexec hupds⟩

/-- What an accepted answer of `build_response` says about the moves. -/
theorem respond_prepared (hcur : vars.current = Stage.respond.id) :
    transition = .atEnd ∧ candidate.outcome.isSome = true ∧
      Move (.atNode .respond vars.state)
        (called runStep .respond :: answer.updates.map (Entry.applied (B := SecretaryAgentState)))
        (.completed candidate) ∧ answer.effects = [] := by
  obtain ⟨result, world', hexec, rfl, htr, hupds⟩ :=
    prepared_answer h hcur (graph_buildResponse ports context)
  rw [show Stage.respond.id = buildResponseId from rfl, graph_buildResponse_transition]
    at htr
  refine ⟨(Option.some.inj htr).symm, ?_⟩
  have hall := AgentState.applyUpdates_eq_ok.mp hupds
  rcases BuildResponseNode.execute_ok hexec with ⟨text, draft, hout, rfl⟩ |
    ⟨draft, hout, hdraft, rfl⟩
  · obtain ⟨next, hrdy, hnil⟩ := applyAll_cons.mp hall
    obtain rfl := applyOne_responseReady hrdy
    obtain rfl := AgentState.applyAll_nil_ok.mp hnil
    exact ⟨by rw [withDraft, hout]; rfl, .responded _ hout, rfl⟩
  · obtain ⟨next, hrdy, hrest⟩ := applyAll_cons.mp hall
    obtain rfl := applyOne_responseReady hrdy
    obtain ⟨last, hset, hnil⟩ := applyAll_cons.mp hrest
    obtain ⟨-, rfl⟩ := AgentState.applyOne_setOutcome_ok.mp hset
    obtain rfl := AgentState.applyAll_nil_ok.mp hnil
    exact ⟨rfl, .drafted _ hout hdraft, rfl⟩

end Prepared

/-- What `l0_execute` dispatches: the proposal that waits, in the phase of execution. -/
theorem execute_effects (state : ActionState) :
    ((L0ExecuteNode.execute state).answer.effects = [] ∧
        (state.business.phase = .execute → state.business.pendingProposal = none)) ∨
      ∃ proposal, (L0ExecuteNode.execute state).answer.effects =
          ([⟨proposal⟩] : List SecretaryActionEffect) ∧
        state.business.phase = .execute ∧ state.business.pendingProposal = some proposal := by
  unfold L0ExecuteNode.execute
  split
  · next hph =>
    split
    · next proposal hpend => exact .inr ⟨proposal, rfl, hph, hpend⟩
    · next hpend => exact .inl ⟨rfl, fun _ => hpend⟩
  · next hph => exact .inl ⟨rfl, fun h => absurd h hph⟩

section Turns

variable
    (h : executeNode (buildActionGraph ports context effectExecutor checkpointStore) runContext watch
      checkpointing vars shared = (result, shared'))

include h

theorem plan_moves (hcur : vars.current = Stage.plan.id) :
    TurnMoves .plan vars.state
      (turnHistory (buildActionGraph ports context effectExecutor checkpointStore) runContext watch
        checkpointing vars shared) result := by
  obtain ⟨calls, hrun⟩ := executeNode_run h
  cases hrun with
  | notReady hrdy =>
    rw [turnHistory_notReady hrdy h]
    exact .stopped .plan vars.state
  | unprepared hrdy hprep => exact unprepared_moves hcur hrdy hprep
  | undispatched hrdy hprep hdisp =>
    rw [turnHistory_prepared hrdy hprep hdisp.extends_calls h, hcur]
    cases (plan_prepared hprep hcur).2 with
    | noAction => cases hdisp
    | asked => cases hdisp
    | direct usage ids conversations hmrg hadm howner =>
      exact .direct _ ids conversations hmrg hadm howner (dispatch_of_run hdisp)
  | misrouted hrdy hprep hdisp hsel =>
    obtain ⟨rfl, -⟩ := plan_prepared hprep hcur
    cases hsel
  | done hrdy hprep hdisp hsel =>
    obtain ⟨rfl, hplanned⟩ := plan_prepared hprep hcur
    cases hsel
    rw [turnHistory_prepared hrdy hprep hdisp.extends_calls h, hcur]
    cases hplanned with
    | noAction usage reason ids conversations hout hmrg =>
      cases hdisp
      exact ⟨.execute, rfl, .noAction _ reason ids conversations hout hmrg⟩
    | asked usage ids conversations request hmrg hadm howner =>
      cases hdisp
      exact ⟨rfl, fun next hnext => .asked _ ids conversations hmrg hadm howner hnext⟩
    | direct usage ids conversations hmrg hadm howner =>
      exact ⟨.execute, rfl,
        .direct _ ids conversations hmrg hadm howner (dispatch_of_run hdisp)⟩

theorem execute_moves (hcur : vars.current = Stage.execute.id) :
    TurnMoves .execute vars.state
      (turnHistory (buildActionGraph ports context effectExecutor checkpointStore) runContext watch
        checkpointing vars shared) result := by
  obtain ⟨calls, hrun⟩ := executeNode_run h
  cases hrun with
  | notReady hrdy =>
    rw [turnHistory_notReady hrdy h]
    exact .stopped .execute vars.state
  | unprepared hrdy hprep => exact unprepared_moves hcur hrdy hprep
  | undispatched hrdy hprep hdisp =>
    rw [turnHistory_prepared hrdy hprep hdisp.extends_calls h, hcur]
    obtain ⟨-, rfl, rfl, hupds, -⟩ := execute_prepared hprep hcur
    rw [hupds]
    rcases execute_effects vars.state with ⟨hnone, -⟩ | ⟨proposal, hsome, hph, hpend⟩
    · rw [hnone] at hdisp
      cases hdisp
    · rw [hsome] at hdisp
      exact .carriedOut _ hph hpend (dispatch_of_run hdisp)
  | misrouted hrdy hprep hdisp hsel =>
    obtain ⟨rfl, -⟩ := execute_prepared hprep hcur
    cases hsel
  | done hrdy hprep hdisp hsel =>
    obtain ⟨rfl, rfl, hans, hupds, hreq⟩ := execute_prepared hprep hcur
    cases hsel
    rw [turnHistory_prepared hrdy hprep hdisp.extends_calls h, hcur, hupds, hreq]
    rcases execute_effects vars.state with ⟨hnone, hidle⟩ | ⟨proposal, hsome, hph, hpend⟩
    · rw [hans, hnone] at hdisp
      cases hdisp
      exact ⟨.decide, rfl, .idle _ hidle⟩
    · rw [hans, hsome] at hdisp
      exact ⟨.decide, rfl, .carriedOut _ hph hpend (dispatch_of_run hdisp)⟩

theorem decide_moves (hcur : vars.current = Stage.decide.id) :
    TurnMoves .decide vars.state
      (turnHistory (buildActionGraph ports context effectExecutor checkpointStore) runContext watch
        checkpointing vars shared) result := by
  obtain ⟨calls, hrun⟩ := executeNode_run h
  cases hrun with
  | notReady hrdy =>
    rw [turnHistory_notReady hrdy h]
    exact .stopped .decide vars.state
  | unprepared hrdy hprep => exact unprepared_moves hcur hrdy hprep
  | undispatched hrdy hprep hdisp =>
    obtain ⟨-, -, heffs, -⟩ := decide_prepared hprep hcur
    rw [heffs] at hdisp
    cases hdisp
  | misrouted hrdy hprep hdisp hsel =>
    obtain ⟨rfl, -, -, -⟩ := decide_prepared hprep hcur
    rw [selectNext_branch rfl (replanTargets_select _)] at hsel
    cases hsel
  | @done shared₁ shared₂ _ _ _ _ _ candidate _ _ _ hrdy hprep hdisp hsel =>
    obtain ⟨rfl, hdec, heffs, hreq⟩ := decide_prepared hprep hcur
    rw [heffs] at hdisp
    cases hdisp
    rw [selectNext_branch rfl (replanTargets_select _)] at hsel
    cases hsel
    have hext := Shared.Extends.observed (.routeSelected vars.current
      (.ok (ReplanRouter.select candidate))) shared₂
    rw [turnHistory_prepared hrdy hprep hext h, hcur, hreq]
    exact ⟨routeTarget _, rfl, .decided _ hdec⟩

theorem respond_moves (hcur : vars.current = Stage.respond.id) :
    TurnMoves .respond vars.state
      (turnHistory (buildActionGraph ports context effectExecutor checkpointStore) runContext watch
        checkpointing vars shared) result := by
  obtain ⟨calls, hrun⟩ := executeNode_run h
  cases hrun with
  | notReady hrdy =>
    rw [turnHistory_notReady hrdy h]
    exact .stopped .respond vars.state
  | unprepared hrdy hprep => exact unprepared_moves hcur hrdy hprep
  | undispatched hrdy hprep hdisp =>
    obtain ⟨-, -, -, heffs⟩ := respond_prepared hprep hcur
    rw [heffs] at hdisp
    cases hdisp
  | misrouted hrdy hprep hdisp hsel =>
    obtain ⟨rfl, hout, -, heffs⟩ := respond_prepared hprep hcur
    rw [heffs] at hdisp
    cases hdisp
    rw [selectNext, if_neg (by simpa [Option.isSome_iff_ne_none] using hout)] at hsel
    cases hsel
  | done hrdy hprep hdisp hsel =>
    obtain ⟨rfl, hout, hmove, heffs⟩ := respond_prepared hprep hcur
    rw [heffs] at hdisp
    cases hdisp
    rw [selectNext, if_neg (by simpa [Option.isSome_iff_ne_none] using hout)] at hsel
    cases hsel
    rw [turnHistory_prepared hrdy hprep (.refl _) h, hcur, settle, List.append_nil]
    exact hmove

/-- Every turn of the runtime at a node of the graph is a move of the machine. -/
theorem turn_moves (hcur : vars.current = stage.id) :
    TurnMoves stage vars.state
      (turnHistory (buildActionGraph ports context effectExecutor checkpointStore) runContext watch
        checkpointing vars shared) result := by
  cases stage with
  | plan => exact plan_moves h hcur
  | execute => exact execute_moves h hcur
  | decide => exact decide_moves h hcur
  | respond => exact respond_moves h hcur

end Turns

end Turn

/-! ## Runs -/

/-- The machine stands where the run stands, in the state of the run. -/
inductive Represents : Position → RunState SecretaryAgentState W S → Prop where
  | active {segment : Segment SecretaryAgentState W S} {vars : LoopVars SecretaryAgentState}
      (stage : Stage) (hgr : IsActionGraph segment.runtime) (hcur : vars.current = stage.id) :
      Represents (.atNode stage vars.state) (.active segment vars)
  | suspended {checkpoint : AgentCheckpoint SecretaryAgentState}
      (hnext : checkpoint.position.nextNode = l0ExecuteId) :
      Represents (.waiting checkpoint.state) (.suspended checkpoint)
  | completed (result : GraphRunResult SecretaryAgentState) :
      Represents (.completed result.state) (.completed result)
  | failed (error : CheckpointRunError SecretaryAgentState) : Represents .failed (.failed error)

variable {position : Position}

theorem Represents.state? {state : RunState SecretaryAgentState W S} (h : Represents position state) :
    position.state? = state.state? := by
  cases h <;> rfl

/-- A recorded step of the runtime is a move of the machine, or nothing that the machine sees. -/
theorem recordedStep_moved {one other : Recorded SecretaryAgentState W S}
    (hrepr : Represents position one.1.1) (h : RecordedStep IsActionGraph one other) :
    ∃ position', Represents position' other.1.1 ∧
      ((position' = position ∧ other.2 = one.2) ∨ Moved (position, one.2) (position', other.2)) := by
  cases h with
  | turn history watch hturn haft =>
    cases hrepr with
    | active stage hgr hcur =>
      obtain ⟨ports, context, effectExecutor, checkpointStore, hrtm⟩ := id hgr
      rw [hrtm] at hturn
      have hmoves := turn_moves hturn hcur
      rw [← hrtm] at hmoves
      cases haft with
      | goto vars shared =>
        obtain ⟨next, hnext, hmove⟩ := hmoves
        exact ⟨_, .active next hgr hnext, .inr (.move history hmove)⟩
      | suspend hsave =>
        obtain ⟨hnext, hmove⟩ := hmoves
        obtain ⟨-, ⟨hckpt, -⟩ | ⟨hfail, -⟩ | ⟨_, hfail⟩⟩ := saveCheckpoint_spec hsave
        · cases hckpt
          exact ⟨_, .suspended hnext, .inr (.move history (hmove _ (.inl rfl)))⟩
        · cases hfail
        · cases hfail
      | unsaved hsave =>
        exact ⟨_, .failed _, .inr (.move history (hmoves.2 _ (.inr rfl)))⟩
      | finish vars shared => exact ⟨_, .completed _, .inr (.move history hmoves)⟩
      | fail error shared => exact ⟨_, .failed _, .inr (.move history hmoves)⟩
  | @resume checkpoint state runtime history shared input trace hrtm hsto hchk hin =>
    cases hrepr with
    | suspended hnext =>
      refine ⟨_, .active .execute hrtm hnext, .inr (.move history ?_)⟩
      obtain ⟨next, hone, hnil⟩ := applyAll_cons.mp
        (AgentState.applyUpdates_eq_ok.mp (applyResumeInput_ok.mp hin))
      obtain rfl := AgentState.applyAll_nil_ok.mp hnil
      obtain ⟨business, happ, hst⟩ := AgentState.applyOne_business_ok.mp hone
      obtain ⟨⟨pending, hpend, hid⟩, rfl⟩ :=
        SecretaryAgentState.applyUpdate_approvalResolved.mp happ
      rw [show (resumeVars checkpoint state).state = withPhase checkpoint.state
        (SecretaryAgentState.phaseAfter input.decision) from hst]
      exact .resumed input hpend hid
  | elsewhere => exact ⟨position, hrepr, .inl ⟨rfl, rfl⟩⟩

/-- The start of a run on an action graph, with a new state. -/
inductive Fresh : RunConfig SecretaryAgentState W S → Prop where
  | new {runtime : GraphRuntime SecretaryAgentState W S} {shared : Shared SecretaryAgentState W S}
      {goal : String} {invariants : List String} {evidence : List SourceEventId}
      {recentEvents : List RecentEventRef} {business : SecretaryAgentState} (context : RunContext)
      (checkpointing : Bool) (hrtm : IsActionGraph runtime)
      (hnew : SecretaryAgentState.new goal invariants evidence recentEvents = .ok business)
      (hsteps : shared.usage.steps = 0) (hevs : shared.events = []) :
      Fresh (.active ⟨runtime, context, checkpointing⟩ (entryVars runtime (.new business)), shared)

/-- The runs on action graphs, with their histories. -/
abbrev ActionRuns : Recorded SecretaryAgentState W S → Prop := RecordedRuns Fresh IsActionGraph

/-- Every run of the runtime on an action graph is a run of the machine: with the same history, and
standing where the run stands. -/
theorem actionRuns_machine {run : Recorded SecretaryAgentState W S} (h : ActionRuns run) :
    ∃ position, Represents position run.1.1 ∧ Machine (position, run.2) := by
  refine h.invariant
    (fun run => ∃ position, Represents position run.1.1 ∧ Machine (position, run.2)) ?_ ?_
  · rintro ⟨config, history⟩ ⟨hfr, rfl⟩
    cases hfr with
    | new context checkpointing hrtm hnew hsteps hevs =>
      refine ⟨_, .active .plan hrtm ?_, .initial (.new hnew)⟩
      obtain ⟨ports, actionContext, effectExecutor, checkpointStore, rfl⟩ := hrtm
      rfl
  · rintro one other ⟨position, hrepr, hmach⟩ hstep
    obtain ⟨position', hrepr', ⟨rfl, hhistory⟩ | hmoved⟩ := recordedStep_moved hrepr hstep
    · exact ⟨position', hrepr', by rw [hhistory]; exact hmach⟩
    · exact ⟨position', hrepr', hmach.tail hmoved⟩

section Played

variable {runtime : GraphRuntime SecretaryAgentState W S} {shared : Shared SecretaryAgentState W S}
  {goal : String} {invariants : List String} {evidence : List SourceEventId}
  {recentEvents : List RecentEventRef} {business : SecretaryAgentState} (hrtm : IsActionGraph runtime)
  (hsto : runtime.checkpointStore.isSome = true)
  (hnew : SecretaryAgentState.new goal invariants evidence recentEvents = .ok business)
  (hsteps : shared.usage.steps = 0) (hevs : shared.events = []) (watch : Interruption W) (fuel : Nat)
  (inputs : List SecretaryActionResumeInput) (context : RunContext)
include hrtm hsto hnew hsteps hevs

theorem play_actionRuns : ActionRuns
    (play runtime watch fuel inputs context (entryVars runtime (.new business)) shared []) :=
  ⟨_, ⟨.new context true hrtm hnew hsteps hevs, rfl⟩, play_recorded hrtm hsto inputs context _ shared []⟩

/-- What the runtime plays on an action graph, however it is interrupted and resumed, is a run of the
machine. -/
theorem play_refines : ∃ position,
    Represents position
      (play runtime watch fuel inputs context (entryVars runtime (.new business)) shared []).1.1 ∧
    Machine (position,
      (play runtime watch fuel inputs context (entryVars runtime (.new business)) shared []).2) :=
  actionRuns_machine (play_actionRuns hrtm hsto hnew hsteps hevs watch fuel inputs context)

end Played

end Graphs

/-! ## A scripted secretary

What the planner, the executor, the retriever and the memory answer is written in the world; the
Owner's decisions are given in their order. `Scripted.format` does what `serde_json` does on the texts
of these runs, none of which has a character to escape. -/

namespace Scripted

/-! ## JSON -/

def jsonString (text : String) : String := "\"" ++ text ++ "\""

def jsonArray (items : List String) : String := "[" ++ String.intercalate "," items ++ "]"

def jsonObject (fields : List (String × String)) : String :=
  "\x7b" ++ String.intercalate "," (fields.map fun field => jsonString field.1 ++ ":" ++ field.2) ++
    "\x7d"

def jsonBool (value : Bool) : String := if value then "true" else "false"

/-- A list with `skip_serializing_if = "Vec::is_empty"`. -/
def jsonList {T : Type} (key : String) (toJson : T → String) (items : List T) :
    List (String × String) :=
  if items.isEmpty then [] else [(key, jsonArray (items.map toJson))]

/-- A field with `skip_serializing_if = "Option::is_none"`. -/
def jsonOption {T : Type} (key : String) (toJson : T → String) (item : Option T) :
    List (String × String) :=
  item.elim [] fun item => [(key, toJson item)]

def jsonConversation (conversation : ConversationRef) : String :=
  jsonObject [("kind", jsonString conversation.kind.asStr), ("id", jsonString conversation.id)]

def jsonParticipant (participant : ParticipantRef) : String :=
  jsonObject
    [("platform_kind", jsonString (match participant.platformKind with
        | .owner => "Owner"
        | .officialBot => "OfficialBot"
        | .external => "External")),
      ("stable_id", jsonString participant.stableId)]

def jsonOpenReference (reference : OpenReference) : String :=
  jsonObject
    [("kind", jsonString "ambiguous_reference"), ("label", jsonString reference.label),
      ("source_event_ids",
        jsonArray (reference.sourceEventIds.map fun id => jsonString id.asStr)),
      ("reason", jsonString reference.reason)]

def jsonTrigger (trigger : RetrievalTriggerKind) : String :=
  jsonString (match trigger with
    | .initialOwnerCommand => "initial_owner_command"
    | .replanObservation => "replan_observation"
    | .memoryConflictReRead => "memory_conflict_re_read")

def jsonReason (reason : MemoryConflictReasonCode) : String :=
  jsonString (match reason with
    | .activeFactPayloadDiffers => "active_fact_payload_differs"
    | .reReadSourcesInvalidated => "re_read_sources_invalidated"
    | .reReadAccountMismatch => "re_read_account_mismatch"
    | .reReadFailed => "re_read_failed")

def jsonConflict (conflict : MemoryCandidateConflictContext) : String :=
  jsonObject
    [("candidate_id", jsonString conflict.candidateId.asStr),
      ("fact_id", jsonString conflict.factId.asStr), ("fact_kind", jsonString conflict.factKind),
      ("reason_code", jsonReason conflict.reasonCode), ("summary", jsonString conflict.summary),
      ("source_event_ids",
        jsonArray (conflict.sourceEventIds.map fun id => jsonString id.asStr)),
      ("fact_summary", conflict.factSummary.elim "null" jsonString),
      ("re_read_valid", jsonBool conflict.reReadValid)]

/-- `serde_json::to_string` of a working context. -/
def jsonContext (context : AgentWorkingContextV1) : String :=
  jsonObject
    ([("version", toString context.version)] ++
      jsonList "selected_evidence_refs" (fun id => jsonString id.asStr)
        context.selectedEvidenceRefs ++
      jsonList "resolved_conversation_refs" jsonConversation context.resolvedConversationRefs ++
      jsonList "resolved_thread_refs" (fun id => jsonString id.asStr) context.resolvedThreadRefs ++
      jsonList "resolved_participant_refs" jsonParticipant context.resolvedParticipantRefs ++
      jsonList "resolved_fact_refs" (fun id => jsonString id.asStr) context.resolvedFactRefs ++
      jsonList "open_references" jsonOpenReference context.openReferences ++
      jsonOption "last_retrieval" jsonTrigger context.lastRetrieval ++
      jsonOption "conflict" jsonConflict context.conflict)

/-! ## The receipts of the runs -/

/-- The result of a status query that named no event. -/
def statusResult : QueryEffectResultV1 where
  version := 1
  toolKind := .getSecretaryStatus
  summary := "运行正常"
  sourceEventIds := []
  eventCount := 0
  typedEvents := []
  ambiguous := false
  nextCursor := none

def statusText : String :=
  jsonObject [("version", "1"), ("tool_kind", jsonString "get_secretary_status"),
    ("summary", jsonString "运行正常"), ("event_count", "0"), ("ambiguous", "false")]

def newEvent : SourceEventId := ⟨"evt-new", by decide⟩

/-- The result of a search that found one event. -/
def searchResult : QueryEffectResultV1 where
  version := 1
  toolKind := .searchRecentEvents
  summary := "命中一条"
  sourceEventIds := [newEvent]
  eventCount := 1
  typedEvents := []
  ambiguous := false
  nextCursor := none

def searchText : String :=
  jsonObject [("version", "1"), ("tool_kind", jsonString "search_recent_events"),
    ("summary", jsonString "命中一条"), ("source_event_ids", jsonArray [jsonString "evt-new"]),
    ("event_count", "1"), ("ambiguous", "false")]

/-- The result of a reference that may mean more than one event. -/
def referenceResult : QueryEffectResultV1 where
  version := 1
  toolKind := .resolveReference
  summary := "有多个候选"
  sourceEventIds := [newEvent]
  eventCount := 1
  typedEvents := []
  ambiguous := true
  nextCursor := none

def referenceText : String :=
  jsonObject [("version", "1"), ("tool_kind", jsonString "resolve_reference"),
    ("summary", jsonString "有多个候选"), ("source_event_ids", jsonArray [jsonString "evt-new"]),
    ("event_count", "1"), ("ambiguous", "true")]

/-- The conflict that the approval of the candidate `cand-1` ran into. -/
def conflictReport : MemoryCandidateConflictResultV1 where
  version := 1
  candidateId := ⟨"cand-1"⟩
  factId := ⟨"fact-1"⟩
  reasonCode := .activeFactPayloadDiffers
  summary := "与现行记忆不同"

def conflictText : String :=
  jsonObject [("version", "1"), ("candidate_id", jsonString "cand-1"),
    ("fact_id", jsonString "fact-1"), ("reason_code", jsonReason .activeFactPayloadDiffers),
    ("summary", jsonString "与现行记忆不同")]

/-- `serde_json` on what these runs read and write. -/
scoped instance format : ActionFormat where
  serializedLen := fun context => (jsonContext context).utf8ByteSize
  parseQueryEffectResult := fun text =>
    if text = statusText then some statusResult
    else if text = searchText then some searchResult
    else if text = referenceText then some referenceResult
    else none
  parseConflictResult := fun text => if text = conflictText then some conflictReport else none
  isTimezone := fun name => decide (name = "Asia/Shanghai")
  parseArtifacts := fun _ => none
  parseOptionalArtifact := fun _ => none
  parseArtifact := fun _ => none
  draftLen := fun _ => none

/-! ## The world of a run -/

/-- What the planner and the executor answer, one after the other, what the retriever finds and
what the memory holds. -/
structure Script where
  planned : List PlannerOutput
  receipts : List SecretaryActionReceipt
  found : List EventSearchResult := []
  fact : Option MemoryFactView := none

def ports : ActionPorts Script where
  plan := fun _ script =>
    match script.planned with
    | [] => (.error .timeout, script)
    | output :: planned => (.ok output, { script with planned })
  retriever := some {
    searchEvents := fun _ _ script => (.ok script.found, script)
    listRecentEventViews := fun _ _ _ script => (.ok [], script) }
  evidence := some fun _ _ script => (.ok script.fact, script)
  newProposalId := fun script => ("3f2a", script)

def executor : EffectExecutor SecretaryAgentState Script where
  execute := fun _ _ script =>
    match script.receipts with
    | [] => .done (.error ⟨.permanent, "no receipt"⟩, script)
    | receipt :: receipts => .done (.ok receipt, { script with receipts })

def account : SourceAccountRef := ⟨.napCat, "10001"⟩

theorem commandEvent_notBlank : isBlank "evt-cmd" = false := by decide

def commandEvent : SourceEventId := ⟨"evt-cmd", commandEvent_notBlank⟩

/-- The command of the Owner that starts the runs. -/
def command : ActionRunContext where
  account := account
  commandSourceEventId := commandEvent
  commandText := "帮我看看"
  conversationId := "owner-1"
  occurredAtUnixSecs := 1700000000
  timezoneOffsetSecs := 28800
  timezone := "Asia/Shanghai"
  nowUnixSecs := 1700000000
  isLocalLoopback := true

def runtime : GraphRuntime SecretaryAgentState Script (InMemoryCheckpointState SecretaryAgentState) :=
  buildActionGraph ports command executor (InMemoryCheckpointStore.store SecretaryAgentState)

theorem maxSteps_ne_zero : (16 : UInt32) ≠ 0 := by decide

def budget : RunBudget where
  maxSteps := ⟨16, maxSteps_ne_zero⟩
  maxDuration := 120

def runContext : RunContext := ⟨⟨⟨1⟩⟩, budget, {}⟩

def quiet : Interruption Script := ⟨fun _ => none, fun _ => none⟩

def newState : SecretaryAgentState where
  goal := "帮我看看"
  phase := .observe
  invariants := []
  evidenceSourceEventIds := [commandEvent]
  recentEvents := []
  pendingProposal := none
  lastReceipt := none
  responseDraft := none
  replanRound := 0
  planningObservations := []
  workingContext := none

theorem newState_new :
    SecretaryAgentState.new "帮我看看" [] [commandEvent] [] = .ok newState := rfl

def start (script : Script) :
    Shared SecretaryAgentState Script (InMemoryCheckpointState SecretaryAgentState) where
  world := script
  store := InMemoryCheckpointStore.new
  uuids := fun n => ⟨BitVec.ofNat 128 n⟩

/-- The run of a script with the Owner's decisions, for at most 16 turns at a time. -/
def played (script : Script) (decisions : List SecretaryActionResumeInput) :
    Recorded SecretaryAgentState Script (InMemoryCheckpointState SecretaryAgentState) :=
  play runtime quiet 16 decisions runContext (entryVars runtime (.new newState)) (start script) []

theorem isActionGraph : IsActionGraph runtime := ⟨ports, command, executor, _, rfl⟩

theorem played_runs (script : Script) (decisions : List SecretaryActionResumeInput) :
    ActionRuns (played script decisions) :=
  play_actionRuns isActionGraph rfl newState_new rfl rfl quiet 16 decisions runContext

/-! ## What the planner proposes and the Owner decides -/

def proposal (id : String) (action : SecretaryAction) : SecretaryActionProposal where
  proposalId := id
  action := action
  rationale := "Owner 的命令"
  sourceEventIds := [commandEvent]
  idempotencyKey := some id

def statusProposal : SecretaryActionProposal := proposal "p-status" .getSecretaryStatus

def searchProposal : SecretaryActionProposal :=
  proposal "p-search" (.searchRecentEvents "牛奶" 10 none none none none none)

def referenceProposal : SecretaryActionProposal :=
  proposal "p-reference" (.resolveReference "那个" none none)

def taskProposal : SecretaryActionProposal :=
  proposal "p-task" (.createTask "买牛奶" none "Asia/Shanghai")

def memoryProposal : SecretaryActionProposal :=
  proposal "p-memory" (.approveMemoryCandidate ⟨"cand-1"⟩ 1 "确认")

def questionProposal : SecretaryActionProposal :=
  proposal "p-question" (.askOwnerClarification "以哪一条为准？")

def decision (id : String) (decision : SecretaryApprovalDecision) : SecretaryActionResumeInput where
  proposalId := id
  decision := decision
  commandSourceEventId := commandEvent
  approvalSourceEventId := none

def receipt (id resultRef : String) : SecretaryActionReceipt := ⟨id, resultRef, none⟩

/-- A task is proposed; where the Owner approves it, it is created. -/
def taskScript : Script where
  planned := [.proposal taskProposal]
  receipts := [receipt "p-task" "task-1"]

/-- The run is suspended, and goes on with the approval of the task. -/
theorem play_refines_task : ∃ position,
    Represents position (played taskScript [decision "p-task" .approve]).1.1 ∧
      Machine (position, (played taskScript [decision "p-task" .approve]).2) := by
  have hsteps : (start taskScript).usage.steps = 0 := rfl
  unfold played
  exact play_refines isActionGraph rfl newState_new hsteps rfl quiet 16 _ runContext

end Scripted

end ServerRS.ActionGraph

import ServerRS.ActionGraph.Graph
import ServerRS.AgentCore.History

/-!
# The action graph as a machine

A run of the action graph, told without the runtime: at which node it stands, the state it
holds, and what its history says about each move. `Move` has one constructor for each way in
which a node's turn can end, with the whole state that it leaves.

`Refinement.lean` shows that the runtime makes no other moves; what the following modules say
about runs is proved of this machine, by one case for each constructor.
-/

namespace ServerRS.ActionGraph

open Lib AgentCore

abbrev ActionState := AgentState SecretaryAgentState

inductive Stage where
  | plan
  | execute
  | decide
  | respond
deriving DecidableEq

def Stage.id : Stage → NodeId
  | .plan => planId
  | .execute => l0ExecuteId
  | .decide => replanDecisionId
  | .respond => buildResponseId

theorem Stage.id_injective {a b : Stage} (h : a.id = b.id) : a = b := by
  revert h
  cases a <;> cases b <;> decide

/-- Where a run stands between two turns, and its state. -/
inductive Position where
  | atNode (stage : Stage) (state : ActionState)
  | waiting (state : ActionState)
  | completed (state : ActionState)
  | failed

def Position.state? : Position → Option ActionState
  | .atNode _ state => some state
  | .waiting state => some state
  | .completed state => some state
  | .failed => none

section Entries

variable [WorkingContextFormat]

abbrev Story := History SecretaryAgentState

/-! ## Entries of a history -/

abbrev called (runStep : RunStep) (stage : Stage) : Entry SecretaryAgentState :=
  .event (.nodeExecuted runStep stage.id)

abbrev dispatched (envelope : EffectEnvelope SecretaryActionEffect)
    (answer : Except EffectError SecretaryActionReceipt) : Entry SecretaryAgentState :=
  .event (.effectExecuted envelope answer)

abbrev routed (route : RouteKey) : Entry SecretaryAgentState :=
  .event (.routeSelected replanDecisionId (.ok route))

/-- An update of the business state was accepted. -/
abbrev recorded (update : SecretaryAgentUpdate) : Entry SecretaryAgentState :=
  .applied (.business update)

abbrev retrieval (ids : List SourceEventId) (conversations : List ConversationRef) :
    WorkingContextUpdate :=
  .initialRetrieval ids conversations .initialOwnerCommand

/-! What an entry says, for each kind of entry that runs are asked about. -/

def call? : Entry SecretaryAgentState → Option NodeId
  | .event (.nodeExecuted _ node) => some node
  | _ => none

def route? : Entry SecretaryAgentState → Option RouteKey
  | .event (.routeSelected _ (.ok route)) => some route
  | _ => none

def draft? : Entry SecretaryAgentState → Option OwnerResponseDraft
  | .applied (.business (SecretaryAgentUpdate.responseReady draft)) => some draft
  | _ => none

def dispatch? : Entry SecretaryAgentState → Option SecretaryActionProposal
  | .event (.effectExecuted envelope _) => some envelope.effect.proposal
  | _ => none

/-- The proposal that was accepted. -/
def acceptance? : Entry SecretaryAgentState → Option SecretaryActionProposal
  | .applied (.business (SecretaryAgentUpdate.proposalAccepted proposal)) => some proposal
  | _ => none

/-- The decision of the Owner that was accepted. -/
def decision? : Entry SecretaryAgentState → Option SecretaryActionResumeInput
  | .applied (.business (SecretaryAgentUpdate.approvalResolved input)) => some input
  | _ => none

/-- The Owner's rejection. -/
def isRejection (entry : Entry SecretaryAgentState) : Bool :=
  (decision? entry).any fun input => input.decision == .reject

/-- The receipt that was accepted. -/
def receipt? : Entry SecretaryAgentState → Option SecretaryActionReceipt
  | .applied (.business (SecretaryAgentUpdate.actionCompleted receipt)) => some receipt
  | _ => none

variable {runStep : RunStep} {stage : Stage} {route : RouteKey} {update : SecretaryAgentUpdate}
  {envelope : EffectEnvelope SecretaryActionEffect}
  {answer : Except EffectError SecretaryActionReceipt} {text : String}

@[simp] theorem dispatch?_dispatched :
    dispatch? (dispatched envelope answer) = some envelope.effect.proposal := rfl

@[simp] theorem dispatch?_applied {update : AgentUpdate SecretaryAgentUpdate} :
    dispatch? (.applied update) = none := rfl

variable {entry : Entry SecretaryAgentState}

theorem dispatch?_eq_some {proposal : SecretaryActionProposal} (h : dispatch? entry = some proposal) :
    ∃ envelope answer, entry = dispatched envelope answer ∧ envelope.effect.proposal = proposal := by
  unfold dispatch? at h
  split at h
  · next envelope answer =>
    cases h
    exact ⟨envelope, answer, rfl, rfl⟩
  · cases h

theorem decision?_eq_some {input : SecretaryActionResumeInput} (h : decision? entry = some input) :
    entry = recorded (.approvalResolved input) := by
  unfold decision? at h
  split at h
  · cases h
    rfl
  · cases h

theorem receipt?_eq_some {receipt : SecretaryActionReceipt} (h : receipt? entry = some receipt) :
    entry = recorded (.actionCompleted receipt) := by
  unfold receipt? at h
  split at h
  · cases h
    rfl
  · cases h

@[simp] theorem acceptance?_event {event : Event SecretaryAgentState} :
    acceptance? (.event event) = none := rfl

end Entries

/-! ## States -/

def withContext (state : ActionState) (context : AgentWorkingContextV1) : ActionState :=
  { state with business := { state.business with workingContext := some context } }

def withProposal (state : ActionState) (proposal : SecretaryActionProposal) : ActionState :=
  { state with business :=
    { state.business with pendingProposal := some proposal, phase := .execute } }

def withPhase (state : ActionState) (phase : SecretaryAgentPhase) : ActionState :=
  { state with business := { state.business with phase } }

/-- The state after the action of `pending` is done. -/
def withReceipt (state : ActionState) (pending : SecretaryActionProposal)
    (receipt : SecretaryActionReceipt) : ActionState :=
  { state with business :=
    { state.business with
      lastReceipt := some { receipt with toolKind := some pending.action.kind }
      pendingProposal := none
      phase := .updateState } }

def withOutcome (state : ActionState) (text : String) : ActionState :=
  { state with outcome := some (.respond text) }

def withDraft (state : ActionState) (draft : OwnerResponseDraft) : ActionState :=
  { state with business := { state.business with responseDraft := some draft, phase := .respond } }

/-- The state after an observation of a proposal that had none. -/
def withObservation (state : ActionState) (obs : PlannerToolObservation) : ActionState :=
  { state with business :=
    { state.business with
      planningObservations := state.business.planningObservations ++ [obs]
      replanRound := saturatingSucc state.business.replanRound
      phase := .updateState } }

/-! ## Parts of a turn -/

section Parts

/-- The proposal passed the gates that depend on the state. -/
structure Admits (business : SecretaryAgentState) (proposal : SecretaryActionProposal) : Prop where
  valid : validateActionProposal proposal = .ok ()
  references : (business.workingContext.all fun working => working.openReferences.isEmpty) = true ∨
    proposal.action.isClarification = true
  conflict : (business.workingContext.bind AgentWorkingContextV1.conflict).isNone = true ∨
    isAllowedAfterMemoryConflict proposal.action = true

/-- A receipt is one for the pending proposal. -/
structure Answers (receipt : SecretaryActionReceipt) (pending : SecretaryActionProposal) : Prop where
  id : pending.proposalId = receipt.proposalId
  kind : (receipt.toolKind.all fun kind => decide (kind = pending.action.kind)) = true

variable [ActionFormat]

/-- What the receipt of the last action asks of the node `replan_decision`. -/
inductive Finding where
  | nothing
  | conflict (result : MemoryCandidateConflictResultV1)
  | observation (obs : PlannerToolObservation)

def finding (business : SecretaryAgentState) : Finding :=
  match business.lastReceipt with
  | none => .nothing
  | some receipt =>
    match receipt.toolKind with
    | none => .nothing
    | some toolKind =>
      match conflictResult receipt with
      | some result =>
        if alreadyRecorded business result.candidateId then .nothing else .conflict result
      | none =>
        match ReplanDecisionNode.queryResult receipt toolKind with
        | some result => .observation (result.toObservation receipt.proposalId true)
        | none => .nothing

/-- The dispatch of the effect of `proposal` from `state`: its history, and the state after it
unless the run is over. -/
inductive Dispatch (proposal : SecretaryActionProposal) (state : ActionState) :
    Story → Option ActionState → Prop where
  | inactive : Dispatch proposal state [] none
  /-- The executor fails, or the state refuses its receipt. -/
  | failed {envelope : EffectEnvelope SecretaryActionEffect}
      (answer : Except EffectError SecretaryActionReceipt) (heff : envelope.effect = ⟨proposal⟩) :
      Dispatch proposal state [dispatched envelope answer] none
  | completed {envelope : EffectEnvelope SecretaryActionEffect}
      {pending : SecretaryActionProposal} {receipt : SecretaryActionReceipt}
      (heff : envelope.effect = ⟨proposal⟩)
      (hpend : state.business.pendingProposal = some pending) (hanss : Answers receipt pending) :
      Dispatch proposal state
        [dispatched envelope (.ok receipt), recorded (.actionCompleted receipt)]
        (some (withReceipt state pending receipt))

/-- What leads back to `plan`: a conflict that is recorded, or a query whose observation is there,
as long as there are rounds left. -/
def Returns (business : SecretaryAgentState) : Prop :=
  ∃ receipt toolKind, business.lastReceipt = some receipt ∧ receipt.toolKind = some toolKind ∧
    ((∃ result, conflictResult receipt = some result ∧
        alreadyRecorded business result.candidateId = true) ∨
      conflictResult receipt = none ∧ isReplanObservationTool toolKind = true ∧
        business.replanRound < MAX_REPLAN_ROUNDS ∧ business.HasObservation receipt.proposalId)

variable {state state' : ActionState} {result : MemoryCandidateConflictResultV1}
  {business : SecretaryAgentState} {updates : List (AgentUpdate SecretaryAgentUpdate)}
  {proposal : SecretaryActionProposal} {story : Story} {position position' : Position}

theorem select_eq_continue :
    ReplanRouter.select state = continueRoute ↔ state.outcome = none ∧ Returns state.business := by
  have hne : finishRoute ≠ continueRoute := by decide
  unfold ReplanRouter.select Returns
  dsimp only
  cases hout : state.outcome with
  | some outcome => simp [hne]
  | none =>
    cases hrcp : state.business.lastReceipt with
    | none => simp [hne]
    | some receipt =>
      cases hkind : receipt.toolKind with
      | none => simp [hkind, hne]
      | some toolKind =>
        cases hconf : conflictResult receipt with
        | some result => simp [hkind, hconf, hne]
        | none =>
          simp only [Option.isSome_none, Bool.false_eq_true, if_false, Option.some.injEq,
            exists_and_left, true_and, exists_eq_left', hkind, hconf, reduceCtorEq, false_and,
            exists_false, false_or]
          split
          · next htool => simp [hne, Bool.not_eq_true' _ ▸ htool]
          · next htool =>
            split
            · next hrd => simp [hne, UInt8.not_lt.mpr hrd]
            · next hrd =>
              rw [Bool.not_eq_true, Bool.not_eq_false'] at htool
              simp [htool, UInt8.not_le.mp hrd, SecretaryAgentState.HasObservation, hne]

theorem conflictResult_kind {receipt : SecretaryActionReceipt}
    (h : conflictResult receipt = some result) :
    receipt.toolKind = some .approveMemoryCandidate := by
  unfold conflictResult at h
  split at h
  · assumption
  · cases h

theorem finding_conflict (h : finding business = .conflict result) :
    ∃ receipt toolKind, business.lastReceipt = some receipt ∧ receipt.toolKind = some toolKind ∧
      conflictResult receipt = some result ∧ alreadyRecorded business result.candidateId = false := by
  unfold finding at h
  split at h
  · cases h
  · next receipt hrcp =>
    split at h
    · cases h
    · next toolKind hkind =>
      split at h
      · next found hconf =>
        split at h
        · cases h
        · next hrecd =>
          cases h
          exact ⟨receipt, toolKind, hrcp, hkind, hconf, Bool.not_eq_true _ ▸ hrecd⟩
      · split at h <;> cases h

theorem finding_observation {obs : PlannerToolObservation} (h : finding business = .observation obs) :
    ∃ receipt toolKind result, business.lastReceipt = some receipt ∧
      receipt.toolKind = some toolKind ∧ conflictResult receipt = none ∧
      ReplanDecisionNode.queryResult receipt toolKind = some result ∧
      obs = result.toObservation receipt.proposalId true := by
  unfold finding at h
  split at h
  · cases h
  · next receipt hrcp =>
    split at h
    · cases h
    · next toolKind hkind =>
      split at h
      · split at h <;> cases h
      · next hconf =>
        split at h
        · next result hquery =>
          cases h
          exact ⟨receipt, toolKind, result, hrcp, hkind, hconf, hquery, rfl⟩
        · cases h

/-- What the node `replan_decision` puts into the state. -/
inductive Decision (state : ActionState) : List (AgentUpdate SecretaryAgentUpdate) → ActionState → Prop
    where
  | nothing (h : state.outcome.isSome = true ∨ finding state.business = .nothing) :
      Decision state [] state
  | conflict {result : MemoryCandidateConflictResultV1} {conflict : MemoryCandidateConflictContext}
      {context : AgentWorkingContextV1} (hout : state.outcome = none)
      (hfdg : finding state.business = .conflict result)
      (hcand : conflict.candidateId = result.candidateId)
      (hmrg : (state.business.workingContext.getD {}).merge (.conflictReRead conflict) =
        .ok context) :
      Decision state [.business (.workingContext (.conflictReRead conflict))]
        (withContext state context)
  | repeated {obs : PlannerToolObservation} {context : AgentWorkingContextV1}
      (hout : state.outcome = none) (hfdg : finding state.business = .observation obs)
      (hval : validateToolObservation obs = .ok ())
      (hhas : state.business.HasObservation obs.proposalId)
      (hmrg : (state.business.workingContext.getD {}).merge (.replanEvidence obs.sourceEventIds []
        (obs.typedEvents.map fun event => ⟨event.actorKind, event.actorId⟩) []
        (ReplanDecisionNode.openReferences obs)) = .ok context) :
      Decision state (ReplanDecisionNode.observationUpdates obs) (withContext state context)
  | observed {obs : PlannerToolObservation} {context : AgentWorkingContextV1}
      (hout : state.outcome = none) (hfdg : finding state.business = .observation obs)
      (hval : validateToolObservation obs = .ok ())
      (hnew : ¬ state.business.HasObservation obs.proposalId)
      (hmrg : (state.business.workingContext.getD {}).merge (.replanEvidence obs.sourceEventIds []
        (obs.typedEvents.map fun event => ⟨event.actorKind, event.actorId⟩) []
        (ReplanDecisionNode.openReferences obs)) = .ok context) :
      Decision state (ReplanDecisionNode.observationUpdates obs)
        (withContext (withObservation state obs) context)

/-- What is put into the state is the working context or an observation. -/
theorem Decision.mem_updates (h : Decision state updates state') {entry : Entry SecretaryAgentState}
    (hent : entry ∈ updates.map (Entry.applied (B := SecretaryAgentState))) :
    (∃ update, entry = recorded (.workingContext update)) ∨
      ∃ obs, entry = recorded (.observationAppended obs) := by
  have hobs : ∀ obs : PlannerToolObservation,
      entry ∈ (ReplanDecisionNode.observationUpdates obs).map
        (Entry.applied (B := SecretaryAgentState)) →
      (∃ update, entry = recorded (.workingContext update)) ∨
        ∃ obs, entry = recorded (.observationAppended obs) := by
    intro obs hmem
    rcases List.mem_cons.mp hmem with rfl | hmem
    · exact .inr ⟨obs, rfl⟩
    · rw [List.mem_singleton.mp hmem]
      exact .inl ⟨_, rfl⟩
  cases h with
  | nothing => cases hent
  | @conflict result conflict context =>
    rw [List.map_singleton, List.mem_singleton] at hent
    exact .inl ⟨_, hent⟩
  | @repeated obs context => exact hobs obs hent
  | @observed obs context => exact hobs obs hent

/-- No decision starts the execution of a proposal. -/
theorem Decision.phase (h : Decision state updates state')
    (hph : state.business.phase ≠ .execute) : state'.business.phase ≠ .execute := by
  cases h with
  | nothing => exact hph
  | conflict => exact hph
  | repeated => exact hph
  | observed =>
    intro h
    cases h

/-! ## Moves -/

/-- The position after a dispatch. -/
def proceed (next : Stage) : Option ActionState → Position
  | some state => .atNode next state
  | none => .failed

/-- The node that the router leads to. -/
def routeTarget (state : ActionState) : Stage :=
  if ReplanRouter.select state = continueRoute then .plan else .respond

/-- One move of a run, with what it adds to the history. -/
inductive Move : Position → Story → Position → Prop where
  /-- The turn fails before its node is called. -/
  | stopped (stage : Stage) (state : ActionState) : Move (.atNode stage state) [] .failed
  /-- The node fails, or its answer is refused. -/
  | refused (runStep : RunStep) (stage : Stage) (state : ActionState) :
      Move (.atNode stage state) [called runStep stage] .failed
  /-- `plan` answers that there is nothing to do. -/
  | noAction {state : ActionState} {context : AgentWorkingContextV1} (runStep : RunStep)
      (reason : String) (ids : List SourceEventId) (conversations : List ConversationRef)
      (hout : state.outcome = none)
      (hmrg : (state.business.workingContext.getD {}).merge (retrieval ids conversations) =
        .ok context) :
      Move (.atNode .plan state)
        [called runStep .plan, recorded (.workingContext (retrieval ids conversations)),
          .applied (.setOutcome (.respond reason))]
        (.atNode .execute (withOutcome (withContext state context) reason))
  /-- `plan` accepts a proposal that is carried out at once. -/
  | direct {state : ActionState} {context : AgentWorkingContextV1}
      {proposal : SecretaryActionProposal} {story : Story} {after : Option ActionState}
      (runStep : RunStep) (ids : List SourceEventId) (conversations : List ConversationRef)
      (hmrg : (state.business.workingContext.getD {}).merge (retrieval ids conversations) =
        .ok context)
      (hadm : Admits state.business proposal) (howner : ¬ proposal.action.NeedsOwner)
      (hdisp : Dispatch proposal (withProposal (withContext state context) proposal) story after) :
      Move (.atNode .plan state)
        (called runStep .plan :: recorded (.workingContext (retrieval ids conversations)) ::
          recorded (.proposalAccepted proposal) :: story)
        (proceed .execute after)
  /-- `plan` accepts a proposal that the Owner is asked about; saving the checkpoint may fail. -/
  | asked {state : ActionState} {context : AgentWorkingContextV1}
      {proposal : SecretaryActionProposal} {next : Position} (runStep : RunStep)
      (ids : List SourceEventId) (conversations : List ConversationRef)
      (hmrg : (state.business.workingContext.getD {}).merge (retrieval ids conversations) =
        .ok context)
      (hadm : Admits state.business proposal) (howner : proposal.action.NeedsOwner)
      (hnext : next = .waiting (withProposal (withContext state context) proposal) ∨ next = .failed) :
      Move (.atNode .plan state)
        [called runStep .plan, recorded (.workingContext (retrieval ids conversations)),
          recorded (.proposalAccepted proposal)]
        next
  /-- `l0_execute` has nothing to dispatch. -/
  | idle {state : ActionState} (runStep : RunStep)
      (hidle : state.business.phase = .execute → state.business.pendingProposal = none) :
      Move (.atNode .execute state) [called runStep .execute] (.atNode .decide state)
  /-- `l0_execute` dispatches the proposal that waits. -/
  | carriedOut {state : ActionState} {proposal : SecretaryActionProposal} {story : Story}
      {after : Option ActionState} (runStep : RunStep) (hph : state.business.phase = .execute)
      (hpend : state.business.pendingProposal = some proposal)
      (hdisp : Dispatch proposal state story after) :
      Move (.atNode .execute state) (called runStep .execute :: story) (proceed .decide after)
  /-- `replan_decision` updates the state, and the router reads it. -/
  | decided {state state' : ActionState} {updates : List (AgentUpdate SecretaryAgentUpdate)}
      (runStep : RunStep) (hdec : Decision state updates state') :
      Move (.atNode .decide state)
        (called runStep .decide ::
          (updates.map (Entry.applied (B := SecretaryAgentState)) ++
            [routed (ReplanRouter.select state')]))
        (.atNode (routeTarget state') state')
  /-- `build_response` drafts the response that the planner gave. -/
  | responded {state : ActionState} {text : String} {draft : OwnerResponseDraft}
      (runStep : RunStep) (hout : state.outcome = some (.respond text)) :
      Move (.atNode .respond state) [called runStep .respond, recorded (.responseReady draft)]
        (.completed (withDraft state draft))
  /-- `build_response` drafts a response of the last receipt. -/
  | drafted {state : ActionState} {context : ActionRunContext} {draft : OwnerResponseDraft}
      (runStep : RunStep) (hout : state.outcome = none)
      (hdraft : BuildResponseNode.receiptDraft context state.business = .ok draft) :
      Move (.atNode .respond state)
        [called runStep .respond, recorded (.responseReady draft),
          .applied (.setOutcome (.respond (BuildResponseNode.firstText draft)))]
        (.completed (withOutcome (withDraft state draft) (BuildResponseNode.firstText draft)))
  /-- The Owner decides on the proposal that waits. -/
  | resumed {state : ActionState} {pending : SecretaryActionProposal}
      (input : SecretaryActionResumeInput)
      (hpend : state.business.pendingProposal = some pending)
      (hid : pending.proposalId = input.proposalId) :
      Move (.waiting state) [recorded (.approvalResolved input)]
        (.atNode .execute
          (withPhase state (SecretaryAgentState.phaseAfter input.decision)))

/-- The state after a dispatch that is over is the one with its receipt. -/
theorem Dispatch.after (h : Dispatch proposal state story (some state')) :
    ∃ pending receipt, state.business.pendingProposal = some pending ∧ Answers receipt pending ∧
      recorded (.actionCompleted receipt) ∈ story ∧ state' = withReceipt state pending receipt := by
  cases h with
  | completed heff hpend hanss => exact ⟨_, _, hpend, hanss, by simp, rfl⟩

theorem Dispatch.decisions {after : Option ActionState} (h : Dispatch proposal state story after) :
    story.filterMap decision? = [] := by
  cases h <;> rfl

/-- The Owner's word is a move of its own. -/
theorem Move.decisions (hmove : Move position story position') :
    story.filterMap decision? = [] ∨ ∃ state pending input, position = .waiting state ∧
      state.business.pendingProposal = some pending ∧ pending.proposalId = input.proposalId ∧
      story = [recorded (.approvalResolved input)] ∧ position' = .atNode .execute
        (withPhase state (SecretaryAgentState.phaseAfter input.decision)) := by
  cases hmove with
  | stopped => exact .inl rfl
  | refused => exact .inl rfl
  | noAction => exact .inl rfl
  | direct _ _ _ _ _ _ hdisp => exact .inl hdisp.decisions
  | asked => exact .inl rfl
  | idle => exact .inl rfl
  | carriedOut _ _ _ hdisp => exact .inl hdisp.decisions
  | @decided state state' updates runStep hdec =>
    refine .inl (List.filterMap_eq_nil_iff.mpr fun entry hent => ?_)
    rcases List.mem_cons.mp hent with rfl | hent
    · rfl
    rcases List.mem_append.mp hent with hent | hent
    · rcases hdec.mem_updates hent with ⟨update, rfl⟩ | ⟨obs, rfl⟩ <;> rfl
    · rw [List.mem_singleton.mp hent]
      rfl
  | responded => exact .inl rfl
  | drafted => exact .inl rfl
  | @resumed state pending input hpend hid =>
    exact .inr ⟨state, pending, input, rfl, hpend, hid, rfl, rfl⟩

/-- A receipt is accepted right after its dispatch, by a proposal that needs nobody or by the one that
waited at `l0_execute`; it is the last entry of its move. -/
theorem Move.receipts (hmove : Move position story position') :
    story.filterMap receipt? = [] ∨ ∃ first envelope receipt next state pending,
      story = first ++ [dispatched envelope (.ok receipt), recorded (.actionCompleted receipt)] ∧
        first.filterMap receipt? = [] ∧ envelope.effect = ⟨pending⟩ ∧ Answers receipt pending ∧
        position' = .atNode next (withReceipt state pending receipt) ∧
        (¬ pending.action.NeedsOwner ∨ next = .decide ∧ position = .atNode .execute state ∧
          state.business.phase = .execute ∧ state.business.pendingProposal = some pending) := by
  cases hmove with
  | stopped => exact .inl rfl
  | refused => exact .inl rfl
  | noAction => exact .inl rfl
  | @direct state context proposal story after runStep ids conversations _ _ howner hdisp =>
    cases hdisp with
    | inactive => exact .inl rfl
    | failed => exact .inl rfl
    | @completed envelope pending receipt heff hpend hanss =>
      obtain rfl : proposal = pending := Option.some.inj hpend
      exact .inr ⟨[_, _, _], envelope, receipt, .execute, _, proposal, rfl, rfl, heff, hanss,
        rfl, .inl howner⟩
  | asked => exact .inl rfl
  | idle => exact .inl rfl
  | @carriedOut state proposal story after runStep hph hwait hdisp =>
    cases hdisp with
    | inactive => exact .inl rfl
    | failed => exact .inl rfl
    | @completed envelope pending receipt heff hpend hanss =>
      obtain rfl := Option.some.inj (hwait.symm.trans hpend)
      exact .inr ⟨[_], envelope, receipt, .decide, _, proposal, rfl, rfl, heff, hanss, rfl,
        .inr ⟨rfl, rfl, hph, hwait⟩⟩
  | @decided state state' updates runStep hdec =>
    refine .inl (List.filterMap_eq_nil_iff.mpr fun entry hent => ?_)
    rcases List.mem_cons.mp hent with rfl | hent
    · rfl
    rcases List.mem_append.mp hent with hent | hent
    · rcases hdec.mem_updates hent with ⟨update, rfl⟩ | ⟨obs, rfl⟩ <;> rfl
    · rw [List.mem_singleton.mp hent]
      rfl
  | responded => exact .inl rfl
  | drafted => exact .inl rfl
  | resumed => exact .inl rfl

/-- The only way to `plan` is the route `continue`. -/
theorem Move.to_plan (hmove : Move position story position') (h : position' = .atNode .plan state) :
    state.outcome = none ∧ Returns state.business := by
  have hproc : ∀ {next : Stage} {after : Option ActionState}, next ≠ .plan →
      proceed next after ≠ .atNode .plan state := by
    intro next after hne heq
    cases after with
    | none => cases heq
    | some held =>
      cases heq
      exact hne rfl
  cases hmove with
  | direct => exact absurd h (hproc (by decide))
  | asked _ _ _ _ _ _ hnext => rcases hnext with rfl | rfl <;> cases h
  | carriedOut => exact absurd h (hproc (by decide))
  | @decided _ state' =>
    obtain ⟨htgt, rfl⟩ := Position.atNode.inj h
    unfold routeTarget at htgt
    split at htgt
    · next hsel => exact select_eq_continue.mp hsel
    · cases htgt
  | _ => cases h

/-- `Move` with the whole history. -/
inductive Moved : Position × Story → Position × Story → Prop where
  | move {position position' : Position} {story : Story} (history : Story)
      (hmove : Move position story position') :
      Moved (position, history) (position', history ++ story)

/-- A run begins at `plan`, with a new state. -/
inductive Begun : Position × Story → Prop where
  | new {goal : String} {invariants : List String} {evidence : List SourceEventId}
      {recentEvents : List RecentEventRef} {business : SecretaryAgentState}
      (hnew : SecretaryAgentState.new goal invariants evidence recentEvents = .ok business) :
      Begun (.atNode .plan (.new business), [])

abbrev Machine : Position × Story → Prop := Reachable Begun Moved

/-- At `plan` there is no answer yet. -/
theorem machine_plan {run : Position × Story} (h : Machine run)
    (hplan : run.1 = .atNode .plan state) : state.outcome = none := by
  refine h.invariant (fun run => ∀ state, run.1 = .atNode .plan state → state.outcome = none) ?_ ?_
    state hplan
  · rintro _ ⟨-⟩ state ⟨⟩
    rfl
  · rintro _ _ - ⟨history, hmove⟩ state heq
    exact (hmove.to_plan heq).1

end Parts

end ServerRS.ActionGraph

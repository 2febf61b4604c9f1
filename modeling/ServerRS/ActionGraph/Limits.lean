import ServerRS.ActionGraph.Refinement
import ServerRS.Lib.Timeline

/-!
# The limits of the working context

The working context grows with every retrieval and every observation, and never shrinks. An
update over one of its limits is refused as a whole and ends the run: by design, nothing is cut
off silently. What `plan` and `replan_decision` produce is refused for no other reason
(`plan_accepted_iff`, `observation_accepted_iff`).

An ambiguous observation leaves an open reference, and as long as there is one, `plan` accepts
nothing but a question to the Owner.
-/

namespace ServerRS.ActionGraph

open Lib AgentCore WorkingContext

def withRetrieval (context : AgentWorkingContextV1) (ids : List SourceEventId)
    (conversations : List ConversationRef) : AgentWorkingContextV1 :=
  { context with
    selectedEvidenceRefs := appendUnique context.selectedEvidenceRefs ids
    resolvedConversationRefs := appendUnique context.resolvedConversationRefs conversations
    lastRetrieval := some .initialOwnerCommand }

/-- The working context with the references of an observation. -/
def withEvidence (context : AgentWorkingContextV1) (obs : PlannerToolObservation) :
    AgentWorkingContextV1 :=
  { context with
    selectedEvidenceRefs := appendUnique context.selectedEvidenceRefs obs.sourceEventIds
    resolvedThreadRefs := appendUnique context.resolvedThreadRefs []
    resolvedParticipantRefs := appendUnique context.resolvedParticipantRefs
      (obs.typedEvents.map fun event => ⟨event.actorKind, event.actorId⟩)
    resolvedFactRefs := appendUnique context.resolvedFactRefs []
    openReferences := AgentWorkingContextV1.pushOpenReferences context.openReferences
      (ReplanDecisionNode.openReferences obs)
    lastRetrieval := some .replanObservation }

section Accepted

variable [ActionFormat] {W : Type} {state : ActionState} {context merged : AgentWorkingContextV1}
  {obs : PlannerToolObservation}

theorem merge_retrieval {ids : List SourceEventId} {conversations : List ConversationRef} :
    context.merge (retrieval ids conversations) = .ok merged ↔
      AgentWorkingContextV1.Bounded (withRetrieval context ids conversations) ∧
        merged = withRetrieval context ids conversations :=
  AgentWorkingContextV1.validated_ok

theorem merge_evidence :
    context.merge (.replanEvidence obs.sourceEventIds []
        (obs.typedEvents.map fun event => ⟨event.actorKind, event.actorId⟩) []
        (ReplanDecisionNode.openReferences obs)) = .ok merged ↔
      AgentWorkingContextV1.Bounded (withEvidence context obs) ∧ merged = withEvidence context obs :=
  AgentWorkingContextV1.validated_ok

/-- What `replan_decision` answers for an observation is accepted if and only if the observation is
valid and the merged context is within its limits. -/
theorem observation_accepted_iff :
    (∃ state', state.applyUpdates (ReplanDecisionNode.observationUpdates obs) = (.ok (), state')) ↔
      validateToolObservation obs = .ok () ∧ AgentWorkingContextV1.Bounded
        (withEvidence (state.business.workingContext.getD {}) obs) := by
  constructor
  · rintro ⟨state', happd⟩
    obtain ⟨next, hfst, hrest⟩ := applyAll_cons.mp (AgentState.applyUpdates_eq_ok.mp happd)
    obtain ⟨last, hsec, -⟩ := applyAll_cons.mp hrest
    obtain ⟨business, happ, rfl⟩ := AgentState.applyOne_business_ok.mp hfst
    obtain ⟨merged, hmrg, -⟩ := applyOne_workingContext.mp hsec
    obtain ⟨hval, ⟨-, rfl⟩ | ⟨-, rfl⟩⟩ :=
      SecretaryAgentState.applyUpdate_observationAppended.mp happ
    · exact ⟨hval, (merge_evidence.mp hmrg).1⟩
    · exact ⟨hval, (merge_evidence.mp hmrg).1⟩
  · rintro ⟨hval, hboun⟩
    have hmrg := merge_evidence.mpr ⟨hboun, rfl⟩
    have hone : ∃ business, AgentBusinessState.applyUpdate
        (SecretaryAgentUpdate.observationAppended obs) state.business = (.ok (), business) ∧
        business.workingContext = state.business.workingContext := by
      by_cases hhas : state.business.HasObservation obs.proposalId
      · exact ⟨_, SecretaryAgentState.applyUpdate_observationAppended.mpr
          ⟨hval, .inl ⟨hhas, rfl⟩⟩, rfl⟩
      · exact ⟨_, SecretaryAgentState.applyUpdate_observationAppended.mpr
          ⟨hval, .inr ⟨hhas, rfl⟩⟩, rfl⟩
    obtain ⟨business, happ, hwork⟩ := hone
    refine ⟨withContext { state with business }
      (withEvidence (state.business.workingContext.getD {}) obs),
      AgentState.applyUpdates_eq_ok.mpr (applyAll_cons.mpr ⟨{ state with business },
        AgentState.applyOne_business_ok.mpr ⟨business, happ, rfl⟩, applyAll_cons.mpr ⟨_,
          applyOne_workingContext.mpr ⟨_, ?_, rfl⟩, rfl⟩⟩)⟩
    rw [← hwork] at hmrg ⊢
    exact hmrg

/-- What `plan` answers is accepted if and only if the merged context is within its limits. -/
theorem plan_accepted_iff {ports : ActionPorts W} {context : ActionRunContext} {world world' : W}
    {answer : NodeResult SecretaryAgentState} (hout : state.outcome = none)
    (hexec : PlanNode.execute ports context state world = (.ok answer, world')) :
    ∃ ids conversations, answer.answer.updates.head? =
        some (.business (.workingContext (retrieval ids conversations))) ∧
      ((∃ state', state.applyUpdates answer.answer.updates = (.ok (), state')) ↔
        AgentWorkingContextV1.Bounded
          (withRetrieval (state.business.workingContext.getD {}) ids conversations)) := by
  obtain ⟨ids, conversations, hans⟩ := PlanNode.execute_ok hexec
  obtain ⟨second, hupds, hsec⟩ : ∃ second, answer.answer.updates =
      [.business (SecretaryAgentUpdate.workingContext (retrieval ids conversations)), second] ∧
      ∀ context, ∃ state', AgentState.applyOne (B := SecretaryAgentState) second
        (withContext state context) = (.ok (), state') := by
    rcases hans with ⟨reason, rfl⟩ | ⟨proposal, hadm, rfl⟩
    · exact ⟨_, rfl, fun context => ⟨_, AgentState.applyOne_setOutcome_ok.mpr ⟨hout, rfl⟩⟩⟩
    · refine ⟨.business (SecretaryAgentUpdate.proposalAccepted proposal), ?_, fun context =>
        ⟨_, AgentState.applyOne_business_ok.mpr ⟨_,
          SecretaryAgentState.applyUpdate_proposalAccepted.mpr ⟨hadm.valid, rfl⟩, rfl⟩⟩⟩
      unfold gateResult
      split
      · rfl
      · split <;> rfl
  refine ⟨ids, conversations, by rw [hupds]; rfl, ?_⟩
  rw [hupds]
  constructor
  · rintro ⟨state', happd⟩
    obtain ⟨next, hfst, -⟩ := applyAll_cons.mp (AgentState.applyUpdates_eq_ok.mp happd)
    obtain ⟨merged, hmrg, -⟩ := applyOne_workingContext.mp hfst
    exact (merge_retrieval.mp hmrg).1
  · intro hboun
    have hmrg := merge_retrieval.mpr ⟨hboun, rfl⟩
    obtain ⟨state', hlast⟩ := hsec
      (withRetrieval (state.business.workingContext.getD {}) ids conversations)
    exact ⟨state', AgentState.applyUpdates_eq_ok.mpr (applyAll_cons.mpr ⟨_,
      applyOne_workingContext.mpr ⟨_, hmrg, rfl⟩, applyAll_cons.mpr ⟨_, hlast, rfl⟩⟩)⟩

end Accepted

/-! ## Open references -/

def HasOpen (business : SecretaryAgentState) : Prop :=
  ∃ context, business.workingContext = some context ∧ context.openReferences ≠ []

/-- While a reference is open, only a question to the Owner is admitted. -/
theorem HasOpen.admitted {business : SecretaryAgentState} {proposal : SecretaryActionProposal}
    (h : HasOpen business) (hadm : Admits business proposal) :
    proposal.action.isClarification = true := by
  obtain ⟨working, hwork, hopen⟩ := h
  rcases hadm.references with hnone | hclar
  · rw [hwork] at hnone
    exact absurd (List.isEmpty_iff.mp hnone) hopen
  · exact hclar

section Runs

variable [ActionFormat]

/-- The observation that was accepted. -/
def observation? : Entry SecretaryAgentState → Option PlannerToolObservation
  | .applied (.business (SecretaryAgentUpdate.observationAppended obs)) => some obs
  | _ => none

variable {obs : PlannerToolObservation} {state state' : ActionState}
  {proposal : SecretaryActionProposal} {story : Story} {after : Option ActionState}
  {updates : List (AgentUpdate SecretaryAgentUpdate)} {position position' : Position}

theorem observation?_eq_some {entry : Entry SecretaryAgentState} (h : observation? entry = some obs) :
    entry = recorded (.observationAppended obs) := by
  unfold observation? at h
  split at h
  · cases h
    rfl
  · cases h

/-- The acceptance of a proposal that is no question to the Owner. -/
def isAction (entry : Entry SecretaryAgentState) : Bool :=
  (acceptance? entry).any fun proposal => !proposal.action.isClarification

theorem HasOpen.withContext {update : WorkingContextUpdate} {context : AgentWorkingContextV1}
    (h : HasOpen state.business)
    (hmrg : (state.business.workingContext.getD {}).merge update = .ok context) :
    HasOpen (withContext state context).business := by
  obtain ⟨working, hwork, hopen⟩ := h
  rw [hwork] at hmrg
  exact ⟨context, rfl, AgentWorkingContextV1.merge_openReferences hmrg hopen⟩

theorem Dispatch.hasOpen (h : Dispatch proposal state story after) (hopen : HasOpen state.business) :
    (∀ entry ∈ story, isAction entry = false) ∧
      ∀ state', after = some state' → HasOpen state'.business := by
  cases h with
  | inactive =>
    refine ⟨by simp, ?_⟩
    rintro _ ⟨⟩
  | failed =>
    refine ⟨List.forall_mem_singleton.mpr rfl, ?_⟩
    rintro _ ⟨⟩
  | completed =>
    refine ⟨List.forall_mem_cons.mpr ⟨rfl, List.forall_mem_singleton.mpr rfl⟩, ?_⟩
    rintro _ ⟨⟩
    exact hopen

theorem Decision.hasOpen (h : Decision state updates state') (hopen : HasOpen state.business) :
    HasOpen state'.business := by
  cases h with
  | nothing => exact hopen
  | conflict _ _ _ hmrg => exact hopen.withContext hmrg
  | repeated _ _ _ _ hmrg => exact hopen.withContext hmrg
  | observed _ _ _ _ hmrg => exact hopen.withContext hmrg

/-- The entries of a turn of `replan_decision` accept no proposal. -/
theorem not_isAction_decided {runStep : RunStep} {route : RouteKey}
    (h : Decision state updates state') : ∀ entry ∈ called runStep .decide ::
      (updates.map (Entry.applied (B := SecretaryAgentState)) ++ [routed route]),
      isAction entry = false := by
  refine List.forall_mem_cons.mpr ⟨rfl, List.forall_mem_append.mpr
    ⟨fun entry hent => ?_, List.forall_mem_singleton.mpr rfl⟩⟩
  rcases h.mem_updates hent with ⟨update, rfl⟩ | ⟨obs, rfl⟩ <;> rfl

/-- An open reference stays, and nothing but questions is accepted. -/
theorem move_hasOpen (hmove : Move position story position')
    (hopen : ∀ state, position.state? = some state → HasOpen state.business) :
    (∀ entry ∈ story, isAction entry = false) ∧
      ∀ state, position'.state? = some state → HasOpen state.business := by
  cases hmove with
  | stopped =>
    refine ⟨by simp, ?_⟩
    rintro _ ⟨⟩
  | refused =>
    refine ⟨List.forall_mem_singleton.mpr rfl, ?_⟩
    rintro _ ⟨⟩
  | noAction _ _ _ _ _ hmrg =>
    refine ⟨List.forall_mem_cons.mpr ⟨rfl, List.forall_mem_cons.mpr
      ⟨rfl, List.forall_mem_singleton.mpr rfl⟩⟩, ?_⟩
    rintro _ ⟨⟩
    exact (hopen _ rfl).withContext hmrg
  | @direct state context proposal story after runStep ids conversations _ hadm howner _ =>
    exact absurd (.inr ((hopen state rfl).admitted hadm)) howner
  | @asked state context proposal next runStep ids conversations hmrg hadm howner hnext =>
    have hqn : isAction (recorded (.proposalAccepted proposal)) = false := by
      show (!proposal.action.isClarification) = false
      rw [(hopen state rfl).admitted hadm]
      rfl
    refine ⟨List.forall_mem_cons.mpr ⟨rfl, List.forall_mem_cons.mpr
      ⟨rfl, List.forall_mem_singleton.mpr hqn⟩⟩, ?_⟩
    rcases hnext with rfl | rfl
    · rintro _ ⟨⟩
      exact (hopen state rfl).withContext hmrg
    · rintro _ ⟨⟩
  | idle => exact ⟨List.forall_mem_singleton.mpr rfl, hopen⟩
  | @carriedOut state proposal story after runStep _ _ hdisp =>
    obtain ⟨hstory, haft⟩ := hdisp.hasOpen (hopen state rfl)
    refine ⟨List.forall_mem_cons.mpr ⟨rfl, hstory⟩, ?_⟩
    cases after with
    | none => rintro _ ⟨⟩
    | some state' =>
      rintro _ ⟨⟩
      exact haft state' rfl
  | decided runStep hdec =>
    refine ⟨not_isAction_decided hdec, ?_⟩
    rintro _ ⟨⟩
    exact hdec.hasOpen (hopen _ rfl)
  | @responded state =>
    refine ⟨List.forall_mem_cons.mpr ⟨rfl, List.forall_mem_singleton.mpr rfl⟩, ?_⟩
    rintro _ ⟨⟩
    exact hopen state rfl
  | @drafted state =>
    refine ⟨List.forall_mem_cons.mpr ⟨rfl, List.forall_mem_cons.mpr
      ⟨rfl, List.forall_mem_singleton.mpr rfl⟩⟩, ?_⟩
    rintro _ ⟨⟩
    exact hopen state rfl
  | @resumed state =>
    refine ⟨List.forall_mem_singleton.mpr rfl, ?_⟩
    rintro _ ⟨⟩
    exact hopen state rfl

/-- The open reference of an ambiguous observation is recorded with it. -/
theorem Decision.ambiguous (h : Decision state updates state')
    (hobs : .business (SecretaryAgentUpdate.observationAppended obs) ∈ updates)
    (hamb : obs.ambiguous = true) : HasOpen state'.business := by
  have hadded : ∀ {context merged : AgentWorkingContextV1}, context.merge (.replanEvidence
      obs.sourceEventIds [] (obs.typedEvents.map fun event => ⟨event.actorKind, event.actorId⟩) []
      (ReplanDecisionNode.openReferences obs)) = .ok merged → merged.openReferences ≠ [] := by
    intro context merged hmrg
    obtain ⟨-, rfl⟩ := merge_evidence.mp hmrg
    refine AgentWorkingContextV1.pushOpenReferences_ne_nil (.inr ?_)
    unfold ReplanDecisionNode.openReferences
    rw [if_pos hamb]
    exact List.cons_ne_nil _ _
  have hsame : ∀ {other : PlannerToolObservation},
      .business (SecretaryAgentUpdate.observationAppended obs) ∈
        ReplanDecisionNode.observationUpdates other → obs = other := by
    intro other hmem
    rcases List.mem_cons.mp hmem with heq | hmem
    · cases heq
      rfl
    · cases List.mem_singleton.mp hmem
  cases h with
  | nothing => cases hobs
  | conflict => cases List.mem_singleton.mp hobs
  | repeated _ _ _ _ hmrg =>
    obtain rfl := hsame hobs
    exact ⟨_, rfl, hadded hmrg⟩
  | observed _ _ _ _ hmrg =>
    obtain rfl := hsame hobs
    exact ⟨_, rfl, hadded hmrg⟩

theorem Dispatch.observations (h : Dispatch proposal state story after) :
    story.filterMap observation? = [] := by
  cases h <;> rfl

/-- Observations are made by `replan_decision` only. -/
theorem Move.observations (hmove : Move position story position') :
    story.filterMap observation? = [] ∨ ∃ state state' updates runStep,
      Decision state updates state' ∧ position' = .atNode (routeTarget state') state' ∧
        story = called runStep .decide :: (updates.map (Entry.applied (B := SecretaryAgentState)) ++
          [routed (ReplanRouter.select state')]) := by
  cases hmove with
  | stopped => exact .inl rfl
  | refused => exact .inl rfl
  | noAction => exact .inl rfl
  | direct _ _ _ _ _ _ hdisp => exact .inl hdisp.observations
  | asked => exact .inl rfl
  | idle => exact .inl rfl
  | carriedOut _ _ _ hdisp => exact .inl hdisp.observations
  | decided runStep hdec => exact .inr ⟨_, _, _, runStep, hdec, rfl, rfl⟩
  | responded => exact .inl rfl
  | drafted => exact .inl rfl
  | resumed => exact .inl rfl

/-- What the history says of an ambiguous observation, and where the run is. -/
def AmbiguitySeen (run : Position × Story) : Prop :=
  ∀ before obs after, run.2 = before ++ recorded (.observationAppended obs) :: after →
    obs.ambiguous = true → (∀ entry ∈ after, isAction entry = false) ∧
      ∀ state, run.1.state? = some state → HasOpen state.business

theorem move_ambiguitySeen {history : Story} (hmove : Move position story position')
    (hseen : AmbiguitySeen (position, history)) : AmbiguitySeen (position', history ++ story) := by
  intro before obs after hspl hamb
  rcases split_append hspl with ⟨rest, hhistory, rfl⟩ | ⟨middle, -, hstory⟩
  · obtain ⟨hrest, hopen⟩ := hseen before obs rest hhistory hamb
    obtain ⟨hstory, hopen'⟩ := move_hasOpen hmove hopen
    exact ⟨List.forall_mem_append.mpr ⟨hrest, hstory⟩, hopen'⟩
  · have hmem : recorded (.observationAppended obs) ∈ story := by
      rw [hstory]
      exact List.mem_append_right _ List.mem_cons_self
    rcases hmove.observations with hnone | ⟨state, state', updates, runStep, hdec, rfl, hdecid⟩
    · cases List.filterMap_eq_nil_iff.mp hnone _ hmem
    · refine ⟨fun entry hent => ?_, ?_⟩
      · have hall : ∀ entry ∈ story, isAction entry = false := by
          rw [hdecid]
          exact not_isAction_decided hdec
        rw [hstory] at hall
        exact hall entry (List.mem_append_right _ (List.mem_cons_of_mem _ hent))
      · rintro _ ⟨⟩
        rw [hdecid] at hmem
        rcases List.mem_cons.mp hmem with heq | hmem
        · cases heq
        rcases List.mem_append.mp hmem with hmem | hmem
        · obtain ⟨update, hupd, heq⟩ := List.mem_map.mp hmem
          cases heq
          exact hdec.ambiguous hupd hamb
        · cases List.mem_singleton.mp hmem

theorem machine_ambiguitySeen {run : Position × Story} (h : Machine run) : AmbiguitySeen run := by
  refine h.invariant AmbiguitySeen ?_ ?_
  · rintro _ ⟨-⟩ before obs after hspl
    simp at hspl
  · rintro _ _ hseen ⟨history, hmove⟩
    exact move_ambiguitySeen hmove hseen

/-! ## Every run -/

/-- In every run on action graphs, whatever the planner, the retriever, the executor and the Owner
do: what `plan` answers is accepted if and only if the working context with the retrieval is within
its limits; what `replan_decision` answers to an observation is accepted if and only if the
observation is valid and the working context with its references is within its limits; where the
answer is refused, the state stays as it is; and after an ambiguous observation there is an open
reference, and no proposal is accepted but questions to the Owner. -/
theorem query_limits_enforced {W S : Type} {run : Recorded SecretaryAgentState W S}
    (h : ActionRuns run) :
    (∀ segment vars, run.1.1 = .active segment vars → vars.current = planId →
      ∀ (ports : ActionPorts W) context world answer world',
        PlanNode.execute ports context vars.state world = (.ok answer, world') →
        ∃ ids conversations, answer.answer.updates.head? =
            some (.business (SecretaryAgentUpdate.workingContext (retrieval ids conversations))) ∧
          ((∃ state', vars.state.applyUpdates answer.answer.updates = (.ok (), state')) ↔
            AgentWorkingContextV1.Bounded
              (withRetrieval (vars.state.business.workingContext.getD {}) ids conversations))) ∧
      (∀ segment vars, run.1.1 = .active segment vars → vars.current = replanDecisionId →
        ∀ obs, vars.state.outcome = none → finding vars.state.business = .observation obs →
          ∀ (ports : ActionPorts W) context world, ∃ answer,
            ReplanDecisionNode.execute ports context vars.state world = (.ok answer, world) ∧
              ((∃ state', vars.state.applyUpdates answer.answer.updates = (.ok (), state')) ↔
                validateToolObservation obs = .ok () ∧ AgentWorkingContextV1.Bounded
                  (withEvidence (vars.state.business.workingContext.getD {}) obs))) ∧
      (∀ (state state' : ActionState) updates error,
        state.applyUpdates updates = (.error error, state') → state' = state) ∧
      ∀ before obs after, run.2 = before ++ recorded (.observationAppended obs) :: after →
        obs.ambiguous = true → (∀ entry ∈ after, isAction entry = false) ∧
          ∀ state, run.1.1.state? = some state → HasOpen state.business := by
  obtain ⟨position, hrepr, hmach⟩ := actionRuns_machine h
  refine ⟨?_, ?_, fun state state' updates error href => AgentState.applyUpdates_error href, ?_⟩
  · intro segment vars hactv hcur ports context world answer world' hexec
    rw [hactv] at hrepr
    cases hrepr with
    | active stage hgr hstage =>
      obtain rfl : stage = .plan := Stage.id_injective (hstage.symm.trans hcur)
      exact plan_accepted_iff (machine_plan hmach rfl) hexec
  · intro segment vars hactv hcur obs hout hfdg ports context world
    refine ⟨.continue (ReplanDecisionNode.observationUpdates obs) [] {}, ?_, observation_accepted_iff⟩
    rw [ReplanDecisionNode.execute_eq, if_neg (by rw [hout]; exact Bool.false_ne_true), hfdg]
    rfl
  · rw [← hrepr.state?]
    exact machine_ambiguitySeen hmach

end Runs

section Scripted

open Scripted

/-- A reference that is ambiguous; the planner asks. -/
def ambiguousScript : Scripted.Script where
  planned := [.proposal referenceProposal, .proposal questionProposal]
  receipts := [receipt "p-reference" referenceText]

theorem query_limits_enforced_ambiguous :
    ∃ before obs after, (played ambiguousScript []).2 =
        before ++ recorded (.observationAppended obs) :: after ∧
      after.countP (fun entry => (acceptance? entry).isSome) = 1 ∧
        ∀ entry ∈ after, isAction entry = false := by
  have hruns := played_runs ambiguousScript []
  have hobser : ((played ambiguousScript []).2[7]?).bind observation? =
      some (referenceResult.toObservation "p-reference" true) := by decide +kernel
  have hasked : ((played ambiguousScript []).2.drop 8).countP
      (fun entry => (acceptance? entry).isSome) = 1 := by decide +kernel
  generalize played ambiguousScript [] = run at *
  obtain ⟨entry, hent, hobs⟩ := Option.bind_eq_some_iff.mp hobser
  obtain rfl := observation?_eq_some hobs
  have hspl := eq_split_of_getElem? hent
  exact ⟨_, _, _, hspl, hasked, ((query_limits_enforced hruns).2.2.2 _ _ _ hspl rfl).1⟩

def eventOf (id : String) : SourceEventId :=
  if h : isBlank id = false then ⟨id, h⟩ else commandEvent

/-- As many excerpts as a retrieval may find. -/
def excerpts : List EventSearchResult :=
  "abcdefghijklmnopqrst".toList.map fun letter =>
    ⟨eventOf (String.singleton letter), ⟨.external, "u1"⟩, 1699990000, "牛奶"⟩

/-- The first retrieval finds as much as it may, and a search finds one event more. -/
def crowdedScript : Scripted.Script where
  planned := [.proposal searchProposal, .noAction "好的"]
  receipts := [receipt "p-search" searchText]
  found := excerpts

def retrieval? : Entry SecretaryAgentState → Option (List SourceEventId)
  | .applied (.business (SecretaryAgentUpdate.workingContext (.initialRetrieval ids _ _))) => some ids
  | _ => none

/-- The observation that a receipt is to yield is one that is accepted. -/
def yieldsValid (receipt : SecretaryActionReceipt) : Bool :=
  (PlannerFormat.parseQueryEffectResult receipt.resultRef).all fun result =>
    decide (validateToolObservation (result.toObservation receipt.proposalId true) = .ok ())

def updateFailure? {W S : Type} : RunState SecretaryAgentState W S → Option AgentStateError
  | .failed (.graph (.stateUpdateFailed _ error)) => some error
  | _ => none

/-- Twenty excerpts and one more event are too many references. -/
theorem evidence_exceeds_limit :
    ¬ ∀ {W S : Type} {run : Recorded SecretaryAgentState W S}, ActionRuns run →
      (∀ entry ∈ run.2, ∀ ids, retrieval? entry = some ids → ids.length ≤ 20 ∧ ids.Nodup) →
      (∀ entry ∈ run.2, ∀ receipt, receipt? entry = some receipt → yieldsValid receipt = true) →
      updateFailure? run.1.1 = none := by
  intro hcl
  have hruns := played_runs crowdedScript []
  have hretr : (played crowdedScript []).2.all (fun entry => (retrieval? entry).all
      fun ids => decide (ids.length ≤ 20 ∧ ids.Nodup)) = true := by decide +kernel
  have hval : (played crowdedScript []).2.all
      (fun entry => (receipt? entry).all yieldsValid) = true := by decide +kernel
  have hfail : updateFailure? (played crowdedScript []).1.1 = some (.business
      (WorkingContextError.tooLarge "selected_evidence_refs" 20).toText) := by decide +kernel
  generalize played crowdedScript [] = run at *
  have hnone := hcl hruns
    (fun entry hent ids hids => by
      have hall := List.all_eq_true.mp hretr entry hent
      rw [hids] at hall
      exact of_decide_eq_true hall)
    (fun entry hent receipt hrcp => by
      have hall := List.all_eq_true.mp hval entry hent
      rw [hrcp] at hall
      exact hall)
  rw [hfail] at hnone
  cases hnone

end Scripted

end ServerRS.ActionGraph

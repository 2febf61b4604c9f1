import ServerRS.ActionGraph.Approval

/-!
# After a conflict of a memory candidate

The receipt of an `ApproveMemoryCandidate` may report a conflict. `replan_decision` then reads
the current fact again and records the conflict, and the router leads back to `plan`. Nothing
removes a conflict from the working context, so from there on only the two actions that may
follow a conflict are accepted, and neither of them leads back.

Two things are not as they should be: a re-read that fails ends the run (`conflict_recorded_iff`),
and a rejection leads back to `plan` a second time.
-/

namespace ServerRS.ActionGraph

open Lib AgentCore

section Entries

variable [WorkingContextFormat]

def conflictRecord? : Entry SecretaryAgentState → Option MemoryCandidateConflictContext
  | .applied (.business (SecretaryAgentUpdate.workingContext (.conflictReRead conflict))) =>
    some conflict
  | _ => none

def isConflictRecord (entry : Entry SecretaryAgentState) : Bool := (conflictRecord? entry).isSome

/-- A call of the planner's node. -/
def isPlanCall (entry : Entry SecretaryAgentState) : Bool := call? entry == some planId

/-- An entry that may follow a recorded conflict: what is accepted or dispatched may follow a
conflict, and no conflict is recorded. -/
structure Loyal (entry : Entry SecretaryAgentState) : Prop where
  accepted : ∀ proposal, acceptance? entry = some proposal →
    isAllowedAfterMemoryConflict proposal.action = true
  dispatched : ∀ proposal, dispatch? entry = some proposal →
    isAllowedAfterMemoryConflict proposal.action = true
  unrecorded : isConflictRecord entry = false

/-- What a run may still note that stops before it recorded the conflict. -/
structure Unnoticed (entry : Entry SecretaryAgentState) : Prop extends Loyal entry where
  call : isPlanCall entry = false
  route : route? entry = none

end Entries

def conflict? (business : SecretaryAgentState) : Option MemoryCandidateConflictContext :=
  business.workingContext.bind AgentWorkingContextV1.conflict

section States

variable [ActionFormat]

/-- No answer yet, and a proposal waits that may follow the conflict that is there, if there is
one. -/
def Waits (state : ActionState) : Prop :=
  state.outcome = none ∧ ∃ proposal, state.business.pendingProposal = some proposal ∧
    (conflict? state.business = none ∨ isAllowedAfterMemoryConflict proposal.action = true)

def Position.Waits : Position → Prop
  | .atNode .plan state => state.outcome = none ∧ state.business.phase ≠ .execute
  | .atNode .execute state => state.business.phase = .execute → ActionGraph.Waits state
  | .atNode .decide state => state.business.phase ≠ .execute
  | .waiting state => ActionGraph.Waits state
  | _ => True

/-- The conflict of the candidate is recorded, and there is no other to record. -/
structure Settled (candidate : MemoryCandidateId) (state : ActionState) : Prop where
  recorded : alreadyRecorded state.business candidate = true
  receipt : ∀ receipt result, state.business.lastReceipt = some receipt →
    conflictResult receipt = some result → result.candidateId = candidate
  pending : ∀ proposal, state.business.pendingProposal = some proposal →
    isAllowedAfterMemoryConflict proposal.action = true

/-- The router leads to the response. -/
def Final (state : ActionState) : Prop :=
  state.outcome.isSome = true ∨ ∃ receipt toolKind, state.business.lastReceipt = some receipt ∧
    receipt.toolKind = some toolKind ∧ toolKind ≠ .approveMemoryCandidate ∧
    isReplanObservationTool toolKind = false

/-- The planner will not be called any more, unless the Owner rejects something. -/
def Position.Done : Position → Prop
  | .atNode .plan _ => False
  | .atNode .execute state =>
    (state.business.phase = .execute ∧ state.business.pendingProposal.isSome = true) ∨ Final state
  | .atNode .decide state => Final state
  | _ => True

/-- What was noted of a conflict: it has not been looked at yet, the run stopped there, or it was
recorded once and everything since is loyal to it. -/
inductive Followed (result : MemoryCandidateConflictResultV1) : Story → Position → Prop where
  | fresh {state : ActionState} (hout : state.outcome = none)
      (hpend : state.business.pendingProposal = none)
      (hfdg : finding state.business = .conflict result) :
      Followed result [] (.atNode .decide state)
  | stopped {after : Story} (hunn : ∀ entry ∈ after, Unnoticed entry) :
      Followed result after .failed
  | recorded {first after : Story} {conflict : MemoryCandidateConflictContext} {position : Position}
      (hcand : conflict.candidateId = result.candidateId)
      (hfst : ∀ entry ∈ first, Unnoticed entry) (haft : ∀ entry ∈ after, Loyal entry)
      (hset : ∀ state, position.state? = some state → Settled result.candidateId state)
      (hplan : (∀ entry ∈ after, isRejection entry = false) →
        (after.countP isPlanCall = 0 ∧ ∃ state, position = .atNode .plan state) ∨
          after.countP isPlanCall ≤ 1 ∧ position.Done) :
      Followed result (first ++ ActionGraph.recorded (.workingContext (.conflictReRead conflict)) ::
        after) position

end States

/-! ## What may follow a conflict -/

variable {action : SecretaryAction}

theorem allowed_kind (h : isAllowedAfterMemoryConflict action = true) :
    action.kind ≠ .approveMemoryCandidate ∧ isReplanObservationTool action.kind = false := by
  cases action <;> try cases h
  · exact ⟨fun heq => SecretaryToolKind.noConfusion heq, rfl⟩
  · exact ⟨fun heq => SecretaryToolKind.noConfusion heq, rfl⟩

theorem approval_needsOwner (h : action.kind = .approveMemoryCandidate) :
    action.NeedsOwner ∧ isAllowedAfterMemoryConflict action = false := by
  cases action <;> first | exact ⟨.inl rfl, rfl⟩ | cases h

theorem alreadyRecorded_eq {business business' : SecretaryAgentState} (candidate : MemoryCandidateId)
    (h : conflict? business' = conflict? business) :
    alreadyRecorded business' candidate = alreadyRecorded business candidate := by
  unfold alreadyRecorded
  unfold conflict? at h
  rw [h]

theorem conflict?_withContext {state : ActionState} {context : AgentWorkingContextV1}
    (h : context.conflict = (state.business.workingContext.getD {}).conflict) :
    conflict? (withContext state context).business = conflict? state.business := by
  unfold conflict?
  cases hwork : state.business.workingContext with
  | none =>
    rw [hwork] at h
    exact h
  | some working =>
    rw [hwork] at h
    exact h

/-! ## Reading the fact again -/

section Reading

variable {W : Type}

/-- The memory is there, and answers with the fact, from which the conflict is made. -/
def Rereads (ports : ActionPorts W) (context : ActionRunContext)
    (result : MemoryCandidateConflictResultV1) (world : W)
    (conflict : MemoryCandidateConflictContext) : Prop :=
  ∃ view, ReplanDecisionNode.Shows (ReplanDecisionNode.injected ports context) result world view ∧
    MemoryCandidateConflictContext.valid result.candidateId result.factId view.fact.payload.kind
      result.reasonCode result.summary view.fact.sourceEventIds
      (summarizeMemoryPayload view.fact.payload 500) = .ok conflict

theorem reReadConflict_eq_ok {ports : ActionPorts W} {context : ActionRunContext}
    {result : MemoryCandidateConflictResultV1} {conflict : MemoryCandidateConflictContext} {world : W} :
    (∃ world', ReplanDecisionNode.reReadConflict ports context result world =
        (.ok conflict, world')) ↔ Rereads ports context result world conflict := by
  refine .trans ⟨fun ⟨_, h⟩ => ?_, fun h => ⟨_, Prod.ext h rfl⟩⟩ ReplanDecisionNode.reReadWith_eq_ok
  exact (congrArg Prod.fst h : _)

end Reading

section Runs

variable [ActionFormat] {state state' : ActionState} {ids : List SourceEventId}
  {conversations : List ConversationRef} {proposal : SecretaryActionProposal}
  {position position' : Position} {story : Story} {run : Position × Story}
  {candidate : MemoryCandidateId} {runStep : RunStep} {stage : Stage}
  {result : MemoryCandidateConflictResultV1} {after : Option ActionState}

theorem Final.select (h : Final state) : routeTarget state = .respond := by
  refine if_neg fun hcont => ?_
  obtain ⟨hout, receipt, toolKind, hrcp, hkind, hcases⟩ := select_eq_continue.mp hcont
  rcases h with hsome | ⟨other, otherKind, hoth, hotherKind, hne, htool⟩
  · rw [hout] at hsome
    cases hsome
  · obtain rfl := Option.some.inj (hrcp.symm.trans hoth)
    obtain rfl := Option.some.inj (hkind.symm.trans hotherKind)
    rcases hcases with ⟨result, hres, -⟩ | ⟨-, hreplan, -⟩
    · exact hne (Option.some.inj (hkind.symm.trans (conflictResult_kind hres)))
    · rw [htool] at hreplan
      cases hreplan

/-- On the way to the response there is nothing to decide. -/
theorem Final.decision {updates : List (AgentUpdate SecretaryAgentUpdate)} (h : Final state)
    (hdec : Decision state updates state') : updates = [] ∧ state' = state := by
  have hnone : state.outcome = none → ∀ receipt toolKind, state.business.lastReceipt = some receipt →
      receipt.toolKind = some toolKind →
      toolKind ≠ .approveMemoryCandidate ∧ isReplanObservationTool toolKind = false := by
    intro hout receipt toolKind hrcp hkind
    rcases h with hsome | ⟨other, otherKind, hoth, hotherKind, hcases⟩
    · rw [hout] at hsome
      cases hsome
    · obtain rfl := Option.some.inj (hrcp.symm.trans hoth)
      obtain rfl := Option.some.inj (hkind.symm.trans hotherKind)
      exact hcases
  have hobs : ∀ {obs}, state.outcome = none → finding state.business = .observation obs →
      False := by
    intro obs hout hfdg
    obtain ⟨receipt, toolKind, result, hrcp, hkind, -, hquery, -⟩ := finding_observation hfdg
    have htool := (hnone hout receipt toolKind hrcp hkind).2
    unfold ReplanDecisionNode.queryResult at hquery
    rw [htool] at hquery
    cases hquery
  cases hdec with
  | nothing => exact ⟨rfl, rfl⟩
  | conflict hout hfdg =>
    obtain ⟨receipt, toolKind, hrcp, hkind, hres, -⟩ := finding_conflict hfdg
    have hkind' := conflictResult_kind hres
    exact absurd (Option.some.inj (hkind.symm.trans hkind'))
      (hnone hout receipt toolKind hrcp hkind).1
  | repeated hout hfdg => exact absurd (hobs hout hfdg) id
  | observed hout hfdg => exact absurd (hobs hout hfdg) id

/-! ## Before the conflict -/

theorem Waits.withContext {context : AgentWorkingContextV1} (hout : state.outcome = none)
    (hmrg : (state.business.workingContext.getD {}).merge (retrieval ids conversations) =
      .ok context) (hadm : Admits state.business proposal) :
    Waits (withProposal (withContext state context) proposal) := by
  refine ⟨hout, proposal, rfl, ?_⟩
  rcases hadm.conflict with hnone | hallow
  · refine .inl ?_
    rw [show conflict? (withProposal (ActionGraph.withContext state context) proposal).business =
      conflict? (ActionGraph.withContext state context).business from rfl,
      conflict?_withContext (AgentWorkingContextV1.merge_initialRetrieval_conflict hmrg)]
    exact Option.isNone_iff_eq_none.mp hnone
  · exact .inr hallow

theorem move_waits (hmove : Move position story position') (hwaits : position.Waits) :
    position'.Waits := by
  cases hmove with
  | stopped => trivial
  | refused => trivial
  | noAction => exact fun hph => absurd hph hwaits.2
  | @direct state context proposal story after runStep ids conversations _ _ _ hdisp =>
    cases after with
    | none => trivial
    | some state' =>
      obtain ⟨pending, receipt, -, -, -, rfl⟩ := hdisp.after
      exact fun hph => SecretaryAgentPhase.noConfusion hph
  | @asked state context proposal next runStep ids conversations hmrg hadm howner hnext =>
    rcases hnext with rfl | rfl
    · exact Waits.withContext hwaits.1 hmrg hadm
    · trivial
  | @idle state runStep hidle =>
    intro hph
    obtain ⟨-, proposal, hprop, -⟩ := hwaits hph
    rw [hidle hph] at hprop
    cases hprop
  | @carriedOut state proposal story after runStep _ _ hdisp =>
    cases after with
    | none => trivial
    | some state' =>
      obtain ⟨pending, receipt, -, -, -, rfl⟩ := hdisp.after
      exact fun hph => SecretaryAgentPhase.noConfusion hph
  | decided runStep hdec =>
    have hph := hdec.phase hwaits
    unfold routeTarget
    split
    · next hsel => exact ⟨(select_eq_continue.mp hsel).1, hph⟩
    · trivial
  | responded => trivial
  | drafted => trivial
  | resumed => exact fun _ => hwaits

theorem begun_waits (h : Begun run) : run.1.Waits := by
  obtain ⟨hnew⟩ := h
  obtain ⟨⟨⟩, -, hst⟩ := Except.bind_ok hnew
  cases hst
  exact ⟨rfl, fun hph => SecretaryAgentPhase.noConfusion hph⟩

/-! ## After the conflict -/

theorem Settled.congr (h : Settled candidate state)
    (hconf : conflict? state'.business = conflict? state.business)
    (hrcp : state'.business.lastReceipt = state.business.lastReceipt)
    (hpend : ∀ proposal, state'.business.pendingProposal = some proposal →
      isAllowedAfterMemoryConflict proposal.action = true) : Settled candidate state' where
  recorded := by rw [alreadyRecorded_eq candidate hconf]; exact h.recorded
  receipt := by rw [hrcp]; exact h.receipt
  pending := hpend

/-- What says nothing of a proposal or a conflict is loyal. -/
theorem loyal_of_none {entry : Entry SecretaryAgentState} (hacpt : acceptance? entry = none)
    (hdis : dispatch? entry = none) (hrec : conflictRecord? entry = none) : Loyal entry where
  accepted := by
    intro proposal hprop
    rw [hacpt] at hprop
    cases hprop
  dispatched := by
    intro proposal hprop
    rw [hdis] at hprop
    cases hprop
  unrecorded := by rw [isConflictRecord, hrec, Option.isSome_none]

theorem loyal_called : Loyal (called runStep stage) :=
  loyal_of_none rfl rfl rfl

theorem loyal_retrieval :
    Loyal (recorded (.workingContext (retrieval ids conversations))) := loyal_of_none rfl rfl rfl

theorem loyal_accepted (h : isAllowedAfterMemoryConflict proposal.action = true) :
    Loyal (recorded (.proposalAccepted proposal)) where
  accepted := by
    intro other hoth
    obtain rfl := Option.some.inj hoth
    exact h
  dispatched := by
    intro other hoth
    rw [dispatch?_applied] at hoth
    cases hoth
  unrecorded := rfl

theorem loyal_dispatched {envelope : EffectEnvelope SecretaryActionEffect}
    {answer : Except EffectError SecretaryActionReceipt}
    (h : isAllowedAfterMemoryConflict envelope.effect.proposal.action = true) :
    Loyal (dispatched envelope answer) where
  accepted := by
    intro other hoth
    rw [acceptance?_event] at hoth
    cases hoth
  dispatched := by
    intro other hoth
    obtain rfl := Option.some.inj hoth
    exact h
  unrecorded := rfl

theorem Settled.admitted (h : Settled candidate state) (hadm : Admits state.business proposal) :
    isAllowedAfterMemoryConflict proposal.action = true := by
  rcases hadm.conflict with hnone | hallow
  · have hrecd := h.recorded
    unfold alreadyRecorded at hrecd
    rw [Option.isNone_iff_eq_none.mp hnone] at hrecd
    cases hrecd
  · exact hallow

theorem Settled.finding (h : Settled candidate state)
    (hfdg : finding state.business = .conflict result) : False := by
  obtain ⟨receipt, -, hrcp, -, hres, hunr⟩ := finding_conflict hfdg
  rw [h.receipt receipt result hrcp hres, h.recorded] at hunr
  cases hunr

theorem Settled.dispatch (h : Settled candidate state)
    (hpend : state.business.pendingProposal = some proposal)
    (hdisp : Dispatch proposal state story after) :
    (∀ entry ∈ story, Loyal entry) ∧ ∀ state', after = some state' →
      Settled candidate state' ∧ Final state' := by
  have hallow := h.pending proposal hpend
  have hdis : ∀ {envelope : EffectEnvelope SecretaryActionEffect} answer,
      envelope.effect = ⟨proposal⟩ → Loyal (dispatched envelope answer) := by
    intro envelope answer heff
    refine loyal_dispatched ?_
    rw [heff]
    exact hallow
  cases hdisp with
  | inactive =>
    refine ⟨by simp, ?_⟩
    rintro state' ⟨⟩
  | failed answer heff =>
    refine ⟨?_, ?_⟩
    · intro entry hent
      rw [List.mem_singleton.mp hent]
      exact hdis answer heff
    · rintro state' ⟨⟩
  | @completed envelope pending receipt heff hwait hanss =>
    obtain rfl := Option.some.inj (hpend.symm.trans hwait)
    obtain ⟨hne, htool⟩ := allowed_kind hallow
    refine ⟨?_, ?_⟩
    · intro entry hent
      rcases List.mem_cons.mp hent with rfl | hent
      · exact hdis _ heff
      · rw [List.mem_singleton.mp hent]
        exact loyal_of_none rfl rfl rfl
    · rintro state' ⟨⟩
      refine ⟨⟨h.recorded, ?_, ?_⟩, .inr ⟨_, _, rfl, rfl, hne, htool⟩⟩
      · rintro other result ⟨⟩ hres
        exact absurd (Option.some.inj (conflictResult_kind hres)) hne
      · rintro other ⟨⟩

/-- In a settled run nothing is accepted or dispatched but what may follow the conflict, and no other
conflict is recorded. -/
theorem move_settled (hmove : Move position story position')
    (hset : ∀ state, position.state? = some state → Settled candidate state) :
    (∀ entry ∈ story, Loyal entry) ∧
      ∀ state, position'.state? = some state → Settled candidate state := by
  cases hmove with
  | stopped =>
    refine ⟨by simp, ?_⟩
    rintro state ⟨⟩
  | refused =>
    refine ⟨by simp [loyal_called], ?_⟩
    rintro state ⟨⟩
  | @noAction state context runStep reason ids conversations hout hmrg =>
    refine ⟨?_, ?_⟩
    · simp only [List.forall_mem_cons]
      exact ⟨loyal_called, loyal_retrieval, loyal_of_none rfl rfl rfl, List.forall_mem_nil _⟩
    · rintro state' ⟨⟩
      have hconf := AgentWorkingContextV1.merge_initialRetrieval_conflict hmrg
      exact (hset state rfl).congr (conflict?_withContext hconf) rfl
        (hset state rfl).pending
  | @direct state context proposal story after runStep ids conversations hmrg hadm howner _ =>
    have hallow := (hset state rfl).admitted hadm
    exact absurd (isAllowedAfterMemoryConflict_needsOwner hallow) howner
  | @asked state context proposal next runStep ids conversations hmrg hadm howner hnext =>
    have hallow := (hset state rfl).admitted hadm
    refine ⟨?_, ?_⟩
    · simp only [List.forall_mem_cons]
      exact ⟨loyal_called, loyal_retrieval, loyal_accepted hallow, List.forall_mem_nil _⟩
    · rcases hnext with rfl | rfl
      · rintro state' ⟨⟩
        have hconf := AgentWorkingContextV1.merge_initialRetrieval_conflict hmrg
        have hsame : conflict? (withProposal (withContext state context) proposal).business =
            conflict? state.business := conflict?_withContext hconf
        refine (hset state rfl).congr hsame rfl ?_
        rintro other ⟨⟩
        exact hallow
      · rintro state' ⟨⟩
  | idle => exact ⟨by simp [loyal_called], hset⟩
  | @carriedOut state proposal story after runStep _ hpend hdisp =>
    obtain ⟨hloyal, haft⟩ := (hset state rfl).dispatch hpend hdisp
    refine ⟨List.forall_mem_cons.mpr ⟨loyal_called, hloyal⟩, ?_⟩
    cases after with
    | none => rintro state' ⟨⟩
    | some state' =>
      rintro _ ⟨⟩
      exact (haft state' rfl).1
  | @decided state state' updates runStep hdec =>
    have hst := hset state rfl
    have hobs : ∀ {obs : PlannerToolObservation}, ∀ entry ∈ called runStep .decide ::
        ((ReplanDecisionNode.observationUpdates obs).map (Entry.applied (B := SecretaryAgentState)) ++
          [routed (ReplanRouter.select state')]), Loyal entry := by
      intro obs
      simp only [ReplanDecisionNode.observationUpdates, List.map_cons, List.map_nil,
        List.cons_append, List.nil_append, List.forall_mem_cons]
      exact ⟨loyal_called, loyal_of_none rfl rfl rfl, loyal_of_none rfl rfl rfl,
        loyal_of_none rfl rfl rfl, List.forall_mem_nil _⟩
    cases hdec with
    | nothing =>
      refine ⟨?_, hset⟩
      simp only [List.map_nil, List.nil_append, List.forall_mem_cons]
      exact ⟨loyal_called, loyal_of_none rfl rfl rfl, List.forall_mem_nil _⟩
    | conflict hout hfdg => exact absurd (hst.finding hfdg) id
    | @repeated obs context hout hfdg hval hhas hmrg =>
      refine ⟨hobs, ?_⟩
      rintro _ ⟨⟩
      have hconf := AgentWorkingContextV1.merge_replanEvidence_conflict hmrg
      exact hst.congr (conflict?_withContext hconf) rfl hst.pending
    | @observed obs context hout hfdg hval hnew hmrg =>
      refine ⟨hobs, ?_⟩
      rintro _ ⟨⟩
      have hconf := AgentWorkingContextV1.merge_replanEvidence_conflict hmrg
      have hsame : conflict? (withContext (withObservation state obs) context).business =
          conflict? (withObservation state obs).business := conflict?_withContext hconf
      exact hst.congr hsame rfl hst.pending
  | responded =>
    refine ⟨?_, ?_⟩
    · simp only [List.forall_mem_cons]
      exact ⟨loyal_called, loyal_of_none rfl rfl rfl, List.forall_mem_nil _⟩
    · rintro _ ⟨⟩
      exact (hset _ rfl).congr rfl rfl (hset _ rfl).pending
  | drafted =>
    refine ⟨?_, ?_⟩
    · simp only [List.forall_mem_cons]
      exact ⟨loyal_called, loyal_of_none rfl rfl rfl, loyal_of_none rfl rfl rfl, List.forall_mem_nil _⟩
    · rintro _ ⟨⟩
      exact (hset _ rfl).congr rfl rfl (hset _ rfl).pending
  | resumed =>
    refine ⟨?_, ?_⟩
    · simp only [List.forall_mem_cons]
      exact ⟨loyal_of_none rfl rfl rfl, List.forall_mem_nil _⟩
    · rintro _ ⟨⟩
      exact (hset _ rfl).congr rfl rfl (hset _ rfl).pending

theorem Dispatch.calls (h : Dispatch proposal state story after) :
    ∀ entry ∈ story, isPlanCall entry = false := by
  cases h with
  | inactive => simp
  | failed => exact List.forall_mem_singleton.mpr rfl
  | completed => exact List.forall_mem_cons.mpr ⟨rfl, List.forall_mem_singleton.mpr rfl⟩

theorem isPlanCall_called (h : stage ≠ .plan) : isPlanCall (called runStep stage) = false := by
  refine beq_false_of_ne fun heq => h (Stage.id_injective (Option.some.inj heq))

/-- On the way to the response the planner is not called, unless something is rejected. -/
theorem move_done (hmove : Move position story position')
    (hset : ∀ state, position.state? = some state → Settled candidate state)
    (hdone : position.Done) (hkept : ∀ entry ∈ story, isRejection entry = false) :
    (∀ entry ∈ story, isPlanCall entry = false) ∧ position'.Done := by
  cases hmove with
  | stopped => exact ⟨by simp, trivial⟩
  | refused runStep stage state =>
    refine ⟨List.forall_mem_singleton.mpr (isPlanCall_called ?_), trivial⟩
    rintro rfl
    exact hdone
  | noAction => exact absurd hdone id
  | direct => exact absurd hdone id
  | asked => exact absurd hdone id
  | @idle state runStep hidle =>
    refine ⟨List.forall_mem_singleton.mpr (isPlanCall_called (by decide)), ?_⟩
    rcases hdone with ⟨hph, hpend⟩ | hfin
    · rw [hidle hph] at hpend
      cases hpend
    · exact hfin
  | @carriedOut state proposal story after runStep _ hpend hdisp =>
    refine ⟨List.forall_mem_cons.mpr ⟨isPlanCall_called (by decide), hdisp.calls⟩, ?_⟩
    cases after with
    | none => trivial
    | some state' => exact (((hset state rfl).dispatch hpend hdisp).2 state' rfl).2
  | @decided state state' updates runStep hdec =>
    obtain ⟨rfl, rfl⟩ := Final.decision hdone hdec
    rw [Final.select hdone]
    exact ⟨List.forall_mem_cons.mpr
      ⟨isPlanCall_called (by decide), List.forall_mem_singleton.mpr rfl⟩, trivial⟩
  | responded =>
    exact ⟨List.forall_mem_cons.mpr
      ⟨isPlanCall_called (by decide), List.forall_mem_singleton.mpr rfl⟩, trivial⟩
  | drafted =>
    exact ⟨List.forall_mem_cons.mpr ⟨isPlanCall_called (by decide),
      List.forall_mem_cons.mpr ⟨rfl, List.forall_mem_singleton.mpr rfl⟩⟩, trivial⟩
  | @resumed state pending input hpend hid =>
    refine ⟨List.forall_mem_singleton.mpr rfl,
      .inl ⟨?_, Option.isSome_iff_exists.mpr ⟨pending, hpend⟩⟩⟩
    have happrove := List.forall_mem_singleton.mp hkept
    cases hdec : input.decision with
    | approve => rfl
    | reject => simp [isRejection, decision?, hdec] at happrove

/-- The one call of the planner. -/
theorem move_plan (hmove : Move (.atNode .plan state) story position')
    (hset : Settled candidate state) : story.countP isPlanCall ≤ 1 ∧ position'.Done := by
  cases hmove with
  | stopped => exact ⟨Nat.zero_le 1, trivial⟩
  | refused => exact ⟨List.countP_le_length, trivial⟩
  | noAction => exact ⟨Nat.le_refl 1, .inr (.inl rfl)⟩
  | direct _ _ _ _ hadm howner =>
    exact absurd (isAllowedAfterMemoryConflict_needsOwner (hset.admitted hadm)) howner
  | @asked state context proposal next runStep ids conversations hmrg hadm howner hnext =>
    refine ⟨Nat.le_refl 1, ?_⟩
    rcases hnext with rfl | rfl <;> trivial

theorem unnoticed_called (h : stage ≠ .plan) : Unnoticed (called runStep stage) :=
  ⟨loyal_called, isPlanCall_called h, rfl⟩

/-- The turn after the conflict. -/
theorem move_fresh (hout : state.outcome = none) (hpend : state.business.pendingProposal = none)
    (hfdg : finding state.business = .conflict result)
    (hmove : Move (.atNode .decide state) story position') : Followed result story position' := by
  cases hmove with
  | stopped => exact .stopped (by simp)
  | refused => exact .stopped (List.forall_mem_singleton.mpr (unnoticed_called (by decide)))
  | @decided state state' updates runStep hdec =>
    cases hdec with
    | nothing h =>
      rcases h with hsome | hnoth
      · rw [hout] at hsome
        cases hsome
      · rw [hfdg] at hnoth
        cases hnoth
    | @conflict found conflict context _ hfnd hcand hmrg =>
      obtain rfl : found = result := by
        rw [hfnd] at hfdg
        exact Finding.conflict.inj hfdg
      obtain ⟨receipt, toolKind, hrcp, hkind, hres, -⟩ := finding_conflict hfdg
      have hrecd : alreadyRecorded (withContext state context).business found.candidateId = true := by
        rw [← hcand]
        exact AgentWorkingContextV1.merge_conflictReRead_conflict hmrg
      have hsel : ReplanRouter.select (withContext state context) = continueRoute :=
        select_eq_continue.mpr
          ⟨hout, receipt, toolKind, hrcp, hkind, .inl ⟨found, hres, hrecd⟩⟩
      have hplan : routeTarget (withContext state context) = .plan := if_pos hsel
      rw [hplan]
      have hfst : ∀ entry ∈ [called runStep .decide], Unnoticed entry :=
        List.forall_mem_singleton.mpr (unnoticed_called (by decide))
      refine .recorded hcand hfst
        (List.forall_mem_singleton.mpr (loyal_of_none rfl rfl rfl)) ?_ ?_
      · rintro _ ⟨⟩
        refine ⟨hrecd, ?_, ?_⟩
        · intro other otherResult hoth hotherResult
          obtain rfl := Option.some.inj (hrcp.symm.trans hoth)
          obtain rfl := Option.some.inj (hres.symm.trans hotherResult)
          rfl
        · intro proposal hprop
          rw [show (withContext state context).business.pendingProposal = none from hpend] at hprop
          cases hprop
      · exact fun _ => .inl ⟨rfl, _, rfl⟩
    | repeated _ hfnd =>
      rw [hfnd] at hfdg
      cases hfdg
    | observed _ hfnd =>
      rw [hfnd] at hfdg
      cases hfdg

theorem move_followed {after : Story} (hmove : Move position story position')
    (h : Followed result after position) : Followed result (after ++ story) position' := by
  cases h with
  | fresh hout hpend hfdg => exact move_fresh hout hpend hfdg hmove
  | stopped => cases hmove
  | @recorded first after conflict position hcand hfst haft hset hplan =>
    obtain ⟨hloyal, hset'⟩ := move_settled hmove hset
    rw [List.append_assoc, List.cons_append]
    refine .recorded hcand hfst (List.forall_mem_append.mpr ⟨haft, hloyal⟩) hset' ?_
    intro hkept
    obtain ⟨hbef, hstory⟩ := List.forall_mem_append.mp hkept
    rw [List.countP_append]
    rcases hplan hbef with ⟨hzero, state, rfl⟩ | ⟨hone, hdone⟩
    · obtain ⟨hcnt, hdone⟩ := move_plan hmove (hset state rfl)
      rw [hzero, Nat.zero_add]
      exact .inr ⟨hcnt, hdone⟩
    · obtain ⟨hcalls, hdone'⟩ := move_done hmove hset hdone hstory
      have hnone : story.countP isPlanCall = 0 :=
        List.countP_eq_zero.mpr fun entry hent => Bool.not_eq_true _ ▸ hcalls entry hent
      rw [hnone, Nat.add_zero]
      exact .inr ⟨hone, hdone'⟩

/-! ## Every run -/

/-- The receipt of an `ApproveMemoryCandidate` that reports a conflict. -/
structure ReportsConflict (envelope : EffectEnvelope SecretaryActionEffect)
    (receipt : SecretaryActionReceipt) (result : MemoryCandidateConflictResultV1) : Prop where
  kind : envelope.effect.proposal.action.kind = .approveMemoryCandidate
  result : conflictResult { receipt with toolKind := some .approveMemoryCandidate } = some result

/-- What the history says of a conflict, and where the run is. -/
def ConflictSeen (run : Position × Story) : Prop :=
  ∀ before envelope receipt result after,
    run.2 = before ++ dispatched envelope (.ok receipt) ::
      recorded (.actionCompleted receipt) :: after →
    ReportsConflict envelope receipt result → Followed result after run.1

/-- The moment of the conflict: before it there was none in the working context. -/
theorem followed_now {pending : SecretaryActionProposal} {receipt : SecretaryActionReceipt}
    (hwaits : Waits state) (hpend : state.business.pendingProposal = some pending)
    (hkind : pending.action.kind = .approveMemoryCandidate)
    (hres : conflictResult { receipt with toolKind := some .approveMemoryCandidate } =
      some result) : Followed result [] (.atNode .decide (withReceipt state pending receipt)) := by
  obtain ⟨hout, waiting, hwait, hconf⟩ := hwaits
  obtain rfl := Option.some.inj (hpend.symm.trans hwait)
  refine .fresh hout rfl ?_
  have hnone : conflict? (withReceipt state pending receipt).business = none := by
    rcases hconf with hnone | hallow
    · exact hnone
    · rw [(approval_needsOwner hkind).2] at hallow
      cases hallow
  unfold conflict? at hnone
  have hunr : alreadyRecorded (withReceipt state pending receipt).business result.candidateId =
      false := by
    unfold alreadyRecorded
    rw [hnone]
    rfl
  unfold finding
  rw [show (withReceipt state pending receipt).business.lastReceipt =
    some { receipt with toolKind := some pending.action.kind } from rfl, hkind]
  dsimp only
  rw [hres]
  dsimp only
  rw [hunr]
  rfl

theorem move_conflictSeen {history : Story} (hmove : Move position story position')
    (hwaits : position.Waits) (hseen : ConflictSeen (position, history)) :
    ConflictSeen (position', history ++ story) := by
  intro before envelope receipt result after hspl hrep
  dsimp only at hspl
  rw [List.append_cons] at hspl
  rcases split_append hspl with ⟨rest, hhist, rfl⟩ | ⟨middle, hbef, hstory⟩
  · rw [← List.append_cons] at hhist
    exact move_followed hmove (hseen before envelope receipt result rest hhist hrep)
  · rcases hmove.receipts with hnone | ⟨first, other, done, next, state, pending, hlast, hfst,
      heff, -, rfl, hcase⟩
    · rw [hstory, List.filterMap_append, List.append_eq_nil_iff] at hnone
      cases hnone.2
    · -- the receipt is the last entry of the move
      obtain ⟨rfl, rfl, rfl⟩ : middle = first ++ [dispatched other (.ok done)] ∧ done = receipt ∧
          after = [] := by
        have hlast' : first ++ [dispatched other (.ok done)] ++ [recorded (.actionCompleted done)] =
            middle ++ recorded (.actionCompleted receipt) :: after := by
          rw [← hstory, hlast, ← List.append_cons]
        rcases split_append hlast' with ⟨rest, hrest, -⟩ | ⟨between, hmiddle, hbetw⟩
        · have hnone : (first ++ [dispatched other (.ok done)]).filterMap receipt? = [] := by
            rw [List.filterMap_append, hfst]
            rfl
          rw [hrest, List.filterMap_append, List.append_eq_nil_iff] at hnone
          cases hnone.2
        · cases between with
          | nil =>
            cases hbetw
            exact ⟨by rw [hmiddle, List.append_nil], rfl, rfl⟩
          | cons entry between => simp at hbetw
      obtain rfl : envelope = other := by
        rw [← List.append_assoc] at hbef
        have hent := (List.append_inj' hbef rfl).2
        cases hent
        rfl
      have hkind : pending.action.kind = .approveMemoryCandidate := by
        rw [← hrep.kind, heff]
      rcases hcase with hneed | ⟨rfl, rfl, hph, hpend⟩
      · exact absurd (approval_needsOwner hkind).1 hneed
      · exact followed_now (hwaits hph) hpend hkind hrep.result

theorem machine_conflictSeen (h : Machine run) : ConflictSeen run := by
  have hall : run.1.Waits ∧ ConflictSeen run := by
    refine h.invariant (fun run => run.1.Waits ∧ ConflictSeen run) ?_ ?_
    · intro begun hbeg
      refine ⟨begun_waits hbeg, ?_⟩
      obtain ⟨-⟩ := hbeg
      intro before envelope receipt result after hspl
      simp at hspl
    · rintro _ _ ⟨hwaits, hseen⟩ ⟨history, hmove⟩
      exact ⟨move_waits hmove hwaits, move_conflictSeen hmove hwaits hseen⟩
  exact hall.2

/-- What follows a conflict. Unless the Owner rejects a proposal, the planner is called at most once
more; every proposal accepted or dispatched is one that may follow a conflict; a conflict is recorded
at most once, and exactly once, of that candidate, when a route is selected or the planner called. -/
structure Heeded (result : MemoryCandidateConflictResultV1) (after : Story) : Prop where
  calls : (∀ entry ∈ after, isRejection entry = false) → after.countP isPlanCall ≤ 1
  loyal : ∀ entry ∈ after, (∀ proposal, acceptance? entry = some proposal →
      isAllowedAfterMemoryConflict proposal.action = true) ∧
    ∀ proposal, dispatch? entry = some proposal → isAllowedAfterMemoryConflict proposal.action = true
  atMostOnce : after.countP isConflictRecord ≤ 1
  once : (∃ entry ∈ after, (route? entry).isSome = true ∨ isPlanCall entry = true) →
    after.countP isConflictRecord = 1 ∧ ∃ entry ∈ after, ∃ conflict,
      conflictRecord? entry = some conflict ∧ conflict.candidateId = result.candidateId

theorem Followed.heeded {after : Story} (h : Followed result after position) :
    Heeded result after := by
  have hcnt : ∀ {entries : Story} {use : Entry SecretaryAgentState → Bool},
      (∀ entry ∈ entries, use entry = false) → entries.countP use = 0 := by
    intro entries use hnone
    exact List.countP_eq_zero.mpr fun entry hent => Bool.not_eq_true _ ▸ hnone entry hent
  cases h with
  | fresh => exact ⟨by simp, by simp, by simp, by simp⟩
  | stopped hunn =>
    have hrecs := hcnt fun entry hent => (hunn entry hent).unrecorded
    refine ⟨fun _ => ?_, fun entry hent => ?_, ?_, ?_⟩
    · rw [hcnt fun entry hent => (hunn entry hent).call]
      exact Nat.zero_le 1
    · exact ⟨(hunn entry hent).accepted, (hunn entry hent).dispatched⟩
    · rw [hrecs]
      exact Nat.zero_le 1
    · rintro ⟨entry, hent, hrt | hcall⟩
      · rw [(hunn entry hent).route] at hrt
        cases hrt
      · rw [(hunn entry hent).call] at hcall
        cases hcall
  | @recorded first after conflict position hcand hfst haft hset hplan =>
    have hone : (first ++ ActionGraph.recorded (.workingContext (.conflictReRead conflict)) ::
        after).countP isConflictRecord = 1 := by
      rw [List.countP_append, List.countP_cons_of_pos rfl,
        hcnt fun entry hent => (hfst entry hent).unrecorded,
        hcnt fun entry hent => (haft entry hent).unrecorded]
    refine ⟨?_, ?_, hone.le, fun _ => ⟨hone, _, List.mem_append_right _ List.mem_cons_self, conflict,
      rfl, hcand⟩⟩
    · intro hkept
      have hplans : after.countP isPlanCall ≤ 1 := by
        rcases hplan fun entry hent => hkept entry
          (List.mem_append_right _ (List.mem_cons_of_mem _ hent)) with ⟨hzero, -⟩ | ⟨hle, -⟩
        · rw [hzero]
          exact Nat.zero_le 1
        · exact hle
      rw [List.countP_append, List.countP_cons_of_neg (by exact Bool.false_ne_true),
        hcnt fun entry hent => (hfst entry hent).call, Nat.zero_add]
      exact hplans
    · intro entry hent
      rcases List.mem_append.mp hent with hent | hent
      · exact ⟨(hfst entry hent).accepted, (hfst entry hent).dispatched⟩
      rcases List.mem_cons.mp hent with rfl | hent
      · refine ⟨?_, ?_⟩
        · rintro proposal ⟨⟩
        · rintro proposal ⟨⟩
      · exact ⟨(haft entry hent).accepted, (haft entry hent).dispatched⟩

/-! ## Recording the conflict -/

section Reading

variable {W : Type}

/-- The node answers with the conflict, and the state accepts it, if and only if the fact can be read
again and the merged context is within its limits. -/
theorem conflict_recorded_iff {ports : ActionPorts W} {context : ActionRunContext} {world : W}
    {state : ActionState} {result : MemoryCandidateConflictResultV1} (hout : state.outcome = none)
    (hfdg : finding state.business = .conflict result) :
    (∃ answer world' state', ReplanDecisionNode.execute ports context state world =
        (.ok answer, world') ∧ state.applyUpdates answer.answer.updates = (.ok (), state')) ↔
      ∃ conflict merged, Rereads ports context result world conflict ∧
        (state.business.workingContext.getD {}).merge (.conflictReRead conflict) = .ok merged := by
  constructor
  · rintro ⟨answer, world', state', hexec, happd⟩
    rcases ReplanDecisionNode.execute_ok hexec with ⟨-, hsome | hnoth⟩ |
      ⟨found, conflict, -, hfnd, hread, rfl⟩ | ⟨obs, -, hfnd, -⟩
    · rw [hout] at hsome
      cases hsome
    · rw [hfdg] at hnoth
      cases hnoth
    · rw [hfdg] at hfnd
      cases hfnd
      have hall := AgentState.applyUpdates_eq_ok.mp happd
      obtain ⟨next, hfst, -⟩ := applyAll_cons.mp hall
      obtain ⟨merged, hmrg, -⟩ := applyOne_workingContext.mp hfst
      exact ⟨conflict, merged, reReadConflict_eq_ok.mp ⟨world', hread⟩, hmrg⟩
    · rw [hfdg] at hfnd
      cases hfnd
  · rintro ⟨conflict, merged, hrereads, hmrg⟩
    obtain ⟨world', hread⟩ := reReadConflict_eq_ok.mpr hrereads
    refine ⟨.continue [.business (SecretaryAgentUpdate.workingContext (.conflictReRead conflict))] [] {},
      world', withContext state merged, ?_, ?_⟩
    · rw [ReplanDecisionNode.execute_eq, if_neg (by rw [hout]; exact Bool.false_ne_true), hfdg]
      exact Exec.bind_eq_ok.mpr ⟨conflict, world', hread, rfl⟩
    · refine AgentState.applyUpdates_eq_ok.mpr (applyAll_cons.mpr ⟨_, ?_, rfl⟩)
      exact applyOne_workingContext.mpr ⟨merged, hmrg, rfl⟩

end Reading

/-- What is dispatched behind a receipt, and needs the Owner, was approved behind it. -/
theorem approved_since {past between : Story} {envelope : EffectEnvelope SecretaryActionEffect}
    {answer : Except EffectError SecretaryActionReceipt} {receipt : SecretaryActionReceipt}
    {proposal : SecretaryActionProposal}
    (h : Cleared (past ++ dispatched envelope answer :: recorded (.actionCompleted receipt) :: between)
      proposal) (howner : proposal.action.NeedsOwner) :
    ∃ input, recorded (.approvalResolved input) ∈ between ∧ input.decision = .approve ∧
      input.proposalId = proposal.proposalId := by
  obtain ⟨before, rest, hspl, hrest, happr⟩ := h
  obtain ⟨input, hin, hdec⟩ := happr howner
  obtain ⟨middle, hmid⟩ := split_of_split hspl (fun heq => nomatch heq) fun hmem => by
    have hquiet := hrest _ hmem
    simp [disturbs] at hquiet
  have hmem := hmid ▸ List.mem_append_right middle (List.mem_cons_of_mem _ hin)
  rcases List.mem_cons.mp hmem with heq | hmem
  · cases heq
  · exact ⟨input, hmem, hdec⟩

/-- In every run on action graphs, whatever the planner, the executor, the memory and the Owner do,
a receipt that reports a conflict of a candidate is heeded. What is dispatched after it was approved
after it; and the turn that is to record the conflict does so if and only if the fact can be read again
and the merged context is within its limits. -/
theorem conflict_replanned_once {W S : Type} {run : Recorded SecretaryAgentState W S}
    (h : ActionRuns run) {before after : Story} {envelope : EffectEnvelope SecretaryActionEffect}
    {receipt : SecretaryActionReceipt} {result : MemoryCandidateConflictResultV1}
    (hsplit : run.2 = before ++ dispatched envelope (.ok receipt) ::
      recorded (.actionCompleted receipt) :: after)
    (hreports : ReportsConflict envelope receipt result) :
    Heeded result after ∧
      (∀ between later answer rest, after = between ++ dispatched later answer :: rest →
        ∃ input, recorded (.approvalResolved input) ∈ between ∧ input.decision = .approve ∧
          input.proposalId = later.effect.proposal.proposalId) ∧
      ∀ state, after = [] → run.1.1.state? = some state →
        ∀ (ports : ActionPorts W) (context : ActionRunContext) (world : W),
          (∃ answer world' state', ReplanDecisionNode.execute ports context state world =
              (.ok answer, world') ∧ state.applyUpdates answer.answer.updates = (.ok (), state')) ↔
            ∃ conflict merged, Rereads ports context result world conflict ∧
              (state.business.workingContext.getD {}).merge (.conflictReRead conflict) =
                .ok merged := by
  obtain ⟨position, hrepr, hmachine⟩ := actionRuns_machine h
  have hfol := machine_conflictSeen hmachine before envelope receipt result after hsplit hreports
  obtain ⟨hdisps, -⟩ := machine_standing hmachine
  refine ⟨hfol.heeded, ?_, ?_⟩
  · rintro between later answer rest rfl
    rw [hsplit] at hdisps
    rw [← List.cons_append, ← List.cons_append, ← List.append_assoc] at hdisps
    have hallowed := (hfol.heeded.loyal _ (List.mem_append_right between List.mem_cons_self)).2 _ rfl
    exact approved_since (hdisps.split _ rfl).2 (isAllowedAfterMemoryConflict_needsOwner hallowed)
  intro state hemp hst
  rw [← hrepr.state?] at hst
  cases hfol with
  | fresh hout hpend hfdg =>
    cases hst
    exact fun ports context world => conflict_recorded_iff hout hfdg
  | stopped => cases hst
  | recorded => simp at hemp

end Runs

section Scripted

open Scripted

/-- The fact that the candidate differs from. -/
def conflictFact : MemoryFactView where
  fact := ⟨⟨"fact-1"⟩, account, "milk", .project ⟨"milk", "喝牛奶", [], [], none, [], [], [], []⟩,
    .confirmed, 10000, [newEvent], none, none⟩
  sources := [⟨newEvent, "我喝牛奶", .normal⟩]

/-- The approval of a memory candidate runs into a conflict, and the planner asks. -/
def memoryScript : Scripted.Script where
  planned := [.proposal memoryProposal, .proposal questionProposal, .noAction "好的"]
  receipts := [receipt "p-memory" conflictText, receipt "p-question" "asked"]
  fact := some conflictFact

/-- What the entries at `n` and after it say of a conflict. -/
def reportAt (history : Story) (n : ℕ) : Bool :=
  match history[n]?, (history[n + 1]?).bind receipt? with
  | some (.event (.effectExecuted envelope (.ok receipt))), some accepted =>
    decide (accepted = receipt) &&
      decide (envelope.effect.proposal.action.kind = .approveMemoryCandidate) &&
      (conflictResult { receipt with toolKind := some .approveMemoryCandidate }).isSome
  | _, _ => false

theorem reportAt_split {history : Story} {n : ℕ} (h : reportAt history n = true) :
    ∃ envelope receipt result, history = history.take n ++ dispatched envelope (.ok receipt) ::
        recorded (.actionCompleted receipt) :: history.drop (n + 2) ∧
      ReportsConflict envelope receipt result := by
  unfold reportAt at h
  split at h
  · next envelope receipt accepted hent hacpt =>
    rw [Bool.and_eq_true, Bool.and_eq_true, decide_eq_true_eq, decide_eq_true_eq] at h
    obtain ⟨⟨rfl, hkind⟩, hsome⟩ := h
    obtain ⟨result, hres⟩ := Option.isSome_iff_exists.mp hsome
    obtain ⟨entry, hnext, hrcp⟩ := Option.bind_eq_some_iff.mp hacpt
    obtain rfl := receipt?_eq_some hrcp
    refine ⟨envelope, accepted, result, ?_, hkind, hres⟩
    have hrest : history.drop (n + 1) = recorded (.actionCompleted accepted) ::
        history.drop (n + 2) := by
      obtain ⟨hlt, hget⟩ := List.getElem?_eq_some_iff.mp hnext
      rw [List.drop_eq_getElem_cons hlt, hget]
    rw [← hrest]
    exact eq_split_of_getElem? hent
  · cases h

/-- The planner asks after the conflict, and the Owner lets it ask. -/
theorem conflict_replanned_once_memory :
    ∃ before envelope receipt after,
      (played memoryScript [decision "p-memory" .approve, decision "p-question" .approve]).2 =
          before ++ dispatched envelope (.ok receipt) :: recorded (.actionCompleted receipt) :: after ∧
        after.countP isPlanCall = 1 ∧ after.countP isPlanCall ≤ 1 ∧
        after.countP isConflictRecord = 1 := by
  have hruns := played_runs memoryScript [decision "p-memory" .approve, decision "p-question" .approve]
  have hrepor : reportAt (played memoryScript
      [decision "p-memory" .approve, decision "p-question" .approve]).2 5 = true := by decide +kernel
  have hkept : ((played memoryScript
      [decision "p-memory" .approve, decision "p-question" .approve]).2.drop 7).all
        (fun entry => !isRejection entry) = true := by decide +kernel
  have hcalls : ((played memoryScript
      [decision "p-memory" .approve, decision "p-question" .approve]).2.drop 7).countP isPlanCall =
        1 := by decide +kernel
  generalize played memoryScript [decision "p-memory" .approve, decision "p-question" .approve] =
    run at *
  obtain ⟨envelope, receipt, result, hspl, hrep⟩ := reportAt_split hrepor
  obtain ⟨hheed, -⟩ := conflict_replanned_once hruns hspl hrep
  have hone : (run.2.drop 7).countP isPlanCall ≤ 1 :=
    hheed.calls fun entry hent => by simpa using List.all_eq_true.mp hkept entry hent
  have hsome : 0 < (run.2.drop 7).countP isPlanCall := by rw [hcalls]; exact Nat.one_pos
  obtain ⟨entry, hent, hcall⟩ := List.countP_pos_iff.mp hsome
  exact ⟨_, envelope, receipt, _, hspl, hcalls, hone, (hheed.once ⟨entry, hent, .inr hcall⟩).1⟩

/-- The planner is called twice after the conflict where the Owner rejects its question. -/
theorem planner_called_twice_after_conflict :
    ¬ ∀ {W S : Type} {run : Recorded SecretaryAgentState W S}, ActionRuns run →
      ∀ {before after : Story} {envelope : EffectEnvelope SecretaryActionEffect}
        {receipt : SecretaryActionReceipt} {result : MemoryCandidateConflictResultV1},
        run.2 = before ++ dispatched envelope (.ok receipt) ::
          recorded (.actionCompleted receipt) :: after →
        ReportsConflict envelope receipt result → after.countP isPlanCall ≤ 1 := by
  intro hcl
  have hruns := played_runs memoryScript [decision "p-memory" .approve, decision "p-question" .reject]
  have hrepor : reportAt (played memoryScript
      [decision "p-memory" .approve, decision "p-question" .reject]).2 5 = true := by decide +kernel
  have hcalls : ((played memoryScript
      [decision "p-memory" .approve, decision "p-question" .reject]).2.drop 7).countP isPlanCall =
        2 := by decide +kernel
  generalize played memoryScript [decision "p-memory" .approve, decision "p-question" .reject] =
    run at *
  obtain ⟨envelope, receipt, result, hspl, hrep⟩ := reportAt_split hrepor
  have hone := hcl hruns hspl hrep
  rw [hcalls] at hone
  exact absurd hone (by decide)

end Scripted

end ServerRS.ActionGraph

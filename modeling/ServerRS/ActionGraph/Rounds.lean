import ServerRS.ActionGraph.Refinement
import ServerRS.Lib.Timeline
import Mathlib.Algebra.Order.BigOperators.Group.List

/-!
# The rounds of re-planning

An observation is appended without a look at any limit. That there are never too many of them
comes from the loop: the router leads back to `plan` only below `MAX_REPLAN_ROUNDS`, an
observation is the only thing that counts a round, and there is one place where it is made.

The number of queries follows: each of them is observed before the next one is dispatched, as long
as the planner does not use an id twice.
-/

namespace ServerRS.ActionGraph

open Lib AgentCore

theorem saturatingSucc_toNat {n : UInt8} (h : n < MAX_REPLAN_ROUNDS) :
    (saturatingSucc n).toNat = n.toNat + 1 ∧ saturatingSucc n ≤ MAX_REPLAN_ROUNDS := by
  have hlt : n.toNat < 2 := UInt8.lt_iff_toNat_lt.mp h
  have hne : n ≠ 255 := by
    rintro rfl
    exact absurd hlt (by decide)
  unfold saturatingSucc
  rw [if_neg hne]
  have hsum : (n + 1).toNat = n.toNat + 1 := by
    rw [UInt8.toNat_add]
    exact Nat.mod_eq_of_lt (by simp only [UInt8.reduceToNat]; omega)
  exact ⟨hsum, UInt8.le_iff_toNat_le.mpr (by rw [hsum]; exact hlt)⟩

/-- A query is carried out without the Owner. -/
theorem query_needless {action : SecretaryAction} (h : isReplanObservationTool action.kind = true) :
    ¬ action.NeedsOwner := by
  rintro (hconf | hclar)
  · rw [(isReplanObservationTool_policy h).2] at hconf
    cases hconf
  · cases action <;> first | (cases h; done) | cases hclar

section States

variable [WorkingContextFormat]

/-- The observations are counted, valid and distinct, and the working context is within its
limits. -/
structure Counted (business : SecretaryAgentState) : Prop where
  length : business.planningObservations.length = business.replanRound.toNat
  valid : ∀ obs ∈ business.planningObservations, validateToolObservation obs = .ok ()
  distinct : (business.planningObservations.map PlannerToolObservation.proposalId).Nodup
  context : ∀ context, business.workingContext = some context → context.validate = .ok ()

/-- The state at a position is counted; there are rounds left but at the end. -/
def Position.Counted : Position → Prop
  | .atNode .respond state =>
    ActionGraph.Counted state.business ∧ state.business.replanRound ≤ MAX_REPLAN_ROUNDS
  | .atNode _ state =>
    ActionGraph.Counted state.business ∧ state.business.replanRound < MAX_REPLAN_ROUNDS
  | .waiting state =>
    ActionGraph.Counted state.business ∧ state.business.replanRound < MAX_REPLAN_ROUNDS
  | .completed state =>
    ActionGraph.Counted state.business ∧ state.business.replanRound ≤ MAX_REPLAN_ROUNDS
  | .failed => True

variable {business : SecretaryAgentState} {update : WorkingContextUpdate}
  {context : AgentWorkingContextV1} {state : ActionState}

theorem Counted.congr {business' : SecretaryAgentState} (h : Counted business)
    (hobser : business'.planningObservations = business.planningObservations)
    (hrd : business'.replanRound = business.replanRound)
    (hctx : ∀ context, business'.workingContext = some context → context.validate = .ok ()) :
    Counted business' where
  length := by rw [hobser, hrd, h.length]
  valid := by rw [hobser]; exact h.valid
  distinct := by rw [hobser]; exact h.distinct
  context := hctx

/-- A merge into the working context of a counted state leaves a valid one. -/
theorem Counted.merge (h : Counted business)
    (hmrg : (business.workingContext.getD {}).merge update = .ok context) :
    context.validate = .ok () := by
  cases hwork : business.workingContext with
  | some working =>
    rw [hwork] at hmrg
    exact AgentWorkingContextV1.merge_valid (h.context working hwork) hmrg
  | none =>
    rw [hwork] at hmrg
    exact AgentWorkingContextV1.merge_new_valid hmrg

theorem Counted.withContext (h : Counted state.business)
    (hmrg : (state.business.workingContext.getD {}).merge update = .ok context) :
    Counted (withContext state context).business := by
  refine h.congr rfl rfl ?_
  rintro _ ⟨⟩
  exact h.merge hmrg

/-- One more observation, as long as there are rounds left. -/
theorem Counted.withObservation {obs : PlannerToolObservation} (h : Counted state.business)
    (hrd : state.business.replanRound < MAX_REPLAN_ROUNDS)
    (hval : validateToolObservation obs = .ok ())
    (hnew : ¬ state.business.HasObservation obs.proposalId) :
    Counted (withObservation state obs).business where
  length := by
    show (state.business.planningObservations ++ [obs]).length =
      (saturatingSucc state.business.replanRound).toNat
    rw [List.length_append, h.length, (saturatingSucc_toNat hrd).1, List.length_singleton]
  valid := List.forall_mem_append.mpr ⟨h.valid, List.forall_mem_singleton.mpr hval⟩
  distinct := by
    show ((state.business.planningObservations ++ [obs]).map PlannerToolObservation.proposalId).Nodup
    rw [List.map_append]
    refine h.distinct.append (List.nodup_singleton _) ?_
    intro id hid hoth
    obtain ⟨existing, hexis, rfl⟩ := List.mem_map.mp hid
    exact hnew ⟨existing, hexis, List.mem_singleton.mp hoth⟩
  context := h.context

/-- A counted state passes the part of `validate_agent_state` that is about re-planning and the
working context. -/
theorem Counted.validatePlanning (h : Counted business)
    (hrd : business.replanRound ≤ MAX_REPLAN_ROUNDS) :
    SecretaryAgentState.validatePlanning business = .ok () ∧
      totalSummaryChars business.planningObservations ≤ MAX_TOOL_OBSERVATION_TOTAL_CHARS := by
  have hlen : business.planningObservations.length ≤ 2 := by
    rw [h.length]
    exact UInt8.le_iff_toNat_le.mp hrd
  have hchars : totalSummaryChars business.planningObservations ≤
      MAX_TOOL_OBSERVATION_TOTAL_CHARS := by
    have hsum := List.sum_le_card_nsmul
      (business.planningObservations.map fun obs => obs.summary.length) MAX_TOOL_OBSERVATION_CHARS ?_
    · rw [List.length_map] at hsum
      exact hsum.trans (Nat.mul_le_mul_right _ hlen)
    · intro count hcnt
      obtain ⟨obs, hobs, rfl⟩ := List.mem_map.mp hcnt
      exact validateToolObservation_summary (h.valid obs hobs)
  exact ⟨SecretaryAgentState.validatePlanning_ok.mpr
    ⟨hrd, hlen, h.valid, h.distinct, hchars, h.context⟩, hchars⟩

end States

section Runs

variable [ActionFormat] {state state' : ActionState}
  {updates : List (AgentUpdate SecretaryAgentUpdate)} {proposal : SecretaryActionProposal}
  {story history : Story} {position position' : Position} {run : Position × Story}
  {business : SecretaryAgentState}

theorem Decision.counted (hdec : Decision state updates state') (h : Counted state.business)
    (hrd : state.business.replanRound < MAX_REPLAN_ROUNDS) :
    Counted state'.business ∧ state'.business.replanRound ≤ MAX_REPLAN_ROUNDS := by
  cases hdec with
  | nothing => exact ⟨h, UInt8.le_of_lt hrd⟩
  | conflict _ _ _ hmrg => exact ⟨h.withContext hmrg, UInt8.le_of_lt hrd⟩
  | repeated _ _ _ _ hmrg => exact ⟨h.withContext hmrg, UInt8.le_of_lt hrd⟩
  | observed _ _ hval hnew hmrg =>
    exact ⟨(h.withObservation hrd hval hnew).withContext hmrg, (saturatingSucc_toNat hrd).2⟩

/-- Back to `plan` there are rounds left: a conflict counts none. -/
theorem Decision.round_lt (hdec : Decision state updates state')
    (hrd : state.business.replanRound < MAX_REPLAN_ROUNDS) (hret : Returns state'.business) :
    state'.business.replanRound < MAX_REPLAN_ROUNDS := by
  cases hdec with
  | nothing => exact hrd
  | conflict => exact hrd
  | repeated => exact hrd
  | observed _ hfdg =>
    obtain ⟨receipt, _, _, hrcp, -, hnone, -⟩ := finding_observation hfdg
    obtain ⟨other, _, hoth, -, ⟨result, hres, -⟩ | ⟨-, -, hlt, -⟩⟩ := hret
    · obtain rfl := Option.some.inj (hrcp.symm.trans hoth)
      rw [hnone] at hres
      cases hres
    · exact hlt

theorem Dispatch.counted (h : Dispatch proposal state story (some state'))
    (hctd : Counted state.business ∧ state.business.replanRound < MAX_REPLAN_ROUNDS) :
    Counted state'.business ∧ state'.business.replanRound < MAX_REPLAN_ROUNDS := by
  obtain ⟨pending, receipt, -, -, -, rfl⟩ := h.after
  exact ⟨hctd.1.congr rfl rfl hctd.1.context, hctd.2⟩

theorem move_counted (hmove : Move position story position') (h : position.Counted) :
    position'.Counted := by
  cases hmove with
  | stopped => trivial
  | refused => trivial
  | noAction _ _ _ _ _ hmrg => exact ⟨h.1.withContext hmrg, h.2⟩
  | @direct state context proposal story after runStep ids conversations hmrg _ _ hdisp =>
    cases after with
    | none => trivial
    | some state' =>
      have hctx := h.1.withContext hmrg
      exact hdisp.counted ⟨hctx.congr rfl rfl hctx.context, h.2⟩
  | @asked state context proposal next runStep ids conversations hmrg hadm howner hnext =>
    rcases hnext with rfl | rfl
    · have hctx := h.1.withContext hmrg
      exact ⟨hctx.congr rfl rfl hctx.context, h.2⟩
    · trivial
  | idle => exact h
  | @carriedOut state proposal story after runStep _ _ hdisp =>
    cases after with
    | none => trivial
    | some state' => exact hdisp.counted h
  | @decided state state' updates runStep hdec =>
    obtain ⟨hctd, hle⟩ := hdec.counted h.1 h.2
    unfold routeTarget
    split
    · next hsel => exact ⟨hctd, hdec.round_lt h.2 (select_eq_continue.mp hsel).2⟩
    · exact ⟨hctd, hle⟩
  | responded => exact ⟨h.1.congr rfl rfl h.1.context, h.2⟩
  | drafted => exact ⟨h.1.congr rfl rfl h.1.context, h.2⟩
  | resumed => exact ⟨h.1.congr rfl rfl h.1.context, h.2⟩

theorem begun_counted (h : Begun run) : run.1.Counted := by
  obtain ⟨hnew⟩ := h
  obtain ⟨⟨⟩, -, hst⟩ := Except.bind_ok hnew
  cases hst
  refine ⟨⟨rfl, List.forall_mem_nil _, List.nodup_nil, ?_⟩, (by decide : (0 : UInt8) < MAX_REPLAN_ROUNDS)⟩
  rintro context ⟨⟩

theorem machine_counted (h : Machine run) : run.1.Counted := by
  refine h.invariant (fun run => run.1.Counted) (fun _ => begun_counted) ?_
  rintro _ _ hctd ⟨history, hmove⟩
  exact move_counted hmove hctd

/-- What `plan` is given of a counted state is never refused. -/
theorem Counted.validatePlanningState (h : Counted business)
    (hrd : business.replanRound ≤ MAX_REPLAN_ROUNDS) (context : ActionRunContext)
    (conversation : ConversationRef) (retrieved : List PlannerRetrievedExcerpt)
    (views : List AgentEventView) :
    Planner.validatePlanningState
      (PlanNode.plannerInput context business conversation retrieved views).observations
      (PlanNode.plannerInput context business conversation retrieved views).replanRound
      (PlanNode.plannerInput context business conversation retrieved views).workingContext =
        .ok () := by
  have hlen : business.planningObservations.length ≤ 2 := by
    rw [h.length]
    exact UInt8.le_iff_toNat_le.mp hrd
  unfold Planner.validatePlanningState PlanNode.plannerInput
  simp only [Except.and_then_eq_ok, Planner.requireInput_ok, Except.forM_eq_ok]
  refine ⟨hlen, h.valid, (h.validatePlanning hrd).2, hrd, ?_⟩
  cases hctx : business.workingContext with
  | none => rfl
  | some working =>
    show (validateWorkingContextProjection working.projection).mapError _ = .ok ()
    rw [AgentWorkingContextV1.projection_valid (h.context working hctx)]
    rfl

/-! ## The number of queries -/

def acceptedIds (history : Story) : List String :=
  (history.filterMap acceptance?).map SecretaryActionProposal.proposalId

/-- The dispatch of a query that the planner is to be shown. -/
def isQueryDispatch (entry : Entry SecretaryAgentState) : Bool :=
  (dispatch? entry).any fun proposal => isReplanObservationTool proposal.action.kind

def queries (history : Story) : ℕ := history.countP isQueryDispatch

@[simp] theorem acceptedIds_append (xs ys : Story) :
    acceptedIds (xs ++ ys) = acceptedIds xs ++ acceptedIds ys := by
  unfold acceptedIds
  rw [List.filterMap_append, List.map_append]

@[simp] theorem queries_append (xs ys : Story) : queries (xs ++ ys) = queries xs + queries ys :=
  List.countP_append

/-- Every id that the state knows was accepted. -/
structure Known (history : Story) (business : SecretaryAgentState) : Prop where
  observations : ∀ obs ∈ business.planningObservations, obs.proposalId ∈ acceptedIds history
  receipt : ∀ receipt, business.lastReceipt = some receipt → receipt.proposalId ∈ acceptedIds history
  pending : ∀ proposal, business.pendingProposal = some proposal →
    proposal.proposalId ∈ acceptedIds history

/-- The last receipt is of a query that is not observed yet. -/
def Unobserved (business : SecretaryAgentState) : Prop :=
  ∃ receipt toolKind, business.lastReceipt = some receipt ∧ receipt.toolKind = some toolKind ∧
    isReplanObservationTool toolKind = true ∧ ¬ business.HasObservation receipt.proposalId

/-- At most one query more than there are rounds, and that one not observed yet. -/
def Ahead (history : Story) (business : SecretaryAgentState) : Prop :=
  queries history ≤ business.replanRound.toNat ∨
    queries history ≤ business.replanRound.toNat + 1 ∧ Unobserved business

def Position.Spent (history : Story) : Position → Prop
  | .atNode .plan state =>
    queries history ≤ state.business.replanRound.toNat ∧ state.business.phase ≠ .execute
  | .waiting state => queries history ≤ state.business.replanRound.toNat ∧
    ∃ proposal, state.business.pendingProposal = some proposal ∧ proposal.action.NeedsOwner
  | .atNode .execute state => Ahead history state.business ∧
    (state.business.phase = .execute → queries history ≤ state.business.replanRound.toNat ∧
      ∃ proposal, state.business.pendingProposal = some proposal ∧ proposal.action.NeedsOwner)
  | .atNode .decide state => Ahead history state.business ∧ state.business.phase ≠ .execute
  | _ => queries history ≤ MAX_REPLAN_ROUNDS.toNat

theorem Known.append (h : Known history business) (story : Story) :
    Known (history ++ story) business where
  observations := fun obs hobs => by
    rw [acceptedIds_append]
    exact List.mem_append_left _ (h.observations obs hobs)
  receipt := fun receipt hrcp => by
    rw [acceptedIds_append]
    exact List.mem_append_left _ (h.receipt receipt hrcp)
  pending := fun proposal hprop => by
    rw [acceptedIds_append]
    exact List.mem_append_left _ (h.pending proposal hprop)

/-- A change that touches nothing with an id. -/
theorem Known.congr {business' : SecretaryAgentState} (h : Known history business)
    (hobser : business'.planningObservations = business.planningObservations)
    (hrcp : business'.lastReceipt = business.lastReceipt)
    (hpend : business'.pendingProposal = business.pendingProposal) :
    Known history business' where
  observations := by rw [hobser]; exact h.observations
  receipt := by rw [hrcp]; exact h.receipt
  pending := by rw [hpend]; exact h.pending

/-- A receipt answers a proposal that was accepted. -/
theorem Dispatch.known (h : Dispatch proposal state story (some state'))
    (hkn : Known history state.business) : Known history state'.business := by
  obtain ⟨pending, receipt, hpend, hanss, -, rfl⟩ := h.after
  refine ⟨hkn.observations, ?_, ?_⟩
  · rintro _ ⟨⟩
    rw [← hanss.id]
    exact hkn.pending pending hpend
  · rintro _ ⟨⟩

theorem Known.withProposal (h : Known history state.business)
    (hid : proposal.proposalId ∈ acceptedIds history) :
    Known history (withProposal state proposal).business := by
  refine ⟨h.observations, h.receipt, ?_⟩
  rintro _ ⟨⟩
  exact hid

theorem Decision.known (hdec : Decision state updates state')
    (h : Known history state.business) : Known history state'.business := by
  cases hdec with
  | nothing => exact h
  | conflict => exact h.congr rfl rfl rfl
  | repeated => exact h.congr rfl rfl rfl
  | @observed obs context _ hfdg =>
    obtain ⟨receipt, _, result, hrcp, -, -, -, rfl⟩ := finding_observation hfdg
    refine ⟨?_, h.receipt, h.pending⟩
    exact List.forall_mem_append.mpr
      ⟨h.observations, List.forall_mem_singleton.mpr (h.receipt receipt hrcp)⟩

theorem move_known (hmove : Move position story position')
    (h : ∀ state, position.state? = some state → Known history state.business) :
    ∀ state, position'.state? = some state → Known (history ++ story) state.business := by
  have hkeep : ∀ state, position.state? = some state → Known (history ++ story) state.business :=
    fun state hst => (h state hst).append story
  cases hmove with
  | stopped => rintro _ ⟨⟩
  | refused => rintro _ ⟨⟩
  | noAction =>
    rintro _ ⟨⟩
    exact (hkeep _ rfl).congr rfl rfl rfl
  | @direct state context proposal story after runStep ids conversations _ _ _ hdisp =>
    cases after with
    | none => rintro _ ⟨⟩
    | some state' =>
      rintro _ ⟨⟩
      have hctx : Known (history ++ called runStep .plan ::
          recorded (.workingContext (retrieval ids conversations)) ::
          recorded (.proposalAccepted proposal) :: story) (withContext state context).business :=
        (hkeep _ rfl).congr rfl rfl rfl
      exact hdisp.known (hctx.withProposal (by simp [acceptedIds, acceptance?]))
  | @asked state context proposal next runStep ids conversations hmrg hadm howner hnext =>
    rcases hnext with rfl | rfl
    · rintro _ ⟨⟩
      have hctx : Known (history ++ [called runStep .plan,
          recorded (.workingContext (retrieval ids conversations)),
          recorded (.proposalAccepted proposal)]) (withContext state context).business :=
        (hkeep _ rfl).congr rfl rfl rfl
      exact hctx.withProposal (by simp [acceptedIds, acceptance?])
    · rintro _ ⟨⟩
  | idle => exact hkeep
  | @carriedOut state proposal story after runStep _ _ hdisp =>
    cases after with
    | none => rintro _ ⟨⟩
    | some state' =>
      rintro _ ⟨⟩
      exact hdisp.known (hkeep _ rfl)
  | decided runStep hdec =>
    rintro _ ⟨⟩
    exact hdec.known (hkeep _ rfl)
  | responded =>
    rintro _ ⟨⟩
    exact (hkeep _ rfl).congr rfl rfl rfl
  | drafted =>
    rintro _ ⟨⟩
    exact (hkeep _ rfl).congr rfl rfl rfl
  | resumed =>
    rintro _ ⟨⟩
    exact (hkeep _ rfl).congr rfl rfl rfl

/-- What is spent is within the bound, wherever a run stops. -/
theorem Position.Spent.le (h : position.Spent history) (hctd : position.Counted) :
    queries history ≤ MAX_REPLAN_ROUNDS.toNat := by
  have hahead : ∀ {state : ActionState}, Ahead history state.business →
      state.business.replanRound < MAX_REPLAN_ROUNDS → queries history ≤ MAX_REPLAN_ROUNDS.toNat := by
    intro state hahead hrd
    have hlt := UInt8.lt_iff_toNat_lt.mp hrd
    rcases hahead with hle | ⟨hle, -⟩
    · exact hle.trans hlt.le
    · exact hle.trans hlt
  cases position with
  | atNode stage state =>
    cases stage with
    | plan => exact h.1.trans (UInt8.lt_iff_toNat_lt.mp hctd.2).le
    | execute => exact hahead h.1 hctd.2
    | decide => exact hahead h.1 hctd.2
    | respond => exact h
  | waiting state => exact h.1.trans (UInt8.lt_iff_toNat_lt.mp hctd.2).le
  | completed state => exact h
  | failed => exact h

theorem Dispatch.queries {after : Option ActionState} (h : Dispatch proposal state story after) :
    queries story ≤ 1 ∧
      (isReplanObservationTool proposal.action.kind = false → queries story = 0) := by
  have hdis : ∀ {envelope : EffectEnvelope SecretaryActionEffect} {answer},
      envelope.effect = ⟨proposal⟩ → isQueryDispatch (dispatched envelope answer) =
        isReplanObservationTool proposal.action.kind := by
    intro envelope answer heff
    rw [isQueryDispatch, dispatch?_dispatched, heff]
    rfl
  have hcnt : ∀ {entry : Entry SecretaryAgentState} {rest : Story}, ActionGraph.queries rest = 0 →
      isQueryDispatch entry = isReplanObservationTool proposal.action.kind →
      ActionGraph.queries (entry :: rest) ≤ 1 ∧
        (isReplanObservationTool proposal.action.kind = false →
          ActionGraph.queries (entry :: rest) = 0) := by
    intro entry rest hrest hent
    unfold ActionGraph.queries at hrest ⊢
    rw [List.countP_cons, hrest, hent]
    cases isReplanObservationTool proposal.action.kind <;> simp
  cases h with
  | inactive => exact ⟨Nat.zero_le 1, fun _ => rfl⟩
  | failed answer heff => exact hcnt rfl (hdis heff)
  | completed heff => exact hcnt rfl (hdis heff)

/-- Where the router leads back, the query that was ahead is observed by now. -/
theorem Decision.caughtUp (hdec : Decision state updates state')
    (hrd : state.business.replanRound < MAX_REPLAN_ROUNDS)
    (hahead : Ahead history state.business) (hret : Returns state'.business) :
    queries history ≤ state'.business.replanRound.toNat := by
  have hstill : state'.business.lastReceipt = state.business.lastReceipt →
      state'.business.planningObservations = state.business.planningObservations →
      state'.business.replanRound = state.business.replanRound →
      queries history ≤ state'.business.replanRound.toNat := by
    intro hlast hobser hsame
    rw [hsame]
    rcases hahead with hle | ⟨-, receipt, toolKind, hrcp, hkind, htool, hnot⟩
    · exact hle
    · obtain ⟨other, otherKind, hoth, hotherKind, hcases⟩ := hret
      obtain rfl := Option.some.inj (hrcp.symm.trans (hlast.symm.trans hoth))
      rcases hcases with ⟨result, hres, -⟩ | ⟨-, -, -, existing, hexis, hid⟩
      · obtain rfl := Option.some.inj (hkind.symm.trans (conflictResult_kind hres))
        cases htool
      · rw [hobser] at hexis
        exact absurd ⟨existing, hexis, hid⟩ hnot
  cases hdec with
  | nothing => exact hstill rfl rfl rfl
  | conflict => exact hstill rfl rfl rfl
  | repeated => exact hstill rfl rfl rfl
  | observed =>
    show queries history ≤ (saturatingSucc state.business.replanRound).toNat
    rw [(saturatingSucc_toNat hrd).1]
    rcases hahead with hle | ⟨hle, -⟩
    · exact hle.trans (Nat.le_succ _)
    · exact hle

theorem queries_decided {route : RouteKey} {runStep : RunStep} : queries (called runStep .decide ::
      (updates.map (Entry.applied (B := SecretaryAgentState)) ++ [routed route])) = 0 := by
  refine List.countP_eq_zero.mpr fun entry hent => ?_
  rcases List.mem_cons.mp hent with rfl | hent
  · exact Bool.false_ne_true
  rcases List.mem_append.mp hent with hent | hent
  · obtain ⟨update, -, rfl⟩ := List.mem_map.mp hent
    exact Bool.false_ne_true
  · rw [List.mem_singleton.mp hent]
    exact Bool.false_ne_true

theorem move_spent (hmove : Move position story position') (hctd : position.Counted)
    (hkn : ∀ state, position.state? = some state → Known history state.business)
    (hdist : (acceptedIds (history ++ story)).Nodup) (h : position.Spent history) :
    position'.Spent (history ++ story) := by
  have hsame : queries story = 0 → queries (history ++ story) = queries history := fun hzero => by
    rw [queries_append, hzero, Nat.add_zero]
  have hahead : ∀ {business : SecretaryAgentState}, queries story = 0 → Ahead history business →
      Ahead (history ++ story) business := by
    intro business hzero hbef
    unfold Ahead at hbef ⊢
    rw [hsame hzero]
    exact hbef
  cases hmove with
  | stopped =>
    show queries (history ++ []) ≤ _
    rw [List.append_nil]
    exact h.le hctd
  | refused =>
    show queries (history ++ _) ≤ _
    rw [hsame rfl]
    exact h.le hctd
  | noAction => exact ⟨hahead rfl (.inl h.1), fun hph => absurd hph h.2⟩
  | @direct state context proposal story after runStep ids conversations _ _ howner hdisp =>
    have hbound := UInt8.lt_iff_toNat_lt.mp hctd.2
    obtain ⟨hone, hzero⟩ := hdisp.queries
    have hcnt : queries (history ++ called runStep .plan ::
        recorded (.workingContext (retrieval ids conversations)) ::
        recorded (.proposalAccepted proposal) :: story) = queries history + queries story := by
      rw [queries_append]
      rfl
    have hle := h.1
    cases after with
    | none =>
      show queries (history ++ _) ≤ _
      rw [hcnt]
      omega
    | some state' =>
      obtain ⟨pending, receipt, hpend, hanss, -, rfl⟩ := hdisp.after
      obtain rfl : proposal = pending := Option.some.inj hpend
      refine ⟨?_, fun hph => SecretaryAgentPhase.noConfusion hph⟩
      unfold Ahead
      rw [hcnt]
      by_cases htool : isReplanObservationTool proposal.action.kind = true
      · refine .inr ⟨?_, _, _, rfl, rfl, htool, ?_⟩
        · exact Nat.add_le_add hle hone
        · rintro ⟨existing, hexis, hid⟩
          -- the id would have been accepted before
          have hbef := (hkn state rfl).observations existing hexis
          rw [acceptedIds_append] at hdist
          refine List.disjoint_of_nodup_append hdist hbef ?_
          rw [hid]
          show receipt.proposalId ∈ acceptedIds _
          rw [← hanss.id]
          simp [acceptedIds, acceptance?]
      · rw [hzero (Bool.not_eq_true _ ▸ htool)]
        exact .inl hle
  | @asked state context proposal next runStep ids conversations hmrg hadm howner hnext =>
    rcases hnext with rfl | rfl
    · refine ⟨?_, proposal, rfl, howner⟩
      rw [hsame rfl]
      exact h.1
    · show queries (history ++ _) ≤ _
      rw [hsame rfl]
      exact h.le hctd
  | @idle state runStep hidle =>
    refine ⟨hahead rfl h.1, fun hph => ?_⟩
    obtain ⟨-, proposal, hprop, -⟩ := h.2 hph
    rw [hidle hph] at hprop
    cases hprop
  | @carriedOut state proposal story after runStep hph hpend hdisp =>
    obtain ⟨hle, waiting, hwaiting, howner⟩ := h.2 hph
    obtain rfl := Option.some.inj (hpend.symm.trans hwaiting)
    have htool : isReplanObservationTool proposal.action.kind = false := by
      cases htool : isReplanObservationTool proposal.action.kind with
      | false => rfl
      | true => exact absurd howner (query_needless htool)
    have hcnt : queries (history ++ called runStep .execute :: story) = queries history := by
      rw [queries_append]
      exact congrArg (queries history + ·) (hdisp.queries.2 htool)
    cases after with
    | none =>
      show queries (history ++ _) ≤ _
      rw [hcnt]
      exact h.le hctd
    | some state' =>
      obtain ⟨pending, receipt, -, -, -, rfl⟩ := hdisp.after
      refine ⟨.inl ?_, fun hph => SecretaryAgentPhase.noConfusion hph⟩
      rw [hcnt]
      exact hle
  | @decided state state' updates runStep hdec =>
    unfold routeTarget
    split
    · next hsel =>
      refine ⟨?_, hdec.phase h.2⟩
      rw [hsame queries_decided]
      exact hdec.caughtUp hctd.2 h.1 (select_eq_continue.mp hsel).2
    · show queries (history ++ _) ≤ _
      rw [hsame queries_decided]
      exact h.le hctd
  | responded =>
    show queries (history ++ _) ≤ _
    rw [hsame rfl]
    exact h
  | drafted =>
    show queries (history ++ _) ≤ _
    rw [hsame rfl]
    exact h
  | @resumed state pending input hpend hid =>
    refine ⟨hahead rfl (.inl h.1), fun _ => ⟨?_, h.2⟩⟩
    rw [hsame rfl]
    exact h.1

/-! ## Every run -/

theorem machine_spent (h : Machine run) :
    (acceptedIds run.2).Nodup → queries run.2 ≤ MAX_REPLAN_ROUNDS.toNat := by
  have hall : run.1.Counted ∧ (∀ state, run.1.state? = some state → Known run.2 state.business) ∧
      ((acceptedIds run.2).Nodup → run.1.Spent run.2) := by
    refine h.invariant (fun run => run.1.Counted ∧
      (∀ state, run.1.state? = some state → Known run.2 state.business) ∧
        ((acceptedIds run.2).Nodup → run.1.Spent run.2)) ?_ ?_
    · intro begun hbeg
      refine ⟨begun_counted hbeg, ?_⟩
      obtain ⟨hnew⟩ := hbeg
      obtain ⟨⟨⟩, -, hst⟩ := Except.bind_ok hnew
      cases hst
      refine ⟨?_, fun _ => ⟨Nat.le_refl 0, fun hph => SecretaryAgentPhase.noConfusion hph⟩⟩
      rintro _ ⟨⟩
      refine ⟨List.forall_mem_nil _, ?_, ?_⟩
      · rintro receipt ⟨⟩
      · rintro proposal ⟨⟩
    · rintro _ _ ⟨hctd, hkn, hspent⟩ ⟨history, hmove⟩
      refine ⟨move_counted hmove hctd, move_known hmove hkn, fun hdist => ?_⟩
      have hbef : (acceptedIds history).Nodup := by
        rw [acceptedIds_append] at hdist
        exact (List.nodup_append.mp hdist).1
      exact move_spent hmove hctd hkn hdist (hspent hbef)
  exact fun hdist => (hall.2.2 hdist).le hall.1

/-- In every run on action graphs, whatever the planner, the executor and the Owner do: at every step
there are as many observations as rounds and no more rounds than allowed, of distinct proposals and
not too long together; the state passes the bounds of `validate_agent_state`, and what `plan` would
be given of it the checks of `validate_planner_input`; and where all proposals that were accepted
have different ids, no more queries were dispatched than there may be rounds. -/
theorem replanning_within_budget {W S : Type} {run : Recorded SecretaryAgentState W S}
    (h : ActionRuns run) :
    (∀ state, run.1.1.state? = some state →
      state.business.planningObservations.length = state.business.replanRound.toNat ∧
        state.business.replanRound ≤ MAX_REPLAN_ROUNDS ∧
        (state.business.planningObservations.map PlannerToolObservation.proposalId).Nodup ∧
        totalSummaryChars state.business.planningObservations ≤ MAX_TOOL_OBSERVATION_TOTAL_CHARS ∧
        SecretaryAgentState.validatePlanning state.business = .ok () ∧
        ∀ context conversation retrieved views, Planner.validatePlanningState
          (PlanNode.plannerInput context state.business conversation retrieved views).observations
          (PlanNode.plannerInput context state.business conversation retrieved views).replanRound
          (PlanNode.plannerInput context state.business conversation retrieved views).workingContext =
            .ok ()) ∧
      ((acceptedIds run.2).Nodup → queries run.2 ≤ MAX_REPLAN_ROUNDS.toNat) := by
  obtain ⟨position, hrepr, hmach⟩ := actionRuns_machine h
  refine ⟨fun state hst => ?_, machine_spent hmach⟩
  rw [← hrepr.state?] at hst
  have hpos := machine_counted hmach
  obtain ⟨hctd, hrd⟩ : Counted state.business ∧
      state.business.replanRound ≤ MAX_REPLAN_ROUNDS := by
    cases position with
    | atNode stage held =>
      cases hst
      cases stage with
      | plan => exact ⟨hpos.1, UInt8.le_of_lt hpos.2⟩
      | execute => exact ⟨hpos.1, UInt8.le_of_lt hpos.2⟩
      | decide => exact ⟨hpos.1, UInt8.le_of_lt hpos.2⟩
      | respond => exact hpos
    | waiting held =>
      cases hst
      exact ⟨hpos.1, UInt8.le_of_lt hpos.2⟩
    | completed held =>
      cases hst
      exact hpos
    | failed => cases hst
  obtain ⟨hval, hchars⟩ := hctd.validatePlanning hrd
  exact ⟨hctd.length, hrd, hctd.distinct, hchars, hval, hctd.validatePlanningState hrd⟩

end Runs

section Scripted

open Scripted

def twoQueries : Scripted.Script where
  planned := [.proposal statusProposal, .proposal searchProposal, .noAction "好的"]
  receipts := [receipt "p-status" statusText, receipt "p-search" searchText]

theorem replanning_within_budget_twoQueries :
    queries (played twoQueries []).2 = 2 ∧
      queries (played twoQueries []).2 ≤ MAX_REPLAN_ROUNDS.toNat := by
  have hruns := played_runs twoQueries []
  have hdist : (acceptedIds (played twoQueries []).2).Nodup := by decide +kernel
  have htwo : queries (played twoQueries []).2 = 2 := by decide +kernel
  generalize played twoQueries [] = run at *
  exact ⟨htwo, (replanning_within_budget hruns).2 hdist⟩

end Scripted

end ServerRS.ActionGraph

import ServerRS.AgentCore.GraphSafety

/-!
# Which effects are dispatched

The executor is called only for a node whose answer passed every check of its turn, and
only for effects of that answer, one after the other. A turn that fails leaves nothing
behind but its calls (`effects_only_from_admitted_steps`).
-/

namespace ServerRS.AgentCore

open Lib

variable {B : Type} [AgentBusinessState B] {W S : Type}

/-! ## The calls in a log -/

/-- The executor call that an event reports. -/
def Event.call? : Event B → Option (EffectCall B)
  | .effectExecuted envelope answer => some (envelope, answer)
  | _ => none

/-- The executor calls of a log, in call order. -/
def callsOf (events : List (Event B)) : List (EffectCall B) := events.filterMap Event.call?

theorem callsOf_append (xs ys : List (Event B)) :
    callsOf (xs ++ ys) = callsOf xs ++ callsOf ys := List.filterMap_append

theorem callsOf_map_event (calls : List (EffectCall B)) :
    callsOf (calls.map EffectCall.event) = calls := by
  rw [callsOf, List.filterMap_map]
  exact List.filterMap_some

theorem callsOf_routing {observed : List (Event B)}
    (h : ∀ event ∈ observed, event.isRouting = true) : callsOf observed = [] := by
  refine List.filterMap_eq_nil_iff.mpr fun event hev => ?_
  have hrout := h event hev
  cases event with
  | routeSelected node answer => rfl
  | nodeExecuted step node => cases hrout
  | effectExecuted envelope answer => cases hrout

section Logs

variable {runtime : GraphRuntime B W S} {context : RunContext} {current : NodeId}
  {shared shared' : Shared B W S} {runStep : RunStep} {calls : List (EffectCall B)}
  {observed : List (Event B)}

/-- The log of a turn holds its calls and no others. -/
theorem TurnBegun.tail
    (h : TurnBegun runtime context current shared runStep calls observed shared') :
    ∃ tail, shared'.events = shared.events ++ tail ∧ callsOf tail = calls := by
  refine ⟨_, h.events, ?_⟩
  rw [← List.singleton_append, callsOf_append, callsOf_append, callsOf_map_event,
    callsOf_routing h.routing, List.append_nil]
  rfl

variable {watch : Interruption W}

theorem checkReady_events {graphMaxSteps : NonZeroU32}
    (h : checkReady context watch graphMaxSteps shared = (.ok runStep, shared')) :
    shared'.events = shared.events := by
  obtain ⟨_, _, _, rfl⟩ := checkReady_ok h
  rfl

theorem callsOf_nodeExecuted (runStep : RunStep) (current : NodeId) (events : List (Event B)) :
    callsOf (.nodeExecuted runStep current :: events) = callsOf events := rfl

theorem TurnRun.tail {checkpointing : Bool} {vars : LoopVars B}
    {result : Except GraphRunError (Turn B)}
    (h : TurnRun runtime context watch checkpointing vars shared calls result shared') :
    ∃ tail, shared'.events = shared.events ++ tail ∧ callsOf tail = calls := by
  cases h with
  | notReady hrdy =>
    obtain ⟨rfl, _⟩ := checkReady_error hrdy
    exact ⟨[], (List.append_nil _).symm, rfl⟩
  | unprepared hrdy hprep =>
    rw [← checkReady_events hrdy]
    rcases prepareTurn_error hprep with ⟨_, _, rfl⟩ | ⟨hext, _⟩
    · exact ⟨[], (List.append_nil _).symm, rfl⟩
    · exact ⟨_, hext.events, rfl⟩
  | undispatched hrdy hprep hdisp =>
    rw [← checkReady_events hrdy]
    have hext := (prepareTurn_extends hprep).trans hdisp.extends_calls
    refine ⟨_, hext.events, ?_⟩
    rw [List.singleton_append, callsOf_nodeExecuted, callsOf_map_event]
  | misrouted hrdy hprep hdisp hsel =>
    rw [← checkReady_events hrdy]
    obtain ⟨observed, hselec, hrout, _⟩ := selectNext_error hsel
    have hext := (prepareTurn_extends hprep).trans (hdisp.extends_calls.trans hselec)
    refine ⟨_, hext.events, ?_⟩
    rw [List.singleton_append, callsOf_nodeExecuted, callsOf_append, callsOf_map_event,
      callsOf_routing hrout, List.append_nil]
  | done hrdy hprep hdisp hsel =>
    rw [← checkReady_events hrdy]
    obtain ⟨observed, hselec, hrt⟩ := selectNext_ok hsel
    have hext := (prepareTurn_extends hprep).trans (hdisp.extends_calls.trans hselec)
    refine ⟨_, hext.events, ?_⟩
    rw [List.singleton_append, callsOf_nodeExecuted, callsOf_append, callsOf_map_event,
      callsOf_routing hrt.routing, List.append_nil]

end Logs

/-! ## The ids of a turn -/

section Ids

variable {runtime : GraphRuntime B W S} {context : RunContext} {watch : Interruption W}
  {runStep : RunStep} {current : NodeId} {effects : List (Effect B)}

theorem DispatchRun.length_le {vars : EffectVars B} {shared shared' : Shared B W S}
    {calls : List (EffectCall B)} {result : Except GraphRunError (EffectVars B)}
    (h : DispatchRun runtime context watch runStep current 0 effects vars shared calls result
      shared') : calls.length ≤ 2 ^ 32 := by
  have hfit := h.ordinals_fit (Nat.zero_le _)
  rwa [Nat.zero_add] at hfit

/-- The envelopes of one turn carry its run, step and node, and are ordered by their ids as long
as their positions fit into an ordinal. -/
theorem envelopes_ordered {ordinal : Nat} {envelopes : List (EffectEnvelope (Effect B))}
    (hpre : envelopes <+: effectEnvelopes context runStep current ordinal effects)
    (hfit : ordinal + envelopes.length ≤ 2 ^ 32) :
    (envelopes.map (·.id)).Pairwise EffectId.before ∧ ∀ envelope ∈ envelopes,
      envelope.id.runId = context.runId ∧ envelope.id.step = runStep ∧
        envelope.id.nodeId = current ∧ ordinal ≤ envelope.id.ordinal.toNat := by
  induction effects generalizing ordinal envelopes with
  | nil =>
    rw [effectEnvelopes, List.prefix_nil] at hpre
    subst hpre
    exact ⟨List.Pairwise.nil, fun _ hmem => absurd hmem List.not_mem_nil⟩
  | cons effect rest ih =>
    cases envelopes with
    | nil => exact ⟨List.Pairwise.nil, fun _ hmem => absurd hmem List.not_mem_nil⟩
    | cons envelope envelopes =>
      obtain ⟨rfl, htail⟩ := List.cons_prefix_cons.mp hpre
      rw [List.length_cons] at hfit
      obtain ⟨hord, hids⟩ := ih htail (by omega)
      have hordin : (UInt32.ofNat ordinal).toNat = ordinal :=
        UInt32.toNat_ofNat_of_lt (show ordinal < 4294967296 by omega)
      refine ⟨List.pairwise_cons.mpr ⟨fun id hid => ?_, hord⟩, fun other hoth => ?_⟩
      · obtain ⟨other, hoth, rfl⟩ := List.mem_map.mp hid
        obtain ⟨_, hstep, _, hle⟩ := hids other hoth
        refine .inr ⟨congrArg RunStep.get hstep.symm, UInt32.lt_iff_toNat_lt.mpr ?_⟩
        show (UInt32.ofNat ordinal).toNat < _
        omega
      · rcases List.mem_cons.mp hoth with rfl | hoth
        · exact ⟨rfl, rfl, rfl, hordin.ge⟩
        · obtain ⟨hrun, hstep, hnode, hle⟩ := hids other hoth
          exact ⟨hrun, hstep, hnode, Nat.le_of_succ_le hle⟩

theorem effectEnvelopes_effects (ordinal : Nat) (effects : List (Effect B)) :
    (effectEnvelopes context runStep current ordinal effects).map (·.effect) = effects := by
  induction effects generalizing ordinal with
  | nil => rfl
  | cons effect rest ih =>
    rw [effectEnvelopes, List.map_cons, ih]
    rfl

theorem before_nodup {ids : List EffectId} (h : ids.Pairwise EffectId.before) : ids.Nodup := by
  refine h.imp fun hbef heq => ?_
  subst heq
  exact EffectId.before_irrefl _ hbef

end Ids

/-! ## Admission -/

/-- The turn of `segment` from `vars` may dispatch the effects of `result`: the node returned
`Ok result`, a request to suspend is possible at this entry point and at this node, the reported
usage fits the budget, and all updates are accepted. -/
structure Admitted (segment : Segment B W S) (vars : LoopVars B) (shared : Shared B W S)
    (runStep : RunStep) (result : NodeResult B) : Prop where
  node : ∃ node world usage, segment.runtime.graph.node vars.current = some node ∧
    (node.execute vars.state segment.context shared.world).run segment.context.limits
      { shared.usage with steps := runStep.get } = ((.ok result, world), usage) ∧
    (recordUsage segment.context.limits result.answer.usage usage).1 = .ok ()
  entry : result.answer.suspendRequest.isSome = true → segment.checkpointing = true
  transition : ∃ transition, segment.runtime.graph.transition vars.current = some transition ∧
    (result.answer.suspendRequest.isSome = true → transition.isEnd = false)
  updates : (vars.state.applyUpdates result.answer.updates).1 = .ok ()

section Admission

variable {segment : Segment B W S} {watch : Interruption W} {vars : LoopVars B}
  {shared shared₁ shared₂ shared' : Shared B W S} {runStep : RunStep}

/-- A node call that came back with a result was answered with it. -/
theorem awaitNode_ok {context : RunContext} {node : AgentNode B W} {result : NodeResult B}
    (h : awaitNode context watch runStep node vars shared = (.ok result, shared')) :
    ∃ world usage, (node.execute vars.state context shared.world).run context.limits shared.usage =
        ((.ok result, world), usage) ∧ shared'.usage = usage := by
  obtain ⟨answer, hact, _, hres⟩ := awaitNode_spec h
  cases hcall : (node.execute vars.state context shared.world).run context.limits shared.usage with
  | mk value usage =>
    obtain ⟨answered, world⟩ := value
    unfold actOn at hact
    dsimp only at hact
    rw [hcall] at hact
    cases hact
    refine ⟨world, usage, ?_, rfl⟩
    split at hres
    · cases hres
    · cases answered with
      | ok value =>
        cases hres
        rfl
      | error error => cases hres

theorem prepareTurn_admitted {transition : TransitionRule B W} {answer : NodeAnswer B}
    {candidate : AgentState B}
    (hrdy : checkReady segment.context watch segment.runtime.graph.policy.maxSteps shared =
      (.ok runStep, shared₁))
    (hprep : prepareTurn segment.runtime segment.context watch segment.checkpointing runStep vars
      shared₁ = (.ok (transition, answer, candidate), shared₂)) :
    ∃ result, Admitted segment vars shared runStep result ∧ answer = result.answer := by
  obtain ⟨_, _, _, rfl⟩ := checkReady_ok hrdy
  obtain ⟨node, result, shared₃, hnode, hawait, rfl, hallowed, htr, hend, hrec,
    hupds⟩ := prepareTurn_ok hprep
  obtain ⟨world, usage, hexec, husage⟩ := awaitNode_ok hawait
  obtain ⟨_, hrecd, _⟩ := Exec.zoom_eq.mp hrec
  rw [husage] at hrecd
  refine ⟨result, ?_, rfl⟩
  exact {
    node := ⟨node, world, usage, hnode, hexec, congrArg Prod.fst hrecd⟩
    entry := hallowed
    transition := ⟨transition, htr, hend⟩
    updates := congrArg Prod.fst hupds }

/-- Whoever calls the executor was admitted. -/
theorem TurnRun.admitted {calls : List (EffectCall B)} {result : Except GraphRunError (Turn B)}
    (h : TurnRun segment.runtime segment.context watch segment.checkpointing vars shared calls
      result shared') (hcalls : calls ≠ []) :
    ∃ runStep nodeResult, Admitted segment vars shared runStep nodeResult ∧
      calls.map Prod.fst <+:
        effectEnvelopes segment.context runStep vars.current 0 nodeResult.answer.effects ∧
      calls.length ≤ 2 ^ 32 := by
  cases h with
  | notReady => exact absurd rfl hcalls
  | unprepared => exact absurd rfl hcalls
  | undispatched hrdy hprep hdisp =>
    obtain ⟨nodeResult, hadm, rfl⟩ := prepareTurn_admitted hrdy hprep
    exact ⟨_, nodeResult, hadm, hdisp.envelopes_prefix, hdisp.length_le⟩
  | misrouted hrdy hprep hdisp =>
    obtain ⟨nodeResult, hadm, rfl⟩ := prepareTurn_admitted hrdy hprep
    exact ⟨_, nodeResult, hadm, hdisp.envelopes_prefix, hdisp.length_le⟩
  | done hrdy hprep hdisp =>
    obtain ⟨nodeResult, hadm, rfl⟩ := prepareTurn_admitted hrdy hprep
    exact ⟨_, nodeResult, hadm, hdisp.envelopes_prefix, hdisp.length_le⟩

end Admission

/-! ## Failed steps -/

/-- What a run shows of itself: its state, the nodes it visited and its receipts. -/
structure Exposed (B : Type) [AgentBusinessState B] where
  state : AgentState B
  visited : List NodeId
  effectReceipts : List (EffectReceipt (Receipt B))

/-- What the local variables, the checkpoint or the result of a run show. A run that failed in a
turn shows nothing. -/
def RunState.exposed : RunState B W S → Option (Exposed B)
  | .active _ vars => some ⟨vars.state, vars.visited, vars.effectReceipts⟩
  | .suspended checkpoint =>
    some ⟨checkpoint.state, checkpoint.visited, checkpoint.effectReceipts⟩
  | .completed result => some ⟨result.state, result.visited, result.effectReceipts⟩
  | .failed (.saveFailed _ checkpoint _) =>
    some ⟨checkpoint.state, checkpoint.visited, checkpoint.effectReceipts⟩
  | .failed _ => none

section Failed

variable {runtime : GraphRuntime B W S} {context : RunContext} {watch : Interruption W}
  {checkpointing : Bool} {vars : LoopVars B} {shared shared' : Shared B W S} {error : GraphRunError}

/-- A failed turn stores nothing. -/
theorem executeNode_error_store
    (h : executeNode runtime context watch checkpointing vars shared = (.error error, shared')) :
    shared'.store = shared.store := by
  rcases executeNode_error h with ⟨rfl, _⟩ | ⟨_, _, hsto, _, _⟩ | ⟨_, _, _, hbeg, _⟩
  · rfl
  · exact hsto
  · exact hbeg.store

theorem executeNode_ok_store {turn : Turn B}
    (h : executeNode runtime context watch checkpointing vars shared = (.ok turn, shared')) :
    shared'.store = shared.store := by
  obtain ⟨_, _, _, _, hbeg, _, _⟩ := executeNode_ok h
  exact hbeg.store

/-- A loop that fails in a turn has stored nothing, and what it held until then are the variables
that its completed turns left. -/
theorem executeFrom_graph_error {fuel : Nat}
    (h : executeFrom runtime context watch checkpointing fuel vars shared =
      (.error (.graph error), shared')) :
    shared'.store = shared.store ∧ ∃ turns vars₁ shared₁, turns < fuel ∧
      executeFrom runtime context watch checkpointing turns vars shared =
        (.ok (.running vars₁), shared₁) ∧
      executeNode runtime context watch checkpointing vars₁ shared₁ = (.error error, shared') := by
  induction fuel generalizing vars shared with
  | zero => cases h
  | succ fuel ih =>
    rw [executeFrom] at h
    obtain ⟨turn, shared₁, hturn, h₁⟩ | ⟨failure, hturn, hfai⟩ := Exec.bind_eq h
    · have hok := Exec.mapError_eq_ok.mp hturn
      cases turn with
      | goto vars₁ =>
        obtain ⟨hsto, turns, vars₂, shared₂, hlt, hrng, herr⟩ := ih h₁
        refine ⟨hsto.trans (executeNode_ok_store hok), turns + 1, vars₂, shared₂,
          Nat.succ_lt_succ hlt, ?_, herr⟩
        rw [executeFrom]
        exact Exec.bind_eq_ok.mpr ⟨_, _, hturn, hrng⟩
      | suspend runStep request vars₁ =>
        obtain ⟨_, _, _, h₂⟩ | ⟨failure, hsave, hfai⟩ := Exec.bind_eq h₁
        · cases h₂
        · cases hfai
          obtain ⟨_, ⟨hsav, _⟩ | ⟨hsav, _⟩ | ⟨_, hsav⟩⟩ := saveCheckpoint_spec hsave <;>
            cases hsav
      | finish vars₁ => cases h₁
    · cases hfai
      obtain ⟨_, hfail, hgr⟩ := Exec.mapError_eq_error.mp hturn
      cases hgr
      exact ⟨executeNode_error_store hfail, 0, vars, shared, Nat.zero_lt_succ _, rfl, hfail⟩

end Failed

section Steps

variable {runtimes : GraphRuntime B W S → Prop} {segment : Segment B W S}
  {watch : Interruption W} {vars : LoopVars B} {shared shared' : Shared B W S}

/-- The calls that a step of a run added to its log came from an admitted turn. -/
def CallsAdmitted (config config' : RunConfig B W S) : Prop :=
  ∃ tail, config'.2.events = config.2.events ++ tail ∧
    (callsOf tail ≠ [] → ∃ segment vars runStep result, config.1 = .active segment vars ∧
      Admitted segment vars config.2 runStep result ∧
      (callsOf tail).map Prod.fst <+:
        effectEnvelopes segment.context runStep vars.current 0 result.answer.effects ∧
      (callsOf tail).map (·.1.effect) <+: result.answer.effects ∧
      ((callsOf tail).map (·.1.id)).Nodup)

variable {config' config : RunConfig B W S}

theorem turn_callsAdmitted {result : Except GraphRunError (Turn B)}
    (hturn : executeNode segment.runtime segment.context watch segment.checkpointing vars shared =
      (result, shared')) (hevs : config'.2.events = shared'.events) :
    CallsAdmitted (.active segment vars, shared) config' := by
  obtain ⟨calls, hways⟩ := executeNode_run hturn
  obtain ⟨tail, htail, rfl⟩ := hways.tail
  refine ⟨tail, hevs.trans htail, fun hcalls => ?_⟩
  obtain ⟨runStep, nodeResult, hadm, hpre, hlen⟩ := hways.admitted hcalls
  refine ⟨segment, vars, runStep, nodeResult, rfl, hadm, hpre, ?_, ?_⟩
  · have heffs := hpre.map (·.effect)
    rw [effectEnvelopes_effects, List.map_map] at heffs
    exact heffs
  · have hord := (envelopes_ordered hpre (by rw [List.length_map]; omega)).1
    rw [List.map_map] at hord
    exact before_nodup hord

theorem callsAdmitted_of_events (h : config'.2.events = config.2.events) :
    CallsAdmitted config config' :=
  ⟨[], by rw [h, List.append_nil], fun hcalls => absurd rfl hcalls⟩

theorem step_callsAdmitted (hstep : Step runtimes config config') :
    CallsAdmitted config config' := by
  cases hstep with
  | goto watch hturn => exact turn_callsAdmitted hturn rfl
  | suspend watch hturn hsave =>
    obtain ⟨⟨_, rfl⟩, _⟩ := saveCheckpoint_spec hsave
    exact turn_callsAdmitted hturn rfl
  | unsaved watch hturn hsave =>
    obtain ⟨⟨_, rfl⟩, _⟩ := saveCheckpoint_spec hsave
    exact turn_callsAdmitted hturn rfl
  | finish watch hturn => exact turn_callsAdmitted hturn rfl
  | fail watch hturn => exact turn_callsAdmitted hturn rfl
  | resume shared input trace hrtm hsto hchk hin => exact callsAdmitted_of_events rfl
  | elsewhere => exact callsAdmitted_of_events rfl

/-- A step that fails in its turn stores and shows nothing. -/
theorem step_failed {error : GraphRunError}
    (hactv : ∃ segment vars, config.1 = .active segment vars)
    (hstep : Step runtimes config config') (hfail : config'.1 = .failed (.graph error)) :
    config'.1.exposed = none ∧ config'.2.store = config.2.store := by
  cases hstep with
  | goto => cases hfail
  | suspend => cases hfail
  | unsaved watch hturn hsave =>
    cases hfail
    obtain ⟨_, ⟨hsav, _⟩ | ⟨hsav, _⟩ | ⟨_, hsav⟩⟩ := saveCheckpoint_spec hsave <;>
      cases hsav
  | finish => cases hfail
  | fail watch hturn => exact ⟨rfl, executeNode_error_store hturn⟩
  | resume => cases hfail
  | elsewhere =>
    obtain ⟨_, _, hactv⟩ := hactv
    cases hactv
    cases hfail

end Steps

/-- In every step of every run the executor is called only once the node's answer was admitted,
and then for a prefix of its effects, one after the other. A turn that fails stores and shows
nothing, and a whole loop that fails in a turn has stored nothing, and held what the turns
before had left. -/
theorem effects_only_from_admitted_steps (runtimes : GraphRuntime B W S → Prop) :
    (∀ config config', Runs runtimes config → Step runtimes config config' →
      CallsAdmitted config config' ∧
      ∀ segment vars error, config.1 = .active segment vars →
        config'.1 = .failed (.graph error) →
        config'.1.exposed = none ∧ config'.2.store = config.2.store) ∧
    ∀ (segment : Segment B W S) (vars : LoopVars B) (shared : Shared B W S)
      (watch : Interruption W) (fuel : Nat) (error : GraphRunError) (shared' : Shared B W S),
      executeFrom segment.runtime segment.context watch segment.checkpointing fuel vars shared =
        (.error (.graph error), shared') →
      shared'.store = shared.store ∧ ∃ turns vars₁ shared₁, turns < fuel ∧
        executeFrom segment.runtime segment.context watch segment.checkpointing turns vars shared =
          (.ok (.running vars₁), shared₁) ∧
        executeNode segment.runtime segment.context watch segment.checkpointing vars₁ shared₁ =
          (.error error, shared') := by
  refine ⟨fun config config' _ hstep => ⟨step_callsAdmitted hstep, ?_⟩, ?_⟩
  · intro segment vars error hactv hfail
    exact step_failed ⟨segment, vars, hactv⟩ hstep hfail
  · intro segment vars shared watch fuel error shared' hexec
    exact executeFrom_graph_error hexec

/-- The worker of the endless run was admitted before its effect was dispatched. -/
theorem effects_only_from_admitted_steps_scripted : ∃ config',
    Step (Only Script.maximalRuntime) Script.endlessEntry config' ∧
      callsOf config'.2.events ≠ [] ∧ CallsAdmitted Script.endlessEntry config' := by
  obtain ⟨_, vars', shared', hturn, _, _, _, _, hevs⟩ :
      ∃ runStep vars' shared', executeNode Script.maximalRuntime Script.maximalContext Script.quiet
          true (entryVars Script.maximalRuntime Script.initialState) Script.endlessStart =
            (.ok (.goto vars'), shared') ∧ _ := Script.endless_turn rfl rfl
  have hstep : Step (Only Script.maximalRuntime) Script.endlessEntry
      (.active Script.maximalSegment vars', shared') := .goto Script.quiet hturn
  refine ⟨_, hstep, ?_, ?_⟩
  · show callsOf shared'.events ≠ []
    rw [hevs]
    exact List.cons_ne_nil _ _
  · exact ((effects_only_from_admitted_steps _).1 _ _
      (Reachable.initial Script.endlessEntry_started) hstep).1

end ServerRS.AgentCore

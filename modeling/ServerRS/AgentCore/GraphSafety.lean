import ServerRS.AgentCore.Runs

/-!
# Runs stay on their graph

`Walk` is a path of a compiled graph together with the routing decisions that led along
it. A run visits such a walk from where it started, whatever its nodes, routers and
executor do, and never fails for a reason that compilation has ruled out. The number
of its nodes is bounded by the step limit, as long as the step counter can count.
-/

namespace ServerRS.AgentCore

open Lib

variable {B : Type} [AgentBusinessState B] {W S : Type}

/-! ## Logs -/

/-- The routing decisions of a log. -/
def routingOf (events : List (Event B)) : List (Event B) := events.filter Event.isRouting

/-- The number of node executions in a log. -/
def executions (events : List (Event B)) : Nat := events.countP Event.isNodeCall

section Logs

variable {runtime : GraphRuntime B W S} {context : RunContext} {current : NodeId}
  {shared shared' : Shared B W S} {runStep : RunStep} {calls : List (EffectCall B)}
  {observed : List (Event B)}

theorem TurnBegun.routingOf_events
    (h : TurnBegun runtime context current shared runStep calls observed shared') :
    routingOf shared'.events = routingOf shared.events ++ observed := by
  have hcalls : (calls.map EffectCall.event).filter Event.isRouting = [] := by
    refine List.filter_eq_nil_iff.mpr fun event hev => ?_
    obtain ⟨call, _, rfl⟩ := List.mem_map.mp hev
    exact Bool.false_ne_true
  have hobs : observed.filter Event.isRouting = observed :=
    List.filter_eq_self.mpr h.routing
  rw [h.events, routingOf, routingOf, List.filter_append, List.filter_cons_of_neg Bool.false_ne_true,
    List.filter_append, hcalls, hobs, List.nil_append]

theorem TurnBegun.executions_events
    (h : TurnBegun runtime context current shared runStep calls observed shared') :
    executions shared'.events = executions shared.events + 1 := by
  have hcalls : (calls.map EffectCall.event).countP Event.isNodeCall = 0 := by
    refine List.countP_eq_zero.mpr fun event hev => ?_
    obtain ⟨call, _, rfl⟩ := List.mem_map.mp hev
    exact Bool.false_ne_true
  have hobs : observed.countP Event.isNodeCall = 0 := by
    refine List.countP_eq_zero.mpr fun event hev => ?_
    have hrout := h.routing event hev
    cases event with
    | routeSelected node answer => exact Bool.false_ne_true
    | nodeExecuted step node => cases hrout
    | effectExecuted envelope answer => cases hrout
  rw [h.events, executions, executions, List.countP_append, List.countP_cons_of_pos rfl,
    List.countP_append, hcalls, hobs]

end Logs

/-! ## Walks -/

/-- `visited` and then `current` is a path of `graph` from `start`, which stands for the nodes
visited before and the node to begin with; `observed` are the routing decisions on the way. -/
inductive Walk (graph : CompiledGraph B W) (start : List NodeId × NodeId) :
    List NodeId → List (Event B) → NodeId → Prop where
  | begin : Walk graph start start.1 [] start.2
  | follow {visited : List NodeId} {observed tail : List (Event B)} {current next : NodeId}
      {transition : TransitionRule B W} (hwalk : Walk graph start visited observed current)
      (htr : graph.transition current = some transition)
      (hleads : transition.Leads current next tail) :
      Walk graph start (visited ++ [current]) (observed ++ tail) next

/-- Compilation closes the graph under its transitions. -/
theorem CompiledGraph.leads_mem {graph : CompiledGraph B W} {current next : NodeId}
    {transition : TransitionRule B W} {observed : List (Event B)}
    (htr : graph.transition current = some transition)
    (hleads : transition.Leads current next observed) : next ∈ graph.nodes :=
  graph.target_mem current transition htr next hleads.mem_targets

theorem CompiledGraph.node_of_mem {graph : CompiledGraph B W} {current : NodeId}
    (h : current ∈ graph.nodes) : graph.node current ≠ none := by
  have hsome := Std.TreeMap.mem_iff_isSome_getElem?.mp h
  intro hnone
  rw [CompiledGraph.node] at hnone
  rw [hnone] at hsome
  cases hsome

theorem CompiledGraph.transition_of_mem {graph : CompiledGraph B W} {current : NodeId}
    (h : current ∈ graph.nodes) : graph.transition current ≠ none := by
  have hsome := Std.TreeMap.mem_iff_isSome_getElem?.mp (graph.transition_mem current h)
  intro hnone
  rw [CompiledGraph.transition] at hnone
  rw [hnone] at hsome
  cases hsome

/-- A route without a target is not one of the router's routes. -/
theorem CompiledGraph.unknown_route {graph : CompiledGraph B W} {current : NodeId}
    {router : Router B W} {targets : BTreeMap RouteKey NodeId} {route : RouteKey}
    (htr : graph.transition current = some (.branch router targets))
    (hrt : targets[route]? = none) : route ∉ router.knownRoutes := by
  intro hkn
  have hmem := (graph.route_mem current router targets htr route).mpr hkn
  have hsome := Std.TreeMap.mem_iff_isSome_getElem?.mp hmem
  rw [hrt] at hsome
  cases hsome

/-! ## The structural invariant -/

/-- How a run can begin: at the entry of its graph, or at any stored checkpoint, whatever that
holds. The log begins empty. -/
inductive RunStart (runtimes : GraphRuntime B W S → Prop) (graph : CompiledGraph B W) :
    List NodeId × NodeId → RunConfig B W S → Prop where
  | entry {config : RunConfig B W S} (hstar : Started runtimes config) :
      RunStart runtimes graph ([], graph.entry) config
  | stored (checkpoint : AgentCheckpoint B) {shared : Shared B W S} (hevs : shared.events = []) :
      RunStart runtimes graph (checkpoint.visited, checkpoint.position.nextNode)
        (.suspended checkpoint, shared)

/-- What a failed run may not say against its graph. -/
def SafeFailure (graph : CompiledGraph B W) (start : List NodeId × NodeId)
    (events : List (Event B)) : CheckpointRunError B → Prop
  | .graph (.missingNode _) => False
  | .graph (.missingTransition _) => False
  | .graph (.unknownRoute node route) => ∃ router targets,
      graph.transition node = some (.branch router targets) ∧ route ∉ router.knownRoutes ∧
        .routeSelected node (.ok route) ∈ events
  | .graph _ => True
  | .missingStore => True
  | .saveFailed _ checkpoint _ =>
    Walk graph start checkpoint.visited (routingOf events) checkpoint.position.nextNode

def OnGraph (graph : CompiledGraph B W) (start : List NodeId × NodeId)
    (config : RunConfig B W S) : Prop :=
  match config.1 with
  | .active segment vars => segment.runtime.graph = graph ∧ vars.current ∈ graph.nodes ∧
      Walk graph start vars.visited (routingOf config.2.events) vars.current
  | .suspended checkpoint =>
    Walk graph start checkpoint.visited (routingOf config.2.events) checkpoint.position.nextNode
  | .completed result => ∃ visited last, result.visited = visited ++ [last] ∧
      Walk graph start visited (routingOf config.2.events) last ∧
      graph.transition last = some .atEnd
  | .failed error => SafeFailure graph start config.2.events error

section Invariant

variable {runtimes : GraphRuntime B W S → Prop} {graph : CompiledGraph B W}
  {start : List NodeId × NodeId}

theorem safeFailure_of_not_structural {events : List (Event B)} {error : GraphRunError}
    (h : error.isStructural = false) : SafeFailure graph start events (.graph error) := by
  cases error with
  | missingNode node => cases h
  | missingTransition node => cases h
  | unknownRoute node route => cases h
  | _ => trivial

variable {segment : Segment B W S} {vars vars' : LoopVars B} {runStep : RunStep}
  {shared shared' : Shared B W S} {calls : List (EffectCall B)} {observed : List (Event B)}
  {config config' : RunConfig B W S} {limits : RunBudget} {base : Nat}

/-- A turn that goes on, or is suspended, extends the walk by its node. -/
theorem walk_turn {nextNode : Option NodeId} (hgr : segment.runtime.graph = graph)
    (hwalk : Walk graph start vars.visited (routingOf shared.events) vars.current)
    (hbeg : TurnBegun segment.runtime segment.context vars.current shared runStep calls observed
      shared') (hdone : TurnDone segment.runtime vars calls observed vars' nextNode)
    (hnext : nextNode.isSome = true) :
    vars'.current ∈ graph.nodes ∧
      Walk graph start vars'.visited (routingOf shared'.events) vars'.current := by
  obtain ⟨target, rfl⟩ := Option.isSome_iff_exists.mp hnext
  obtain ⟨transition, htr, hleads⟩ := hdone.route
  rw [hgr] at htr
  rw [hdone.current, hdone.visited, hbeg.routingOf_events]
  exact ⟨graph.leads_mem htr hleads, hwalk.follow htr hleads⟩

theorem step_onGraph (hgr : ∀ runtime, runtimes runtime → runtime.graph = graph)
    (h : OnGraph graph start config) (hstep : Step runtimes config config') :
    OnGraph graph start config' := by
  cases hstep with
  | @goto segment vars vars' shared shared' watch hturn =>
    obtain ⟨hsegm, _, hwalk⟩ := h
    obtain ⟨_, _, _, _, hbeg, hdone, hends⟩ := executeNode_ok hturn
    exact ⟨hsegm, walk_turn hsegm hwalk hbeg hdone hends⟩
  | @suspend segment vars vars' shared shared₁ shared' _ request checkpoint watch hturn hsave =>
    obtain ⟨hsegm, _, hwalk⟩ := h
    obtain ⟨_, _, _, _, hbeg, hdone, _, _, hends⟩ := executeNode_ok hturn
    have hnext := (walk_turn hsegm hwalk hbeg hdone hends).2
    obtain ⟨⟨_, rfl⟩, ⟨hsav, _⟩ | ⟨hsav, _⟩ | ⟨_, hsav⟩⟩ := saveCheckpoint_spec hsave
    · cases hsav
      exact hnext
    · cases hsav
    · cases hsav
  | @unsaved segment vars vars' shared shared₁ shared' _ request error watch hturn hsave =>
    obtain ⟨hsegm, _, hwalk⟩ := h
    obtain ⟨_, _, _, _, hbeg, hdone, _, _, hends⟩ := executeNode_ok hturn
    have hnext := (walk_turn hsegm hwalk hbeg hdone hends).2
    obtain ⟨⟨_, rfl⟩, ⟨hsav, _⟩ | ⟨hsav, _⟩ | ⟨_, hsav⟩⟩ := saveCheckpoint_spec hsave
    · cases hsav
    · cases hsav
      trivial
    · cases hsav
      exact hnext
  | @finish segment vars vars' shared shared' watch hturn =>
    obtain ⟨hsegm, _, hwalk⟩ := h
    obtain ⟨_, _, _, nextNode, hbeg, hdone, hends⟩ := executeNode_ok hturn
    cases hends
    obtain ⟨transition, htr, hend, _, rfl⟩ := hdone.route
    rw [hsegm] at htr
    have hrout := hbeg.routingOf_events
    rw [List.append_nil] at hrout
    refine ⟨vars.visited, vars.current, hdone.visited, by rw [hrout]; exact hwalk, ?_⟩
    rw [htr]
    cases transition with
    | atEnd => rfl
    | goto target => cases hend
    | branch router targets => cases hend
  | @fail segment vars shared shared' error watch hturn =>
    obtain ⟨hsegm, hmem, hwalk⟩ := h
    rcases executeNode_error hturn with ⟨_, herr⟩ | ⟨hnode, _⟩ |
      ⟨_, _, observed, hbeg, herr | ⟨_, htr, _⟩ |
        ⟨router, targets, route, htr, hobs, hrt, rfl⟩⟩
    · exact safeFailure_of_not_structural herr
    · rw [hsegm] at hnode
      exact absurd hnode (graph.node_of_mem hmem)
    · exact safeFailure_of_not_structural herr
    · rw [hsegm] at htr
      exact absurd htr (graph.transition_of_mem hmem)
    · rw [hsegm] at htr
      refine ⟨router, targets, htr, graph.unknown_route htr hrt, ?_⟩
      rw [hbeg.events, hobs]
      simp
  | @resume checkpoint state runtime shared input trace hrtm hsto hchk hin =>
    obtain ⟨_, _, _, _, hnode⟩ := checkResumable_ok.mp hchk
    rw [hgr runtime hrtm] at hnode
    exact ⟨hgr runtime hrtm, Std.TreeMap.mem_iff_isSome_getElem?.mpr hnode, h⟩
  | elsewhere => exact h

theorem runs_onGraph (hgr : ∀ runtime, runtimes runtime → runtime.graph = graph)
    (h : Reachable (RunStart runtimes graph start) (Step runtimes) config) :
    OnGraph graph start config := by
  refine h.invariant (OnGraph graph start) ?_ fun _ _ => step_onGraph hgr
  intro config hsta
  cases hsta with
  | entry hstar =>
    cases hstar with
    | @entry runtime shared context checkpointing state hrtm hsto hsteps hevs =>
      cases hgr runtime hrtm
      refine ⟨rfl, runtime.graph.entry_mem, ?_⟩
      rw [hevs]
      exact .begin
  | stored checkpoint hevs =>
    show Walk graph _ _ _ _
    rw [hevs]
    exact .begin

/-! ## The number of nodes -/

/-- The step counter can count the next step, or the limit will refuse it. -/
def Unsaturated (config : RunConfig B W S) : Prop :=
  match config.1 with
  | .active segment _ =>
    config.2.usage.steps.toNat < 2 ^ 32 - 1 ∨ segment.stepLimit < 2 ^ 32 - 1
  | _ => True

/-- A step granted at a counter that can count it. -/
theorem TurnBegun.counted (vars : LoopVars B) {current : NodeId}
    (h : TurnBegun segment.runtime segment.context current shared runStep calls observed shared')
    (hunsat : Unsaturated (.active segment vars, shared)) :
    shared'.usage.steps.toNat = shared.usage.steps.toNat + 1 ∧
      shared.usage.steps.toNat + 1 ≤ segment.stepLimit := by
  have hstep : runStep.get.toNat = min (shared.usage.steps.toNat + 1) (2 ^ 32 - 1) := by
    rw [h.step, toNat_saturatingAdd_one]
  have hlimit : runStep.get.toNat ≤ segment.stepLimit := UInt32.le_iff_toNat_le.mp h.limit
  have hcounter := shared.usage.steps.toNat_lt
  have hunsat : shared.usage.steps.toNat < 2 ^ 32 - 1 ∨ segment.stepLimit < 2 ^ 32 - 1 := hunsat
  rw [h.steps]
  omega

/-- The budget of a run and the value its step counter will go on from. -/
def RunConfig.budget (config : RunConfig B W S) : Option (RunBudget × Nat) :=
  match config.1 with
  | .active segment _ => some (segment.context.limits, config.2.usage.steps.toNat)
  | .suspended checkpoint => some (checkpoint.budget, checkpoint.usage.steps.toNat)
  | _ => none

/-- The log of a run that began with `base` steps holds a node execution for each step counted
since, and no more of them than the limit leaves room for. -/
structure Counted (graph : CompiledGraph B W) (limits : RunBudget) (base : Nat)
    (config : RunConfig B W S) : Prop where
  bound : executions config.2.events ≤ (stepLimit limits graph.policy.maxSteps).toNat - base
  onGraph : ∀ segment vars, config.1 = .active segment vars → segment.runtime.graph = graph
  counter : ∀ limits' steps, config.budget = some (limits', steps) →
    limits' = limits ∧ steps = base + executions config.2.events

theorem Counted.ended
    (hbound : executions config.2.events ≤ (stepLimit limits graph.policy.maxSteps).toNat - base)
    (hbudg : config.budget = none) (hactv : ∀ segment vars, config.1 ≠ .active segment vars) :
    Counted graph limits base config where
  bound := hbound
  onGraph := fun segment vars heq => absurd heq (hactv segment vars)
  counter := fun _ _ heq => by
    rw [hbudg] at heq
    cases heq

/-- The count after a turn that reserved its step. -/
theorem turn_counted {current : NodeId}
    (h : Counted graph limits base (.active segment vars, shared))
    (hunsat : Unsaturated (.active segment vars, shared))
    (hbeg : TurnBegun segment.runtime segment.context current shared runStep calls observed
      shared') :
    executions shared'.events ≤ (stepLimit limits graph.policy.maxSteps).toNat - base ∧
      segment.runtime.graph = graph ∧ segment.context.limits = limits ∧
      shared'.usage.steps.toNat = base + executions shared'.events := by
  obtain ⟨hlim, hsteps⟩ := h.counter segment.context.limits _ rfl
  have hsame := h.onGraph segment vars rfl
  obtain ⟨hcnt, hle⟩ := hbeg.counted vars hunsat
  have hexecutions := hbeg.executions_events
  have hlimit : segment.stepLimit = (stepLimit limits graph.policy.maxSteps).toNat := by
    rw [Segment.stepLimit, hsame, hlim]
  have hsteps : shared.usage.steps.toNat = base + executions shared.events := hsteps
  exact ⟨by omega, hsame, hlim, by omega⟩

theorem step_counted (hgr : ∀ runtime, runtimes runtime → runtime.graph = graph)
    (h : Counted graph limits base config)
    (hstep : Guarded Unsaturated (Step runtimes) config config') :
    Counted graph limits base config' := by
  obtain ⟨hunsat, hstep⟩ := hstep
  cases hstep with
  | @goto segment vars vars' shared shared' watch hturn =>
    obtain ⟨_, _, _, _, hbeg, _, _⟩ := executeNode_ok hturn
    obtain ⟨hbound, hsame, hlim, hsteps⟩ := turn_counted h hunsat hbeg
    refine ⟨hbound, fun _ _ heq => ?_, fun _ _ heq => ?_⟩
    · cases heq
      exact hsame
    · cases heq
      exact ⟨hlim, hsteps⟩
  | @suspend segment vars vars' shared shared₁ shared' _ request checkpoint watch hturn hsave =>
    obtain ⟨_, _, _, _, hbeg, _, _⟩ := executeNode_ok hturn
    obtain ⟨hbound, hsame, hlim, hsteps⟩ := turn_counted h hunsat hbeg
    obtain ⟨⟨_, rfl⟩, ⟨hsav, _⟩ | ⟨hsav, _⟩ | ⟨_, hsav⟩⟩ := saveCheckpoint_spec hsave
    · cases hsav
      refine ⟨hbound, fun _ _ heq => ?_, fun _ _ heq => ?_⟩
      · cases heq
      · cases heq
        exact ⟨hlim, hsteps⟩
    · cases hsav
    · cases hsav
  | @unsaved segment vars vars' shared shared₁ shared' _ request error watch hturn hsave =>
    obtain ⟨_, _, _, _, hbeg, _, _⟩ := executeNode_ok hturn
    obtain ⟨hbound, _⟩ := turn_counted h hunsat hbeg
    obtain ⟨⟨_, rfl⟩, _⟩ := saveCheckpoint_spec hsave
    exact .ended hbound rfl (fun _ _ heq => by cases heq)
  | @finish segment vars vars' shared shared' watch hturn =>
    obtain ⟨_, _, _, _, hbeg, _, _⟩ := executeNode_ok hturn
    obtain ⟨hbound, _⟩ := turn_counted h hunsat hbeg
    exact .ended hbound rfl (fun _ _ heq => by cases heq)
  | @fail segment vars shared shared' error watch hturn =>
    refine .ended ?_ rfl (fun _ _ heq => by cases heq)
    rcases executeNode_error hturn with ⟨rfl, _⟩ | ⟨_, _, _, _, hevs⟩ | ⟨_, _, _, hbeg, _⟩
    · exact h.bound
    · show executions shared'.events ≤ _
      rw [hevs]
      exact h.bound
    · exact (turn_counted h hunsat hbeg).1
  | @resume checkpoint state runtime shared input trace hrtm hsto hchk hin =>
    refine ⟨h.bound, fun _ _ heq => ?_, fun _ _ heq => ?_⟩
    · cases heq
      exact hgr runtime hrtm
    · cases heq
      exact h.counter checkpoint.budget checkpoint.usage.steps.toNat rfl
  | elsewhere state shared world store uuids usage hsteps =>
    refine ⟨h.bound, h.onGraph, fun limits' steps heq => ?_⟩
    refine h.counter limits' steps ?_
    cases state with
    | active segment vars =>
      cases heq
      show some _ = some _
      rw [hsteps]
    | suspended checkpoint => exact heq
    | completed result => cases heq
    | failed error => cases heq

/-- A run whose steps could all be counted executes no more nodes than its limit leaves room for. -/
theorem runs_bounded (hgr : ∀ runtime, runtimes runtime → runtime.graph = graph)
    {first : RunConfig B W S} (hfst : RunStart runtimes graph start first)
    (hbudg : first.budget = some (limits, base))
    (hrun : Relation.ReflTransGen (Guarded Unsaturated (Step runtimes)) first config) :
    executions config.2.events ≤ (stepLimit limits graph.policy.maxSteps).toNat - base := by
  have hctd : Counted graph limits base first := by
    cases hfst with
    | entry hstar =>
      cases hstar with
      | @entry runtime shared context checkpointing state hrtm hsto hsteps hevs =>
        cases hbudg
        refine ⟨?_, fun _ _ heq => ?_, fun _ _ heq => ?_⟩
        · show executions shared.events ≤ _
          rw [hevs]
          exact Nat.zero_le _
        · cases heq
          exact hgr runtime hrtm
        · cases heq
          rw [hevs]
          exact ⟨rfl, rfl⟩
    | @stored checkpoint shared hevs =>
      cases hbudg
      refine ⟨?_, fun _ _ heq => ?_, fun _ _ heq => ?_⟩
      · show executions shared.events ≤ _
        rw [hevs]
        exact Nat.zero_le _
      · cases heq
      · cases heq
        rw [hevs]
        exact ⟨rfl, rfl⟩
  exact (run_invariant (Counted graph limits base) (fun _ _ => step_counted hgr) hrun hctd).bound

/-- A loop that is still running after some turns has counted them within its limit. -/
theorem executeFrom_running {watch : Interruption W} {fuel : Nat}
    (hlimit : segment.stepLimit < 2 ^ 32 - 1)
    (h : executeFrom segment.runtime segment.context watch segment.checkpointing fuel vars shared =
      (.ok (.running vars'), shared')) : fuel ≤ segment.stepLimit - shared.usage.steps.toNat := by
  induction fuel generalizing vars shared with
  | zero => exact Nat.zero_le _
  | succ fuel ih =>
    rw [executeFrom] at h
    obtain ⟨turn, shared₁, hturn, h₁⟩ := Exec.bind_eq_ok.mp h
    rw [Exec.mapError_eq_ok] at hturn
    cases turn with
    | goto vars₁ =>
      obtain ⟨_, _, _, _, hbeg, _, _⟩ := executeNode_ok hturn
      obtain ⟨hcnt, hle⟩ := hbeg.counted vars (.inr hlimit)
      have hrest := ih h₁
      omega
    | suspend runStep request vars₁ =>
      obtain ⟨_, _, _, h₂⟩ := Exec.bind_eq_ok.mp h₁
      cases h₂
    | finish vars₁ => cases h₁

variable (runtimes graph) in
/-- On a compiled graph, whatever its nodes, routers and executor do: runs stay on the graph
and fail for none of the reasons that compilation excludes; a run executes no more nodes than
the smaller step limit while no step is reserved at a saturated counter; and below the largest
limit the loop returns. -/
theorem compiled_graph_never_goes_wrong
    (hgraph : ∀ runtime, runtimes runtime → runtime.graph = graph) :
    (∀ start config, Reachable (RunStart runtimes graph start) (Step runtimes) config →
      OnGraph graph start config) ∧
    (∀ start first config limits base, RunStart runtimes graph start first →
      first.budget = some (limits, base) →
      Relation.ReflTransGen (Guarded Unsaturated (Step runtimes)) first config →
      executions config.2.events ≤
        min limits.maxSteps.get.toNat graph.policy.maxSteps.get.toNat - base) ∧
    ∀ (segment : Segment B W S) (watch : Interruption W) (vars : LoopVars B)
      (shared : Shared B W S) (fuel : Nat), segment.stepLimit < 2 ^ 32 - 1 →
      segment.stepLimit - shared.usage.steps.toNat < fuel →
      ∀ vars', (executeFrom segment.runtime segment.context watch segment.checkpointing fuel vars
        shared).1 ≠ .ok (.running vars') := by
  refine ⟨fun start config hrun => runs_onGraph hgraph hrun, ?_, ?_⟩
  · intro start first config limits base hfst hbudg hrun
    rw [← toNat_stepLimit]
    exact runs_bounded hgraph hfst hbudg hrun
  · intro segment watch vars shared fuel hlimit hfuel vars' hrng
    exact absurd (executeFrom_running hlimit (Prod.ext hrng rfl)) (Nat.not_le.mpr hfuel)

end Invariant

/-! ## The saturated counter -/

namespace Script

/-- A script by which the worker asks for one effect and is sent back to work, forever. -/
def endless (tick : Nat) : Script where
  tick := tick
  answer := fun _ => .ok (.continue [] ([1] : List Nat) {})
  route := fun _ => again

/-- A run with the largest budget there is. -/
def maximalContext : RunContext := ⟨⟨⟨0⟩⟩, maximalBudget, {}⟩

def maximalRuntime : GraphRuntime Tally Script (InMemoryCheckpointState Tally) :=
  runtime maximalBudget.maxSteps

def maximalSegment : Segment Tally Script (InMemoryCheckpointState Tally) :=
  ⟨maximalRuntime, maximalContext, true⟩

def endlessStart : Shared Tally Script (InMemoryCheckpointState Tally) where
  world := endless 0
  store := InMemoryCheckpointStore.new
  uuids := fun n => ⟨BitVec.ofNat 128 n⟩

theorem maximal_stepLimit :
    (stepLimit maximalContext.limits maximalRuntime.graph.policy.maxSteps).toNat = 2 ^ 32 - 1 := by
  decide

/-- A step is granted at any counter. -/
theorem maximal_checkReady (shared : Shared Tally Script (InMemoryCheckpointState Tally)) :
    ∃ runStep, runStep.get = saturatingAdd shared.usage.steps 1 ∧
      checkReady maximalContext quiet maximalRuntime.graph.policy.maxSteps shared =
        (.ok runStep, { shared with usage := { shared.usage with steps := runStep.get } }) := by
  have hle : saturatingAdd shared.usage.steps 1 ≤
      stepLimit maximalContext.limits maximalRuntime.graph.policy.maxSteps := by
    rw [UInt32.le_iff_toNat_le, maximal_stepLimit, toNat_saturatingAdd_one]
    exact Nat.min_le_right _ _
  let runStep : RunStep := ⟨⟨saturatingAdd shared.usage.steps 1, saturatingAdd_one_ne_zero _⟩⟩
  have hreserve : reserveStep maximalContext.limits maximalRuntime.graph.policy.maxSteps
      shared.usage = (.ok runStep, { shared.usage with steps := runStep.get }) :=
    reserveStep_ok.mpr ⟨rfl, hle, rfl⟩
  refine ⟨runStep, rfl, ?_⟩
  show onBudget _ shared = _
  exact Exec.zoom_eq.mpr ⟨_, hreserve, rfl⟩

/-- No tokens are always within an unlimited budget. -/
theorem maximal_recordUsage (usage : UsageSnapshot) :
    recordUsage maximalContext.limits {} usage = (.ok (), usage) := by
  have hchk : checkOptionalLimit .tokens usage.tokens 0 none U64_MAX = .ok usage.tokens := by
    refine checkOptionalLimit_ok.mpr ⟨rfl, ?_⟩
    have hlt := usage.tokens.toNat_lt
    show usage.tokens.toNat ≤ 2 ^ 64 - 1
    omega
  show (Exec.get >>= _ : Exec UsageSnapshot GraphRunError Unit) usage = _
  rw [Exec.get_bind_apply]
  show (Exec.ofExcept (checkOptionalLimit .tokens usage.tokens 0 none U64_MAX) >>= _ :
    Exec UsageSnapshot GraphRunError Unit) usage = _
  rw [hchk]
  rfl

variable {shared : Shared Tally Script (InMemoryCheckpointState Tally)} {vars : LoopVars Tally}

theorem endless_turn {tick : Nat} (hcur : vars.current = workId)
    (hwd : shared.world = endless tick) :
    ∃ runStep vars' shared',
      executeNode maximalRuntime maximalContext quiet true vars shared =
        (.ok (.goto vars'), shared') ∧
      runStep.get = saturatingAdd shared.usage.steps 1 ∧ vars'.current = workId ∧
      shared'.world = endless (tick + 3) ∧ shared'.usage.steps = runStep.get ∧
      shared'.events = shared.events ++
        [.nodeExecuted runStep workId,
          .effectExecuted ⟨⟨maximalContext.runId, runStep, workId, 0⟩, (1 : Nat)⟩ (.ok (1 : Nat)),
          .routeSelected workId (.ok again)] := by
  obtain ⟨runStep, hstep, hrdy⟩ := maximal_checkReady shared
  obtain ⟨state, current, visited, receipts⟩ := vars
  obtain ⟨world, usage, store, uuids, events⟩ := shared
  cases hcur
  cases hwd
  let usage' : UsageSnapshot := { usage with steps := runStep.get }
  let started : Event Tally := .nodeExecuted runStep workId
  let envelope : EffectEnvelope (Effect Tally) :=
    ⟨⟨maximalContext.runId, runStep, workId, 0⟩, (1 : Nat)⟩
  let effectVars : EffectVars Tally := EffectVars.push { candidate := state }
    { state with business := { total := state.business.total + 1 } } envelope.id (1 : Nat)
  let called : Event Tally := .effectExecuted envelope (.ok (1 : Nat))
  have hawait : awaitNode maximalContext quiet runStep (node workId)
      ⟨state, workId, visited, receipts⟩ ⟨endless tick, usage', store, uuids, events⟩ =
        (.ok (.continue [] ([1] : List Nat) {}),
          ⟨endless (tick + 1), usage', store, uuids, events ++ [started]⟩) := rfl
  have hprep : prepareTurn maximalRuntime maximalContext quiet true runStep
      ⟨state, workId, visited, receipts⟩ ⟨endless tick, usage', store, uuids, events⟩ =
        (.ok (.branch router targets, ⟨[], ([1] : List Nat), {}, none⟩, state),
          ⟨endless (tick + 1), usage', store, uuids, events ++ [started]⟩) :=
    prepareTurn_of (work_node _) hawait (fun hsome => nomatch hsome) (work_transition _)
      (fun hsome => nomatch hsome)
      (Exec.zoom_eq.mpr ⟨_, maximal_recordUsage usage', rfl⟩) rfl
  have hdisp : dispatchEffects maximalRuntime maximalContext quiet runStep workId 0
      ([1] : List Nat) { candidate := state }
      ⟨endless (tick + 1), usage', store, uuids, events ++ [started]⟩ =
        (.ok effectVars,
          ⟨endless (tick + 2), usage', store, uuids, events ++ [started] ++ [called]⟩) := by
    rw [dispatchEffects, if_neg (by decide)]
    -- a business update is accepted before and after the outcome
    obtain ⟨_, _, _, _, outcome, _⟩ := state
    cases outcome <;> rfl
  have hsel : selectNext workId effectVars.candidate (.branch router targets)
      ⟨endless (tick + 2), usage', store, uuids, events ++ [started] ++ [called]⟩ =
        (.ok (some workId), ⟨endless (tick + 3), usage', store, uuids,
          events ++ [started] ++ [called] ++ [.routeSelected workId (.ok again)]⟩) :=
    selectNext_branch rfl targets_again
  refine ⟨runStep, LoopVars.commit ⟨state, workId, visited, receipts⟩ effectVars,
    ⟨endless (tick + 3), usage', store, uuids,
      events ++ [started] ++ [called] ++ [.routeSelected workId (.ok again)]⟩,
    ?_, hstep, rfl, rfl, rfl, ?_⟩
  · exact Exec.bind_eq_ok.mpr ⟨_, _, hrdy, Exec.bind_eq_ok.mpr ⟨_, _, hprep,
      Exec.bind_eq_ok.mpr ⟨_, _, hdisp, Exec.bind_eq_ok.mpr ⟨_, _, hsel, rfl⟩⟩⟩⟩
  · simp [started, called, envelope]

/-- The endless run after any number of turns: it is still going, with a node execution logged
for each, and the step counter stands still once it cannot count on. -/
theorem endless_run (fuel : Nat) {tick : Nat} (hcur : vars.current = workId)
    (hwd : shared.world = endless tick) :
    ∃ vars' shared' tick',
      executeFrom maximalRuntime maximalContext quiet true fuel vars shared =
        (.ok (.running vars'), shared') ∧
      vars'.current = workId ∧ shared'.world = endless tick' ∧
      executions shared'.events = executions shared.events + fuel ∧
      shared'.usage.steps.toNat = min (shared.usage.steps.toNat + fuel) (2 ^ 32 - 1) := by
  induction fuel generalizing vars tick shared with
  | zero =>
    have hlt := shared.usage.steps.toNat_lt
    exact ⟨vars, shared, tick, rfl, hcur, hwd, rfl, by omega⟩
  | succ fuel ih =>
    obtain ⟨runStep, vars₁, shared₁, hturn, hstep, hcur₁, hwd₁, hsteps, hevs⟩ :=
      endless_turn hcur hwd
    obtain ⟨vars', shared', tick', hrest, hcur', hwd', hcnt, hcounter⟩ :=
      ih hcur₁ hwd₁
    have hone : executions shared₁.events = executions shared.events + 1 := by
      rw [hevs, executions, executions, List.countP_append]
      rfl
    have hnext : shared₁.usage.steps.toNat = min (shared.usage.steps.toNat + 1) (2 ^ 32 - 1) := by
      rw [hsteps, hstep, toNat_saturatingAdd_one]
    refine ⟨vars', shared', tick', ?_, hcur', hwd', by omega, by omega⟩
    rw [executeFrom]
    exact Exec.bind_eq_ok.mpr ⟨_, _, Exec.mapError_eq_ok.mpr hturn, hrest⟩

theorem endless_from_start (fuel : Nat) :
    ∃ vars' shared', executeFrom maximalRuntime maximalContext quiet true fuel
        (entryVars maximalRuntime initialState) endlessStart = (.ok (.running vars'), shared') ∧
      executions shared'.events = fuel := by
  obtain ⟨vars', shared', _, hrun, _, _, hcnt, _⟩ :
      ∃ vars' shared' tick', executeFrom maximalRuntime maximalContext quiet true fuel
          (entryVars maximalRuntime initialState) endlessStart = (.ok (.running vars'), shared') ∧
        vars'.current = workId ∧ shared'.world = endless tick' ∧
        executions shared'.events = executions endlessStart.events + fuel ∧
        shared'.usage.steps.toNat = min (endlessStart.usage.steps.toNat + fuel) (2 ^ 32 - 1) :=
    endless_run fuel rfl rfl
  exact ⟨vars', shared', hrun, hcnt.trans (Nat.zero_add fuel)⟩

def endlessEntry : RunConfig Tally Script (InMemoryCheckpointState Tally) :=
  (.active maximalSegment (entryVars maximalRuntime initialState), endlessStart)

theorem endlessEntry_started : Started (Only maximalRuntime) endlessEntry :=
  .entry maximalContext true initialState (only_self _) (fun _ => rfl) rfl rfl

/-- The turns of the endless run whose steps can be counted. -/
theorem endless_guarded {turns tick : Nat} (hcur : vars.current = workId)
    (hwd : shared.world = endless tick) (hturns : shared.usage.steps.toNat + turns < 2 ^ 32) :
    ∃ vars' shared', Relation.ReflTransGen (Guarded Unsaturated (Step (Only maximalRuntime)))
        (.active maximalSegment vars, shared) (.active maximalSegment vars', shared') ∧
      executions shared'.events = executions shared.events + turns := by
  induction turns generalizing vars tick shared with
  | zero => exact ⟨vars, shared, .refl, rfl⟩
  | succ turns ih =>
    obtain ⟨runStep, vars₁, shared₁, hturn, hstep, hcur₁, hwd₁, hsteps, hevs⟩ :=
      endless_turn hcur hwd
    have hnext : shared₁.usage.steps.toNat = shared.usage.steps.toNat + 1 := by
      rw [hsteps, hstep, toNat_saturatingAdd_one]
      omega
    obtain ⟨vars', shared', hrun, hcnt⟩ := ih hcur₁ hwd₁ (by omega)
    have hunsat : shared.usage.steps.toNat < 2 ^ 32 - 1 := by omega
    refine ⟨vars', shared', .head ⟨.inl hunsat, .goto quiet hturn⟩ hrun, ?_⟩
    rw [hcnt, hevs, executions, executions, List.countP_append, Nat.add_assoc, Nat.add_comm turns]
    rfl

theorem endless_counted (turns : Nat) (hturns : turns < 2 ^ 32) : ∃ vars shared,
    Relation.ReflTransGen (Guarded Unsaturated (Step (Only maximalRuntime))) endlessEntry
        (.active maximalSegment vars, shared) ∧ executions shared.events = turns := by
  have hzero : endlessStart.usage.steps.toNat + turns < 2 ^ 32 := by
    rw [show endlessStart.usage.steps.toNat = 0 from rfl, Nat.zero_add]
    exact hturns
  obtain ⟨vars, shared, hrun, hcnt⟩ := endless_guarded
    (rfl : (entryVars maximalRuntime initialState).current = workId)
    (rfl : endlessStart.world = endless 0) hzero
  exact ⟨vars, shared, hrun, hcnt.trans (Nat.zero_add turns)⟩

/-- The start of a run that is suspended after its first turn. -/
def suspendingStart : Shared Tally Script (InMemoryCheckpointState Tally) where
  world := suspending
  store := InMemoryCheckpointStore.new
  uuids := fun n => ⟨BitVec.ofNat 128 n⟩

def firstTurn : Except (CheckpointRunError Tally) (Execution Tally) ×
    Shared Tally Script (InMemoryCheckpointState Tally) :=
  executeFrom maximalRuntime maximalContext quiet true 1 (entryVars maximalRuntime initialState)
    suspendingStart

def suspendedAt : Except (CheckpointRunError Tally) (Execution Tally) →
    Option (AgentCheckpoint Tally)
  | .ok (.returned (.suspended checkpoint)) => some checkpoint
  | _ => none

theorem suspendedAt_eq {result : Except (CheckpointRunError Tally) (Execution Tally)}
    {checkpoint : AgentCheckpoint Tally} (h : suspendedAt result = some checkpoint) :
    result = .ok (.returned (.suspended checkpoint)) := by
  unfold suspendedAt at h
  split at h
  · cases h
    rfl
  · cases h

/-- The first turn is suspended at a checkpoint that can be resumed. -/
theorem firstTurn_suspended : ∃ checkpoint shared state,
    firstTurn = (.ok (.returned (.suspended checkpoint)), shared) ∧
      checkResumable maximalRuntime.graph (stateSchemaVersion Tally) checkpoint = .ok () ∧
      applyResumeInput checkpoint (4 : Nat) = .ok state := by
  have hsome : (suspendedAt firstTurn.1).any (fun checkpoint =>
      (checkResumable maximalRuntime.graph (stateSchemaVersion Tally) checkpoint).isOk &&
        (applyResumeInput checkpoint (4 : Nat)).isOk) = true := by decide
  obtain ⟨checkpoint, hckpt, hok⟩ := (Option.any_eq_true _ _).mp hsome
  rw [Bool.and_eq_true] at hok
  obtain ⟨⟨⟩, hchk⟩ := Except.eq_ok_of_isOk hok.1
  obtain ⟨state, hin⟩ := Except.eq_ok_of_isOk hok.2
  exact ⟨checkpoint, firstTurn.2, state, Prod.ext (suspendedAt_eq hckpt) rfl, hchk, hin⟩

/-- The run up to the checkpoint. -/
theorem suspended_runs : ∃ checkpoint shared state,
    Runs (Only maximalRuntime) (.suspended checkpoint, shared) ∧
      checkResumable maximalRuntime.graph (stateSchemaVersion Tally) checkpoint = .ok () ∧
      applyResumeInput checkpoint (4 : Nat) = .ok state := by
  obtain ⟨checkpoint, shared, state, hturn, hresumed⟩ := firstTurn_suspended
  have hstart : Started (Only maximalRuntime)
      (.active maximalSegment (entryVars maximalRuntime initialState), suspendingStart) :=
    .entry maximalContext true initialState (only_self _) (fun _ => rfl) rfl rfl
  exact ⟨checkpoint, shared, state, ⟨_, hstart, executeFrom_run _ maximalSegment hturn⟩, hresumed⟩

end Script

/-- Three turns, with a step counted for each; a run that is suspended and resumed; and a loop under a
limit of three, which has returned by its fourth turn. -/
theorem compiled_graph_never_goes_wrong_scripted :
    (∃ vars shared, executions shared.events = 3 ∧
      OnGraph Script.maximalRuntime.graph ([], Script.workId)
        (.active Script.maximalSegment vars, shared) ∧
      3 ≤ min maximalBudget.maxSteps.get.toNat maximalBudget.maxSteps.get.toNat - 0) ∧
    (∃ checkpoint state shared, OnGraph Script.maximalRuntime.graph ([], Script.workId)
      (.active ⟨Script.maximalRuntime, checkpoint.context {}, true⟩ (resumeVars checkpoint state),
        shared)) ∧
    ∀ vars, (executeFrom (Script.runtime ⟨3, by decide⟩) Script.maximalContext Script.quiet true 4
      (entryVars Script.maximalRuntime Script.initialState) Script.endlessStart).1 ≠
        .ok (.running vars) := by
  obtain ⟨hgraph, hbound, hreturns⟩ := compiled_graph_never_goes_wrong (Only Script.maximalRuntime)
    Script.maximalRuntime.graph (fun _ h => by rw [h])
  have hstart : RunStart (Only Script.maximalRuntime) Script.maximalRuntime.graph
      ([], Script.workId) Script.endlessEntry := .entry Script.endlessEntry_started
  refine ⟨?_, ?_, hreturns ⟨_, _, _⟩ _ _ _ _ (by decide) (by decide)⟩
  · obtain ⟨vars, shared, hrun, hcnt⟩ := Script.endless_counted 3 (by decide)
    have hsteps : Relation.ReflTransGen (Step (Only Script.maximalRuntime)) Script.endlessEntry
        (.active Script.maximalSegment vars, shared) :=
      Relation.ReflTransGen.mono (fun _ _ h => h.2) _ _ hrun
    exact ⟨vars, shared, hcnt, hgraph _ _ ⟨_, hstart, hsteps⟩, hcnt ▸ hbound _ _ _ _ 0 hstart rfl hrun⟩
  · obtain ⟨checkpoint, shared, state, ⟨_, hbegin, hrun⟩, hchk, hin⟩ := Script.suspended_runs
    exact ⟨checkpoint, state, _, hgraph _ _ ⟨_, .entry hbegin, hrun.tail
      (.resume shared _ {} (only_self _) rfl hchk hin)⟩⟩

/-- With both limits at `u32::MAX` the endless run executes more nodes than they allow, and its
loop never returns. -/
theorem saturated_run_exceeds_limit :
    (∃ config, Runs (Only Script.maximalRuntime) config ∧
      min maximalBudget.maxSteps.get.toNat maximalBudget.maxSteps.get.toNat <
        executions config.2.events) ∧
    ∀ fuel, ∃ vars', (executeFrom Script.maximalRuntime Script.maximalContext Script.quiet true fuel
      (entryVars Script.maximalRuntime Script.initialState) Script.endlessStart).1 = .ok
        (.running vars') := by
  constructor
  · obtain ⟨vars', shared', hrun, hcnt⟩ := Script.endless_from_start (2 ^ 32)
    refine ⟨(.active Script.maximalSegment vars', shared'), ⟨_, Script.endlessEntry_started,
      executeFrom_run _ Script.maximalSegment hrun⟩, ?_⟩
    dsimp only
    rw [hcnt]
    decide
  · intro fuel
    obtain ⟨vars', _, hrun, _⟩ := Script.endless_from_start fuel
    exact ⟨vars', congrArg Prod.fst hrun⟩

/-! ## Suspended runs -/

section Suspended

variable {runtimes : GraphRuntime B W S → Prop} {graph : CompiledGraph B W}

/-- A checkpoint that its graph accepts, and whose next node is where the transition of the last
visited node led. -/
structure Resumable (graph : CompiledGraph B W) (events : List (Event B))
    (checkpoint : AgentCheckpoint B) : Prop where
  accepted : checkResumable graph (stateSchemaVersion B) checkpoint = .ok ()
  route : ∃ visited last transition observed, checkpoint.visited = visited ++ [last] ∧
    graph.transition last = some transition ∧
    transition.Leads last checkpoint.position.nextNode observed ∧ observed <:+ events

theorem turn_resumable (segment : Segment B W S) {vars vars' : LoopVars B} {runStep : RunStep}
    {request : SuspendRequest (SuspendData B)} {watch : Interruption W}
    {shared shared' : Shared B W S} (hgr : segment.runtime.graph = graph) (uuid : Uuid)
    (hturn : executeNode segment.runtime segment.context watch segment.checkpointing vars shared =
      (.ok (.suspend runStep request vars'), shared')) :
    Resumable graph shared'.events (suspendedCheckpoint segment.runtime segment.context runStep
      request vars' uuid shared'.usage) := by
  obtain ⟨_, calls, observed, nextNode, hbeg, hdone, rfl, _, hnext⟩ := executeNode_ok hturn
  obtain ⟨target, rfl⟩ := Option.isSome_iff_exists.mp hnext
  obtain ⟨transition, htr, hleads⟩ := hdone.route
  have hcur : vars'.current = target := hdone.current
  rw [hgr] at htr
  constructor
  · refine checkResumable_ok.mpr ⟨by rw [← hgr]; rfl, by rw [← hgr]; rfl, rfl,
      hbeg.steps.symm, ?_⟩
    have hmem := graph.leads_mem htr hleads
    rw [← hcur] at hmem
    exact Std.TreeMap.mem_iff_isSome_getElem?.mp hmem
  · refine ⟨vars.visited, vars.current, transition, observed, hdone.visited, htr, ?_, ?_⟩
    · show transition.Leads vars.current vars'.current observed
      rw [hcur]
      exact hleads
    · rw [hbeg.events, ← List.cons_append, ← List.append_assoc]
      exact List.suffix_append _ _

theorem runs_resumable (hgr : ∀ runtime, runtimes runtime → runtime.graph = graph)
    {config : RunConfig B W S} (hrun : Runs runtimes config) :
    (∀ segment vars, config.1 = .active segment vars → segment.runtime.graph = graph) ∧
      ∀ checkpoint, config.1 = .suspended checkpoint →
        Resumable graph config.2.events checkpoint := by
  refine hrun.invariant (fun config =>
    (∀ segment vars, config.1 = .active segment vars → segment.runtime.graph = graph) ∧
      ∀ checkpoint, config.1 = .suspended checkpoint →
        Resumable graph config.2.events checkpoint) ?_ ?_
  · intro config hstar
    cases hstar with
    | entry context checkpointing state hrtm hsto hsteps hevs =>
      refine ⟨fun _ _ heq => ?_, fun _ heq => ?_⟩
      · cases heq
        exact hgr _ hrtm
      · cases heq
  · intro config config' ⟨hactv, hsusp⟩ hstep
    cases hstep with
    | goto watch hturn =>
      refine ⟨fun _ _ heq => ?_, fun _ heq => ?_⟩
      · cases heq
        exact hactv _ _ rfl
      · cases heq
    | suspend watch hturn hsave =>
      refine ⟨fun _ _ heq => ?_, fun _ heq => ?_⟩
      · cases heq
      · cases heq
        obtain ⟨⟨_, rfl⟩, ⟨hsav, _⟩ | ⟨hsav, _⟩ | ⟨_, hsav⟩⟩ := saveCheckpoint_spec hsave
        · cases hsav
          exact (turn_resumable _ (hactv _ _ rfl) _ hturn : Resumable graph _ _)
        · cases hsav
        · cases hsav
    | resume shared input trace hrtm hsto hchk hin =>
      refine ⟨fun _ _ heq => ?_, fun _ heq => ?_⟩
      · cases heq
        exact hgr _ hrtm
      · cases heq
    | elsewhere => exact ⟨hactv, hsusp⟩
    | unsaved => exact ⟨fun _ _ heq => (by cases heq), fun _ heq => (by cases heq)⟩
    | finish => exact ⟨fun _ _ heq => (by cases heq), fun _ heq => (by cases heq)⟩
    | fail => exact ⟨fun _ _ heq => (by cases heq), fun _ heq => (by cases heq)⟩

/-- What a run is suspended at can be resumed by the same graph: the checks pass, and a resume
can fail only through the store, the resume input or the continued execution. -/
theorem suspended_run_resumes {runtime : GraphRuntime B W S}
    (hgraph : ∀ other, runtimes other → other.graph = runtime.graph)
    {checkpoint : AgentCheckpoint B} {shared : Shared B W S}
    (hrun : Runs runtimes (.suspended checkpoint, shared)) :
    checkResumable runtime.graph (stateSchemaVersion B) checkpoint = .ok () ∧
    (∃ visited last transition observed, checkpoint.visited = visited ++ [last] ∧
      runtime.graph.transition last = some transition ∧
      transition.Leads last checkpoint.position.nextNode observed ∧ observed <:+ shared.events) ∧
    ∀ (store : CheckpointStore B S) (watch : Interruption W) (fuel : Nat) (input : ResumeInput B)
      (trace : RunTrace) (later : Shared B W S) (error : ResumeError B),
      runtime.checkpointStore = some store →
      (store.load checkpoint.id later.store).1 = .ok checkpoint →
      (resumeWithContext runtime watch fuel checkpoint.id input trace later).1 = .error error →
      (∃ source, error = .checkpointLoad source) ∨ error = .checkpointAlreadyConsumed checkpoint.id ∨
        (∃ rejection, error = .resumeInputRejected rejection) ∨
        ∃ source, error = .runFailed source := by
  obtain ⟨hacpt, hrt⟩ := (runs_resumable hgraph hrun).2 checkpoint rfl
  refine ⟨hacpt, hrt, ?_⟩
  intro store watch fuel input trace later error hsto hload hres
  cases hfin : resumeWithContext runtime watch fuel checkpoint.id input trace later with
  | mk result final =>
    rw [hfin] at hres
    -- The failure that `hresume` reports ends one of the ways through the resume.
    cases resumeWithContext_ways hsto hfin with
    | unloaded hfail =>
      rw [hfail] at hload
      cases hload
    | unsuitable hldd hchk =>
      rw [hldd] at hload
      cases hload
      rw [hacpt] at hchk
      cases hchk
    | inputRejected hldd hchk hin =>
      cases hres
      exact .inr (.inr (.inl (applyResumeInput_error hin)))
    | @untaken _ _ _ _ source =>
      cases hres
      cases source with
      | notFound id => exact .inr (.inl rfl)
      | duplicate id => exact .inl ⟨_, rfl⟩
      | storeUnavailable => exact .inl ⟨_, rfl⟩
    | @executed _ _ _ _ _ outcome _ hldd hchk hin htake hexec =>
      cases outcome with
      | ok execution => cases hres
      | error source =>
        cases hres
        exact .inr (.inr (.inr ⟨source, rfl⟩))

end Suspended

/-- A run of the scripted agent that is suspended can be resumed. -/
theorem suspended_run_resumes_scripted : ∃ checkpoint shared,
    Runs (Only Script.maximalRuntime) (.suspended checkpoint, shared) ∧
      checkResumable Script.maximalRuntime.graph (stateSchemaVersion Tally) checkpoint = .ok () := by
  obtain ⟨checkpoint, shared, _, hrun, -⟩ := Script.suspended_runs
  exact ⟨checkpoint, shared, hrun,
    (suspended_run_resumes (fun other hoth => by rw [hoth]) hrun).1⟩

/-! ## The run without checkpoints -/

/-- `run_with_context` never reaches one of its `unreachable!` arms, and what it returns ends a
run. -/
theorem runWithContext_run {runtimes : GraphRuntime B W S → Prop} {runtime : GraphRuntime B W S}
    {context : RunContext} {watch : Interruption W} {fuel : Nat} {state : AgentState B}
    {shared shared' : Shared B W S} {outcome : RunOutcome B} (hrtm : runtimes runtime)
    (hsteps : shared.usage.steps = 0) (hevs : shared.events = [])
    (h : runWithContext runtime context watch fuel state shared = (outcome, shared')) :
    ∃ runState, Runs runtimes (runState, shared') ∧
      match outcome with
      | .running vars => runState = .active ⟨runtime, context, false⟩ vars
      | .completed result => runState = .completed result
      | .failed error => runState = .failed (.graph error)
      | .unreachable _ => False := by
  unfold runWithContext at h
  cases hexec : executeFrom runtime context watch false fuel (entryVars runtime state) shared with
  | mk result shared₁ =>
    rw [hexec] at h
    cases h
    have hrun := executeFrom_run runtimes ⟨runtime, context, false⟩ hexec
    refine ⟨_, ⟨_, .entry context false state hrtm Bool.noConfusion hsteps hevs, hrun⟩, ?_⟩
    rcases executeFrom_completion_only hexec with ⟨vars', rfl⟩ | ⟨done, rfl⟩ | ⟨error, rfl⟩ <;> rfl

namespace Script

/-- The start of a run whose worker leaves the answer to the closing node. -/
def closingStart : Shared Tally Script (InMemoryCheckpointState Tally) where
  world :=
    { answer := fun tick => .ok (.continue (if tick = 0 then [] else [.setOutcome (.respond "done")]) [] {})
      route := fun _ => finished }
  store := InMemoryCheckpointStore.new
  uuids := fun n => ⟨BitVec.ofNat 128 n⟩

def isCompleted : RunOutcome Tally → Bool
  | .completed _ => true
  | _ => false

end Script

theorem runWithContext_run_scripted : ∃ result shared', runWithContext Script.maximalRuntime
      Script.maximalContext Script.quiet 3 Script.initialState Script.closingStart =
        (.completed result, shared') ∧ Runs (Only Script.maximalRuntime) (.completed result, shared') := by
  have hdone : Script.isCompleted (runWithContext Script.maximalRuntime Script.maximalContext
    Script.quiet 3 Script.initialState Script.closingStart).1 = true := by decide
  cases h : runWithContext Script.maximalRuntime Script.maximalContext Script.quiet 3
    Script.initialState Script.closingStart with
  | mk outcome shared' =>
    rw [h] at hdone
    cases outcome with
    | completed result =>
      obtain ⟨_, hrun, rfl⟩ := runWithContext_run (only_self _) rfl rfl h
      exact ⟨result, shared', rfl, hrun⟩
    | _ => cases hdone

end ServerRS.AgentCore

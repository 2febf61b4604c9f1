import ServerRS.ActionGraph.Nodes

/-!
# The action graph

Models `build_action_graph` of `application/action_graph/mod.rs`: plan, then execute, then
decide whether to plan again or to respond.

The definition passes the checks of `compile` whatever it is built from, and its nodes and
transitions can be looked up by `rfl`.
-/

namespace ServerRS.ActionGraph

open Lib AgentCore

def planId : NodeId := ⟨"plan", by decide⟩

def l0ExecuteId : NodeId := ⟨"l0_execute", by decide⟩

def replanDecisionId : NodeId := ⟨"replan_decision", by decide⟩

def buildResponseId : NodeId := ⟨"build_response", by decide⟩

def replanTargets : BTreeMap RouteKey NodeId :=
  ((∅ : BTreeMap RouteKey NodeId).insert continueRoute planId).insert finishRoute buildResponseId

theorem replanTargets_continue : replanTargets[continueRoute]? = some planId := rfl

theorem replanTargets_finish : replanTargets[finishRoute]? = some buildResponseId := rfl

variable {W S : Type} [ActionFormat]

/-- A node that only acts on the world. -/
def worldNode (id : NodeId)
    (execute : AgentState SecretaryAgentState → Exec W NodeError (NodeResult SecretaryAgentState)) :
    AgentNode SecretaryAgentState W where
  id := id
  execute := fun state _ world => .done (execute state world)

def replanRouter : Router SecretaryAgentState W where
  knownRoutes := [continueRoute, finishRoute]
  select := fun state world => (.ok (ReplanRouter.select state), world)

section Definition

variable (ports : ActionPorts W) (context : ActionRunContext)

/-- The definition that `build_action_graph` puts together. -/
def definition : GraphDefinition SecretaryAgentState W where
  id := ⟨"secretary_action", by decide⟩
  version := .initial
  nodes := (((((∅ : BTreeMap NodeId (AgentNode SecretaryAgentState W)).insert planId
    (worldNode planId (PlanNode.execute ports context))).insert l0ExecuteId
    (worldNode l0ExecuteId fun state => pure (L0ExecuteNode.execute state))).insert replanDecisionId
    (worldNode replanDecisionId (ReplanDecisionNode.execute ports context))).insert buildResponseId
    (worldNode buildResponseId (BuildResponseNode.execute context)))
  entry := some planId
  transitions := (((((∅ : BTreeMap NodeId (TransitionRule SecretaryAgentState W)).insert planId
    (.goto l0ExecuteId)).insert l0ExecuteId (.goto replanDecisionId)).insert replanDecisionId
    (.branch replanRouter replanTargets)).insert buildResponseId .atEnd)

theorem definition_keys : (definition ports context).nodes.keys =
    [buildResponseId, l0ExecuteId, planId, replanDecisionId] := rfl

theorem definition_edges : edges (definition ports context).transitions =
    [(l0ExecuteId, replanDecisionId), (planId, l0ExecuteId), (replanDecisionId, planId),
      (replanDecisionId, buildResponseId)] := rfl

theorem definition_terminalPaths :
    validateTerminalPaths (definition ports context).nodes (definition ports context).transitions =
      .ok () := by
  have hterm : ((definition ports context).transitions.toList.filter
      fun entry => entry.2.isEnd).map Prod.fst = [buildResponseId] := rfl
  unfold validateTerminalPaths
  rw [hterm, definition_keys, definition_edges]
  decide

theorem definition_valid : (definition ports context).validate = .ok planId := by
  have hent : (definition ports context).checkEntry = .ok planId := rfl
  have hreac : validateReachability (definition ports context).nodes
      (definition ports context).transitions planId = .ok () := rfl
  unfold GraphDefinition.validate
  refine Except.bind_eq_of_ok (a := ()) rfl ?_
  refine Except.bind_eq_of_ok hent ?_
  refine Except.bind_eq_of_ok (a := ()) rfl ?_
  refine Except.bind_eq_of_ok (a := ()) rfl ?_
  refine Except.bind_eq_of_ok hreac ?_
  exact Except.bind_eq_of_ok (definition_terminalPaths ports context) rfl

/-- The compiled graph; a run has at most 16 steps. -/
def graph : CompiledGraph SecretaryAgentState W where
  id := (definition ports context).id
  version := (definition ports context).version
  nodes := (definition ports context).nodes
  entry := planId
  transitions := (definition ports context).transitions
  policy := ⟨⟨16, by decide⟩⟩
  entry_mem := (GraphDefinition.validate_ok (definition_valid ports context)).1
  transition_mem := (GraphDefinition.validate_ok (definition_valid ports context)).2.1
  target_mem := fun _ _ hsrc => validateTransition_target (validateTransitions_get
    (GraphDefinition.validate_ok (definition_valid ports context)).2.2 hsrc)
  route_mem := fun _ _ _ hsrc => validateTransition_route (validateTransitions_get
    (GraphDefinition.validate_ok (definition_valid ports context)).2.2 hsrc)

theorem definition_compiles :
    (definition ports context).compile ⟨⟨16, by decide⟩⟩ = .ok (graph ports context) := by
  unfold GraphDefinition.compile
  split
  · next h =>
    rw [definition_valid] at h
    cases h
  · next entry h =>
    rw [definition_valid] at h
    cases h
    rfl

def buildActionGraph (effectExecutor : EffectExecutor SecretaryAgentState W)
    (checkpointStore : CheckpointStore SecretaryAgentState S) :
    GraphRuntime SecretaryAgentState W S where
  graph := graph ports context
  effectExecutor := some effectExecutor
  checkpointStore := some checkpointStore

end Definition

/-- The runtimes that `build_action_graph` makes. A run that is resumed goes on in a new one. -/
def IsActionGraph (runtime : GraphRuntime SecretaryAgentState W S) : Prop :=
  ∃ ports context effectExecutor checkpointStore,
    runtime = buildActionGraph ports context effectExecutor checkpointStore

/-! ## Looking up nodes and transitions -/

section Lookup

variable (ports : ActionPorts W) (context : ActionRunContext)

theorem graph_plan : (graph ports context).node planId =
    some (worldNode planId (PlanNode.execute ports context)) := rfl

theorem graph_l0Execute : (graph ports context).node l0ExecuteId =
    some (worldNode l0ExecuteId fun state => pure (L0ExecuteNode.execute state)) := rfl

theorem graph_replanDecision : (graph ports context).node replanDecisionId =
    some (worldNode replanDecisionId (ReplanDecisionNode.execute ports context)) := rfl

theorem graph_buildResponse : (graph ports context).node buildResponseId =
    some (worldNode buildResponseId (BuildResponseNode.execute context)) := rfl

theorem graph_plan_transition :
    (graph ports context).transition planId = some (.goto l0ExecuteId) := rfl

theorem graph_l0Execute_transition :
    (graph ports context).transition l0ExecuteId = some (.goto replanDecisionId) := rfl

theorem graph_replanDecision_transition :
    (graph ports context).transition replanDecisionId = some (.branch replanRouter replanTargets) :=
  rfl

theorem graph_buildResponse_transition :
    (graph ports context).transition buildResponseId = some .atEnd := rfl

end Lookup

end ServerRS.ActionGraph

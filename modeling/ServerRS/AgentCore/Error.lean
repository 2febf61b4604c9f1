import ServerRS.AgentCore.State

/-!
# Errors of the graph runtime

Models `agent-core/src/graph/error.rs` and the error types of `effect.rs` and
`checkpoint.rs`.

The boxed `source` of `NodeError` and `EffectError` is not modelled: the runtime
passes it along and no function of the crate reads it.
-/

namespace ServerRS.AgentCore

inductive BudgetResource where
  | steps
  | llmCalls
  | toolCalls
  | tokens
deriving DecidableEq

inductive NodeErrorKind where
  | transient
  | timeout
  | rateLimited
  | permanent
  | invariant
  | cancelled
deriving DecidableEq

structure BudgetFailure where
  resource : BudgetResource
  limit : UInt64
  attempted : UInt64
deriving DecidableEq

structure NodeError where
  kind : NodeErrorKind
  message : String
  budget : Option BudgetFailure := none
deriving DecidableEq

inductive EffectErrorKind where
  | transient
  | permanent
  | timeout
  | unknownCommit
deriving DecidableEq

structure EffectError where
  kind : EffectErrorKind
  message : String
deriving DecidableEq

def EffectError.unknownCommit (message : String) : EffectError :=
  ⟨.unknownCommit, message⟩

inductive GraphRunError where
  | cancelled
  | deadlineExceeded
  | budgetExceeded (resource : BudgetResource) (limit attempted : UInt64)
  | missingNode (node : NodeId)
  | missingTransition (node : NodeId)
  | nodeFailed (node : NodeId) (error : NodeError)
  | missingEffectExecutor (node : NodeId)
  | effectFailed (node : NodeId) (effectId : EffectId) (completedEffectIds : List EffectId)
      (error : EffectError)
  | postEffectStateUpdateFailed (node : NodeId) (effectId : EffectId) (error : AgentStateError)
  | stateUpdateFailed (node : NodeId) (error : AgentStateError)
  | unexpectedSuspend (node : NodeId)
  | suspendAtEnd (node : NodeId)
  | unknownRoute (node : NodeId) (route : RouteKey)
  | missingOutcome
deriving DecidableEq

/-- The errors that blame the structure of the graph. -/
def GraphRunError.isStructural : GraphRunError → Bool
  | .missingNode _ => true
  | .missingTransition _ => true
  | .unknownRoute _ _ => true
  | _ => false

def NodeError.intoGraphRun (self : NodeError) (node : NodeId) : GraphRunError :=
  match self.budget with
  | some budget => .budgetExceeded budget.resource budget.limit budget.attempted
  | none => if self.kind = .cancelled then .cancelled else .nodeFailed node self

theorem NodeError.intoGraphRun_not_structural (self : NodeError) (node : NodeId) :
    (self.intoGraphRun node).isStructural = false := by
  unfold NodeError.intoGraphRun
  split
  · rfl
  · split <;> rfl

inductive GraphBuildError where
  | duplicateNode (node : NodeId)
  | unknownTransitionSource (node : NodeId)
  | duplicateTransition (node : NodeId)
  | invalidNamespace (nameSpace : String) (error : GraphIdError)
  | duplicateNamespace (nameSpace : String)
  | namespaceCollision (nameSpace : String) (node : NodeId)
  | invalidNamespacedNodeId (nameSpace : String) (localId : NodeId) (error : GraphIdError)
  | fragmentMissingEntry
  | fragmentEntryMissing (node : NodeId)
  | fragmentMissingExit
  | fragmentMissingTransition (node : NodeId)
  | fragmentContainsEnd (node : NodeId)
  | fragmentDanglingTarget (source target : NodeId)
  | invalidFragmentExitName (name : String) (error : GraphIdError)
  | duplicateFragmentExit (name : String)
  | fragmentExitSourceMissing (name : String) (node : NodeId)
  | invalidFragmentExitRoute (name : String) (node : NodeId) (route : RouteKey)
  | unresolvedFragmentRoute (node : NodeId) (route : RouteKey)
  | duplicateFragmentRoute (node : NodeId) (route : RouteKey)
  | unknownFragmentRouteTarget (node : NodeId) (route : RouteKey)
  | unknownFragmentExit (exit : String)
  | unknownFragmentExitTarget (node : NodeId)
deriving DecidableEq

inductive GraphCompileError where
  | unresolvedFragmentExit (exit : String)
  | missingEntry
  | entryNodeMissing (node : NodeId)
  | missingTransition (node : NodeId)
  | danglingTarget (source target : NodeId)
  | emptyBranch (node : NodeId)
  | duplicateKnownRoute (node : NodeId) (route : RouteKey)
  | missingRouteTarget (node : NodeId) (route : RouteKey)
  | unknownRouteTarget (node : NodeId) (route : RouteKey)
  | unreachableNode (node : NodeId)
  | noTerminalPath
  | nodeCannotReachEnd (node : NodeId)
deriving DecidableEq

inductive CheckpointError where
  | notFound (checkpointId : CheckpointId)
  | duplicate (checkpointId : CheckpointId)
  | storeUnavailable
deriving DecidableEq

end ServerRS.AgentCore

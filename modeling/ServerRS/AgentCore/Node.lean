import ServerRS.AgentCore.Budget

/-!
# Nodes, routers and effect executors

Models `agent-core/src/graph/node.rs`, the executor side of `effect.rs` and the
suspend request of `checkpoint.rs`.

The behaviour of a node, a router or an executor is any deterministic function
of what the runtime hands it and of a world `W`, which it may change. `W` is
arbitrary: it stands for interior mutability, for the services behind the node and,
as an oracle, for any nondeterminism.

Nodes and executors hold the run's budget handle while they run. They can use its
public methods only; `BudgetUse` is the tree of those uses.
-/

namespace ServerRS.AgentCore

open Lib

/-! ## Uses of the budget handle -/

/-- What code holding a `RunBudgetHandle` does with it before it returns an `α`. `reserve_step`
is private to the crate, so there is no use of it here. -/
inductive BudgetUse (α : Type) where
  | done (value : α)
  | reserveLlmCall (next : Except GraphRunError Unit → BudgetUse α)
  | reserveToolCalls (count : UInt32) (next : Except GraphRunError Unit → BudgetUse α)
  | recordTokens (count : UInt64) (next : Except GraphRunError Unit → BudgetUse α)
  | recordUsage (delta : UsageDelta) (next : Except GraphRunError Unit → BudgetUse α)
  | snapshot (next : UsageSnapshot → BudgetUse α)

namespace BudgetUse

variable {α : Type}

/-- Carry out the uses on the shared usage cell. -/
def run (limits : RunBudget) : BudgetUse α → UsageSnapshot → α × UsageSnapshot
  | .done value, usage => (value, usage)
  | .reserveLlmCall next, usage =>
    run limits (next (AgentCore.reserveLlmCall limits usage).1)
      (AgentCore.reserveLlmCall limits usage).2
  | .reserveToolCalls count next, usage =>
    run limits (next (AgentCore.reserveToolCalls limits count usage).1)
      (AgentCore.reserveToolCalls limits count usage).2
  | .recordTokens count next, usage =>
    run limits (next (AgentCore.recordTokens limits count usage).1)
      (AgentCore.recordTokens limits count usage).2
  | .recordUsage delta next, usage =>
    run limits (next (AgentCore.recordUsage limits delta usage).1)
      (AgentCore.recordUsage limits delta usage).2
  | .snapshot next, usage => run limits (next usage) usage

end BudgetUse

/-! ## What a node answers -/

inductive SuspendReason where
  | externalInput
  | approval
  | externalEvent
  | business
deriving DecidableEq

structure SuspendRequest (S : Type) where
  reason : SuspendReason
  data : S

structure EffectEnvelope (E : Type) where
  id : EffectId
  effect : E

structure EffectReceipt (R : Type) where
  effectId : EffectId
  value : R

variable (B : Type) [AgentBusinessState B] (W : Type)

inductive NodeResult where
  | continue (updates : List (AgentUpdate (Update B))) (effects : List (Effect B))
      (usage : UsageDelta)
  | suspend (updates : List (AgentUpdate (Update B))) (effects : List (Effect B))
      (usage : UsageDelta) (request : SuspendRequest (SuspendData B))

structure AgentNode where
  id : NodeId
  execute : AgentState B → RunContext → W → BudgetUse (Except NodeError (NodeResult B) × W)

/-- `Router`. `known_routes` is asked at compile time only. -/
structure Router where
  knownRoutes : List RouteKey
  select : AgentState B → W → Except NodeError RouteKey × W

structure EffectExecutor where
  execute : EffectEnvelope (Effect B) → RunContext → W →
    BudgetUse (Except EffectError (Receipt B) × W)

/-- `TransitionRule`; `atEnd` is `TransitionRule::End`. -/
inductive TransitionRule where
  | goto (target : NodeId)
  | branch (router : Router B W) (targets : BTreeMap RouteKey NodeId)
  | atEnd

namespace TransitionRule

variable {B W}

/-- `transition_targets`. -/
def targets : TransitionRule B W → List NodeId
  | .goto target => [target]
  | .branch _ targets => targets.toList.map Prod.snd
  | .atEnd => []

/-- `matches!(transition, TransitionRule::End)`. -/
def isEnd : TransitionRule B W → Bool
  | .atEnd => true
  | _ => false

end TransitionRule

end ServerRS.AgentCore

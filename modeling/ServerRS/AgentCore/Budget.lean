import ServerRS.AgentCore.Error

/-!
# Run budgets

Models `agent-core/src/graph/budget.rs`.

A `RunBudgetHandle` is a copy of the limits and a shared cell with the usage.
Every public method locks the cell for its whole body, so a call is one atomic
`Exec` over the `UsageSnapshot`; clones of a handle act on the same cell.

The cancellation token and the deadline of a `RunContext` are not data here. What
`check_active` and the `select!` of the runtime see of them is an answer of the
outside world (`Interruption`), arbitrary at every point where the code looks.
-/

namespace ServerRS.AgentCore

open Lib

/-! ## Limits and usage -/

structure GraphPolicy where
  maxSteps : NonZeroU32

/-- `RunBudget`; the duration is in nanoseconds. -/
structure RunBudget where
  maxSteps : NonZeroU32
  maxLlmCalls : Option UInt32 := none
  maxToolCalls : Option UInt32 := none
  maxTokens : Option UInt64 := none
  maxDuration : Nat

structure UsageDelta where
  tokens : UInt64 := 0

structure UsageSnapshot where
  steps : UInt32 := 0
  llmCalls : UInt32 := 0
  toolCalls : UInt32 := 0
  tokens : UInt64 := 0
deriving DecidableEq

/-- `u32::MAX` as the `u64` that `u64::from(u32::MAX)` is. -/
def U32_MAX : UInt64 := UInt64.ofNat (2 ^ 32 - 1)

/-- `u64::MAX`. -/
def U64_MAX : UInt64 := UInt64.ofNat (2 ^ 64 - 1)

def checkedAdd (a b : UInt64) : Option UInt64 :=
  if a.toNat + b.toNat < 2 ^ 64 then some (a + b) else none

def saturatingAdd (a b : UInt32) : UInt32 :=
  if a.toNat + b.toNat < 2 ^ 32 then a + b else UInt32.ofNat (2 ^ 32 - 1)

def checkOptionalLimit (resource : BudgetResource) (current delta : UInt64)
    (configuredLimit : Option UInt64) (representationLimit : UInt64) :
    Except GraphRunError UInt64 :=
  match checkedAdd current delta with
  | none =>
    .error (.budgetExceeded resource (configuredLimit.getD representationLimit) U64_MAX)
  | some attempted =>
    let limit := configuredLimit.getD representationLimit
    if attempted > limit then .error (.budgetExceeded resource limit attempted)
    else .ok attempted

/-! ## `RunBudgetHandle` -/

/-- `RunBudgetHandle::reserve_llm_call`. -/
def reserveLlmCall (limits : RunBudget) : Exec UsageSnapshot GraphRunError Unit := do
  let usage ← Exec.get
  let next ← Exec.ofExcept (checkOptionalLimit .llmCalls usage.llmCalls.toUInt64 1
    (limits.maxLlmCalls.map UInt32.toUInt64) U32_MAX)
  Exec.modify fun usage => { usage with llmCalls := next.toUInt32 }

/-- `RunBudgetHandle::reserve_tool_calls`. -/
def reserveToolCalls (limits : RunBudget) (count : UInt32) :
    Exec UsageSnapshot GraphRunError Unit := do
  let usage ← Exec.get
  let next ← Exec.ofExcept (checkOptionalLimit .toolCalls usage.toolCalls.toUInt64 count.toUInt64
    (limits.maxToolCalls.map UInt32.toUInt64) U32_MAX)
  Exec.modify fun usage => { usage with toolCalls := next.toUInt32 }

/-- `RunBudgetHandle::record_tokens`. -/
def recordTokens (limits : RunBudget) (count : UInt64) : Exec UsageSnapshot GraphRunError Unit := do
  let usage ← Exec.get
  let next ← Exec.ofExcept
    (checkOptionalLimit .tokens usage.tokens count limits.maxTokens U64_MAX)
  Exec.modify fun usage => { usage with tokens := next }

/-- `RunBudgetHandle::record_usage`. -/
def recordUsage (limits : RunBudget) (delta : UsageDelta) : Exec UsageSnapshot GraphRunError Unit :=
  recordTokens limits delta.tokens

/-- The step limit in force: the smaller of the budget's and the graph policy's. -/
def stepLimit (limits : RunBudget) (graphMaxSteps : NonZeroU32) : UInt32 :=
  min limits.maxSteps.get graphMaxSteps.get

theorem saturatingAdd_one_ne_zero (a : UInt32) : saturatingAdd a 1 ≠ 0 := by
  unfold saturatingAdd
  split
  · next h =>
    intro h0
    have h1 : (a + 1).toNat = 0 := by rw [h0]; rfl
    rw [UInt32.toNat_add, Nat.mod_eq_of_lt (by simpa using h)] at h1
    simp at h1
  · decide

/-- `RunBudgetHandle::reserve_step`. -/
def reserveStep (limits : RunBudget) (graphMaxSteps : NonZeroU32) :
    Exec UsageSnapshot GraphRunError RunStep := do
  let usage ← Exec.get
  let limit := stepLimit limits graphMaxSteps
  let attempted := saturatingAdd usage.steps 1
  if attempted > limit then
    Exec.throw (.budgetExceeded .steps limit.toUInt64 attempted.toUInt64)
  else do
    let step : RunStep := ⟨attempted, saturatingAdd_one_ne_zero usage.steps⟩
    Exec.modify fun usage => { usage with steps := attempted }
    pure step

/-! ## Run context -/

structure RunTrace where
  traceId : Option String := none
  attributes : BTreeMap String String := ∅

/-- The data of a `RunContext` that nodes and executors can read: the run id, the limits of
its budget handle and the trace. -/
structure RunContext where
  runId : RunId
  limits : RunBudget
  trace : RunTrace

/-- What ends a run from outside. -/
inductive Interrupt where
  | cancelled
  | deadlineExceeded
deriving DecidableEq

/-- The error that `check_active` and the node `select!` return for it. -/
def Interrupt.toError : Interrupt → GraphRunError
  | .cancelled => .cancelled
  | .deadlineExceeded => .deadlineExceeded

/-- What the runtime sees of the cancellation token and the clock: `checked` answers
`check_active`, `awaited` answers a `select!`, given the world the awaited call left. -/
structure Interruption (W : Type) where
  checked : W → Option Interrupt
  awaited : W → Option Interrupt

end ServerRS.AgentCore

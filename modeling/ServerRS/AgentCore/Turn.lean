import ServerRS.AgentCore.BudgetAccounting
import ServerRS.AgentCore.Runtime

/-!
# What a turn of the loop does

One inversion for each part of a turn, with all its ways to fail. `DispatchRun` lists
the ways through the effect loop and `TurnRun` the ways through a turn, and everything
proved about runs later is proved from these two, never from the code of the loop.

`Shared.Extends` is the frame: within a turn the store, the supply of UUIDs and the
step counter stay as they are, apart from the step that `check_ready` reserves, and
events are only appended.
-/

namespace ServerRS.AgentCore

open Lib

variable {B : Type} [AgentBusinessState B] {W S : Type}

def Event.isRouting : Event B → Bool
  | .routeSelected _ _ => true
  | _ => false

def Event.isNodeCall : Event B → Bool
  | .nodeExecuted _ _ => true
  | _ => false

/-- `shared'` is `shared` after a part of a turn that observed `tail`. -/
structure Shared.Extends (shared shared' : Shared B W S) (tail : List (Event B)) : Prop where
  steps : shared'.usage.steps = shared.usage.steps
  store : shared'.store = shared.store
  uuids : shared'.uuids = shared.uuids
  events : shared'.events = shared.events ++ tail

namespace Shared.Extends

variable {shared₁ shared₂ shared₃ : Shared B W S} {xs ys : List (Event B)}

theorem refl (shared : Shared B W S) : shared.Extends shared [] :=
  ⟨rfl, rfl, rfl, (List.append_nil _).symm⟩

theorem observed (event : Event B) (shared : Shared B W S) :
    shared.Extends { shared with events := shared.events ++ [event] } [event] := ⟨rfl, rfl, rfl, rfl⟩

theorem trans (h₁ : shared₁.Extends shared₂ xs) (h₂ : shared₂.Extends shared₃ ys) :
    shared₁.Extends shared₃ (xs ++ ys) where
  steps := h₂.steps.trans h₁.steps
  store := h₂.store.trans h₁.store
  uuids := h₂.uuids.trans h₁.uuids
  events := by rw [h₂.events, h₁.events, List.append_assoc]

end Shared.Extends

/-! ## The budget handle in the hands of a node -/

theorem reserveLlmCall_steps (limits : RunBudget) (usage : UsageSnapshot) :
    (reserveLlmCall limits usage).2.steps = usage.steps := by
  unfold reserveLlmCall
  rw [Exec.get_bind_apply]
  cases checkOptionalLimit .llmCalls usage.llmCalls.toUInt64 1
    (limits.maxLlmCalls.map UInt32.toUInt64) U32_MAX <;> rfl

theorem reserveToolCalls_steps (limits : RunBudget) (count : UInt32) (usage : UsageSnapshot) :
    (reserveToolCalls limits count usage).2.steps = usage.steps := by
  unfold reserveToolCalls
  rw [Exec.get_bind_apply]
  cases checkOptionalLimit .toolCalls usage.toolCalls.toUInt64 count.toUInt64
    (limits.maxToolCalls.map UInt32.toUInt64) U32_MAX <;> rfl

theorem recordTokens_steps (limits : RunBudget) (count : UInt64) (usage : UsageSnapshot) :
    (recordTokens limits count usage).2.steps = usage.steps := by
  unfold recordTokens
  rw [Exec.get_bind_apply]
  cases checkOptionalLimit .tokens usage.tokens count limits.maxTokens U64_MAX <;> rfl

theorem recordTokens_error {limits : RunBudget} {count : UInt64} {usage usage' : UsageSnapshot}
    {error : GraphRunError} (h : recordTokens limits count usage = (.error error, usage')) :
    ∃ limit attempted, error = .budgetExceeded .tokens limit attempted := by
  unfold recordTokens at h
  rw [Exec.get_bind_apply] at h
  cases hcheck : checkOptionalLimit .tokens usage.tokens count limits.maxTokens U64_MAX with
  | ok next =>
    rw [hcheck] at h
    cases h
  | error error =>
    rw [hcheck] at h
    cases h
    exact checkOptionalLimit_error hcheck

/-- No use of the handle reaches the step counter. -/
theorem BudgetUse.run_steps {α : Type} (limits : RunBudget) (use : BudgetUse α)
    (usage : UsageSnapshot) : (use.run limits usage).2.steps = usage.steps := by
  induction use generalizing usage with
  | done value => rfl
  | reserveLlmCall next ih => exact (ih _ _).trans (reserveLlmCall_steps limits usage)
  | reserveToolCalls count next ih => exact (ih _ _).trans (reserveToolCalls_steps limits count usage)
  | recordTokens count next ih => exact (ih _ _).trans (recordTokens_steps limits count usage)
  | recordUsage delta next ih => exact (ih _ _).trans (recordTokens_steps limits delta.tokens usage)
  | snapshot next ih => exact ih _ _

/-! ## Before the effects -/

section Parts

variable {runtime : GraphRuntime B W S} {context : RunContext} {watch : Interruption W}
  {shared shared' : Shared B W S}

/-- An action always returns, and touches only the world and the usage. -/
theorem actOn_spec {ε α : Type} (context : RunContext) (call : W → BudgetUse (α × W))
    (shared : Shared B W S) :
    ∃ answer shared', (actOn context call : Run B W S ε α) shared = (.ok answer, shared') ∧
      shared.Extends shared' [] := by
  refine ⟨_, _, rfl, ?_⟩
  exact ⟨BudgetUse.run_steps _ _ _, rfl, rfl, (List.append_nil _).symm⟩

theorem checkActive_ok (h : checkActive watch shared = (.ok (), shared')) :
    watch.checked shared.world = none ∧ shared' = shared := by
  unfold checkActive at h
  rw [Exec.get_bind_apply] at h
  cases hchk : watch.checked shared.world with
  | none =>
    rw [hchk] at h
    cases h
    exact ⟨rfl, rfl⟩
  | some interrupt =>
    rw [hchk] at h
    cases h

variable {error : GraphRunError} {graphMaxSteps : NonZeroU32} {node : AgentNode B W}
  {candidate : AgentState B} {delta : UsageDelta} {transition : TransitionRule B W}
  {answer : NodeAnswer B}

theorem checkActive_error (h : checkActive watch shared = (.error error, shared')) :
    ∃ interrupt, watch.checked shared.world = some interrupt ∧ error = interrupt.toError ∧
      shared' = shared := by
  unfold checkActive at h
  rw [Exec.get_bind_apply] at h
  cases hchk : watch.checked shared.world with
  | none =>
    rw [hchk] at h
    cases h
  | some interrupt =>
    rw [hchk] at h
    cases h
    exact ⟨interrupt, rfl, rfl, rfl⟩

/-- A step is granted by increasing the step counter, up to the limit, and nothing else. -/
theorem checkReady_ok {step : RunStep}
    (h : checkReady context watch graphMaxSteps shared = (.ok step, shared')) :
    watch.checked shared.world = none ∧ step.get = saturatingAdd shared.usage.steps 1 ∧
      step.get ≤ stepLimit context.limits graphMaxSteps ∧
      shared' = { shared with usage := { shared.usage with steps := step.get } } := by
  obtain ⟨⟨⟩, shared₁, hactv, hreser⟩ := Exec.bind_eq_ok.mp h
  obtain ⟨hchk, rfl⟩ := checkActive_ok hactv
  obtain ⟨usage', husage, rfl⟩ := Exec.zoom_eq.mp hreser
  obtain ⟨hstep, hle, rfl⟩ := reserveStep_ok.mp husage
  exact ⟨hchk, hstep, hle, rfl⟩

theorem checkReady_error
    (h : checkReady context watch graphMaxSteps shared = (.error error, shared')) :
    shared' = shared ∧
      ((∃ interrupt, watch.checked shared.world = some interrupt ∧ error = interrupt.toError) ∨
        watch.checked shared.world = none ∧
        stepLimit context.limits graphMaxSteps < saturatingAdd shared.usage.steps 1 ∧
        ∃ limit attempted, error = .budgetExceeded .steps limit attempted) := by
  rcases Exec.bind_eq_error.mp h with hactv | ⟨⟨⟩, shared₁, hactv, hreser⟩
  · obtain ⟨interrupt, hchk, herr, rfl⟩ := checkActive_error hactv
    exact ⟨rfl, .inl ⟨interrupt, hchk, herr⟩⟩
  · obtain ⟨hchk, rfl⟩ := checkActive_ok hactv
    obtain ⟨usage', husage, rfl⟩ := Exec.zoom_eq.mp hreser
    obtain ⟨hgt, rfl, limit, attempted, herr⟩ := reserveStep_error husage
    exact ⟨rfl, .inr ⟨hchk, hgt, limit, attempted, herr⟩⟩

/-- The node call is observed whatever comes of it; an answer is what the node returned, and
a failure is an interruption or an error of the node. -/
theorem awaitNode_spec {runStep : RunStep} {vars : LoopVars B}
    {result : Except GraphRunError (NodeResult B)}
    (h : awaitNode context watch runStep node vars shared = (result, shared')) :
    ∃ answer, (actOn context (node.execute vars.state context) : Run B W S GraphRunError _)
        { shared with events := shared.events ++ [.nodeExecuted runStep vars.current] } =
          (.ok answer, shared') ∧
      shared.Extends shared' [.nodeExecuted runStep vars.current] ∧
      result = match watch.awaited shared'.world with
        | some interrupt => .error interrupt.toError
        | none => answer.mapError (·.intoGraphRun vars.current) := by
  obtain ⟨answer, shared₁, hact, hext⟩ := actOn_spec (ε := GraphRunError) context
    (node.execute vars.state context)
    { shared with events := shared.events ++ [.nodeExecuted runStep vars.current] }
  unfold awaitNode at h
  rw [observe, Exec.modify_bind_apply, Exec.bind_apply, hact] at h
  dsimp only at h
  rw [Exec.get_bind_apply] at h
  have hobs : shared.Extends
      { shared with events := shared.events ++ [.nodeExecuted runStep vars.current] }
      [.nodeExecuted runStep vars.current] := ⟨rfl, rfl, rfl, rfl⟩
  cases hawa : watch.awaited shared₁.world with
  | some interrupt =>
    rw [hawa] at h
    cases h
    exact ⟨answer, hact, hobs.trans hext, by rw [hawa]⟩
  | none =>
    rw [hawa] at h
    cases answer with
    | ok value =>
      cases h
      exact ⟨.ok value, hact, hobs.trans hext, by rw [hawa]; rfl⟩
    | error error =>
      cases h
      exact ⟨.error error, hact, hobs.trans hext, by rw [hawa]; rfl⟩

theorem awaitNode_error {runStep : RunStep} {vars : LoopVars B}
    (h : awaitNode context watch runStep node vars shared = (.error error, shared')) :
    error.isStructural = false := by
  obtain ⟨answer, -, -, hres⟩ := awaitNode_spec h
  cases hawa : watch.awaited shared'.world with
  | some interrupt =>
    rw [hawa] at hres
    cases hres
    cases interrupt <;> rfl
  | none =>
    rw [hawa] at hres
    cases answer with
    | ok value => cases hres
    | error nodeError =>
      cases hres
      exact nodeError.intoGraphRun_not_structural vars.current

/-- Updating a candidate touches nothing shared. -/
theorem updateState_spec {updates : List (AgentUpdate (Update B))}
    {toError : AgentStateError → GraphRunError} {result : Except GraphRunError (AgentState B)}
    (h : updateState updates toError candidate shared = (result, shared')) :
    shared' = shared ∧
      ((∃ next, candidate.applyUpdates updates = (.ok (), next) ∧ result = .ok next) ∨
        ∃ error, (candidate.applyUpdates updates).1 = .error error ∧
          result = .error (toError error)) := by
  unfold updateState at h
  cases happ : candidate.applyUpdates updates with
  | mk outcome next =>
    rw [happ] at h
    cases outcome with
    | ok _ =>
      cases h
      exact ⟨rfl, .inl ⟨next, rfl, rfl⟩⟩
    | error error =>
      cases h
      exact ⟨rfl, .inr ⟨error, rfl, rfl⟩⟩

theorem recordUsage_extends {result : Except GraphRunError Unit}
    (h : onBudget (recordUsage context.limits delta) shared = (result, shared')) :
    shared.Extends shared' [] := by
  obtain ⟨usage', husage, rfl⟩ := Exec.zoom_eq.mp h
  refine ⟨?_, rfl, rfl, (List.append_nil _).symm⟩
  rw [← recordTokens_steps context.limits delta.tokens shared.usage]
  exact congrArg (·.2.steps) husage.symm

theorem recordUsage_error
    (h : onBudget (recordUsage context.limits delta) shared = (.error error, shared')) :
    error.isStructural = false := by
  obtain ⟨usage', husage, rfl⟩ := Exec.zoom_eq.mp h
  obtain ⟨limit, attempted, rfl⟩ := recordTokens_error husage
  rfl

variable {checkpointing : Bool} {runStep : RunStep} {vars : LoopVars B}

/-- A prepared turn passed every check on the node's answer. -/
theorem prepareTurn_ok (h : prepareTurn runtime context watch checkpointing runStep vars shared =
      (.ok (transition, answer, candidate), shared')) :
    ∃ node result shared₁,
      runtime.graph.node vars.current = some node ∧
      awaitNode context watch runStep node vars shared = (.ok result, shared₁) ∧
      answer = result.answer ∧ (answer.suspendRequest.isSome → checkpointing = true) ∧
      runtime.graph.transition vars.current = some transition ∧
      (answer.suspendRequest.isSome → transition.isEnd = false) ∧
      onBudget (recordUsage context.limits answer.usage) shared₁ = (.ok (), shared') ∧
      vars.state.applyUpdates answer.updates = (.ok (), candidate) := by
  unfold prepareTurn at h
  cases hnode : runtime.graph.node vars.current with
  | none =>
    rw [hnode] at h
    cases h
  | some node =>
    rw [hnode] at h
    obtain ⟨result, shared₁, hawait, h⟩ := Exec.bind_eq_ok.mp h
    split at h
    · cases h
    · next hall =>
      cases htr : runtime.graph.transition vars.current with
      | none =>
        rw [htr] at h
        cases h
      | some rule =>
        rw [htr] at h
        dsimp only at h
        split at h
        · cases h
        · next hend =>
          obtain ⟨⟨⟩, shared₂, hrec, hrest⟩ := Exec.bind_eq_ok.mp h
          obtain ⟨next, shared₃, hupd, hpure⟩ := Exec.bind_eq_ok.mp hrest
          obtain ⟨rfl, ⟨_, happ, hnext⟩ | ⟨_, _, hnext⟩⟩ := updateState_spec hupd
          · cases hnext
            cases hpure
            refine ⟨node, result, shared₁, rfl, hawait, rfl, ?_, rfl, ?_, hrec, happ⟩
            · intro hsome
              simpa [hsome] using hall
            · intro hsome
              simpa [hsome] using hend
          · cases hnext

/-- The converse: a turn that passes every check is prepared. -/
theorem prepareTurn_of {result : NodeResult B} {shared₁ : Shared B W S}
    (hnode : runtime.graph.node vars.current = some node)
    (hawait : awaitNode context watch runStep node vars shared = (.ok result, shared₁))
    (hall : result.answer.suspendRequest.isSome → checkpointing = true)
    (htr : runtime.graph.transition vars.current = some transition)
    (hend : result.answer.suspendRequest.isSome → transition.isEnd = false)
    (hrec : onBudget (recordUsage context.limits result.answer.usage) shared₁ = (.ok (), shared'))
    (hupds : vars.state.applyUpdates result.answer.updates = (.ok (), candidate)) :
    prepareTurn runtime context watch checkpointing runStep vars shared =
      (.ok (transition, result.answer, candidate), shared') := by
  have hupd : updateState result.answer.updates (.stateUpdateFailed vars.current) vars.state
      shared' = (.ok candidate, shared') := by
    unfold updateState
    rw [hupds]
    rfl
  unfold prepareTurn
  rw [hnode]
  refine Exec.bind_eq_ok.mpr ⟨result, shared₁, hawait, ?_⟩
  split
  · next href =>
    rw [Bool.and_eq_true, Bool.not_eq_true'] at href
    rw [hall href.1] at href
    cases href.2
  · rw [htr]
    dsimp only
    split
    · next href =>
      rw [Bool.and_eq_true] at href
      rw [hend href.1] at href
      cases href.2
    · exact Exec.bind_eq_ok.mpr ⟨(), shared', hrec,
        Exec.bind_eq_ok.mpr ⟨candidate, shared', hupd, rfl⟩⟩

theorem prepareTurn_extends
    (h : prepareTurn runtime context watch checkpointing runStep vars shared =
      (.ok (transition, answer, candidate), shared')) :
    shared.Extends shared' [.nodeExecuted runStep vars.current] := by
  obtain ⟨node, result, shared₁, _, hawait, _, _, _, _, hrec, _⟩ := prepareTurn_ok h
  obtain ⟨_, _, hext, _⟩ := awaitNode_spec hawait
  exact hext.trans (recordUsage_extends hrec)

/-- A turn that is refused before its first effect has observed at most the node call. -/
theorem prepareTurn_error (h : prepareTurn runtime context watch checkpointing runStep vars shared =
      (.error error, shared')) :
    (error = .missingNode vars.current ∧ runtime.graph.node vars.current = none ∧
        shared' = shared) ∨
      shared.Extends shared' [.nodeExecuted runStep vars.current] ∧
        ((error = .missingTransition vars.current ∧ runtime.graph.node vars.current ≠ none ∧
            runtime.graph.transition vars.current = none) ∨
          error.isStructural = false) := by
  unfold prepareTurn at h
  cases hnode : runtime.graph.node vars.current with
  | none =>
    rw [hnode] at h
    cases h
    exact .inl ⟨rfl, rfl, rfl⟩
  | some node =>
    right
    rw [hnode] at h
    rcases Exec.bind_eq_error.mp h with hawait | ⟨result, shared₁, hawait, h⟩
    · obtain ⟨_, _, hext, _⟩ := awaitNode_spec hawait
      exact ⟨hext, .inr (awaitNode_error hawait)⟩
    · obtain ⟨_, _, hext, _⟩ := awaitNode_spec hawait
      split at h
      · cases h
        exact ⟨hext, .inr rfl⟩
      · cases htr : runtime.graph.transition vars.current with
        | none =>
          rw [htr] at h
          cases h
          exact ⟨hext, .inl ⟨rfl, Option.some_ne_none node, rfl⟩⟩
        | some rule =>
          rw [htr] at h
          dsimp only at h
          split at h
          · cases h
            exact ⟨hext, .inr rfl⟩
          · rcases Exec.bind_eq_error.mp h with hrec | ⟨⟨⟩, shared₂, hrec, hrest⟩
            · exact ⟨hext.trans (recordUsage_extends hrec), .inr (recordUsage_error hrec)⟩
            · have hext₂ := hext.trans (recordUsage_extends hrec)
              rcases Exec.bind_eq_error.mp hrest with hupd | ⟨_, _, _, hpure⟩
              · obtain ⟨rfl, ⟨_, _, hnext⟩ | ⟨_, _, hnext⟩⟩ := updateState_spec hupd
                · cases hnext
                · cases hnext
                  exact ⟨hext₂, .inr rfl⟩
              · cases hpure

/-! ## The effects -/

/-- An executor call always returns, and is observed with the answer the runtime goes on with. -/
theorem awaitEffect_spec {ε : Type} (context : RunContext) (watch : Interruption W)
    (executor : EffectExecutor B W) (envelope : EffectEnvelope (Effect B)) (shared : Shared B W S) :
    ∃ answer shared',
      (awaitEffect context watch executor envelope : Run B W S ε _) shared =
        (.ok answer, shared') ∧
      shared.Extends shared' [.effectExecuted envelope answer] := by
  obtain ⟨answer, shared₁, hact, hext⟩ := actOn_spec (ε := ε) context
    (executor.execute envelope context) shared
  unfold awaitEffect
  rw [Exec.bind_apply, hact]
  dsimp only
  rw [Exec.get_bind_apply]
  exact ⟨_, _, rfl, hext.trans (.observed _ shared₁)⟩

theorem awaitEffect_extends {ε : Type} {context : RunContext} {watch : Interruption W}
    {executor : EffectExecutor B W} {envelope : EffectEnvelope (Effect B)} {shared shared' : Shared B W S}
    {answer : Except EffectError (Receipt B)}
    (h : (awaitEffect context watch executor envelope : Run B W S ε _) shared =
      (.ok answer, shared')) : shared.Extends shared' [.effectExecuted envelope answer] := by
  obtain ⟨_, _, hok, hext⟩ := awaitEffect_spec (ε := ε) context watch executor envelope shared
  rw [hok] at h
  cases h
  exact hext

end Parts

/-- One executor call, with the answer the runtime went on with. -/
abbrev EffectCall (B : Type) [AgentBusinessState B] :=
  EffectEnvelope (Effect B) × Except EffectError (Receipt B)

def EffectCall.event (call : EffectCall B) : Event B := .effectExecuted call.1 call.2

section Effects

variable (runtime : GraphRuntime B W S) (context : RunContext) (watch : Interruption W)
  (runStep : RunStep) (current : NodeId)

/-- The ways through the effect loop, with the executor calls made on the way. -/
inductive DispatchRun : Nat → List (Effect B) → EffectVars B → Shared B W S →
    List (EffectCall B) → Except GraphRunError (EffectVars B) → Shared B W S → Prop where
  | done (ordinal : Nat) (vars : EffectVars B) (shared : Shared B W S) :
      DispatchRun ordinal [] vars shared [] (.ok vars) shared
  | tooMany {ordinal : Nat} (effect : Effect B) (rest : List (Effect B)) (vars : EffectVars B)
      (shared : Shared B W S) (hord : 2 ^ 32 ≤ ordinal) :
      DispatchRun ordinal (effect :: rest) vars shared []
        (.error (.nodeFailed current ⟨.invariant, "节点返回的 Effect 数量超过 u32", none⟩)) shared
  | noExecutor {ordinal : Nat} (effect : Effect B) (rest : List (Effect B)) (vars : EffectVars B)
      (shared : Shared B W S) (hexr : runtime.effectExecutor = none) :
      DispatchRun ordinal (effect :: rest) vars shared []
        (.error (.missingEffectExecutor current)) shared
  | inactive {ordinal : Nat} (effect : Effect B) (rest : List (Effect B)) (vars : EffectVars B)
      {shared : Shared B W S} {interrupt : Interrupt}
      (hchk : watch.checked shared.world = some interrupt) :
      DispatchRun ordinal (effect :: rest) vars shared [] (.error interrupt.toError) shared
  | failed {ordinal : Nat} {effect : Effect B} (rest : List (Effect B)) (vars : EffectVars B)
      {shared shared₁ : Shared B W S} {executor : EffectExecutor B W} {error : EffectError}
      (hexr : runtime.effectExecutor = some executor)
      (hord : ordinal < 2 ^ 32) (hchk : watch.checked shared.world = none)
      (hcall : (awaitEffect context watch executor
        (effectEnvelope context runStep current ordinal effect) : Run B W S GraphRunError _)
          shared = (.ok (.error error), shared₁)) :
      DispatchRun ordinal (effect :: rest) vars shared
        [(effectEnvelope context runStep current ordinal effect, .error error)]
        (.error (.effectFailed current (effectEnvelope context runStep current ordinal effect).id
          vars.completedEffectIds error)) shared₁
  | rejected {ordinal : Nat} {effect : Effect B} (rest : List (Effect B)) {vars : EffectVars B}
      {shared shared₁ : Shared B W S} {executor : EffectExecutor B W} {value : Receipt B}
      {error : AgentStateError}
      (hexr : runtime.effectExecutor = some executor)
      (hord : ordinal < 2 ^ 32) (hchk : watch.checked shared.world = none)
      (hcall : (awaitEffect context watch executor
        (effectEnvelope context runStep current ordinal effect) : Run B W S GraphRunError _)
          shared = (.ok (.ok value), shared₁))
      (hupd : (vars.candidate.applyUpdates (receiptUpdates value)).1 = .error error) :
      DispatchRun ordinal (effect :: rest) vars shared
        [(effectEnvelope context runStep current ordinal effect, .ok value)]
        (.error (.postEffectStateUpdateFailed current
          (effectEnvelope context runStep current ordinal effect).id error)) shared₁
  | next {ordinal : Nat} {effect : Effect B} {rest : List (Effect B)} {vars : EffectVars B}
      {shared shared₁ shared' : Shared B W S} {executor : EffectExecutor B W} {value : Receipt B}
      {candidate : AgentState B} {calls : List (EffectCall B)}
      {result : Except GraphRunError (EffectVars B)}
      (hexr : runtime.effectExecutor = some executor)
      (hord : ordinal < 2 ^ 32) (hchk : watch.checked shared.world = none)
      (hcall : (awaitEffect context watch executor
        (effectEnvelope context runStep current ordinal effect) : Run B W S GraphRunError _)
          shared = (.ok (.ok value), shared₁))
      (hupd : vars.candidate.applyUpdates (receiptUpdates value) = (.ok (), candidate))
      (hrest : DispatchRun (ordinal + 1) rest
        (vars.push candidate (effectEnvelope context runStep current ordinal effect).id value)
        shared₁ calls result shared') :
      DispatchRun ordinal (effect :: rest) vars shared
        ((effectEnvelope context runStep current ordinal effect, .ok value) :: calls) result shared'

variable {runtime context watch runStep current}

/-- Every pass through the effect loop is one of the ways. -/
theorem dispatchEffects_run {ordinal : Nat} {effects : List (Effect B)} {vars : EffectVars B}
    {shared shared' : Shared B W S} {result : Except GraphRunError (EffectVars B)}
    (h : dispatchEffects runtime context watch runStep current ordinal effects vars shared =
      (result, shared')) :
    ∃ calls, DispatchRun runtime context watch runStep current ordinal effects vars shared calls
      result shared' := by
  induction effects generalizing ordinal vars shared with
  | nil =>
    cases h
    exact ⟨[], .done ordinal vars _⟩
  | cons effect rest ih =>
    rw [dispatchEffects] at h
    split at h
    · next hord =>
      cases h
      exact ⟨[], .tooMany effect rest vars _ hord⟩
    · next hord =>
      have hord : ordinal < 2 ^ 32 := Nat.lt_of_not_le hord
      cases hexr : runtime.effectExecutor with
      | none =>
        rw [hexr] at h
        cases h
        exact ⟨[], .noExecutor effect rest vars _ hexr⟩
      | some executor =>
        rw [hexr] at h
        rcases Exec.bind_eq h with ⟨⟨⟩, shared₁, hactv, h₁⟩ | ⟨error, hactv, rfl⟩
        · obtain ⟨hchk, rfl⟩ := checkActive_ok hactv
          rcases Exec.bind_eq h₁ with ⟨answer, shared₂, hcall, h₂⟩ | ⟨error, hcall, -⟩
          · cases answer with
            | error error =>
              cases h₂
              exact ⟨_, .failed rest vars hexr hord hchk hcall⟩
            | ok value =>
              rcases Exec.bind_eq h₂ with ⟨candidate, shared₃, hupd, h₃⟩ | ⟨error, hupd, rfl⟩
              · obtain ⟨rfl, ⟨next, happ, hnext⟩ | ⟨_, _, hnext⟩⟩ := updateState_spec hupd
                · cases hnext
                  obtain ⟨calls, hrest⟩ := ih h₃
                  exact ⟨_, .next hexr hord hchk hcall happ hrest⟩
                · cases hnext
              · obtain ⟨rfl, ⟨_, _, hnext⟩ | ⟨_, happ, hnext⟩⟩ := updateState_spec hupd
                · cases hnext
                · cases hnext
                  exact ⟨_, .rejected rest hexr hord hchk hcall happ⟩
          · obtain ⟨_, _, hok, -⟩ := awaitEffect_spec (ε := GraphRunError) context watch executor
              (effectEnvelope context runStep current ordinal effect) shared₁
            rw [hok] at hcall
            cases hcall
        · obtain ⟨interrupt, hchk, rfl, rfl⟩ := checkActive_error hactv
          exact ⟨[], .inactive effect rest vars hchk⟩

def callReceipts : List (EffectCall B) → List (EffectReceipt (Receipt B))
  | [] => []
  | (envelope, .ok value) :: rest => ⟨envelope.id, value⟩ :: callReceipts rest
  | (_, .error _) :: rest => callReceipts rest

/-- The envelopes of a node's effects, in dispatch order. -/
def effectEnvelopes (context : RunContext) (runStep : RunStep) (current : NodeId) :
    Nat → List (Effect B) → List (EffectEnvelope (Effect B))
  | _, [] => []
  | ordinal, effect :: rest =>
    effectEnvelope context runStep current ordinal effect ::
      effectEnvelopes context runStep current (ordinal + 1) rest

namespace DispatchRun

variable {ordinal : Nat} {effects : List (Effect B)} {vars : EffectVars B}
  {shared shared' : Shared B W S} {calls : List (EffectCall B)}
  {result : Except GraphRunError (EffectVars B)}

section

variable (h : DispatchRun runtime context watch runStep current ordinal effects vars shared calls
  result shared')
include h

theorem extends_calls :
    shared.Extends shared' (calls.map EffectCall.event) := by
  induction h with
  | done => exact .refl _
  | tooMany => exact .refl _
  | noExecutor => exact .refl _
  | inactive => exact .refl _
  | failed _ _ _ _ _ hcall => exact awaitEffect_extends hcall
  | rejected _ _ _ _ hcall => exact awaitEffect_extends hcall
  | next _ _ _ hcall _ _ ih => exact (awaitEffect_extends hcall).trans ih

/-- The calls are made in the order of the node's effects, without a gap or a repetition. -/
theorem envelopes_prefix :
    calls.map Prod.fst <+: effectEnvelopes context runStep current ordinal effects := by
  induction h with
  | done => exact List.prefix_refl _
  | tooMany => exact List.nil_prefix
  | noExecutor => exact List.nil_prefix
  | inactive => exact List.nil_prefix
  | failed => exact ⟨_, rfl⟩
  | rejected => exact ⟨_, rfl⟩
  | next _ _ _ _ _ _ ih => exact List.cons_prefix_cons.mpr ⟨rfl, ih⟩

/-- The calls of one pass stay within the ordinals of a `u32`. -/
theorem ordinals_fit (hord : ordinal ≤ 2 ^ 32) : ordinal + calls.length ≤ 2 ^ 32 := by
  induction h with
  | done => exact hord
  | tooMany => exact hord
  | noExecutor => exact hord
  | inactive => exact hord
  | failed _ _ _ hlt => exact hlt
  | rejected _ _ hlt => exact hlt
  | next _ hlt _ _ _ _ ih =>
    have hrest := ih hlt
    rw [List.length_cons]
    omega

end

/-- A pass that reaches the end has called the executor for every effect and holds exactly the
receipts of its calls. -/
theorem ok_receipts {vars' : EffectVars B}
    (h : DispatchRun runtime context watch runStep current ordinal effects vars shared calls
      (.ok vars') shared') :
    vars'.nodeReceipts = vars.nodeReceipts ++ callReceipts calls ∧
      calls.length = effects.length ∧ ∀ call ∈ calls, call.2.isOk = true := by
  generalize hres : (Except.ok vars' : Except GraphRunError (EffectVars B)) = result at h
  induction h with
  | done =>
    cases hres
    exact ⟨(List.append_nil _).symm, rfl, by simp⟩
  | tooMany => cases hres
  | noExecutor => cases hres
  | inactive => cases hres
  | failed => cases hres
  | rejected => cases hres
  | next _ _ _ _ _ _ ih =>
    obtain ⟨hrcps, hlen, hok⟩ := ih hres
    refine ⟨?_, by rw [List.length_cons, List.length_cons, hlen], ?_⟩
    · rw [hrcps, EffectVars.push, callReceipts, List.append_assoc, List.singleton_append]
    · intro call hcall
      rcases List.mem_cons.mp hcall with rfl | hcall
      · rfl
      · exact hok call hcall

theorem error_not_structural {error : GraphRunError}
    (h : DispatchRun runtime context watch runStep current ordinal effects vars shared calls
      (.error error) shared') : error.isStructural = false := by
  generalize hres : (Except.error error : Except GraphRunError (EffectVars B)) = result at h
  induction h with
  | done => cases hres
  | tooMany => cases hres; rfl
  | noExecutor => cases hres; rfl
  | @inactive _ _ _ _ _ interrupt _ =>
    cases hres
    cases interrupt <;> rfl
  | failed => cases hres; rfl
  | rejected => cases hres; rfl
  | next _ _ _ _ _ _ ih => exact ih hres

end DispatchRun

end Effects

/-! ## The choice of the next node -/

section Select

variable {current : NodeId} {state : AgentState B} {transition : TransitionRule B W}
  {shared shared' : Shared B W S}

/-- `next` is where `transition` leads from `current`, given what was observed of its router. -/
def TransitionRule.Leads (transition : TransitionRule B W) (current next : NodeId)
    (observed : List (Event B)) : Prop :=
  match transition with
  | .goto target => next = target ∧ observed = []
  | .branch _ targets => ∃ route, targets[route]? = some next ∧
      observed = [.routeSelected current (.ok route)]
  | .atEnd => False

variable {observed : List (Event B)}

theorem TransitionRule.Leads.mem_targets {next : NodeId}
    (h : transition.Leads current next observed) : next ∈ transition.targets := by
  cases transition with
  | goto target =>
    obtain ⟨rfl, _⟩ := h
    exact List.mem_singleton.mpr rfl
  | branch router targets =>
    obtain ⟨route, hrt, _⟩ := h
    exact List.mem_map.mpr
      ⟨(route, next), Std.TreeMap.mem_toList_iff_getElem?_eq_some.mpr hrt, rfl⟩
  | atEnd => cases h

/-- What a successful choice means: the next node is where the transition leads, and there is
none only at the end of a run whose state has an outcome. -/
def TransitionRule.Selects (transition : TransitionRule B W) (current : NodeId)
    (state : AgentState B) (observed : List (Event B)) : Option NodeId → Prop
  | some target => transition.Leads current target observed
  | none => transition.isEnd = true ∧ state.outcome.isSome = true ∧ observed = []

theorem TransitionRule.Leads.routing {next : NodeId} (h : transition.Leads current next observed) :
    ∀ event ∈ observed, event.isRouting = true := by
  cases transition with
  | goto target =>
    obtain ⟨_, rfl⟩ := h
    exact fun _ hmem => absurd hmem List.not_mem_nil
  | branch router targets =>
    obtain ⟨route, _, rfl⟩ := h
    simp [Event.isRouting]
  | atEnd => cases h

theorem TransitionRule.Selects.routing {next : Option NodeId}
    (h : transition.Selects current state observed next) :
    ∀ event ∈ observed, event.isRouting = true := by
  cases next with
  | some target => exact Leads.routing h
  | none =>
    obtain ⟨_, _, rfl⟩ := h
    exact fun _ hmem => absurd hmem List.not_mem_nil

theorem selectNext_ok {next : Option NodeId}
    (h : selectNext current state transition shared = (.ok next, shared')) :
    ∃ observed, shared.Extends shared' observed ∧
      transition.Selects current state observed next := by
  cases transition with
  | goto target =>
    cases h
    exact ⟨[], .refl _, rfl, rfl⟩
  | branch router targets =>
    rw [selectNext, Exec.get_bind_apply] at h
    dsimp only at h
    rw [Exec.modify_bind_apply, observe, Exec.modify_bind_apply] at h
    cases hans : (router.select state shared.world).1 with
    | error error =>
      rw [hans] at h
      cases h
    | ok route =>
      rw [hans] at h
      dsimp only at h
      cases htgt : targets[route]? with
      | none =>
        rw [htgt] at h
        cases h
      | some target =>
        rw [htgt] at h
        cases h
        exact ⟨[.routeSelected current (.ok route)], ⟨rfl, rfl, rfl, rfl⟩, route, htgt, rfl⟩
  | atEnd =>
    rw [selectNext] at h
    split at h
    · cases h
    · next hout =>
      cases h
      refine ⟨[], .refl _, rfl, ?_, rfl⟩
      rw [Option.isSome_iff_ne_none]
      simpa using hout

/-- The converse for a router that selects one of its routes. -/
theorem selectNext_branch {router : Router B W} {targets : BTreeMap RouteKey NodeId}
    {route : RouteKey} {world : W} {target : NodeId}
    (hsel : router.select state shared.world = (.ok route, world))
    (htgt : targets[route]? = some target) :
    selectNext current state (.branch router targets) shared =
      (.ok (some target), { shared with
        world := world, events := shared.events ++ [.routeSelected current (.ok route)] }) := by
  rw [selectNext, Exec.get_bind_apply, hsel]
  dsimp only
  rw [Exec.modify_bind_apply, observe, Exec.modify_bind_apply, htgt]
  rfl

/-- A failed choice: the router failed, it selected a route without a target, or the run is at
its end without an outcome. -/
theorem selectNext_error {error : GraphRunError}
    (h : selectNext current state transition shared = (.error error, shared')) :
    ∃ observed, shared.Extends shared' observed ∧
      (∀ event ∈ observed, event.isRouting = true) ∧
      ((∃ router targets nodeError, transition = .branch router targets ∧
          observed = [.routeSelected current (.error nodeError)] ∧
          error = .nodeFailed current nodeError) ∨
        (∃ router targets route, transition = .branch router targets ∧
          observed = [.routeSelected current (.ok route)] ∧ targets[route]? = none ∧
          error = .unknownRoute current route) ∨
        transition.isEnd = true ∧ observed = [] ∧ state.outcome = none ∧
          error = .missingOutcome) := by
  cases transition with
  | goto target => cases h
  | branch router targets =>
    rw [selectNext, Exec.get_bind_apply] at h
    dsimp only at h
    rw [Exec.modify_bind_apply, observe, Exec.modify_bind_apply] at h
    cases hans : (router.select state shared.world).1 with
    | error nodeError =>
      rw [hans] at h
      cases h
      exact ⟨[.routeSelected current (.error nodeError)], ⟨rfl, rfl, rfl, rfl⟩, by simp [Event.isRouting],
        .inl ⟨router, targets, nodeError, rfl, rfl, rfl⟩⟩
    | ok route =>
      rw [hans] at h
      dsimp only at h
      cases htgt : targets[route]? with
      | none =>
        rw [htgt] at h
        cases h
        exact ⟨[.routeSelected current (.ok route)], ⟨rfl, rfl, rfl, rfl⟩, by simp [Event.isRouting],
          .inr (.inl ⟨router, targets, route, rfl, rfl, htgt, rfl⟩)⟩
      | some target =>
        rw [htgt] at h
        cases h
  | atEnd =>
    rw [selectNext] at h
    split at h
    · next hout =>
      cases h
      exact ⟨[], .refl _, fun _ hmem => absurd hmem List.not_mem_nil,
        .inr (.inr ⟨rfl, rfl, by simpa using hout, rfl⟩)⟩
    · cases h

end Select

/-! ## The turn -/

/-- The local variables that a turn commits. -/
def Turn.vars : Turn B → LoopVars B
  | .goto vars => vars
  | .suspend _ _ vars => vars
  | .finish vars => vars

/-- How a turn ends depending on the next node: a run ends where there is none, and only a
checkpointing one is suspended. -/
def Turn.EndsAt (turn : Turn B) (runStep : RunStep) (checkpointing : Bool)
    (nextNode : Option NodeId) : Prop :=
  match turn with
  | .goto _ => nextNode.isSome = true
  | .suspend suspendStep _ _ =>
    suspendStep = runStep ∧ checkpointing = true ∧ nextNode.isSome = true
  | .finish _ => nextNode = none

section Whole

variable (runtime : GraphRuntime B W S) (context : RunContext) (watch : Interruption W)
  (checkpointing : Bool) (vars : LoopVars B)

/-- The ways through a turn, with the executor calls made on the way. -/
inductive TurnRun (shared : Shared B W S) :
    List (EffectCall B) → Except GraphRunError (Turn B) → Shared B W S → Prop where
  | notReady {shared' : Shared B W S} {error : GraphRunError}
      (hrdy : checkReady context watch runtime.graph.policy.maxSteps shared =
        (.error error, shared')) :
      TurnRun shared [] (.error error) shared'
  | unprepared {shared₁ shared' : Shared B W S} {runStep : RunStep} {error : GraphRunError}
      (hrdy : checkReady context watch runtime.graph.policy.maxSteps shared =
        (.ok runStep, shared₁))
      (hprep : prepareTurn runtime context watch checkpointing runStep vars shared₁ =
        (.error error, shared')) :
      TurnRun shared [] (.error error) shared'
  | undispatched {shared₁ shared₂ shared' : Shared B W S} {runStep : RunStep}
      {transition : TransitionRule B W} {answer : NodeAnswer B} {candidate : AgentState B}
      {calls : List (EffectCall B)} {error : GraphRunError}
      (hrdy : checkReady context watch runtime.graph.policy.maxSteps shared =
        (.ok runStep, shared₁))
      (hprep : prepareTurn runtime context watch checkpointing runStep vars shared₁ =
        (.ok (transition, answer, candidate), shared₂))
      (hdisp : DispatchRun runtime context watch runStep vars.current 0 answer.effects
        { candidate } shared₂ calls (.error error) shared') :
      TurnRun shared calls (.error error) shared'
  | misrouted {shared₁ shared₂ shared₃ shared' : Shared B W S} {runStep : RunStep}
      {transition : TransitionRule B W} {answer : NodeAnswer B} {candidate : AgentState B}
      {calls : List (EffectCall B)} {effectVars : EffectVars B} {error : GraphRunError}
      (hrdy : checkReady context watch runtime.graph.policy.maxSteps shared =
        (.ok runStep, shared₁))
      (hprep : prepareTurn runtime context watch checkpointing runStep vars shared₁ =
        (.ok (transition, answer, candidate), shared₂))
      (hdisp : DispatchRun runtime context watch runStep vars.current 0 answer.effects
        { candidate } shared₂ calls (.ok effectVars) shared₃)
      (hsel : selectNext vars.current effectVars.candidate transition shared₃ =
        (.error error, shared')) :
      TurnRun shared calls (.error error) shared'
  | done {shared₁ shared₂ shared₃ shared' : Shared B W S} {runStep : RunStep}
      {transition : TransitionRule B W} {answer : NodeAnswer B} {candidate : AgentState B}
      {calls : List (EffectCall B)} {effectVars : EffectVars B} {nextNode : Option NodeId}
      (hrdy : checkReady context watch runtime.graph.policy.maxSteps shared =
        (.ok runStep, shared₁))
      (hprep : prepareTurn runtime context watch checkpointing runStep vars shared₁ =
        (.ok (transition, answer, candidate), shared₂))
      (hdisp : DispatchRun runtime context watch runStep vars.current 0 answer.effects
        { candidate } shared₂ calls (.ok effectVars) shared₃)
      (hsel : selectNext vars.current effectVars.candidate transition shared₃ =
        (.ok nextNode, shared')) :
      TurnRun shared calls
        (.ok (concludeTurn runStep answer.suspendRequest (vars.commit effectVars) nextNode)) shared'

variable {runtime context watch checkpointing vars} {shared shared' : Shared B W S}

theorem executeNode_run {result : Except GraphRunError (Turn B)}
    (h : executeNode runtime context watch checkpointing vars shared = (result, shared')) :
    ∃ calls, TurnRun runtime context watch checkpointing vars shared calls result shared' := by
  unfold executeNode at h
  rcases Exec.bind_eq h with ⟨runStep, shared₁, hrdy, h₁⟩ | ⟨error, hrdy, rfl⟩
  · rcases Exec.bind_eq h₁ with ⟨⟨transition, answer, candidate⟩, shared₂, hprep, h₂⟩ |
      ⟨error, hprep, rfl⟩
    · rcases Exec.bind_eq h₂ with ⟨effectVars, shared₃, hdisp, h₃⟩ | ⟨error, hdisp, rfl⟩
      · obtain ⟨calls, hdisp⟩ := dispatchEffects_run hdisp
        rcases Exec.bind_eq h₃ with ⟨nextNode, shared₄, hsel, h₄⟩ | ⟨error, hsel, rfl⟩
        · cases h₄
          exact ⟨calls, .done hrdy hprep hdisp hsel⟩
        · exact ⟨calls, .misrouted hrdy hprep hdisp hsel⟩
      · obtain ⟨calls, hdisp⟩ := dispatchEffects_run hdisp
        exact ⟨calls, .undispatched hrdy hprep hdisp⟩
    · exact ⟨[], .unprepared hrdy hprep⟩
  · exact ⟨[], .notReady hrdy⟩

/-- The bookkeeping of a turn that began: the step it reserved, and all it observed, the node
call first and then the executor calls. -/
structure TurnBegun (runtime : GraphRuntime B W S) (context : RunContext) (current : NodeId)
    (shared : Shared B W S) (runStep : RunStep) (calls : List (EffectCall B))
    (observed : List (Event B)) (shared' : Shared B W S) : Prop where
  step : runStep.get = saturatingAdd shared.usage.steps 1
  limit : runStep.get ≤ stepLimit context.limits runtime.graph.policy.maxSteps
  steps : shared'.usage.steps = runStep.get
  store : shared'.store = shared.store
  uuids : shared'.uuids = shared.uuids
  events : shared'.events = shared.events ++
    .nodeExecuted runStep current :: (calls.map EffectCall.event ++ observed)
  envelopes : ∃ effects, calls.map Prod.fst <+: effectEnvelopes context runStep current 0 effects
  ordinals : calls.length ≤ 2 ^ 32
  routing : ∀ event ∈ observed, event.isRouting = true

/-- What a turn that does not fail commits to the local variables. -/
structure TurnDone (runtime : GraphRuntime B W S) (vars : LoopVars B)
    (calls : List (EffectCall B)) (observed : List (Event B)) (vars' : LoopVars B)
    (nextNode : Option NodeId) : Prop where
  current : vars'.current = nextNode.getD vars.current
  visited : vars'.visited = vars.visited ++ [vars.current]
  receipts : vars'.effectReceipts = vars.effectReceipts ++ callReceipts calls
  answers : ∀ call ∈ calls, call.2.isOk = true
  route : ∃ transition, runtime.graph.transition vars.current = some transition ∧
    transition.Selects vars.current vars'.state observed nextNode

/-- A turn reserves its step and then only appends to the log. -/
theorem TurnBegun.of_extends {shared₁ : Shared B W S} {runStep : RunStep}
    {calls : List (EffectCall B)} {observed : List (Event B)}
    (hrdy : checkReady context watch runtime.graph.policy.maxSteps shared = (.ok runStep, shared₁))
    (hext : shared₁.Extends shared'
      (.nodeExecuted runStep vars.current :: (calls.map EffectCall.event ++ observed)))
    (henv : ∃ effects,
      calls.map Prod.fst <+: effectEnvelopes context runStep vars.current 0 effects)
    (hordin : calls.length ≤ 2 ^ 32) (hrout : ∀ event ∈ observed, event.isRouting = true) :
    TurnBegun runtime context vars.current shared runStep calls observed shared' := by
  obtain ⟨_, hstep, hlim, rfl⟩ := checkReady_ok hrdy
  exact {
    step := hstep
    limit := hlim
    steps := hext.steps
    store := hext.store
    uuids := hext.uuids
    events := hext.events
    envelopes := henv
    ordinals := hordin
    routing := hrout }

theorem concludeTurn_vars (runStep : RunStep) (request : Option (SuspendRequest (SuspendData B)))
    (vars : LoopVars B) (nextNode : Option NodeId) :
    (concludeTurn runStep request vars nextNode).vars =
      { vars with current := nextNode.getD vars.current } := by
  cases nextNode with
  | none => rfl
  | some target => cases request <;> rfl

theorem executeNode_ok {turn : Turn B}
    (h : executeNode runtime context watch checkpointing vars shared = (.ok turn, shared')) :
    ∃ runStep calls observed nextNode,
      TurnBegun runtime context vars.current shared runStep calls observed shared' ∧
      TurnDone runtime vars calls observed turn.vars nextNode ∧
      turn.EndsAt runStep checkpointing nextNode := by
  obtain ⟨calls, hrun⟩ := executeNode_run h
  clear h
  cases hrun with
  | @done shared₁ shared₂ shared₃ _ runStep transition answer candidate _ effectVars nextNode
      hrdy hprep hdisp hsel =>
    obtain ⟨observed, hselec, hrt⟩ := selectNext_ok hsel
    obtain ⟨node, result, _, _, _, _, hall, htr, hend, _, _⟩ := prepareTurn_ok hprep
    obtain ⟨hrcps, _, hanss⟩ := hdisp.ok_receipts
    have hext := (prepareTurn_extends hprep).trans (hdisp.extends_calls.trans hselec)
    have hordin := hdisp.ordinals_fit (Nat.zero_le _)
    rw [Nat.zero_add] at hordin
    refine ⟨runStep, calls, observed, nextNode,
      TurnBegun.of_extends hrdy hext ⟨_, hdisp.envelopes_prefix⟩ hordin hrt.routing,
      ?_, ?_⟩
    · rw [concludeTurn_vars]
      exact {
        current := rfl
        visited := rfl
        receipts := by rw [LoopVars.commit, hrcps, List.nil_append]
        answers := hanss
        route := ⟨transition, htr, hrt⟩ }
    · cases nextNode with
      | none => exact rfl
      | some target =>
        cases hreq : answer.suspendRequest with
        | none => exact rfl
        | some request => exact ⟨rfl, hall (by rw [hreq]; rfl), rfl⟩

/-- What a turn did that failed: it did not begin, or its node does not exist, or it began and
its error says nothing against the graph unless the graph lacks a transition or the router
went outside its targets. -/
theorem executeNode_error {error : GraphRunError}
    (h : executeNode runtime context watch checkpointing vars shared = (.error error, shared')) :
    (shared' = shared ∧ error.isStructural = false) ∨
      (runtime.graph.node vars.current = none ∧ error = .missingNode vars.current ∧
        shared'.store = shared.store ∧ shared'.uuids = shared.uuids ∧
        shared'.events = shared.events) ∨
      ∃ runStep calls observed,
        TurnBegun runtime context vars.current shared runStep calls observed shared' ∧
        (error.isStructural = false ∨
          (runtime.graph.node vars.current ≠ none ∧
            runtime.graph.transition vars.current = none ∧
            error = .missingTransition vars.current) ∨
          ∃ router targets route,
            runtime.graph.transition vars.current = some (.branch router targets) ∧
            observed = [.routeSelected vars.current (.ok route)] ∧ targets[route]? = none ∧
            error = .unknownRoute vars.current route) := by
  obtain ⟨calls, hrun⟩ := executeNode_run h
  cases hrun with
  | notReady hrdy =>
    obtain ⟨rfl, ⟨interrupt, _, rfl⟩ | ⟨_, _, _, _, rfl⟩⟩ := checkReady_error hrdy
    · exact .inl ⟨rfl, by cases interrupt <;> rfl⟩
    · exact .inl ⟨rfl, rfl⟩
  | @unprepared shared₁ _ runStep _ hrdy hprep =>
    rcases prepareTurn_error hprep with ⟨rfl, hnode, rfl⟩ | ⟨hext, herr⟩
    · obtain ⟨_, _, _, rfl⟩ := checkReady_ok hrdy
      exact .inr (.inl ⟨hnode, rfl, rfl, rfl, rfl⟩)
    · refine .inr (.inr ⟨runStep, [], [], TurnBegun.of_extends hrdy hext ⟨[], List.nil_prefix⟩
        (Nat.zero_le _) (fun _ hmem => absurd hmem List.not_mem_nil), ?_⟩)
      rcases herr with ⟨rfl, hnode, htr⟩ | hstr
      · exact .inr (.inl ⟨hnode, htr, rfl⟩)
      · exact .inl hstr
  | @undispatched shared₁ shared₂ _ runStep _ _ _ _ _ hrdy hprep hdisp =>
    have hfit := hdisp.ordinals_fit (Nat.zero_le _)
    rw [Nat.zero_add] at hfit
    have hext := (prepareTurn_extends hprep).trans (hdisp.extends_calls.trans (.refl _))
    exact .inr (.inr ⟨runStep, calls, [], TurnBegun.of_extends hrdy hext
      ⟨_, hdisp.envelopes_prefix⟩ hfit (fun _ hmem => absurd hmem List.not_mem_nil),
      .inl hdisp.error_not_structural⟩)
  | @misrouted shared₁ shared₂ shared₃ _ runStep transition _ _ _ _ _ hrdy hprep hdisp
      hsel =>
    have hfit := hdisp.ordinals_fit (Nat.zero_le _)
    rw [Nat.zero_add] at hfit
    obtain ⟨_, _, _, _, _, _, _, htr, _⟩ := prepareTurn_ok hprep
    obtain ⟨observed, hselec, hrout, herr⟩ := selectNext_error hsel
    have hext := (prepareTurn_extends hprep).trans (hdisp.extends_calls.trans hselec)
    refine .inr (.inr ⟨runStep, calls, observed, TurnBegun.of_extends hrdy hext
      ⟨_, hdisp.envelopes_prefix⟩ hfit hrout, ?_⟩)
    rcases herr with ⟨_, _, _, _, _, rfl⟩ | ⟨router, targets, route, rfl, hobser, hrt, rfl⟩ |
      ⟨_, _, _, rfl⟩
    · exact .inl rfl
    · exact .inr (.inr ⟨router, targets, route, htr, hobser, hrt, rfl⟩)
    · exact .inl rfl

end Whole

end ServerRS.AgentCore

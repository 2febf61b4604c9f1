import ServerRS.AgentCore.Budget

/-!
# Budget accounting

The public calls on a budget handle and `reserve_step` as one type of calls on the
shared usage cell. A call holds the lock for its whole body, so an interleaving of
the calls of any number of clones is a sequence of calls.

Accounting is exact in natural numbers, with one exception: at `steps = u32::MAX`
the `saturating_add` of `reserve_step` returns the counter it was given, and the
comparison with the limit cannot see it when the limit is `u32::MAX` too.
-/

namespace ServerRS.AgentCore

open Lib

/-! ## Arithmetic of the checks -/

theorem checkedAdd_eq_some {a b c : UInt64} :
    checkedAdd a b = some c ↔ c.toNat = a.toNat + b.toNat := by
  unfold checkedAdd
  split
  · next h =>
    have hsum : (a + b).toNat = a.toNat + b.toNat := by
      rw [UInt64.toNat_add, Nat.mod_eq_of_lt h]
    rw [Option.some.injEq, ← hsum, UInt64.toNat_inj, eq_comm]
  · next h =>
    have hc := c.toNat_lt
    simp only [reduceCtorEq, false_iff]
    omega

theorem checkedAdd_eq_none {a b : UInt64} :
    checkedAdd a b = none ↔ 2 ^ 64 ≤ a.toNat + b.toNat := by
  unfold checkedAdd
  split <;> simp <;> omega

variable {current delta representationLimit : UInt64} {configuredLimit : Option UInt64}
  {error : GraphRunError} {limits : RunBudget} {graphMaxSteps : NonZeroU32}
  {usage usage' : UsageSnapshot} {calls : List BudgetCall}

/-- A check succeeds exactly when the sum in the natural numbers is within the limit, and its
result is that sum. -/
theorem checkOptionalLimit_ok {resource : BudgetResource} {attempted : UInt64} :
    checkOptionalLimit resource current delta configuredLimit representationLimit =
        .ok attempted ↔
      attempted.toNat = current.toNat + delta.toNat ∧
        current.toNat + delta.toNat ≤ (configuredLimit.getD representationLimit).toNat := by
  unfold checkOptionalLimit
  split
  · next hsum =>
    have hover := checkedAdd_eq_none.mp hsum
    have hlim := (configuredLimit.getD representationLimit).toNat_lt
    simp only [reduceCtorEq, false_iff, not_and]
    omega
  · next sum hsum =>
    have hexact := checkedAdd_eq_some.mp hsum
    dsimp only
    split
    · next hgt =>
      rw [gt_iff_lt, UInt64.lt_iff_toNat_lt] at hgt
      simp only [reduceCtorEq, false_iff, not_and]
      omega
    · next hle =>
      rw [gt_iff_lt, UInt64.lt_iff_toNat_lt] at hle
      rw [Except.ok.injEq, ← UInt64.toNat_inj, hexact]
      omega

theorem checkOptionalLimit_of_le {resource : BudgetResource}
    (h : current.toNat + delta.toNat ≤ (configuredLimit.getD representationLimit).toNat) :
    ∃ attempted,
      checkOptionalLimit resource current delta configuredLimit representationLimit =
        .ok attempted := by
  have hlim := (configuredLimit.getD representationLimit).toNat_lt
  have hsum : (UInt64.ofNat (current.toNat + delta.toNat)).toNat = current.toNat + delta.toNat :=
    UInt64.toNat_ofNat_of_lt' (by rw [UInt64.size]; omega)
  exact ⟨_, checkOptionalLimit_ok.mpr ⟨hsum, h⟩⟩

theorem checkOptionalLimit_error {resource : BudgetResource}
    (h : checkOptionalLimit resource current delta configuredLimit representationLimit =
      .error error) : ∃ limit attempted, error = .budgetExceeded resource limit attempted := by
  unfold checkOptionalLimit at h
  split at h
  · cases h
    exact ⟨_, _, rfl⟩
  · dsimp only at h
    split at h
    · cases h
      exact ⟨_, _, rfl⟩
    · cases h

theorem saturatingAdd_one_of_lt {steps : UInt32} (h : steps.toNat < 2 ^ 32 - 1) :
    (saturatingAdd steps 1).toNat = steps.toNat + 1 := by
  have hsum : steps.toNat + (1 : UInt32).toNat < 2 ^ 32 := by
    rw [show (1 : UInt32).toNat = 1 from rfl]
    omega
  unfold saturatingAdd
  rw [if_pos hsum, UInt32.toNat_add, Nat.mod_eq_of_lt hsum]
  rfl

theorem saturatingAdd_one_of_eq {steps : UInt32} (h : steps.toNat = 2 ^ 32 - 1) :
    (saturatingAdd steps 1).toNat = 2 ^ 32 - 1 := by
  unfold saturatingAdd
  rw [h, if_neg (by decide)]
  rfl

theorem toNat_saturatingAdd_one (steps : UInt32) :
    (saturatingAdd steps 1).toNat = min (steps.toNat + 1) (2 ^ 32 - 1) := by
  have hlt := steps.toNat_lt
  by_cases h : steps.toNat < 2 ^ 32 - 1
  · rw [saturatingAdd_one_of_lt h]
    omega
  · rw [saturatingAdd_one_of_eq (by omega)]
    omega

theorem toNat_stepLimit (limits : RunBudget) (graphMaxSteps : NonZeroU32) :
    (stepLimit limits graphMaxSteps).toNat =
      min limits.maxSteps.get.toNat graphMaxSteps.get.toNat := by
  unfold stepLimit
  rw [show min limits.maxSteps.get graphMaxSteps.get =
    if limits.maxSteps.get ≤ graphMaxSteps.get then limits.maxSteps.get else graphMaxSteps.get
    from rfl]
  split
  · next h =>
    rw [UInt32.le_iff_toNat_le] at h
    omega
  · next h =>
    rw [UInt32.le_iff_toNat_le] at h
    omega

theorem reserveStep_ok {step : RunStep} :
    reserveStep limits graphMaxSteps usage = (.ok step, usage') ↔
      step.get = saturatingAdd usage.steps 1 ∧ step.get ≤ stepLimit limits graphMaxSteps ∧
        usage' = { usage with steps := step.get } := by
  unfold reserveStep
  rw [Exec.get_bind_apply]
  dsimp only
  split
  · next hgt =>
    rw [Exec.throw_apply]
    simp only [Prod.mk.injEq, reduceCtorEq, false_and, false_iff, not_and]
    intro hstep hle
    rw [hstep] at hle
    exact absurd hgt (UInt32.not_lt.mpr hle)
  · next hle =>
    rw [Exec.modify_bind_apply, Exec.pure_apply]
    simp only [Prod.mk.injEq, Except.ok.injEq]
    constructor
    · rintro ⟨rfl, rfl⟩
      exact ⟨rfl, UInt32.not_lt.mp hle, rfl⟩
    · rintro ⟨hstep, -, rfl⟩
      obtain ⟨⟨value, hne⟩⟩ := step
      cases hstep
      exact ⟨rfl, rfl⟩

theorem reserveStep_error (h : reserveStep limits graphMaxSteps usage = (.error error, usage')) :
    stepLimit limits graphMaxSteps < saturatingAdd usage.steps 1 ∧ usage' = usage ∧
      ∃ limit attempted, error = .budgetExceeded .steps limit attempted := by
  unfold reserveStep at h
  rw [Exec.get_bind_apply] at h
  dsimp only at h
  split at h
  · next hgt =>
    cases h
    exact ⟨hgt, rfl, _, _, rfl⟩
  · cases h

/-! ## Calls -/

/-- A call on a clone of a budget handle. -/
inductive BudgetCall where
  | reserveLlmCall
  | reserveToolCalls (count : UInt32)
  | recordTokens (count : UInt64)
  | recordUsage (delta : UsageDelta)
  | reserveStep (graphMaxSteps : NonZeroU32)

/-- The counter of a resource. -/
def UsageSnapshot.used (usage : UsageSnapshot) : BudgetResource → Nat
  | .steps => usage.steps.toNat
  | .llmCalls => usage.llmCalls.toNat
  | .toolCalls => usage.toolCalls.toNat
  | .tokens => usage.tokens.toNat

/-- The configured limit of a resource, or the maximum of its integer width. -/
def RunBudget.ceiling (limits : RunBudget) : BudgetResource → Nat
  | .steps => limits.maxSteps.get.toNat
  | .llmCalls => (limits.maxLlmCalls.map UInt32.toNat).getD (2 ^ 32 - 1)
  | .toolCalls => (limits.maxToolCalls.map UInt32.toNat).getD (2 ^ 32 - 1)
  | .tokens => (limits.maxTokens.map UInt64.toNat).getD (2 ^ 64 - 1)

def UsageSnapshot.Within (usage : UsageSnapshot) (limits : RunBudget) : Prop :=
  ∀ resource, usage.used resource ≤ limits.ceiling resource

namespace BudgetCall

/-- The call itself. -/
def perform (limits : RunBudget) : BudgetCall → Exec UsageSnapshot GraphRunError Unit
  | .reserveLlmCall => AgentCore.reserveLlmCall limits
  | .reserveToolCalls count => AgentCore.reserveToolCalls limits count
  | .recordTokens count => AgentCore.recordTokens limits count
  | .recordUsage delta => AgentCore.recordUsage limits delta
  | .reserveStep graphMaxSteps => do
    let _ ← AgentCore.reserveStep limits graphMaxSteps
    pure ()

def resource : BudgetCall → BudgetResource
  | .reserveLlmCall => .llmCalls
  | .reserveToolCalls _ => .toolCalls
  | .recordTokens _ => .tokens
  | .recordUsage _ => .tokens
  | .reserveStep _ => .steps

def amount : BudgetCall → Nat
  | .reserveLlmCall => 1
  | .reserveToolCalls count => count.toNat
  | .recordTokens count => count.toNat
  | .recordUsage delta => delta.tokens.toNat
  | .reserveStep _ => 1

/-- The limit a call is checked against: for a step also the graph policy's. -/
def limit (limits : RunBudget) : BudgetCall → Nat
  | .reserveStep graphMaxSteps => min (limits.ceiling .steps) graphMaxSteps.get.toNat
  | call => limits.ceiling call.resource

/-- What a successful call adds to the counter of `resource`. -/
def amountOn (call : BudgetCall) (resource : BudgetResource) : Nat :=
  if resource = call.resource then call.amount else 0

/-- Whether the call returns `Ok` at `usage`. -/
def succeeds (limits : RunBudget) (call : BudgetCall) (usage : UsageSnapshot) : Bool :=
  (call.perform limits usage).1.isOk

/-- The one state and call that the accounting gets wrong: a step reserved at
`steps = u32::MAX` under a limit of `u32::MAX`. -/
def Unsaturated (limits : RunBudget) (usage : UsageSnapshot) : BudgetCall → Prop
  | .reserveStep graphMaxSteps =>
    usage.steps.toNat < 2 ^ 32 - 1 ∨ (stepLimit limits graphMaxSteps).toNat < 2 ^ 32 - 1
  | _ => True

/-- The call is accounted for exactly: it succeeds when the sum is within the limit and only
then, adds its amount when it succeeds, and leaves the usage alone when it fails. -/
structure ExactAt (limits : RunBudget) (usage : UsageSnapshot) (call : BudgetCall) : Prop where
  succeeds_iff : call.succeeds limits usage = true ↔
    usage.used call.resource + call.amount ≤ call.limit limits
  adds : call.succeeds limits usage = true → ∀ resource,
    (call.perform limits usage).2.used resource = usage.used resource + call.amountOn resource
  keeps : call.succeeds limits usage = false → (call.perform limits usage).2 = usage

theorem limit_le_ceiling (limits : RunBudget) (call : BudgetCall) :
    call.limit limits ≤ limits.ceiling call.resource := by
  cases call with
  | reserveStep graphMaxSteps => exact Nat.min_le_left _ _
  | _ => exact Nat.le_refl _

/-- The common part of the calls that go through `check_optional_limit`: when the sum is within
the limit the new counter is written, otherwise nothing is. -/
theorem charge_apply (resource : BudgetResource) (current : UsageSnapshot → UInt64)
    (delta : UInt64) (configuredLimit : Option UInt64) (representationLimit : UInt64)
    (write : UInt64 → UsageSnapshot → UsageSnapshot) (usage : UsageSnapshot) :
    let charge : Exec UsageSnapshot GraphRunError Unit := do
      let usage ← Exec.get
      let next ← Exec.ofExcept (checkOptionalLimit resource (current usage) delta configuredLimit
        representationLimit)
      Exec.modify (write next)
    if (current usage).toNat + delta.toNat ≤ (configuredLimit.getD representationLimit).toNat then
      ∃ next : UInt64, next.toNat = (current usage).toNat + delta.toNat ∧
        charge usage = (.ok (), write next usage)
    else ∃ error, charge usage = (.error error, usage) := by
  intro charge
  cases hchk : checkOptionalLimit resource (current usage) delta configuredLimit
    representationLimit with
  | ok next =>
    obtain ⟨hnext, hle⟩ := checkOptionalLimit_ok.mp hchk
    rw [if_pos hle]
    refine ⟨next, hnext, ?_⟩
    show (Exec.get >>= _ : Exec UsageSnapshot GraphRunError Unit) usage = _
    rw [Exec.get_bind_apply, hchk, Exec.ok_bind_apply, Exec.modify_apply]
  | error error =>
    have hgt : ¬ (current usage).toNat + delta.toNat ≤
        (configuredLimit.getD representationLimit).toNat := by
      intro hle
      obtain ⟨attempted, hok⟩ := checkOptionalLimit_of_le hle
      rw [hchk] at hok
      cases hok
    rw [if_neg hgt]
    refine ⟨error, ?_⟩
    show (Exec.get >>= _ : Exec UsageSnapshot GraphRunError Unit) usage = _
    rw [Exec.get_bind_apply, hchk, Exec.error_bind_apply]

/-- A call that is a `charge` on its resource is accounted for exactly. -/
theorem exactAt_of_charge {limits : RunBudget} {usage : UsageSnapshot} {call : BudgetCall}
    (current : UsageSnapshot → UInt64) (delta : UInt64) (configuredLimit : Option UInt64)
    (representationLimit : UInt64) (write : UInt64 → UsageSnapshot → UsageSnapshot)
    (hperf : call.perform limits = do
      let usage ← Exec.get
      let next ← Exec.ofExcept (checkOptionalLimit call.resource (current usage) delta
        configuredLimit representationLimit)
      Exec.modify (write next))
    (hcur : (current usage).toNat = usage.used call.resource) (hdelta : delta.toNat = call.amount)
    (hlim : (configuredLimit.getD representationLimit).toNat = call.limit limits)
    (hwrt : ∀ next : UInt64, next.toNat ≤ call.limit limits → ∀ resource,
      (write next usage).used resource =
        if resource = call.resource then next.toNat else usage.used resource) :
    call.ExactAt limits usage := by
  have hchar := charge_apply call.resource current delta configuredLimit representationLimit
    write usage
  rw [hcur, hdelta, hlim] at hchar
  dsimp only at hchar
  rw [← hperf] at hchar
  split at hchar
  · next hle =>
    obtain ⟨next, hnext, hok⟩ := hchar
    have hsuc : call.succeeds limits usage = true := by
      unfold succeeds
      rw [hok]
      rfl
    refine ⟨by simp [hsuc, hle], fun _ resource => ?_, fun hfails => ?_⟩
    · rw [hok, hwrt next (by omega) resource]
      unfold amountOn
      split
      · next hr => rw [hnext, hr]
      · rfl
    · rw [hsuc] at hfails
      cases hfails
  · next hgt =>
    obtain ⟨error, herr⟩ := hchar
    have hfails : call.succeeds limits usage = false := by
      unfold succeeds
      rw [herr]
      rfl
    refine ⟨by simp [hfails, hgt], fun hsuc => ?_, fun _ => ?_⟩
    · rw [hfails] at hsuc
      cases hsuc
    · rw [herr]

theorem toNat_getD_u32 (limit : Option UInt32) :
    ((limit.map UInt32.toUInt64).getD U32_MAX).toNat =
      (limit.map UInt32.toNat).getD (2 ^ 32 - 1) := by
  cases limit with
  | none => rfl
  | some value => simp

theorem toNat_getD_u64 (limit : Option UInt64) :
    (limit.getD U64_MAX).toNat = (limit.map UInt64.toNat).getD (2 ^ 64 - 1) := by
  cases limit with
  | none => rfl
  | some value => rfl

theorem getD_u32_le (limit : Option UInt32) :
    (limit.map UInt32.toNat).getD (2 ^ 32 - 1) ≤ 2 ^ 32 - 1 := by
  cases limit with
  | none => exact Nat.le_refl _
  | some value =>
    have h := value.toNat_lt
    simp only [Option.map_some, Option.getD_some]
    omega

/-- The cast of a checked sum to `u32` keeps its value. -/
theorem toUInt32_toNat {next : UInt64} (h : next.toNat ≤ 2 ^ 32 - 1) :
    next.toUInt32.toNat = next.toNat := by
  rw [UInt64.toNat_toUInt32, Nat.mod_eq_of_lt (by omega)]

theorem perform_reserveStep (limits : RunBudget) (graphMaxSteps : NonZeroU32)
    (usage : UsageSnapshot) :
    let attempted := saturatingAdd usage.steps 1
    if attempted.toNat ≤ (stepLimit limits graphMaxSteps).toNat then
      (reserveStep graphMaxSteps).perform limits usage = (.ok (), { usage with steps := attempted })
    else ∃ error, (reserveStep graphMaxSteps).perform limits usage = (.error error, usage) := by
  intro attempted
  cases hres : AgentCore.reserveStep limits graphMaxSteps usage with
  | mk result usage' =>
    cases result with
    | ok step =>
      obtain ⟨hstep, hle, rfl⟩ := reserveStep_ok.mp hres
      rw [hstep, UInt32.le_iff_toNat_le] at hle
      rw [if_pos hle, ← show step.get = attempted from hstep]
      show (AgentCore.reserveStep limits graphMaxSteps >>= _) usage = _
      rw [Exec.bind_apply, hres]
      rfl
    | error error =>
      obtain ⟨hgt, rfl, -⟩ := reserveStep_error hres
      rw [UInt32.lt_iff_toNat_lt] at hgt
      rw [if_neg (Nat.not_le.mpr hgt)]
      refine ⟨error, ?_⟩
      show (AgentCore.reserveStep limits graphMaxSteps >>= _) usage' = _
      rw [Exec.bind_apply, hres]

theorem exactAt_reserveStep_iff {limits : RunBudget} {usage : UsageSnapshot}
    {graphMaxSteps : NonZeroU32} :
    (reserveStep graphMaxSteps).ExactAt limits usage ↔
      (reserveStep graphMaxSteps).Unsaturated limits usage := by
  have hlt := usage.steps.toNat_lt
  have hattempted := toNat_saturatingAdd_one usage.steps
  have hperf := perform_reserveStep limits graphMaxSteps usage
  have hlim : (reserveStep graphMaxSteps).limit limits = (stepLimit limits graphMaxSteps).toNat :=
    (toNat_stepLimit limits graphMaxSteps).symm
  have hused : usage.used (reserveStep graphMaxSteps).resource + (reserveStep graphMaxSteps).amount =
      usage.steps.toNat + 1 := rfl
  dsimp only at hperf
  split at hperf
  · next hle =>
    have hsuc : (reserveStep graphMaxSteps).succeeds limits usage = true := by
      unfold succeeds
      rw [hperf]
      rfl
    constructor
    · intro hexact
      have hsum := hexact.succeeds_iff.mp hsuc
      rw [hused, hlim] at hsum
      have hmax := (stepLimit limits graphMaxSteps).toNat_lt
      exact .inl (by omega)
    · intro hunsat
      have hsteps : usage.steps.toNat < 2 ^ 32 - 1 := by
        rcases hunsat with h | h <;> omega
      refine ⟨?_, fun _ resource => ?_, fun hfails => ?_⟩
      · rw [hused, hlim]
        simp only [hsuc, true_iff]
        omega
      · rw [hperf]
        cases resource <;>
          simp [UsageSnapshot.used, amountOn, BudgetCall.resource, BudgetCall.amount]
        omega
      · rw [hsuc] at hfails
        cases hfails
  · next hgt =>
    obtain ⟨error, herr⟩ := hperf
    have hfails : (reserveStep graphMaxSteps).succeeds limits usage = false := by
      unfold succeeds
      rw [herr]
      rfl
    have hunsat : (reserveStep graphMaxSteps).Unsaturated limits usage := .inr (by omega)
    refine iff_of_true ⟨?_, fun hsuc => ?_, fun _ => ?_⟩ hunsat
    · rw [hused, hlim]
      simp only [hfails, Bool.false_eq_true, false_iff]
      omega
    · rw [hfails] at hsuc
      cases hsuc
    · rw [herr]

/-- A call is accounted for exactly unless it is the saturated step. -/
theorem exactAt_iff {limits : RunBudget} {usage : UsageSnapshot} {call : BudgetCall} :
    call.ExactAt limits usage ↔ call.Unsaturated limits usage := by
  cases call with
  | reserveLlmCall =>
    refine iff_of_true ?_ trivial
    refine exactAt_of_charge (fun usage => usage.llmCalls.toUInt64) 1
      (limits.maxLlmCalls.map UInt32.toUInt64) U32_MAX
      (fun next usage => { usage with llmCalls := next.toUInt32 }) rfl ?_ rfl
      (toNat_getD_u32 _) ?_
    · exact UInt32.toNat_toUInt64 _
    · intro next hnext resource
      have hcast := toUInt32_toNat (Nat.le_trans hnext (getD_u32_le limits.maxLlmCalls))
      cases resource <;> simp [UsageSnapshot.used, BudgetCall.resource, hcast]
  | reserveToolCalls count =>
    refine iff_of_true ?_ trivial
    refine exactAt_of_charge (fun usage => usage.toolCalls.toUInt64) count.toUInt64
      (limits.maxToolCalls.map UInt32.toUInt64) U32_MAX
      (fun next usage => { usage with toolCalls := next.toUInt32 }) rfl ?_ ?_
      (toNat_getD_u32 _) ?_
    · exact UInt32.toNat_toUInt64 _
    · exact UInt32.toNat_toUInt64 _
    · intro next hnext resource
      have hcast := toUInt32_toNat (Nat.le_trans hnext (getD_u32_le limits.maxToolCalls))
      cases resource <;> simp [UsageSnapshot.used, BudgetCall.resource, hcast]
  | recordTokens count =>
    refine iff_of_true ?_ trivial
    refine exactAt_of_charge (fun usage => usage.tokens) count limits.maxTokens U64_MAX
      (fun next usage => { usage with tokens := next }) rfl rfl rfl (toNat_getD_u64 _) ?_
    intro next _ resource
    cases resource <;> simp [UsageSnapshot.used, BudgetCall.resource]
  | recordUsage delta =>
    refine iff_of_true ?_ trivial
    refine exactAt_of_charge (fun usage => usage.tokens) delta.tokens limits.maxTokens U64_MAX
      (fun next usage => { usage with tokens := next }) rfl rfl rfl (toNat_getD_u64 _) ?_
    intro next _ resource
    cases resource <;> simp [UsageSnapshot.used, BudgetCall.resource]
  | reserveStep graphMaxSteps => exact exactAt_reserveStep_iff

/-- A call keeps the usage within the budget, the saturated step included. -/
theorem perform_within {limits : RunBudget} {usage : UsageSnapshot} (call : BudgetCall)
    (h : usage.Within limits) : ((call.perform limits usage).2).Within limits := by
  by_cases hunsat : call.Unsaturated limits usage
  · have hexact := exactAt_iff.mpr hunsat
    cases hsuc : call.succeeds limits usage with
    | true =>
      intro resource
      rw [hexact.adds hsuc]
      unfold amountOn
      split
      · next hr =>
        have hsum := hexact.succeeds_iff.mp hsuc
        have hle := call.limit_le_ceiling limits
        rw [hr]
        omega
      · exact h resource
    | false =>
      rw [hexact.keeps hsuc]
      exact h
  · cases call with
    | reserveStep graphMaxSteps =>
      have hperf := perform_reserveStep limits graphMaxSteps usage
      dsimp only at hperf
      split at hperf
      · next hle =>
        rw [hperf]
        intro resource
        cases resource with
        | steps =>
          rw [toNat_stepLimit] at hle
          exact Nat.le_trans hle (Nat.min_le_left _ _)
        | llmCalls => exact h .llmCalls
        | toolCalls => exact h .toolCalls
        | tokens => exact h .tokens
      · obtain ⟨error, herr⟩ := hperf
        rw [herr]
        exact h
    | _ => exact absurd trivial hunsat

end BudgetCall

/-! ## Interleavings -/

def usageAfter (limits : RunBudget) : List BudgetCall → UsageSnapshot → UsageSnapshot
  | [], usage => usage
  | call :: rest, usage => usageAfter limits rest (call.perform limits usage).2

/-- What the successful calls of a sequence asked for in total. -/
def spent (limits : RunBudget) : List BudgetCall → UsageSnapshot → BudgetResource → Nat
  | [], _, _ => 0
  | call :: rest, usage, resource =>
    (if call.succeeds limits usage then call.amountOn resource else 0) +
      spent limits rest (call.perform limits usage).2 resource

/-- The usage after the calls `before` and one more `call` is what it should be, and so is the
answer of `call`. -/
structure Accounted (limits : RunBudget) (start : UsageSnapshot) (before : List BudgetCall)
    (call : BudgetCall) : Prop where
  exact : call.ExactAt limits (usageAfter limits before start)
  sums : ∀ resource, (usageAfter limits (before ++ [call]) start).used resource =
    start.used resource + spent limits (before ++ [call]) start resource
  within : (usageAfter limits (before ++ [call]) start).Within limits

theorem usageAfter_within (calls : List BudgetCall) (h : usage.Within limits) :
    (usageAfter limits calls usage).Within limits := by
  induction calls generalizing usage with
  | nil => exact h
  | cons call rest ih => exact ih (call.perform_within h)

/-- The calls of a run, each met by the usage its predecessors left, are all unsaturated. -/
def AllUnsaturated (limits : RunBudget) : List BudgetCall → UsageSnapshot → Prop
  | [], _ => True
  | call :: rest, usage =>
    call.Unsaturated limits usage ∧ AllUnsaturated limits rest (call.perform limits usage).2

theorem used_usageAfter (h : AllUnsaturated limits calls usage) (resource : BudgetResource) :
    (usageAfter limits calls usage).used resource =
      usage.used resource + spent limits calls usage resource := by
  induction calls generalizing usage with
  | nil => rfl
  | cons call rest ih =>
    obtain ⟨hcall, hrest⟩ := h
    have hexact := BudgetCall.exactAt_iff.mpr hcall
    have hstep : (call.perform limits usage).2.used resource = usage.used resource +
        if call.succeeds limits usage then call.amountOn resource else 0 := by
      split
      · next hsuc => exact hexact.adds hsuc resource
      · next hfails => rw [hexact.keeps (by simpa using hfails), Nat.add_zero]
    rw [usageAfter, ih hrest, hstep, spent, Nat.add_assoc]

theorem allUnsaturated_iff :
    AllUnsaturated limits calls usage ↔
      ∀ before call after, calls = before ++ call :: after →
        call.Unsaturated limits (usageAfter limits before usage) := by
  induction calls generalizing usage with
  | nil => simp [AllUnsaturated]
  | cons first rest ih =>
    rw [AllUnsaturated, ih]
    constructor
    · rintro ⟨hfst, hrest⟩ before call after hspl
      cases before with
      | nil =>
        cases hspl
        exact hfst
      | cons head before =>
        cases hspl
        exact hrest before call after rfl
    · intro hall
      exact ⟨hall [] first rest rfl, fun before call after hspl =>
        hall (first :: before) call after (by rw [hspl]; rfl)⟩

/-- The accounting of a run is exact after each of its calls if and only if no call of it is
the saturated step. -/
theorem budget_accounting_exact {limits : RunBudget} {start : UsageSnapshot}
    (hstart : start.Within limits) (calls : List BudgetCall) :
    (∀ before call after, calls = before ++ call :: after →
        Accounted limits start before call) ↔
      ∀ before call after, calls = before ++ call :: after →
        call.Unsaturated limits (usageAfter limits before start) := by
  constructor
  · intro hall before call after hspl
    exact BudgetCall.exactAt_iff.mp (hall before call after hspl).exact
  · intro hall before call after hspl
    have hpre : AllUnsaturated limits (before ++ [call]) start := by
      refine allUnsaturated_iff.mpr fun before' call' after' hspl' => ?_
      refine hall before' call' (after' ++ after) ?_
      rw [hspl, List.append_cons, hspl', List.append_assoc, List.cons_append]
    exact {
      exact := BudgetCall.exactAt_iff.mpr (hall before call after hspl)
      sums := used_usageAfter hpre
      within := usageAfter_within _ hstart }

/-- A budget and a snapshot at which the step counter has nowhere to go. -/
def maximalBudget : RunBudget where
  maxSteps := ⟨UInt32.ofNat (2 ^ 32 - 1), by decide⟩
  maxDuration := 0

def exhaustedSteps : UsageSnapshot where
  steps := UInt32.ofNat (2 ^ 32 - 1)

theorem budget_accounting_exact_at_start :
    (∀ before call after,
        [BudgetCall.reserveStep .MIN, .reserveToolCalls 2] = before ++ call :: after →
          Accounted maximalBudget {} before call) ↔
      ∀ before call after,
        [BudgetCall.reserveStep .MIN, .reserveToolCalls 2] = before ++ call :: after →
          call.Unsaturated maximalBudget (usageAfter maximalBudget before {}) :=
  budget_accounting_exact (fun resource => by cases resource <;> decide) _

/-- The step at `u32::MAX` is granted although the counter cannot count it. -/
theorem saturated_step_not_accounted :
    exhaustedSteps.Within maximalBudget ∧
      (BudgetCall.reserveStep maximalBudget.maxSteps).perform maximalBudget exhaustedSteps =
        (.ok (), exhaustedSteps) ∧
      ¬ Accounted maximalBudget exhaustedSteps [] (.reserveStep maximalBudget.maxSteps) := by
  refine ⟨fun resource => by cases resource <;> decide, rfl, fun h => ?_⟩
  have hunsat := BudgetCall.exactAt_iff.mp h.exact
  rcases hunsat with hlt | hlt <;> exact absurd hlt (by decide)

end ServerRS.AgentCore

import ServerRS.AgentCore.EffectDispatch

/-!
# Which effects an error names

A run that fails in the middle of a node's effects has already changed the world
outside. `EffectFailed` names the effects that were done by then, and so does the
checkpoint in `SaveFailed`. The other errors do not: `Forgets` lists the ways through a
turn on which a completed effect is lost from the report, and
`completed_effects_reported` says that there are no others.
-/

namespace ServerRS.AgentCore

open Lib

variable {B : Type} [AgentBusinessState B] {W S : Type}

/-! ## What an error names -/

/-- The effects whose call returned `Ok`, in dispatch order. -/
def completedEffects (calls : List (EffectCall B)) : List EffectId :=
  (callReceipts calls).map (·.effectId)

/-- The effects that a `GraphRunError` names as done. -/
def GraphRunError.completedEffectIds : GraphRunError → List EffectId
  | .effectFailed _ _ completedEffectIds _ => completedEffectIds
  | .postEffectStateUpdateFailed _ effectId _ => [effectId]
  | _ => []

/-- The effects that a `CheckpointRunError` names as done; the checkpoint that could not be saved
holds the receipts of the whole run. -/
def CheckpointRunError.completedEffectIds : CheckpointRunError B → List EffectId
  | .graph error => error.completedEffectIds
  | .missingStore => []
  | .saveFailed _ checkpoint _ => checkpoint.effectReceipts.map (·.effectId)

/-- An error is complete if the effects of its turn end the list it names. -/
def Reports (error : CheckpointRunError B) (calls : List (EffectCall B)) : Prop :=
  completedEffects calls <:+ error.completedEffectIds

/-! ## The ways to forget an effect -/

/-- `transition` leads nowhere: its router fails or selects a route without a target, or the run
is at its end without an outcome. -/
def TransitionRule.Stuck (transition : TransitionRule B W) (state : AgentState B) (world : W) :
    Prop :=
  match transition with
  | .goto _ => False
  | .branch router targets =>
    match (router.select state world).1 with
    | .error _ => True
    | .ok route => targets[route]? = none
  | .atEnd => state.outcome = none

omit [AgentBusinessState B] in
theorem TransitionRule.stuck_branch {router : Router B W} {targets : BTreeMap RouteKey NodeId}
    {state : AgentState B} {world : W} :
    (TransitionRule.branch router targets).Stuck state world ↔
      match (router.select state world).1 with
      | .error _ => True
      | .ok route => targets[route]? = none := Iff.rfl

section Forgets

variable (runtime : GraphRuntime B W S) (context : RunContext) (watch : Interruption W)
  (runStep : RunStep) (current : NodeId) (transition : TransitionRule B W)

/-- The ways through the rest of a turn that fail without naming the effects done before. The
first remaining effect has the position `ordinal`, so that at `0` there is nothing to forget. -/
inductive Forgets : Nat → List (Effect B) → AgentState B → Shared B W S → Prop where
  | tooMany {ordinal : Nat} (effect : Effect B) (rest : List (Effect B))
      (candidate : AgentState B) (shared : Shared B W S) (hdone : 0 < ordinal)
      (hord : 2 ^ 32 ≤ ordinal) : Forgets ordinal (effect :: rest) candidate shared
  | inactive {ordinal : Nat} (effect : Effect B) (rest : List (Effect B))
      (candidate : AgentState B) {shared : Shared B W S} {interrupt : Interrupt}
      (hdone : 0 < ordinal) (hchk : watch.checked shared.world = some interrupt) :
      Forgets ordinal (effect :: rest) candidate shared
  | rejected {ordinal : Nat} {effect : Effect B} (rest : List (Effect B))
      {candidate : AgentState B} {shared shared₁ : Shared B W S} {executor : EffectExecutor B W}
      {value : Receipt B} {error : AgentStateError} (hdone : 0 < ordinal)
      (hexr : runtime.effectExecutor = some executor)
      (hcall : (awaitEffect context watch executor
        (effectEnvelope context runStep current ordinal effect) : Run B W S GraphRunError _)
          shared = (.ok (.ok value), shared₁))
      (hupd : (candidate.applyUpdates (receiptUpdates value)).1 = .error error) :
      Forgets ordinal (effect :: rest) candidate shared
  | stuck {ordinal : Nat} {candidate : AgentState B} {shared : Shared B W S} (hdone : 0 < ordinal)
      (hstuck : transition.Stuck candidate shared.world) : Forgets ordinal [] candidate shared
  | next {ordinal : Nat} {effect : Effect B} {rest : List (Effect B)}
      {candidate next : AgentState B} {shared shared₁ : Shared B W S}
      {executor : EffectExecutor B W} {value : Receipt B} (hord : ordinal < 2 ^ 32)
      (hchk : watch.checked shared.world = none)
      (hexr : runtime.effectExecutor = some executor)
      (hcall : (awaitEffect context watch executor
        (effectEnvelope context runStep current ordinal effect) : Run B W S GraphRunError _)
          shared = (.ok (.ok value), shared₁))
      (hupd : candidate.applyUpdates (receiptUpdates value) = (.ok (), next))
      (hrest : Forgets (ordinal + 1) rest next shared₁) :
      Forgets ordinal (effect :: rest) candidate shared

variable {runtime context watch runStep current transition}
variable {ordinal : Nat} {effect : Effect B} {effects rest : List (Effect B)}
  {candidate : AgentState B} {shared shared₁ shared' : Shared B W S}

theorem forgets_nil : Forgets runtime context watch runStep current transition ordinal [] candidate
    shared ↔ 0 < ordinal ∧ transition.Stuck candidate shared.world := by
  constructor
  · intro h
    cases h with
    | stuck hdone hstuck => exact ⟨hdone, hstuck⟩
  · rintro ⟨hdone, hstuck⟩
    exact .stuck hdone hstuck

variable {executor : EffectExecutor B W}

/-- An executor call that was made decides how the turn can still forget. -/
theorem forgets_cons {answer : Except EffectError (Receipt B)} (hord : ordinal < 2 ^ 32)
    (hchk : watch.checked shared.world = none) (hexr : runtime.effectExecutor = some executor)
    (hcall : (awaitEffect context watch executor
      (effectEnvelope context runStep current ordinal effect) : Run B W S GraphRunError _)
        shared = (.ok answer, shared₁)) :
    Forgets runtime context watch runStep current transition ordinal (effect :: rest) candidate
        shared ↔
      ∃ value, answer = .ok value ∧
        ((∃ error, (candidate.applyUpdates (receiptUpdates value)).1 = .error error) ∧ 0 < ordinal ∨
          ∃ next, candidate.applyUpdates (receiptUpdates value) = (.ok (), next) ∧
            Forgets runtime context watch runStep current transition (ordinal + 1) rest next
              shared₁) := by
  constructor
  · intro h
    cases h with
    | tooMany _ _ _ _ _ hmany => exact absurd hord (Nat.not_lt.mpr hmany)
    | inactive _ _ _ _ hint =>
      rw [hchk] at hint
      cases hint
    | rejected _ hdone hexr' hcall' hupd =>
      rw [hexr] at hexr'
      cases hexr'
      rw [hcall] at hcall'
      cases hcall'
      exact ⟨_, rfl, .inl ⟨⟨_, hupd⟩, hdone⟩⟩
    | next _ _ hexr' hcall' hupd hrest =>
      rw [hexr] at hexr'
      cases hexr'
      rw [hcall] at hcall'
      cases hcall'
      exact ⟨_, rfl, .inr ⟨_, hupd, hrest⟩⟩
  · rintro ⟨value, rfl, ⟨⟨error, hupd⟩, hdone⟩ | ⟨next, hupd, hrest⟩⟩
    · exact .rejected rest hdone hexr hcall hupd
    · exact .next hord hchk hexr hcall hupd hrest

/-- After an accepted receipt the turn forgets what the rest of it forgets. -/
theorem forgets_next {value : Receipt B} {next : AgentState B} (hord : ordinal < 2 ^ 32)
    (hchk : watch.checked shared.world = none) (hexr : runtime.effectExecutor = some executor)
    (hcall : (awaitEffect context watch executor
      (effectEnvelope context runStep current ordinal effect) : Run B W S GraphRunError _)
        shared = (.ok (.ok value), shared₁))
    (hupd : candidate.applyUpdates (receiptUpdates value) = (.ok (), next)) :
    Forgets runtime context watch runStep current transition ordinal (effect :: rest) candidate
        shared ↔
      Forgets runtime context watch runStep current transition (ordinal + 1) rest next shared₁ := by
  rw [forgets_cons hord hchk hexr hcall]
  constructor
  · rintro ⟨_, hvl, ⟨⟨_, hrej⟩, _⟩ | ⟨_, hacpt, hrest⟩⟩
    · cases hvl
      rw [hupd] at hrej
      cases hrej
    · cases hvl
      rw [hupd] at hacpt
      cases hacpt
      exact hrest
  · intro hrest
    exact ⟨value, rfl, .inr ⟨next, hupd, hrest⟩⟩

end Forgets

/-! ## The effect loop -/

section Dispatch

variable {runtime : GraphRuntime B W S} {context : RunContext} {watch : Interruption W}
  {runStep : RunStep} {current : NodeId} {transition : TransitionRule B W} {ordinal : Nat}
  {effects : List (Effect B)} {vars : EffectVars B} {shared shared' : Shared B W S}
  {calls : List (EffectCall B)}

theorem completedEffects_ok (envelope : EffectEnvelope (Effect B)) (value : Receipt B)
    (calls : List (EffectCall B)) :
    completedEffects ((envelope, .ok value) :: calls) = envelope.id :: completedEffects calls := rfl

theorem not_suffix_nil {α : Type} {xs : List α} : ¬ xs <:+ [] ↔ 0 < xs.length := by
  rw [List.suffix_nil, List.length_pos_iff]

variable {result : Except GraphRunError (EffectVars B)}

/-- A pass through the effects that fails names all effects done so far, unless it is one of the
ways to forget them. -/
theorem DispatchRun.error_forgets {error : GraphRunError}
    (h : DispatchRun runtime context watch runStep current ordinal effects vars shared calls
      result shared') (hres : result = .error error)
    (hcnt : vars.completedEffectIds.length = ordinal)
    (hexr : 0 < ordinal → runtime.effectExecutor ≠ none) :
    Forgets runtime context watch runStep current transition ordinal effects vars.candidate shared ↔
      ¬ vars.completedEffectIds ++ completedEffects calls <:+ error.completedEffectIds := by
  induction h with
  | done => cases hres
  | tooMany effect rest vars shared hord =>
    cases hres
    have hdone : 0 < _ := Nat.lt_of_lt_of_le (by decide) hord
    refine iff_of_true (.tooMany effect rest _ shared hdone hord) (not_suffix_nil.mpr ?_)
    rw [List.length_append, hcnt]
    exact hdone
  | noExecutor effect rest vars shared hnone =>
    cases hres
    have hzero : vars.completedEffectIds = [] := by
      refine List.length_eq_zero_iff.mp (Nat.eq_zero_of_not_pos fun hpos => ?_)
      exact hexr (hcnt ▸ hpos) hnone
    refine iff_of_false (fun hforg => ?_) ?_
    · rw [hzero] at hcnt
      subst hcnt
      cases hforg with
      | tooMany _ _ _ _ hdone => exact absurd hdone (Nat.lt_irrefl 0)
      | inactive _ _ _ hdone => exact absurd hdone (Nat.lt_irrefl 0)
      | rejected _ hdone => exact absurd hdone (Nat.lt_irrefl 0)
      | next _ _ hsome =>
        rw [hnone] at hsome
        cases hsome
    · rw [hzero]
      exact not_not.mpr List.nil_suffix
  | @inactive ordinal effect rest vars shared interrupt hchk =>
    cases hres
    have hnames : interrupt.toError.completedEffectIds = [] := by cases interrupt <;> rfl
    rw [hnames, not_suffix_nil, List.length_append, hcnt]
    constructor
    · intro hforg
      cases hforg with
      | tooMany _ _ _ _ hdone => exact hdone
      | inactive _ _ _ hdone => exact hdone
      | rejected _ hdone => exact hdone
      | next _ hnone =>
        rw [hchk] at hnone
        cases hnone
    · exact fun hdone => .inactive effect rest _ hdone hchk
  | failed rest vars hsome hord hchk hcall =>
    cases hres
    rw [forgets_cons hord hchk hsome hcall]
    refine iff_of_false (fun ⟨_, hok, _⟩ => by cases hok) (not_not.mpr ?_)
    rw [completedEffects, callReceipts, callReceipts, List.map_nil, List.append_nil]
    exact List.suffix_refl _
  | @rejected ordinal effect rest vars _ _ _ value error hsome hord hchk hcall hupd =>
    cases hres
    rw [forgets_cons hord hchk hsome hcall]
    constructor
    · rintro ⟨_, hvl, ⟨_, hdone⟩ | ⟨_, hacpt, _⟩⟩ hsuf
      · have hle := hsuf.length_le
        rw [completedEffects_ok, List.length_append, GraphRunError.completedEffectIds,
          List.length_cons, List.length_singleton] at hle
        omega
      · cases hvl
        rw [hacpt] at hupd
        cases hupd
    · intro hsuf
      refine ⟨value, rfl, .inl ⟨⟨error, hupd⟩, Nat.pos_of_ne_zero fun hzero => hsuf ?_⟩⟩
      rw [List.length_eq_zero_iff.mp (hcnt.trans hzero)]
      exact List.suffix_refl _
  | next hsome hord hchk hcall hupd _ ih =>
    rw [forgets_next hord hchk hsome hcall hupd, completedEffects_ok,
      ← List.singleton_append, ← List.append_assoc]
    refine ih hres ?_ fun _ hnone => ?_
    · rw [EffectVars.push, List.length_append, hcnt, List.length_singleton]
    · rw [hsome] at hnone
      cases hnone

/-- A pass through the effects that reaches the end can only forget them by the transition. -/
theorem DispatchRun.ok_forgets {vars' : EffectVars B}
    (h : DispatchRun runtime context watch runStep current ordinal effects vars shared calls
      result shared') (hres : result = .ok vars') :
    Forgets runtime context watch runStep current transition ordinal effects vars.candidate shared ↔
      0 < ordinal + effects.length ∧ transition.Stuck vars'.candidate shared'.world := by
  induction h with
  | done =>
    cases hres
    exact forgets_nil
  | tooMany => cases hres
  | noExecutor => cases hres
  | inactive => cases hres
  | failed => cases hres
  | rejected => cases hres
  | @next ordinal effect rest _ _ _ _ _ _ _ _ _ hsome hord hchk hcall hupd _ ih =>
    have hlen : ordinal + (effect :: rest).length = ordinal + 1 + rest.length := by
      rw [List.length_cons]
      omega
    rw [forgets_next hord hchk hsome hcall hupd, hlen]
    exact ih hres

end Dispatch

/-! ## Turns and loops -/

section Turns

variable {segment : Segment B W S} {watch : Interruption W} {vars : LoopVars B}
  {shared shared' : Shared B W S}

/-- The condition on a turn: it gets to its effects, and then goes one of the ways that forget
them. -/
def TurnForgets (segment : Segment B W S) (watch : Interruption W) (vars : LoopVars B)
    (shared : Shared B W S) : Prop :=
  ∃ runStep transition answer candidate shared₁ shared₂,
    checkReady segment.context watch segment.runtime.graph.policy.maxSteps shared =
      (.ok runStep, shared₁) ∧
    prepareTurn segment.runtime segment.context watch segment.checkpointing runStep vars shared₁ =
      (.ok (transition, answer, candidate), shared₂) ∧
    Forgets segment.runtime segment.context watch runStep vars.current transition 0 answer.effects
      candidate shared₂

variable {runStep : RunStep} {transition : TransitionRule B W} {shared₁ : Shared B W S}
  {calls : List (EffectCall B)} {error : CheckpointRunError B}

theorem turnForgets_iff {answer : NodeAnswer B} {candidate : AgentState B} {shared₂ : Shared B W S}
    (hrdy : checkReady segment.context watch segment.runtime.graph.policy.maxSteps shared =
      (.ok runStep, shared₁))
    (hprep : prepareTurn segment.runtime segment.context watch segment.checkpointing runStep vars
      shared₁ = (.ok (transition, answer, candidate), shared₂)) :
    TurnForgets segment watch vars shared ↔
      Forgets segment.runtime segment.context watch runStep vars.current transition 0
        answer.effects candidate shared₂ := by
  constructor
  · rintro ⟨_, _, _, _, _, _, hrdy', hprep', hforg⟩
    rw [hrdy] at hrdy'
    cases hrdy'
    rw [hprep] at hprep'
    cases hprep'
    exact hforg
  · intro hforg
    exact ⟨_, _, _, _, _, _, hrdy, hprep, hforg⟩

/-- A router that answers decides whether its transition is stuck. -/
theorem selectNext_stuck {current : NodeId} {state : AgentState B}
    {result : Except GraphRunError (Option NodeId)}
    (h : selectNext current state transition shared = (result, shared')) :
    match result with
    | .ok _ => ¬ transition.Stuck state shared.world
    | .error error => transition.Stuck state shared.world ∧ error.completedEffectIds = [] := by
  cases transition with
  | goto target =>
    cases h
    exact id
  | branch router targets =>
    rw [selectNext, Exec.get_bind_apply] at h
    dsimp only at h
    rw [Exec.modify_bind_apply, observe, Exec.modify_bind_apply] at h
    rw [TransitionRule.stuck_branch]
    cases hans : (router.select state shared.world).1 with
    | error nodeError =>
      rw [hans] at h
      cases h
      exact ⟨trivial, rfl⟩
    | ok route =>
      rw [hans] at h
      dsimp only at h
      cases htgt : targets[route]? with
      | none =>
        rw [htgt] at h
        cases h
        exact ⟨htgt, rfl⟩
      | some target =>
        rw [htgt] at h
        cases h
        exact fun hstuck => Option.some_ne_none target (htgt.symm.trans hstuck)
  | atEnd =>
    rw [selectNext] at h
    split at h
    · next hout =>
      cases h
      exact ⟨Option.isNone_iff_eq_none.mp hout, rfl⟩
    · next hout =>
      cases h
      exact fun hstuck => hout (Option.isNone_iff_eq_none.mpr hstuck)

theorem completedEffects_length (h : ∀ call ∈ calls, call.2.isOk = true) :
    (completedEffects calls).length = calls.length := by
  induction calls with
  | nil => rfl
  | cons call rest ih =>
    obtain ⟨envelope, answer⟩ := call
    cases answer with
    | ok value =>
      rw [completedEffects_ok, List.length_cons, List.length_cons,
        ih fun other hoth => h other (List.mem_cons_of_mem _ hoth)]
    | error error => cases h (envelope, .error error) List.mem_cons_self

/-- A turn that fails reports its completed effects unless it forgets them. -/
theorem TurnRun.reports_iff {error : GraphRunError}
    (h : TurnRun segment.runtime segment.context watch segment.checkpointing vars shared calls
      (.error error) shared') :
    Reports (.graph error : CheckpointRunError B) calls ↔ ¬ TurnForgets segment watch vars shared := by
  have hquiet : Reports (.graph error : CheckpointRunError B) [] := List.nil_suffix
  cases h with
  | notReady hrdy =>
    refine iff_of_true hquiet ?_
    rintro ⟨_, _, _, _, _, _, hrdy', _⟩
    rw [hrdy] at hrdy'
    cases hrdy'
  | unprepared hrdy hprep =>
    refine iff_of_true hquiet ?_
    rintro ⟨_, _, _, _, _, _, hrdy', hprep', _⟩
    rw [hrdy] at hrdy'
    cases hrdy'
    rw [hprep] at hprep'
    cases hprep'
  | undispatched hrdy hprep hdisp =>
    rw [turnForgets_iff hrdy hprep, hdisp.error_forgets rfl rfl
      (fun hpos => absurd hpos (Nat.lt_irrefl 0)), not_not]
    rfl
  | misrouted hrdy hprep hdisp hsel =>
    obtain ⟨_, hlen, hanss⟩ := hdisp.ok_receipts
    obtain ⟨hstuck, hnames⟩ := selectNext_stuck hsel
    rw [turnForgets_iff hrdy hprep, hdisp.ok_forgets rfl, Nat.zero_add, ← hlen,
      ← completedEffects_length hanss, and_iff_left hstuck, ← not_suffix_nil, not_not, ← hnames]
    rfl

/-- A turn that does not fail forgets nothing. -/
theorem not_turnForgets_of_ok {turn : Turn B}
    (h : executeNode segment.runtime segment.context watch segment.checkpointing vars shared =
      (.ok turn, shared')) : ¬ TurnForgets segment watch vars shared := by
  obtain ⟨calls, hways⟩ := executeNode_run h
  clear h
  cases hways with
  | done hrdy hprep hdisp hsel =>
    rw [turnForgets_iff hrdy hprep, hdisp.ok_forgets rfl]
    exact fun hforg => selectNext_stuck hsel hforg.2

/-- The ways on which `execute_from` aborts a run in a turn from `vars`: the turn fails, or its
checkpoint cannot be saved. -/
inductive Aborted (segment : Segment B W S) (watch : Interruption W) (vars : LoopVars B)
    (shared : Shared B W S) : CheckpointRunError B → Shared B W S → Prop where
  | failed {error : GraphRunError} {shared' : Shared B W S}
      (hturn : executeNode segment.runtime segment.context watch segment.checkpointing vars shared =
        (.error error, shared')) : Aborted segment watch vars shared (.graph error) shared'
  | unsaved {runStep : RunStep} {request : SuspendRequest (SuspendData B)} {vars' : LoopVars B}
      {error : CheckpointRunError B} {shared₁ shared' : Shared B W S}
      (hturn : executeNode segment.runtime segment.context watch segment.checkpointing vars shared =
        (.ok (.suspend runStep request vars'), shared₁))
      (hsave : saveCheckpoint segment.runtime segment.context runStep request vars' shared₁ =
        (.error error, shared')) : Aborted segment watch vars shared error shared'

/-- The loop goes on with another turn. -/
def NextTurn (segment : Segment B W S) (watch : Interruption W) (turn next : LoopVars B × Shared B W S) :
    Prop :=
  executeNode segment.runtime segment.context watch segment.checkpointing turn.1 turn.2 =
    (.ok (.goto next.1), next.2)

/-- A loop that returns an error was aborted in one of its turns. -/
theorem executeFrom_aborted {fuel : Nat}
    (h : executeFrom segment.runtime segment.context watch segment.checkpointing fuel vars shared =
      (.error error, shared')) :
    ∃ vars₁ shared₁, Relation.ReflTransGen (NextTurn segment watch) (vars, shared) (vars₁, shared₁) ∧
      Aborted segment watch vars₁ shared₁ error shared' := by
  induction fuel generalizing vars shared with
  | zero => cases h
  | succ fuel ih =>
    rw [executeFrom] at h
    obtain ⟨turn, shared₁, hturn, h₁⟩ | ⟨failure, hturn, hfail⟩ := Exec.bind_eq h
    · have hok := Exec.mapError_eq_ok.mp hturn
      cases turn with
      | goto vars₁ =>
        obtain ⟨vars₂, shared₂, hsteps, habor⟩ := ih h₁
        have hnext : NextTurn segment watch (vars, shared) (vars₁, shared₁) := hok
        exact ⟨vars₂, shared₂, .head hnext hsteps, habor⟩
      | suspend runStep request vars₁ =>
        obtain ⟨_, _, _, h₂⟩ | ⟨failure, hsave, hfail⟩ := Exec.bind_eq h₁
        · cases h₂
        · cases hfail
          exact ⟨vars, shared, .refl, .unsaved hok hsave⟩
      | finish vars₁ => cases h₁
    · cases hfail
      obtain ⟨_, hfai, rfl⟩ := Exec.mapError_eq_error.mp hturn
      exact ⟨vars, shared, .refl, .failed hfai⟩

theorem runs_store {runtimes : GraphRuntime B W S → Prop} {config : RunConfig B W S}
    (hrun : Runs runtimes config) : ∀ segment vars, config.1 = .active segment vars →
      segment.checkpointing = true → segment.runtime.checkpointStore.isSome = true := by
  refine hrun.invariant (fun config => ∀ segment vars, config.1 = .active segment vars →
    segment.checkpointing = true → segment.runtime.checkpointStore.isSome = true) ?_ ?_
  · rintro _ ⟨context, checkpointing, state, _, hsto, _, _⟩ _ _ heq
    cases heq
    exact hsto
  · intro config config' hinv hstep segment vars heq
    cases hstep with
    | goto watch hturn =>
      cases heq
      exact hinv _ _ rfl
    | resume shared input trace hrtm hsto hcheck hin =>
      cases heq
      exact fun _ => hsto
    | elsewhere => exact hinv _ _ heq
    | suspend => cases heq
    | unsaved => cases heq
    | finish => cases heq
    | fail => cases heq

/-- The checkpoint of a turn that could not be saved names the turn's effects last. -/
theorem unsaved_reports {request : SuspendRequest (SuspendData B)} {vars' : LoopVars B}
    (hsto : segment.checkpointing = true → segment.runtime.checkpointStore.isSome = true)
    (hturn : executeNode segment.runtime segment.context watch segment.checkpointing vars shared =
      (.ok (.suspend runStep request vars'), shared₁))
    (hsave : saveCheckpoint segment.runtime segment.context runStep request vars' shared₁ =
      (.error error, shared')) :
    ∃ tail, shared'.events = shared.events ++ tail ∧ Reports error (callsOf tail) := by
  obtain ⟨_, calls, _, _, hbeg, hdone, _, hchec, _⟩ := executeNode_ok hturn
  obtain ⟨tail, htail, rfl⟩ := hbeg.tail
  obtain ⟨⟨_, rfl⟩, ⟨hsav, _⟩ | ⟨_, hnone⟩ | ⟨source, hsav⟩⟩ := saveCheckpoint_spec hsave
  · cases hsav
  · have hsome := hsto hchec
    rw [hnone] at hsome
    cases hsome
  · cases hsav
    refine ⟨tail, htail, ?_⟩
    have hrcps : vars'.effectReceipts = vars.effectReceipts ++ callReceipts (callsOf tail) :=
      hdone.receipts
    show (callReceipts (callsOf tail)).map (·.effectId) <:+ vars'.effectReceipts.map (·.effectId)
    rw [hrcps, List.map_append]
    exact List.suffix_append _ _

/-- An aborted turn of a run reports its completed effects unless it forgets them. -/
theorem Aborted.reports_iff
    (hsto : segment.checkpointing = true → segment.runtime.checkpointStore.isSome = true)
    (h : Aborted segment watch vars shared error shared') :
    ∃ tail, shared'.events = shared.events ++ tail ∧
      (Reports error (callsOf tail) ↔ ¬ TurnForgets segment watch vars shared) := by
  cases h with
  | failed hturn =>
    obtain ⟨calls, hways⟩ := executeNode_run hturn
    obtain ⟨tail, htail, rfl⟩ := hways.tail
    exact ⟨tail, htail, hways.reports_iff⟩
  | unsaved hturn hsave =>
    obtain ⟨tail, htail, hrep⟩ := unsaved_reports hsto hturn hsave
    exact ⟨tail, htail, iff_of_true hrep (not_turnForgets_of_ok hturn)⟩

end Turns

/-- Whenever `execute_from` aborts a run, fresh or resumed, the error names all effects that the
aborted turn had completed, in dispatch order, if and only if the turn went none of the ways that
forget them. The aborted turn is the last of this `execute_from`. -/
theorem completed_effects_reported {runtimes : GraphRuntime B W S → Prop} {segment : Segment B W S}
    {vars : LoopVars B} {shared shared' : Shared B W S} {watch : Interruption W} {fuel : Nat}
    {error : CheckpointRunError B} (hrun : Runs runtimes (.active segment vars, shared))
    (habort : executeFrom segment.runtime segment.context watch segment.checkpointing fuel vars
      shared = (.error error, shared')) :
    ∃ vars₁ shared₁ tail,
      Relation.ReflTransGen (NextTurn segment watch) (vars, shared) (vars₁, shared₁) ∧
      Runs runtimes (.active segment vars₁, shared₁) ∧
      Aborted segment watch vars₁ shared₁ error shared' ∧
      shared'.events = shared₁.events ++ tail ∧
      (Reports error (callsOf tail) ↔ ¬ TurnForgets segment watch vars₁ shared₁) := by
  obtain ⟨vars₁, shared₁, hturns, habor⟩ := executeFrom_aborted habort
  have hsteps : Relation.ReflTransGen (Step runtimes) (.active segment vars, shared)
      (.active segment vars₁, shared₁) :=
    Relation.ReflTransGen.lift (fun turn : LoopVars B × Shared B W S =>
      ((.active segment turn.1, turn.2) : RunConfig B W S)) (fun _ _ hok => Step.goto watch hok) _ _
      hturns
  have hrun₁ : Runs runtimes (.active segment vars₁, shared₁) := hrun.extend hsteps
  obtain ⟨tail, htail, hrep⟩ := habor.reports_iff (runs_store hrun₁ segment vars₁ rfl)
  exact ⟨vars₁, shared₁, tail, hturns, hrun₁, habor, htail, hrep⟩

namespace Script

/-- A script by which the worker asks for two effects. -/
def pair (receipt : Nat → Except EffectError Nat) : Script where
  answer := fun _ => .ok (.continue [] ([1, 2] : List Nat) {})
  receipt := receipt
  route := fun _ => finished

def pairStart (receipt : Nat → Except EffectError Nat) :
    Shared Tally Script (InMemoryCheckpointState Tally) where
  world := pair receipt
  store := InMemoryCheckpointStore.new
  uuids := fun n => ⟨BitVec.ofNat 128 n⟩

theorem pairStart_runs (receipt : Nat → Except EffectError Nat) : Runs (Only maximalRuntime)
    (.active maximalSegment (entryVars maximalRuntime initialState), pairStart receipt) :=
  Reachable.initial
    (.entry maximalContext true initialState (only_self _) (fun _ => rfl) rfl rfl)

/-- The run is cancelled while the first effect is done. -/
def cancelledMeanwhile : Interruption Script where
  checked := fun script => if script.tick = 2 then some .cancelled else none
  awaited := fun _ => none

def graphErrorOf : Except (CheckpointRunError Tally) (Execution Tally) → Option GraphRunError
  | .error (.graph error) => some error
  | _ => none

theorem graphErrorOf_eq {result : Except (CheckpointRunError Tally) (Execution Tally)}
    {error : GraphRunError} (h : graphErrorOf result = some error) :
    result = .error (.graph error) := by
  unfold graphErrorOf at h
  split at h
  · cases h
    rfl
  · cases h

def firstEffectId : EffectId := ⟨maximalContext.runId, ⟨.MIN⟩, workId, 0⟩

/-- The first turn of the worker with two effects. -/
def pairTurn (receipt : Nat → Except EffectError Nat) (watch : Interruption Script) :
    Except (CheckpointRunError Tally) (Execution Tally) ×
      Shared Tally Script (InMemoryCheckpointState Tally) :=
  executeFrom maximalSegment.runtime maximalSegment.context watch maximalSegment.checkpointing 1
    (entryVars maximalRuntime initialState) (pairStart receipt)

def secondFails (tick : Nat) : Except EffectError Nat :=
  if tick = 2 then .error (.unknownCommit "timeout") else .ok 1

def secondFailed : GraphRunError :=
  .effectFailed workId { firstEffectId with ordinal := 1 } [firstEffectId]
    (.unknownCommit "timeout")

end Script

/-- A turn whose second effect fails names the first. -/
theorem completed_effects_reported_scripted : ∃ vars₁ shared₁ tail shared',
    Aborted Script.maximalSegment Script.quiet vars₁ shared₁ (.graph Script.secondFailed) shared' ∧
      shared'.events = shared₁.events ++ tail ∧
      (Reports (.graph Script.secondFailed) (callsOf tail) ↔
        ¬ TurnForgets Script.maximalSegment Script.quiet vars₁ shared₁) := by
  have herr : Script.graphErrorOf (Script.pairTurn Script.secondFails Script.quiet).1 =
      some Script.secondFailed := by decide
  obtain ⟨vars₁, shared₁, tail, _, _, habor, htail, hrep⟩ :=
    completed_effects_reported (Script.pairStart_runs Script.secondFails)
      (Prod.ext (Script.graphErrorOf_eq herr) rfl)
  exact ⟨vars₁, shared₁, tail, _, habor, htail, hrep⟩

/-- A run that is cancelled between two effects of a node does not name the first. -/
theorem cancelled_turn_forgets_effect :
    Runs (Only Script.maximalRuntime)
      (.active Script.maximalSegment (entryVars Script.maximalRuntime Script.initialState),
        Script.pairStart fun _ => .ok 1) ∧
    ∃ shared', Script.pairTurn (fun _ => .ok 1) Script.cancelledMeanwhile =
        (.error (.graph .cancelled), shared') ∧
      completedEffects (callsOf shared'.events) = [Script.firstEffectId] ∧
      ¬ Reports (.graph .cancelled : CheckpointRunError Tally) (callsOf shared'.events) := by
  have herr : Script.graphErrorOf
      (Script.pairTurn (fun _ => .ok 1) Script.cancelledMeanwhile).1 = some .cancelled := by
    decide
  have hcomp : completedEffects (callsOf
      (Script.pairTurn (fun _ => .ok 1) Script.cancelledMeanwhile).2.events) =
        [Script.firstEffectId] := by decide
  refine ⟨Script.pairStart_runs _,
    (Script.pairTurn (fun _ => .ok 1) Script.cancelledMeanwhile).2,
    Prod.ext (Script.graphErrorOf_eq herr) rfl, hcomp, fun hrep => ?_⟩
  rw [Reports, hcomp] at hrep
  exact List.cons_ne_nil _ _ (List.suffix_nil.mp hrep)

end ServerRS.AgentCore

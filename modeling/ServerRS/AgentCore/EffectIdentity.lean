import ServerRS.AgentCore.EffectDispatch

/-!
# Effect ids and receipts of a run

The id of an effect is made of its run, the step and the position within the step, and
is handed to the executor as an idempotency key. Over a whole run, through every
suspension and resume, the ids grow, and the receipts that a checkpoint or a result
shows are those of the calls made so far (`effect_ids_never_collide`), as long as the
step counter can count: at `u32::MAX` it stands still, and an id comes twice
(`saturated_effect_id_collides`).
-/

namespace ServerRS.AgentCore

open Lib

variable {B : Type} [AgentBusinessState B] {W S : Type}

structure Progress (B : Type) [AgentBusinessState B] where
  runId : RunId
  steps : Nat
  visited : List NodeId
  effectReceipts : List (EffectReceipt (Receipt B))

def AgentCheckpoint.progress (checkpoint : AgentCheckpoint B) : Progress B where
  runId := checkpoint.runId
  steps := checkpoint.usage.steps.toNat
  visited := checkpoint.visited
  effectReceipts := checkpoint.effectReceipts

def GraphRunResult.progress (result : GraphRunResult B) : Progress B where
  runId := result.runId
  steps := result.usage.steps.toNat
  visited := result.visited
  effectReceipts := result.effectReceipts

/-- The progress within a segment. -/
def LoopVars.progress (vars : LoopVars B) (context : RunContext) (usage : UsageSnapshot) :
    Progress B where
  runId := context.runId
  steps := usage.steps.toNat
  visited := vars.visited
  effectReceipts := vars.effectReceipts

def RunConfig.progress (config : RunConfig B W S) : Option (Progress B) :=
  match config.1 with
  | .active segment vars => some (vars.progress segment.context config.2.usage)
  | .suspended checkpoint => some checkpoint.progress
  | .completed result => some result.progress
  | .failed _ => none

/-- The progress of a run and its executor calls belong together: there is a visited node for
each step, a receipt for each call, in call order, and the step of a call is the one that visited
its node. -/
structure Progress.Traces (progress : Progress B) (calls : List (EffectCall B)) : Prop where
  visited : progress.visited.length = progress.steps
  receipts : calls.map (fun call => (call.1.id, call.2)) =
    progress.effectReceipts.map (fun receipt => (receipt.effectId, .ok receipt.value))
  run : ∀ call ∈ calls, call.1.id.runId = progress.runId
  node : ∀ call ∈ calls,
    progress.visited[call.1.id.step.get.toNat - 1]? = some call.1.id.nodeId

theorem callReceipts_exact {calls : List (EffectCall B)} (h : ∀ call ∈ calls, call.2.isOk = true) :
    calls.map (fun call => (call.1.id, call.2)) =
      (callReceipts calls).map (fun receipt => (receipt.effectId, .ok receipt.value)) := by
  induction calls with
  | nil => rfl
  | cons call rest ih =>
    obtain ⟨envelope, answer⟩ := call
    cases answer with
    | ok value =>
      rw [List.map_cons, ih fun other hoth => h other (List.mem_cons_of_mem _ hoth)]
      rfl
    | error error => cases h (envelope, .error error) List.mem_cons_self

theorem RunStep.toNat_pos (step : RunStep) : 0 < step.get.toNat :=
  Nat.pos_of_ne_zero fun hzero => step.value.ne_zero (UInt32.toNat_inj.mp hzero)

/-- No call was made in a step that the progress does not count. -/
theorem Progress.Traces.step_le {progress : Progress B} {calls : List (EffectCall B)}
    (h : progress.Traces calls) {call : EffectCall B} (hcall : call ∈ calls) :
    call.1.id.step.get.toNat ≤ progress.steps := by
  obtain ⟨hlt, _⟩ := List.getElem?_eq_some_iff.mp (h.node call hcall)
  have hpos := call.1.id.step.toNat_pos
  rw [h.visited] at hlt
  omega

section Turn

variable {segment : Segment B W S} {vars vars' : LoopVars B} {shared shared' : Shared B W S}
  {runStep : RunStep} {calls : List (EffectCall B)} {observed : List (Event B)}

/-- The calls of a turn come after all earlier ones. -/
theorem TurnBegun.ordered
    (h : TurnBegun segment.runtime segment.context vars.current shared runStep calls observed
      shared') (hunsat : Unsaturated (.active segment vars, shared))
    (hordered : ((callsOf shared.events).map (·.1.id)).Pairwise EffectId.before)
    (htrac : (vars.progress segment.context shared.usage).Traces (callsOf shared.events)) :
    ((callsOf shared'.events).map (·.1.id)).Pairwise EffectId.before := by
  obtain ⟨tail, htail, rfl⟩ := h.tail
  obtain ⟨effects, henv⟩ := h.envelopes
  have hlen := h.ordinals
  obtain ⟨hnew, hids⟩ := envelopes_ordered henv (by rw [List.length_map]; omega)
  rw [List.map_map] at hnew
  rw [htail, callsOf_append, List.map_append]
  refine List.pairwise_append.mpr ⟨hordered, hnew, fun old hold new hmem => ?_⟩
  obtain ⟨call, hcall, rfl⟩ := List.mem_map.mp hold
  obtain ⟨newCall, hnewCall, rfl⟩ := List.mem_map.mp hmem
  obtain ⟨_, hstep, _⟩ := hids newCall.1 (List.mem_map_of_mem hnewCall)
  have hle : call.1.id.step.get.toNat ≤ shared.usage.steps.toNat := htrac.step_le hcall
  have hcnt := (h.counted vars hunsat).1
  rw [h.steps] at hcnt
  refine .inl (UInt32.lt_iff_toNat_lt.mpr ?_)
  rw [hstep, hcnt]
  exact Nat.lt_succ_of_le hle

/-- A turn that goes on, or ends the run, adds its node, its step and its receipts. -/
theorem TurnBegun.traces {nextNode : Option NodeId}
    (h : TurnBegun segment.runtime segment.context vars.current shared runStep calls observed
      shared') (hdone : TurnDone segment.runtime vars calls observed vars' nextNode)
    (hunsat : Unsaturated (.active segment vars, shared))
    (htrac : (vars.progress segment.context shared.usage).Traces (callsOf shared.events)) :
    (vars'.progress segment.context shared'.usage).Traces (callsOf shared'.events) := by
  obtain ⟨tail, htail, rfl⟩ := h.tail
  obtain ⟨effects, henv⟩ := h.envelopes
  have hlen := h.ordinals
  obtain ⟨_, hids⟩ := envelopes_ordered henv (by rw [List.length_map]; omega)
  have hcnt := (h.counted vars hunsat).1
  have hvis : vars.visited.length = shared.usage.steps.toNat := htrac.visited
  rw [htail, callsOf_append]
  constructor
  · show vars'.visited.length = shared'.usage.steps.toNat
    rw [hdone.visited, List.length_append, List.length_singleton, hcnt, hvis]
  · show _ = vars'.effectReceipts.map _
    rw [List.map_append, htrac.receipts, callReceipts_exact hdone.answers, hdone.receipts,
      List.map_append]
    rfl
  · intro call hcall
    rcases List.mem_append.mp hcall with hold | hnew
    · exact htrac.run call hold
    · exact (hids call.1 (List.mem_map_of_mem hnew)).1
  · intro call hcall
    show vars'.visited[_]? = _
    rw [hdone.visited]
    rcases List.mem_append.mp hcall with hold | hnew
    · have hnode : vars.visited[call.1.id.step.get.toNat - 1]? = some call.1.id.nodeId :=
        htrac.node call hold
      rw [List.getElem?_append_left (List.getElem?_eq_some_iff.mp hnode).1]
      exact hnode
    · obtain ⟨_, hstep, hnode, _⟩ := hids call.1 (List.mem_map_of_mem hnew)
      rw [h.steps] at hcnt
      rw [hstep, hnode, hcnt, Nat.add_sub_cancel, ← hvis]
      exact List.getElem?_concat_length

end Turn

/-! ## Runs -/

/-- What holds of the effect ids of a run. -/
structure Identified (config : RunConfig B W S) : Prop where
  ordered : ((callsOf config.2.events).map (·.1.id)).Pairwise EffectId.before
  traces : ∀ progress, config.progress = some progress →
    progress.Traces (callsOf config.2.events)

section Runs

variable {runtimes : GraphRuntime B W S → Prop} {config : RunConfig B W S}

theorem started_identified (h : Started runtimes config) : Identified config := by
  cases h with
  | entry context checkpointing state hrtm hsto hsteps hevs =>
    have hcalls : ∀ call, call ∉ callsOf ([] : List (Event B)) := fun _ => List.not_mem_nil
    constructor
    · rw [hevs]
      exact List.Pairwise.nil
    · intro progress hprog
      cases hprog
      rw [hevs]
      refine ⟨?_, rfl, fun call hcall => absurd hcall (hcalls call),
        fun call hcall => absurd hcall (hcalls call)⟩
      show 0 = UInt32.toNat _
      rw [hsteps]
      rfl

theorem step_identified {config' : RunConfig B W S} (h : Identified config)
    (hstep : Guarded Unsaturated (Step runtimes) config config') : Identified config' := by
  obtain ⟨hunsat, hstep⟩ := hstep
  cases hstep with
  | goto watch hturn =>
    obtain ⟨_, _, _, _, hbeg, hdone, _⟩ := executeNode_ok hturn
    have htrac := h.traces _ rfl
    refine ⟨hbeg.ordered hunsat h.ordered htrac, fun progress hprog => ?_⟩
    cases hprog
    exact hbeg.traces hdone hunsat htrac
  | suspend watch hturn hsave =>
    obtain ⟨_, _, _, _, hbeg, hdone, _⟩ := executeNode_ok hturn
    have htrac := h.traces _ rfl
    obtain ⟨⟨_, rfl⟩, ⟨hsav, _⟩ | ⟨hsav, _⟩ | ⟨_, hsav⟩⟩ := saveCheckpoint_spec hsave
    · cases hsav
      refine ⟨hbeg.ordered hunsat h.ordered htrac, fun progress hprog => ?_⟩
      cases hprog
      exact hbeg.traces hdone hunsat htrac
    · cases hsav
    · cases hsav
  | unsaved watch hturn hsave =>
    obtain ⟨_, _, _, _, hbeg, hdone, _⟩ := executeNode_ok hturn
    obtain ⟨⟨_, rfl⟩, _⟩ := saveCheckpoint_spec hsave
    refine ⟨hbeg.ordered hunsat h.ordered (h.traces _ rfl), fun progress hprog => ?_⟩
    cases hprog
  | finish watch hturn =>
    obtain ⟨_, _, _, _, hbeg, hdone, _⟩ := executeNode_ok hturn
    have htrac := h.traces _ rfl
    refine ⟨hbeg.ordered hunsat h.ordered htrac, fun progress hprog => ?_⟩
    cases hprog
    exact hbeg.traces hdone hunsat htrac
  | fail watch hturn =>
    refine ⟨?_, fun progress hprog => by cases hprog⟩
    rcases executeNode_error hturn with ⟨rfl, _⟩ | ⟨_, _, _, _, hevs⟩ | ⟨_, _, _, hbeg, _⟩
    · exact h.ordered
    · dsimp only
      rw [hevs]
      exact h.ordered
    · exact hbeg.ordered hunsat h.ordered (h.traces _ rfl)
  | resume shared input trace hrtm hsto hchk hin =>
    refine ⟨h.ordered, fun progress hprog => ?_⟩
    cases hprog
    exact h.traces _ rfl
  | elsewhere state shared world store uuids usage hsteps =>
    refine ⟨h.ordered, fun progress hprog => h.traces progress ?_⟩
    cases state with
    | active segment vars =>
      rw [← hprog]
      show some (Progress.mk _ _ _ _) = some (Progress.mk _ _ _ _)
      rw [hsteps]
    | suspended checkpoint => exact hprog
    | completed result => exact hprog
    | failed error => exact hprog

end Runs

/-- In a run that reserves every step at a counter that can count it, the ids handed to the
executor grow and so are distinct, and what the run shows belongs to its calls: the receipts are
those of the calls so far, in call order, there is a visited node for each step, and the receipt
of a step names the node visited in it. -/
theorem effect_ids_never_collide {runtimes : GraphRuntime B W S → Prop} {config : RunConfig B W S}
    (hrun : Reachable (Started runtimes) (Guarded Unsaturated (Step runtimes)) config) :
    ((callsOf config.2.events).map (·.1.id)).Pairwise EffectId.before ∧
    ((callsOf config.2.events).map (·.1.id)).Nodup ∧
    ∀ progress, config.progress = some progress →
      progress.Traces (callsOf config.2.events) ∧
      ∀ receipt ∈ progress.effectReceipts,
        progress.visited[receipt.effectId.step.get.toNat - 1]? = some receipt.effectId.nodeId := by
  have hiden : Identified config :=
    hrun.invariant Identified (fun _ => started_identified) fun _ _ => step_identified
  refine ⟨hiden.ordered, before_nodup hiden.ordered, fun progress hprog => ?_⟩
  have htrac := hiden.traces progress hprog
  refine ⟨htrac, fun receipt hrcp => ?_⟩
  have hmem : (receipt.effectId, Except.ok receipt.value) ∈
      (callsOf config.2.events).map (fun call => (call.1.id, call.2)) := by
    rw [htrac.receipts]
    exact List.mem_map_of_mem hrcp
  obtain ⟨call, hcall, heq⟩ := List.mem_map.mp hmem
  have hid : call.1.id = receipt.effectId := congrArg Prod.fst heq
  rw [← hid]
  exact htrac.node call hcall

/-- The first step of the endless run. -/
theorem effect_ids_never_collide_scripted : ∃ config,
    Reachable (Started (Only Script.maximalRuntime))
      (Guarded Unsaturated (Step (Only Script.maximalRuntime))) config ∧
    callsOf config.2.events ≠ [] ∧ ((callsOf config.2.events).map (·.1.id)).Nodup := by
  obtain ⟨_, vars', shared', hturn, _, _, _, _, hevs⟩ :
      ∃ runStep vars' shared', executeNode Script.maximalRuntime Script.maximalContext Script.quiet
          true (entryVars Script.maximalRuntime Script.initialState) Script.endlessStart =
            (.ok (.goto vars'), shared') ∧ _ := Script.endless_turn rfl rfl
  have hunsat : Unsaturated Script.endlessEntry := .inl (by decide)
  have hstep : Step (Only Script.maximalRuntime) Script.endlessEntry
      (.active Script.maximalSegment vars', shared') := .goto Script.quiet hturn
  have hrun : Reachable (Started (Only Script.maximalRuntime))
      (Guarded Unsaturated (Step (Only Script.maximalRuntime)))
      (.active Script.maximalSegment vars', shared') :=
    (Reachable.initial Script.endlessEntry_started).tail ⟨hunsat, hstep⟩
  refine ⟨_, hrun, ?_, (effect_ids_never_collide hrun).2.1⟩
  show callsOf shared'.events ≠ []
  rw [hevs]
  exact List.cons_ne_nil _ _

namespace Script

def endlessId (runStep : RunStep) : EffectId := ⟨maximalContext.runId, runStep, workId, 0⟩

/-- The step of a turn at a counter that has reached its end, or is one before it. -/
theorem last_step {usage : UsageSnapshot} {runStep : RunStep}
    (hstep : runStep.get = saturatingAdd usage.steps 1)
    (hlast : 2 ^ 32 - 2 ≤ usage.steps.toNat) : runStep.get.toNat = 2 ^ 32 - 1 := by
  rw [hstep, toNat_saturatingAdd_one]
  omega

theorem runStep_ext {a b : RunStep} (h : a.get.toNat = b.get.toNat) : a = b := by
  obtain ⟨⟨a, _⟩⟩ := a
  obtain ⟨⟨b, _⟩⟩ := b
  cases UInt32.toNat_inj.mp h
  rfl

end Script

/-- With both limits at `u32::MAX` the endless run hands the same id to the executor twice. -/
theorem saturated_effect_id_collides : ∃ config, Runs (Only Script.maximalRuntime) config ∧
    ¬ ((callsOf config.2.events).map (·.1.id)).Nodup := by
  obtain ⟨vars₁, shared₁, tick₁, hrun, hcur₁, hwd₁, _, hsteps⟩ :
      ∃ vars' shared' tick', executeFrom Script.maximalRuntime Script.maximalContext Script.quiet
          true (2 ^ 32 - 2) (entryVars Script.maximalRuntime Script.initialState)
          Script.endlessStart = (.ok (.running vars'), shared') ∧ _ :=
    Script.endless_run (2 ^ 32 - 2) rfl rfl
  -- The step numbered `u32::MAX` is reserved twice.
  obtain ⟨step₂, vars₂, shared₂, hturn₂, hstep₂, hcur₂, hwd₂, hsteps₂, hevs₂⟩ :=
    Script.endless_turn hcur₁ hwd₁
  obtain ⟨step₃, vars₃, shared₃, hturn₃, hstep₃, _, _, _, hevs₃⟩ :=
    Script.endless_turn hcur₂ hwd₂
  have hlast₂ : step₂.get.toNat = 2 ^ 32 - 1 := Script.last_step hstep₂ (by omega)
  have hlast₃ : step₃.get.toNat = 2 ^ 32 - 1 := Script.last_step hstep₃ (by
    rw [hsteps₂, hlast₂]
    decide)
  have hsame : step₃ = step₂ := Script.runStep_ext (hlast₃.trans hlast₂.symm)
  have hrch : Runs (Only Script.maximalRuntime) (.active Script.maximalSegment vars₁, shared₁) :=
    ⟨_, Script.endlessEntry_started, executeFrom_run _ Script.maximalSegment hrun⟩
  refine ⟨_, (hrch.tail (.goto Script.quiet hturn₂)).tail (.goto Script.quiet hturn₃), ?_⟩
  have hids : (callsOf shared₃.events).map (·.1.id) =
      (callsOf shared₁.events).map (·.1.id) ++ [Script.endlessId step₂] ++
        [Script.endlessId step₂] := by
    rw [hevs₃, hevs₂, hsame, callsOf_append, callsOf_append, List.map_append, List.map_append]
    rfl
  dsimp only
  rw [hids]
  intro hnd
  exact (List.nodup_append.mp hnd).2.2 _ (List.mem_append_right _ (List.mem_singleton_self _)) _
    (List.mem_singleton_self _) rfl

end ServerRS.AgentCore

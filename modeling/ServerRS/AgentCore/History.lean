import ServerRS.AgentCore.GraphSafety

/-!
# Recorded runs

The log of a run tells which nodes, effects and routes there were. It does not tell which
updates the state of the run accepted, and in which order with the rest. A recorded run is a
run with its history: the log, and in it every accepted update at its place.

`RecordedStep` is `Step` with a history that only grows. Recording loses no run
(`Step.recorded`) and adds none (`RecordedStep.step`); the events of a history are the log
(`recorded_events`), and its updates, applied to the initial state, give the state of the run
(`recorded_state`).
-/

namespace ServerRS.AgentCore

open Lib

variable {B : Type} [AgentBusinessState B] {W S : Type}

/-! ## Histories -/

/-- What happened to a run: something that its observer saw, or an update that its state
accepted. -/
inductive Entry (B : Type) [AgentBusinessState B] where
  | event (event : Event B)
  | applied (update : AgentUpdate (Update B))

abbrev History (B : Type) [AgentBusinessState B] := List (Entry B)

def Entry.event? : Entry B → Option (Event B)
  | .event seen => some seen
  | .applied _ => none

def Entry.update? : Entry B → Option (AgentUpdate (Update B))
  | .event _ => none
  | .applied update => some update

def eventsOf (history : History B) : List (Event B) := history.filterMap Entry.event?

def updatesOf (history : History B) : List (AgentUpdate (Update B)) :=
  history.filterMap Entry.update?

@[simp] theorem eventsOf_append (xs ys : History B) :
    eventsOf (xs ++ ys) = eventsOf xs ++ eventsOf ys := List.filterMap_append

@[simp] theorem eventsOf_event (event : Event B) (rest : History B) :
    eventsOf (.event event :: rest) = event :: eventsOf rest := rfl

@[simp] theorem eventsOf_events (events : List (Event B)) :
    eventsOf (events.map Entry.event) = events := by
  induction events with
  | nil => rfl
  | cons event rest ih => rw [List.map_cons, eventsOf_event, ih]

@[simp] theorem eventsOf_updates (updates : List (AgentUpdate (Update B))) :
    eventsOf (updates.map Entry.applied) = [] := by
  induction updates with
  | nil => rfl
  | cons update rest ih => exact ih

@[simp] theorem updatesOf_append (xs ys : History B) :
    updatesOf (xs ++ ys) = updatesOf xs ++ updatesOf ys := List.filterMap_append

@[simp] theorem updatesOf_event (event : Event B) (rest : History B) :
    updatesOf (.event event :: rest) = updatesOf rest := rfl

@[simp] theorem updatesOf_events (events : List (Event B)) :
    updatesOf (events.map Entry.event) = [] := by
  induction events with
  | nil => rfl
  | cons event rest ih => exact ih

@[simp] theorem updatesOf_updates (updates : List (AgentUpdate (Update B))) :
    updatesOf (updates.map Entry.applied) = updates := by
  induction updates with
  | nil => rfl
  | cons update rest ih => exact congrArg (update :: ·) ih

/-! ## The history of a turn -/

/-- What was observed of a run since it shared `shared`. -/
def Shared.since (shared' shared : Shared B W S) : List (Event B) :=
  shared'.events.drop shared.events.length

theorem Shared.Extends.since_eq {shared shared' : Shared B W S} {tail : List (Event B)}
    (h : shared.Extends shared' tail) : shared'.since shared = tail := by
  unfold Shared.since
  rw [h.events, List.drop_left]

/-- The history of what follows the node call: a receipt comes before its updates, where the
candidate state accepts them. -/
def settle : AgentState B → List (Event B) → History B
  | _, [] => []
  | candidate, .effectExecuted envelope (.ok value) :: rest =>
    .event (.effectExecuted envelope (.ok value)) ::
      match candidate.applyUpdates (receiptUpdates value) with
      | (.ok (), next) => (receiptUpdates value).map Entry.applied ++ settle next rest
      | (.error _, _) => settle candidate rest
  | candidate, event :: rest => .event event :: settle candidate rest

theorem settle_accepted {candidate next : AgentState B} {envelope : EffectEnvelope (Effect B)}
    {value : Receipt B} {rest : List (Event B)}
    (h : candidate.applyUpdates (receiptUpdates value) = (.ok (), next)) :
    settle candidate (.effectExecuted envelope (.ok value) :: rest) =
      .event (.effectExecuted envelope (.ok value)) ::
        ((receiptUpdates value).map Entry.applied ++ settle next rest) := by
  rw [settle, h]

theorem settle_refused {candidate : AgentState B} {envelope : EffectEnvelope (Effect B)}
    {value : Receipt B} {rest : List (Event B)} {error : AgentStateError}
    (h : (candidate.applyUpdates (receiptUpdates value)).1 = .error error) :
    settle candidate (.effectExecuted envelope (.ok value) :: rest) =
      .event (.effectExecuted envelope (.ok value)) :: settle candidate rest := by
  rw [settle]
  cases happ : candidate.applyUpdates (receiptUpdates value) with
  | mk outcome next =>
    rw [happ] at h
    obtain rfl : outcome = .error error := h
    rfl

theorem settle_routing {candidate : AgentState B} {events : List (Event B)}
    (h : ∀ event ∈ events, event.isRouting = true) : settle candidate events = events.map .event := by
  induction events with
  | nil => rfl
  | cons event rest ih =>
    rw [List.forall_mem_cons] at h
    cases event with
    | nodeExecuted step node => cases h.1
    | effectExecuted envelope answer => cases h.1
    | routeSelected node answer =>
      rw [List.map_cons, ← ih h.2]
      rfl

theorem eventsOf_settle (candidate : AgentState B) (events : List (Event B)) :
    eventsOf (settle candidate events) = events := by
  induction events generalizing candidate with
  | nil => rfl
  | cons event rest ih =>
    cases event with
    | nodeExecuted step node => exact congrArg _ (ih candidate)
    | routeSelected node answer => exact congrArg _ (ih candidate)
    | effectExecuted envelope answer =>
      cases answer with
      | error error => exact congrArg _ (ih candidate)
      | ok value =>
        cases happ : candidate.applyUpdates (receiptUpdates value) with
        | mk outcome next =>
          cases outcome with
          | ok _ =>
            rw [settle_accepted happ, eventsOf_event, eventsOf_append, eventsOf_updates, ih]
            rfl
          | error error =>
            have href : (candidate.applyUpdates (receiptUpdates value)).1 = .error error := by
              rw [happ]
            rw [settle_refused href, eventsOf_event, ih]

section Turn

variable (runtime : GraphRuntime B W S) (context : RunContext) (watch : Interruption W)
  (checkpointing : Bool) (vars : LoopVars B) (shared : Shared B W S)

/-- What the node of a turn answered and the state that its updates made, unless something
refused it. -/
def prepared : Option (NodeAnswer B × AgentState B) :=
  match checkReady context watch runtime.graph.policy.maxSteps shared with
  | (.error _, _) => none
  | (.ok runStep, shared) =>
    match prepareTurn runtime context watch checkpointing runStep vars shared with
    | (.error _, _) => none
    | (.ok (_, answer, candidate), _) => some (answer, candidate)

/-- The history of one turn of the loop: the node call, the updates of its answer, the effects
and the route. -/
def turnHistory : History B :=
  let events := (executeNode runtime context watch checkpointing vars shared).2.since shared
  match prepared runtime context watch checkpointing vars shared with
  | none => events.map .event
  | some (answer, candidate) =>
    (events.take 1).map .event ++
      (answer.updates.map .applied ++ settle candidate (events.drop 1))

variable {runtime context watch checkpointing vars shared}
  {result : Except GraphRunError (Turn B)} {shared₁ shared' : Shared B W S} {runStep : RunStep}
  {error : GraphRunError} {tail : List (Event B)}

theorem turnHistory_notReady (hrdy : checkReady context watch runtime.graph.policy.maxSteps shared =
      (.error error, shared₁))
    (h : executeNode runtime context watch checkpointing vars shared = (result, shared')) :
    turnHistory runtime context watch checkpointing vars shared = [] := by
  have hshared : shared' = shared := by
    obtain ⟨rfl, -⟩ := checkReady_error hrdy
    unfold executeNode at h
    rw [Exec.bind_apply, hrdy] at h
    cases h
    rfl
  unfold turnHistory prepared
  rw [h, hrdy, hshared]
  dsimp only
  rw [Shared.since, List.drop_length]
  rfl

theorem turnHistory_unprepared
    (hrdy : checkReady context watch runtime.graph.policy.maxSteps shared = (.ok runStep, shared₁))
    (hprep : prepareTurn runtime context watch checkpointing runStep vars shared₁ =
      (.error error, shared')) (hext : shared₁.Extends shared' tail) :
    turnHistory runtime context watch checkpointing vars shared = tail.map .event := by
  have hres : executeNode runtime context watch checkpointing vars shared =
      (.error error, shared') := by
    unfold executeNode
    rw [Exec.bind_apply, hrdy]
    dsimp only
    rw [Exec.bind_apply, hprep]
  have hevs : shared₁.events = shared.events := by
    obtain ⟨_, _, _, rfl⟩ := checkReady_ok hrdy
    rfl
  unfold turnHistory prepared
  rw [hres, hrdy]
  dsimp only
  rw [hprep]
  dsimp only
  rw [Shared.since, ← hevs]
  exact congrArg (List.map Entry.event) hext.since_eq

theorem turnHistory_prepared {transition : TransitionRule B W} {answer : NodeAnswer B}
    {candidate : AgentState B} {shared₂ : Shared B W S}
    (hrdy : checkReady context watch runtime.graph.policy.maxSteps shared = (.ok runStep, shared₁))
    (hprep : prepareTurn runtime context watch checkpointing runStep vars shared₁ =
      (.ok (transition, answer, candidate), shared₂)) (hext : shared₂.Extends shared' tail)
    (h : executeNode runtime context watch checkpointing vars shared = (result, shared')) :
    turnHistory runtime context watch checkpointing vars shared =
      .event (.nodeExecuted runStep vars.current) ::
        (answer.updates.map .applied ++ settle candidate tail) := by
  have hevs : shared₁.events = shared.events := by
    obtain ⟨_, _, _, rfl⟩ := checkReady_ok hrdy
    rfl
  have hsince : shared'.since shared = .nodeExecuted runStep vars.current :: tail := by
    unfold Shared.since
    rw [← hevs]
    exact ((prepareTurn_extends hprep).trans hext).since_eq
  unfold turnHistory prepared
  rw [h, hrdy]
  dsimp only
  rw [hprep]
  dsimp only
  rw [hsince]
  rfl

end Turn

/-! ## Recorded steps -/

/-- A run with its history. -/
abbrev Recorded (B : Type) [AgentBusinessState B] (W S : Type) := RunConfig B W S × History B

/-- Where a turn that came to `result` leaves the run. -/
inductive After (segment : Segment B W S) :
    Except GraphRunError (Turn B) → Shared B W S → RunConfig B W S → Prop where
  | goto (vars : LoopVars B) (shared : Shared B W S) :
      After segment (.ok (.goto vars)) shared (.active segment vars, shared)
  | suspend {vars : LoopVars B} {shared shared' : Shared B W S} {runStep : RunStep}
      {request : SuspendRequest (SuspendData B)} {checkpoint : AgentCheckpoint B}
      (hsave : saveCheckpoint segment.runtime segment.context runStep request vars shared =
        (.ok checkpoint, shared')) :
      After segment (.ok (.suspend runStep request vars)) shared (.suspended checkpoint, shared')
  | unsaved {vars : LoopVars B} {shared shared' : Shared B W S} {runStep : RunStep}
      {request : SuspendRequest (SuspendData B)} {error : CheckpointRunError B}
      (hsave : saveCheckpoint segment.runtime segment.context runStep request vars shared =
        (.error error, shared')) :
      After segment (.ok (.suspend runStep request vars)) shared (.failed error, shared')
  | finish (vars : LoopVars B) (shared : Shared B W S) :
      After segment (.ok (.finish vars)) shared
        (.completed (vars.result segment.context shared.usage), shared)
  | fail (error : GraphRunError) (shared : Shared B W S) :
      After segment (.error error) shared (.failed (.graph error), shared)

/-- `Step` with the history of the run. -/
inductive RecordedStep (runtimes : GraphRuntime B W S → Prop) :
    Recorded B W S → Recorded B W S → Prop where
  | turn {segment : Segment B W S} {vars : LoopVars B} {shared shared₁ : Shared B W S}
      {result : Except GraphRunError (Turn B)} {config : RunConfig B W S} (history : History B)
      (watch : Interruption W)
      (hturn : executeNode segment.runtime segment.context watch segment.checkpointing vars shared =
        (result, shared₁))
      (haft : After segment result shared₁ config) :
      RecordedStep runtimes ((.active segment vars, shared), history)
        (config, history ++
          turnHistory segment.runtime segment.context watch segment.checkpointing vars shared)
  | resume {checkpoint : AgentCheckpoint B} {state : AgentState B} {runtime : GraphRuntime B W S}
      (history : History B) (shared : Shared B W S) (input : ResumeInput B) (trace : RunTrace)
      (hrtm : runtimes runtime) (hsto : runtime.checkpointStore.isSome = true)
      (hchk : checkResumable runtime.graph (stateSchemaVersion B) checkpoint = .ok ())
      (hin : applyResumeInput checkpoint input = .ok state) :
      RecordedStep runtimes ((.suspended checkpoint, shared), history)
        ((.active ⟨runtime, checkpoint.context trace, true⟩ (resumeVars checkpoint state),
          { shared with usage := checkpoint.usage }),
          history ++ (resumeUpdates input).map Entry.applied)
  | elsewhere (history : History B) (state : RunState B W S) (shared : Shared B W S) (world : W)
      (store : S) (uuids : Nat → Uuid) (usage : UsageSnapshot)
      (hsteps : usage.steps = shared.usage.steps) :
      RecordedStep runtimes ((state, shared), history)
        ((state, { shared with world, store, uuids, usage }), history)

variable {runtimes : GraphRuntime B W S → Prop} {started : RunConfig B W S → Prop}
  {config : RunConfig B W S}

theorem Step.recorded {config' : RunConfig B W S} (h : Step runtimes config config')
    (history : History B) :
    ∃ history', RecordedStep runtimes (config, history) (config', history') := by
  cases h with
  | goto watch hturn => exact ⟨_, .turn history watch hturn (.goto _ _)⟩
  | suspend watch hturn hsave => exact ⟨_, .turn history watch hturn (.suspend hsave)⟩
  | unsaved watch hturn hsave => exact ⟨_, .turn history watch hturn (.unsaved hsave)⟩
  | finish watch hturn => exact ⟨_, .turn history watch hturn (.finish _ _)⟩
  | fail watch hturn => exact ⟨_, .turn history watch hturn (.fail _ _)⟩
  | resume shared input trace hrtm hsto hchk hin =>
    exact ⟨_, .resume history shared input trace hrtm hsto hchk hin⟩
  | elsewhere state shared world store uuids usage hsteps =>
    exact ⟨_, .elsewhere history state shared world store uuids usage hsteps⟩

/-- The runs from `started`, with their histories. -/
abbrev RecordedRuns (started : RunConfig B W S → Prop) (runtimes : GraphRuntime B W S → Prop) :
    Recorded B W S → Prop :=
  Reachable (fun recorded => started recorded.1 ∧ recorded.2 = []) (RecordedStep runtimes)

theorem exists_recorded (h : Reachable started (Step runtimes) config) :
    ∃ history, RecordedRuns started runtimes (config, history) := by
  refine h.invariant (fun config => ∃ history, RecordedRuns started runtimes (config, history))
    (fun config hstar => ⟨[], .initial ⟨hstar, rfl⟩⟩) ?_
  rintro config config' ⟨history, hrun⟩ hstep
  obtain ⟨history', hrecd⟩ := hstep.recorded history
  exact ⟨history', hrun.tail hrecd⟩

/-! ## The history is that of the run -/

variable {runtime : GraphRuntime B W S} {context : RunContext} {watch : Interruption W}
  {checkpointing : Bool} {vars : LoopVars B} {shared shared' : Shared B W S}
  {segment : Segment B W S} {recorded : Recorded B W S} {initial : AgentState B} {turn : Turn B}

section

variable {result : Except GraphRunError (Turn B)}

theorem eventsOf_turnHistory
    (h : executeNode runtime context watch checkpointing vars shared = (result, shared')) :
    eventsOf (turnHistory runtime context watch checkpointing vars shared) =
      shared'.since shared := by
  unfold turnHistory
  rw [h]
  dsimp only
  cases prepared runtime context watch checkpointing vars shared with
  | none => exact eventsOf_events _
  | some prepared =>
    dsimp only
    rw [eventsOf_append, eventsOf_append, eventsOf_events, eventsOf_updates, eventsOf_settle]
    exact List.take_append_drop 1 _

theorem executeNode_events
    (h : executeNode runtime context watch checkpointing vars shared = (result, shared')) :
    shared'.events = shared.events ++ shared'.since shared := by
  have hextends : shared.events <+: shared'.events := by
    cases result with
    | ok turn =>
      obtain ⟨_, _, _, _, hbeg, -, -⟩ := executeNode_ok h
      exact ⟨_, hbeg.events.symm⟩
    | error error =>
      rcases executeNode_error h with ⟨rfl, -⟩ | ⟨-, -, -, -, hevs⟩ | ⟨_, _, _, hbeg, -⟩
      · exact List.prefix_refl _
      · exact ⟨[], by rw [hevs, List.append_nil]⟩
      · exact ⟨_, hbeg.events.symm⟩
  obtain ⟨tail, htail⟩ := hextends
  rw [Shared.since, ← htail, List.drop_left]

theorem After.events (h : After segment result shared config) :
    config.2.events = shared.events := by
  cases h with
  | goto => rfl
  | suspend hsave =>
    obtain ⟨⟨_, rfl⟩, -⟩ := saveCheckpoint_spec hsave
    rfl
  | unsaved hsave =>
    obtain ⟨⟨_, rfl⟩, -⟩ := saveCheckpoint_spec hsave
    rfl
  | finish => rfl
  | fail => rfl

end

/-- The events of the history are the log of the run. -/
theorem recorded_events (hstar : ∀ config, started config → config.2.events = [])
    (h : RecordedRuns started runtimes recorded) : eventsOf recorded.2 = recorded.1.2.events := by
  refine h.invariant (fun recorded => eventsOf recorded.2 = recorded.1.2.events) ?_ ?_
  · rintro ⟨config, history⟩ ⟨hconf, rfl⟩
    exact (hstar config hconf).symm
  · rintro one other hevs hstep
    cases hstep with
    | turn history watch hturn haft =>
      rw [eventsOf_append, eventsOf_turnHistory hturn, haft.events, executeNode_events hturn]
      exact congrArg (· ++ _) hevs
    | resume history shared input =>
      rw [eventsOf_append, eventsOf_updates, List.append_nil]
      exact hevs
    | elsewhere => exact hevs

def RunState.state? : RunState B W S → Option (AgentState B)
  | .active _ vars => some vars.state
  | .suspended checkpoint => some checkpoint.state
  | .completed result => some result.state
  | .failed _ => none

theorem applyAll_append {xs ys : List (AgentUpdate (Update B))} {s s' : AgentState B} :
    AgentState.applyAll (xs ++ ys) s = (.ok (), s') ↔
      ∃ s₁, AgentState.applyAll xs s = (.ok (), s₁) ∧ AgentState.applyAll ys s₁ = (.ok (), s') := by
  induction xs generalizing s with
  | nil =>
    constructor
    · exact fun h => ⟨s, rfl, h⟩
    · rintro ⟨s₁, hnil, h⟩
      cases hnil
      exact h
  | cons update rest ih =>
    rw [List.cons_append, AgentState.applyAll_cons_ok]
    constructor
    · rintro ⟨s₁, hupd, hrest⟩
      obtain ⟨s₂, hrest, hys⟩ := ih.mp hrest
      exact ⟨s₂, AgentState.applyAll_cons_ok.mpr ⟨s₁, hupd, hrest⟩, hys⟩
    · rintro ⟨s₂, hall, hys⟩
      obtain ⟨s₁, hupd, hrest⟩ := AgentState.applyAll_cons_ok.mp hall
      exact ⟨s₁, hupd, ih.mpr ⟨s₂, hrest, hys⟩⟩

/-- The effect loop applies the updates of its receipts in the order of its calls. -/
theorem DispatchRun.replays {runStep : RunStep} {current : NodeId} {ordinal : Nat}
    {effects : List (Effect B)} {vars vars' : EffectVars B} {calls : List (EffectCall B)}
    {observed : List (Event B)}
    (h : DispatchRun runtime context watch runStep current ordinal effects vars shared calls
      (.ok vars') shared') (hrouting : ∀ event ∈ observed, event.isRouting = true) :
    AgentState.applyAll (updatesOf (settle vars.candidate (calls.map EffectCall.event ++ observed)))
      vars.candidate = (.ok (), vars'.candidate) := by
  generalize hres : (Except.ok vars' : Except GraphRunError (EffectVars B)) = result at h
  induction h with
  | done =>
    cases hres
    rw [List.map_nil, List.nil_append, settle_routing hrouting, updatesOf_events]
    rfl
  | tooMany => cases hres
  | noExecutor => cases hres
  | inactive => cases hres
  | failed => cases hres
  | rejected => cases hres
  | next _ _ _ _ hupd _ ih =>
    rw [List.map_cons, List.cons_append, EffectCall.event, settle_accepted hupd, updatesOf_event,
      updatesOf_append, updatesOf_updates, applyAll_append]
    exact ⟨_, AgentState.applyUpdates_eq_ok.mp hupd, ih hres⟩

/-- The history of the dispatch of a single effect. -/
theorem DispatchRun.single {runStep : RunStep} {current : NodeId} {effect : Effect B}
    {candidate : AgentState B} {calls : List (EffectCall B)}
    {result : Except GraphRunError (EffectVars B)}
    (h : DispatchRun runtime context watch runStep current 0 [effect] { candidate } shared calls
      result shared') :
    (∃ error, result = .error error ∧ settle candidate (calls.map EffectCall.event) = []) ∨
      ∃ envelope, envelope.effect = effect ∧
        ((∃ error answer, result = .error error ∧
            settle candidate (calls.map EffectCall.event) = [.event (.effectExecuted envelope answer)]) ∨
          ∃ effectVars value, result = .ok effectVars ∧
            candidate.applyUpdates (receiptUpdates value) = (.ok (), effectVars.candidate) ∧
            settle candidate (calls.map EffectCall.event) =
              .event (.effectExecuted envelope (.ok value)) ::
                (receiptUpdates value).map Entry.applied) := by
  cases h with
  | tooMany => exact .inl ⟨_, rfl, rfl⟩
  | noExecutor => exact .inl ⟨_, rfl, rfl⟩
  | inactive => exact .inl ⟨_, rfl, rfl⟩
  | failed =>
    exact .inr ⟨effectEnvelope context runStep current 0 effect, rfl, .inl ⟨_, _, rfl, rfl⟩⟩
  | rejected rest hexr hord hchec hcall hupd =>
    exact .inr ⟨effectEnvelope context runStep current 0 effect, rfl,
      .inl ⟨_, _, rfl, settle_refused hupd⟩⟩
  | next hexr hord hchec hcall hupd hrest =>
    cases hrest with
    | done =>
      refine .inr ⟨effectEnvelope context runStep current 0 effect, rfl,
        .inr ⟨_, _, rfl, hupd, ?_⟩⟩
      rw [List.map_cons, EffectCall.event, settle_accepted hupd, List.map_nil, settle,
        List.append_nil]

/-- A turn that does not fail applies the updates of its history. -/
theorem turnHistory_replays
    (h : executeNode runtime context watch checkpointing vars shared = (.ok turn, shared')) :
    AgentState.applyAll (updatesOf (turnHistory runtime context watch checkpointing vars shared))
      vars.state = (.ok (), turn.vars.state) := by
  obtain ⟨calls, hrun⟩ := executeNode_run h
  cases hrun with
  | done hrdy hprep hdisp hsel =>
    obtain ⟨observed, hselec, hrt⟩ := selectNext_ok hsel
    obtain ⟨_, _, _, _, _, _, _, _, _, _, hupds⟩ := prepareTurn_ok hprep
    rw [turnHistory_prepared hrdy hprep (hdisp.extends_calls.trans hselec) h,
      updatesOf_event, updatesOf_append, updatesOf_updates, applyAll_append, concludeTurn_vars]
    exact ⟨_, AgentState.applyUpdates_eq_ok.mp hupds, hdisp.replays hrt.routing⟩

theorem After.state {state : AgentState B} (h : After segment (.ok turn) shared config)
    (hst : config.1.state? = some state) : turn.vars.state = state := by
  cases h with
  | goto => exact Option.some.inj hst
  | suspend hsave =>
    obtain ⟨-, ⟨hckpt, -⟩ | ⟨hfai, -⟩ | ⟨_, hfai⟩⟩ := saveCheckpoint_spec hsave
    · cases hckpt
      exact Option.some.inj hst
    · cases hfai
    · cases hfai
  | unsaved => cases hst
  | finish => exact Option.some.inj hst

/-- The updates of the history, applied to the state at the start, give the state of the run. -/
theorem recorded_state (hstar : ∀ config, started config → config.1.state? = some initial)
    (h : RecordedRuns started runtimes recorded) {state : AgentState B}
    (hst : recorded.1.1.state? = some state) :
    AgentState.applyAll (updatesOf recorded.2) initial = (.ok (), state) := by
  refine h.invariant (fun recorded => ∀ state, recorded.1.1.state? = some state →
    AgentState.applyAll (updatesOf recorded.2) initial = (.ok (), state)) ?_ ?_ state hst
  · rintro ⟨config, history⟩ ⟨hconf, rfl⟩ state hst
    rw [hstar config hconf] at hst
    cases hst
    rfl
  · rintro one other ih hstep state hst
    cases hstep with
    | @turn _ _ _ _ result _ history watch hturn haft =>
      cases result with
      | error error =>
        cases haft
        cases hst
      | ok turn =>
        rw [updatesOf_append, applyAll_append, ← haft.state hst]
        exact ⟨_, ih _ rfl, turnHistory_replays hturn⟩
    | @resume _ resumed _ history shared input trace hrtm hsto hchk hin =>
      cases hst
      rw [updatesOf_append, applyAll_append, updatesOf_updates]
      exact ⟨_, ih _ rfl, AgentState.applyUpdates_eq_ok.mp (applyResumeInput_ok.mp hin)⟩
    | elsewhere => exact ih state hst

/-- Every run can be replayed from its history. -/
theorem run_replays {first : RunConfig B W S}
    (hevs : first.2.events = []) (hst : first.1.state? = some initial)
    (h : Relation.ReflTransGen (Step runtimes) first config) :
    ∃ history, Relation.ReflTransGen (RecordedStep runtimes) (first, []) (config, history) ∧
      eventsOf history = config.2.events ∧ ∀ state, config.1.state? = some state →
        AgentState.applyAll (updatesOf history) initial = (.ok (), state) := by
  have hreach : Reachable (Eq first) (Step runtimes) config := ⟨first, rfl, h⟩
  obtain ⟨history, hrun⟩ := exists_recorded hreach
  refine ⟨history, ?_, recorded_events (fun _ heq => heq ▸ hevs) hrun,
    fun _ => recorded_state (fun _ heq => heq ▸ hst) hrun⟩
  obtain ⟨⟨_, _⟩, ⟨hfst, hnil⟩, hsteps⟩ := hrun
  cases hfst
  cases hnil
  exact hsteps

theorem endless_replays : ∃ vars shared history, executions shared.events = 3 ∧
    Relation.ReflTransGen (RecordedStep (Only Script.maximalRuntime)) (Script.endlessEntry, [])
      ((.active Script.maximalSegment vars, shared), history) ∧
    AgentState.applyAll (updatesOf history) Script.initialState = (.ok (), vars.state) := by
  obtain ⟨vars, shared, hexec, hcnt⟩ := Script.endless_from_start 3
  have hrun : Relation.ReflTransGen _ Script.endlessEntry _ :=
    executeFrom_run (Only Script.maximalRuntime) Script.maximalSegment hexec
  obtain ⟨history, hsteps, -, hstate⟩ := run_replays (by rfl) (by rfl) hrun
  exact ⟨vars, shared, history, hcnt, hsteps, hstate _ rfl⟩

/-! ## The history of a loop -/

section Loop

variable (runtime context watch checkpointing)

/-- The history of `executeFrom`. -/
def loopHistory : Nat → LoopVars B → Shared B W S → History B
  | 0, _, _ => []
  | fuel + 1, vars, shared =>
    turnHistory runtime context watch checkpointing vars shared ++
      match executeNode runtime context watch checkpointing vars shared with
      | (.ok (.goto vars), shared) => loopHistory fuel vars shared
      | _ => []

end Loop

variable (runtimes) in
theorem executeFrom_recorded (segment : Segment B W S) {fuel : Nat} (history : History B)
    {result : Except (CheckpointRunError B) (Execution B)}
    (h : executeFrom segment.runtime segment.context watch segment.checkpointing fuel vars shared =
      (result, shared')) :
    Relation.ReflTransGen (RecordedStep runtimes) ((.active segment vars, shared), history)
      ((segment.stateOf result, shared'), history ++
        loopHistory segment.runtime segment.context watch segment.checkpointing fuel vars shared) := by
  induction fuel generalizing vars shared history with
  | zero =>
    cases h
    rw [loopHistory, List.append_nil]
    exact .refl
  | succ fuel ih =>
    rw [executeFrom] at h
    rw [loopHistory]
    obtain ⟨turn, shared₁, hturn, h₁⟩ | ⟨error, hturn, rfl⟩ := Exec.bind_eq h
    · rw [Exec.mapError_eq_ok] at hturn
      rw [hturn]
      cases turn with
      | goto vars' =>
        rw [← List.append_assoc]
        exact .head (.turn history watch hturn (.goto vars' shared₁)) (ih _ h₁)
      | suspend runStep request vars' =>
        dsimp only
        rw [List.append_nil]
        obtain ⟨checkpoint, shared₂, hsave, h₂⟩ | ⟨error, hsave, rfl⟩ := Exec.bind_eq h₁
        · cases h₂
          exact .single (.turn history watch hturn (.suspend hsave))
        · exact .single (.turn history watch hturn (.unsaved hsave))
      | finish vars' =>
        cases h₁
        dsimp only
        rw [List.append_nil]
        exact .single (.turn history watch hturn (.finish vars' _))
    · obtain ⟨error, hfail, rfl⟩ := Exec.mapError_eq_error.mp hturn
      rw [hfail]
      dsimp only
      rw [List.append_nil]
      exact .single (.turn history watch hfail (.fail error shared'))

/-- A run with its history, resumed with one input after the other where it is suspended. -/
def play (runtime : GraphRuntime B W S) (watch : Interruption W) (fuel : Nat) :
    List (ResumeInput B) → RunContext → LoopVars B → Shared B W S → History B → Recorded B W S
  | inputs, context, vars, shared, history =>
    let history := history ++ loopHistory runtime context watch true fuel vars shared
    match inputs, executeFrom runtime context watch true fuel vars shared with
    | input :: inputs, (.ok (.returned (.suspended checkpoint)), shared) =>
      match checkResumable runtime.graph (stateSchemaVersion B) checkpoint,
        applyResumeInput checkpoint input with
      | .ok (), .ok state =>
        play runtime watch fuel inputs (checkpoint.context {}) (resumeVars checkpoint state)
          { shared with usage := checkpoint.usage }
          (history ++ (resumeUpdates input).map Entry.applied)
      | _, _ => ((.suspended checkpoint, shared), history)
    | _, (result, shared) => ((Segment.stateOf ⟨runtime, context, true⟩ result, shared), history)

theorem play_recorded {fuel : Nat} (hrtm : runtimes runtime)
    (hsto : runtime.checkpointStore.isSome = true)
    (inputs : List (ResumeInput B)) (context : RunContext) (vars : LoopVars B)
    (shared : Shared B W S) (history : History B) :
    Relation.ReflTransGen (RecordedStep runtimes)
      ((.active ⟨runtime, context, true⟩ vars, shared), history)
      (play runtime watch fuel inputs context vars shared history) := by
  induction inputs generalizing context vars shared history with
  | nil =>
    cases hexec : executeFrom runtime context watch true fuel vars shared with
    | mk result shared' =>
      have hrun := executeFrom_recorded runtimes ⟨runtime, context, true⟩ history hexec
      unfold play
      rw [hexec]
      exact hrun
  | cons input inputs ih =>
    cases hexec : executeFrom runtime context watch true fuel vars shared with
    | mk result shared' =>
      have hrun := executeFrom_recorded runtimes ⟨runtime, context, true⟩ history hexec
      unfold play
      rw [hexec]
      dsimp only
      split
      · next heq hres =>
        cases heq
        cases hres
        split
        · next hchk hin =>
          refine (hrun.tail (.resume _ _ input {} hrtm hsto hchk hin)).trans ?_
          exact ih _ _ _ _
        · exact hrun
      · next hres _ =>
        cases hres
        exact hrun

end ServerRS.AgentCore

import Mathlib.Logic.Function.Basic
import ServerRS.AgentCore.Runs

/-!
# Concurrent resumes of one store

`resume_with_context` reaches the checkpoint store twice, with `load` and with `take`, and
validates in between on its own copy. `StoreStep` interleaves any number of resumers,
each with its own graph, schema version, checkpoint and input, with saves of any
checkpoints and with a poisoning of the store's mutex. `resumeWithContext_steps` ties
a resumer's three steps to the model of the function.

Safety rests on `take` alone: a resumer may validate a copy that is long consumed.
-/

namespace ServerRS.AgentCore

open Lib

variable {B : Type} [AgentBusinessState B] {W : Type} {ι : Type}

/-! ## The protocol -/

structure Resumer (B : Type) [AgentBusinessState B] (W : Type) where
  graph : CompiledGraph B W
  schemaVersion : StateSchemaVersion
  checkpointId : CheckpointId
  input : ResumeInput B

/-- How far a call has come. `checkpoint` is its own copy from the load. -/
inductive ResumerPhase (B : Type) [AgentBusinessState B] where
  | loading
  | loaded (checkpoint : AgentCheckpoint B)
  | ready (checkpoint : AgentCheckpoint B) (state : AgentState B)
  | executing (checkpoint : AgentCheckpoint B) (state : AgentState B)
  | failed (error : ResumeError B)

namespace ResumerPhase

/-- The copy a call works on, if it has one. -/
def copy : ResumerPhase B → Option (AgentCheckpoint B)
  | .loaded checkpoint => some checkpoint
  | .ready checkpoint _ => some checkpoint
  | .executing checkpoint _ => some checkpoint
  | _ => none

def isExecuting : ResumerPhase B → Bool
  | .executing _ _ => true
  | _ => false

end ResumerPhase

namespace Resumer

def onLoad : Except CheckpointError (AgentCheckpoint B) → ResumerPhase B
  | .ok checkpoint => .loaded checkpoint
  | .error source => .failed (.checkpointLoad source)

def onValidate (self : Resumer B W) (checkpoint : AgentCheckpoint B) : ResumerPhase B :=
  match checkResumable self.graph self.schemaVersion checkpoint with
  | .error error => .failed error
  | .ok () =>
    match applyResumeInput checkpoint self.input with
    | .error error => .failed error
    | .ok state => .ready checkpoint state

/-- After the take; what it returned is not looked at. -/
def onTake (self : Resumer B W) (checkpoint : AgentCheckpoint B) (state : AgentState B) :
    Except CheckpointError (AgentCheckpoint B) → ResumerPhase B
  | .ok _ => .executing checkpoint state
  | .error source => .failed (takeError self.checkpointId source)

end Resumer

/-- The store, the calls, and a log of the checkpoints that were saved. -/
structure StoreConfig (B : Type) [AgentBusinessState B] (ι : Type) where
  store : InMemoryCheckpointState B
  phase : ι → ResumerPhase B
  saved : List (AgentCheckpoint B)

/-- A fresh store that nobody has used. -/
def StoreConfig.initial : StoreConfig B ι where
  store := InMemoryCheckpointStore.new
  phase := fun _ => .loading
  saved := []

inductive StoreActor (ι : Type) where
  | resumer (i : ι)
  | other

section Steps

variable [DecidableEq ι] (resumers : ι → Resumer B W)

/-- One critical section of the store, or one local validation. -/
inductive StoreStep : StoreConfig B ι → StoreActor ι → StoreConfig B ι → Prop where
  | save {config : StoreConfig B ι} (checkpoint : AgentCheckpoint B)
      {store : InMemoryCheckpointState B}
      (hsave : InMemoryCheckpointStore.save checkpoint config.store = (.ok (), store)) :
      StoreStep config .other { config with store, saved := config.saved ++ [checkpoint] }
  | saveFailed {config : StoreConfig B ι} {checkpoint : AgentCheckpoint B}
      {store : InMemoryCheckpointState B} {error : CheckpointError}
      (hsave : InMemoryCheckpointStore.save checkpoint config.store = (.error error, store)) :
      StoreStep config .other { config with store }
  | poison (config : StoreConfig B ι) :
      StoreStep config .other { config with store := { config.store with poisoned := true } }
  | load {config : StoreConfig B ι} (i : ι) {store : InMemoryCheckpointState B}
      {result : Except CheckpointError (AgentCheckpoint B)}
      (hph : config.phase i = .loading)
      (hload : InMemoryCheckpointStore.load (resumers i).checkpointId config.store =
        (result, store)) :
      StoreStep config (.resumer i)
        { config with store, phase := Function.update config.phase i (Resumer.onLoad result) }
  | validate {config : StoreConfig B ι} (i : ι) {checkpoint : AgentCheckpoint B}
      (hph : config.phase i = .loaded checkpoint) :
      StoreStep config (.resumer i) { config with
        phase := Function.update config.phase i ((resumers i).onValidate checkpoint) }
  | take {config : StoreConfig B ι} (i : ι) {checkpoint : AgentCheckpoint B}
      {state : AgentState B} {store : InMemoryCheckpointState B}
      {result : Except CheckpointError (AgentCheckpoint B)}
      (hph : config.phase i = .ready checkpoint state)
      (htake : InMemoryCheckpointStore.take (resumers i).checkpointId config.store =
        (result, store)) :
      StoreStep config (.resumer i) { config with
        store
        phase := Function.update config.phase i ((resumers i).onTake checkpoint state result) }

/-- A run of the protocol, with its steps. -/
inductive StoreRun : StoreConfig B ι → List (StoreConfig B ι × StoreActor ι × StoreConfig B ι) →
    StoreConfig B ι → Prop where
  | nil (config : StoreConfig B ι) : StoreRun config [] config
  | snoc {config config' config'' : StoreConfig B ι} {actor : StoreActor ι}
      {steps : List (StoreConfig B ι × StoreActor ι × StoreConfig B ι)}
      (hrun : StoreRun config steps config') (hstep : StoreStep resumers config' actor config'') :
      StoreRun config (steps ++ [(config', actor, config'')]) config''

end Steps

/-! ## The invariant -/

/-- What holds of the store, of the log and of the calls at every point of a run. -/
structure StoreInv (resumers : ι → Resumer B W) (config : StoreConfig B ι) : Prop where
  /-- A stored value was saved under its own id. -/
  stored : ∀ id checkpoint, config.store.checkpoints[id]? = some checkpoint →
    checkpoint.id = id ∧ checkpoint ∈ config.saved
  disjoint : ∀ id, id ∈ config.store.checkpoints → id ∉ config.store.consumed
  /-- A saved id stays taken: it is stored or consumed. -/
  known : ∀ checkpoint ∈ config.saved,
    checkpoint.id ∈ config.store.checkpoints ∨ checkpoint.id ∈ config.store.consumed
  savedOnce : (config.saved.map AgentCheckpoint.id).Nodup
  /-- A call works on a value that was saved under the id it asked for. -/
  copies : ∀ i checkpoint, (config.phase i).copy = some checkpoint →
    checkpoint.id = (resumers i).checkpointId ∧ checkpoint ∈ config.saved
  executed : ∀ i, (config.phase i).isExecuting = true →
    (resumers i).checkpointId ∈ config.store.consumed
  executedOnce : ∀ i j, (config.phase i).isExecuting = true →
    (config.phase j).isExecuting = true →
    (resumers i).checkpointId = (resumers j).checkpointId → i = j

theorem storeInv_initial (resumers : ι → Resumer B W) : StoreInv resumers .initial where
  stored := fun id checkpoint h => by
    have hnone : (∅ : BTreeMap CheckpointId (AgentCheckpoint B))[id]? = none :=
      Std.TreeMap.getElem?_emptyc
    cases hnone.symm.trans h
  disjoint := fun id _ h => absurd h Std.TreeSet.not_mem_emptyc
  known := fun _ h => absurd h List.not_mem_nil
  savedOnce := List.nodup_nil
  copies := fun _ _ h => nomatch h
  executed := fun _ h => nomatch h
  executedOnce := fun _ _ h => nomatch h

section Preserved

variable {resumers : ι → Resumer B W} {config : StoreConfig B ι} {checkpoint : AgentCheckpoint B}
  {store : InMemoryCheckpointState B} {i : ι} {config' : StoreConfig B ι} {actor : StoreActor ι}
  {steps : List (StoreConfig B ι × StoreActor ι × StoreConfig B ι)}

/-- A saved checkpoint enters under a fresh id. -/
theorem StoreInv.save (h : StoreInv resumers config)
    (hsave : InMemoryCheckpointStore.save checkpoint config.store = (.ok (), store)) :
    StoreInv resumers { config with store, saved := config.saved ++ [checkpoint] } := by
  obtain ⟨hnotStored, hnotConsumed, rfl⟩ := InMemoryCheckpointStore.save_ok hsave
  have hfr : ∀ other ∈ config.saved, other.id ≠ checkpoint.id := by
    intro other hoth heq
    rcases h.known other hoth with hmem | hmem
    · exact hnotStored (heq ▸ hmem)
    · exact hnotConsumed (heq ▸ hmem)
  refine ⟨?_, ?_, ?_, ?_, ?_, h.executed, h.executedOnce⟩
  · intro id stored hstd
    dsimp only at hstd
    rw [Std.TreeMap.getElem?_insert] at hstd
    split at hstd
    · next heq =>
      cases hstd
      exact ⟨Std.LawfulEqOrd.compare_eq_iff_eq.mp heq, by simp⟩
    · obtain ⟨hid, hmem⟩ := h.stored id stored hstd
      exact ⟨hid, List.mem_append_left _ hmem⟩
  · intro id hid hcons
    rcases Std.TreeMap.mem_insert.mp hid with heq | hid
    · rw [← Std.LawfulEqOrd.compare_eq_iff_eq.mp heq] at hcons
      exact hnotConsumed hcons
    · exact h.disjoint id hid hcons
  · intro other hoth
    rcases List.mem_append.mp hoth with hoth | hoth
    · rcases h.known other hoth with hmem | hmem
      · exact .inl (Std.TreeMap.mem_insert.mpr (.inr hmem))
      · exact .inr hmem
    · cases List.mem_singleton.mp hoth
      exact .inl (Std.TreeMap.mem_insert.mpr (.inl Std.ReflCmp.compare_self))
  · rw [List.map_append]
    refine List.nodup_append.mpr ⟨h.savedOnce, List.nodup_singleton _, ?_⟩
    intro id hid other hoth heq
    obtain ⟨earlier, hear, rfl⟩ := List.mem_map.mp hid
    cases List.mem_singleton.mp hoth
    exact hfr earlier hear heq
  · intro i copy hcopy
    obtain ⟨hid, hmem⟩ := h.copies i copy hcopy
    exact ⟨hid, List.mem_append_left _ hmem⟩

variable [DecidableEq ι]

/-- A call that does not start executing may go on with any value that was saved under the id
it asked for. -/
theorem StoreInv.setPhase {phase : ResumerPhase B} (h : StoreInv resumers config)
    (hcopy : ∀ checkpoint, phase.copy = some checkpoint →
      checkpoint.id = (resumers i).checkpointId ∧ checkpoint ∈ config.saved)
    (hph : phase.isExecuting = false) :
    StoreInv resumers { config with phase := Function.update config.phase i phase } := by
  have hold : ∀ j, (Function.update config.phase i phase j).isExecuting = true →
      (config.phase j).isExecuting = true := by
    intro j hj
    by_cases hji : j = i
    · subst hji
      rw [Function.update_self, hph] at hj
      cases hj
    · rwa [Function.update_of_ne hji] at hj
  refine ⟨h.stored, h.disjoint, h.known, h.savedOnce, ?_, ?_, ?_⟩
  · intro j checkpoint hj
    by_cases hji : j = i
    · subst hji
      dsimp only at hj
      rw [Function.update_self] at hj
      exact hcopy checkpoint hj
    · dsimp only at hj
      rw [Function.update_of_ne hji] at hj
      exact h.copies j checkpoint hj
  · intro j hj
    exact h.executed j (hold j hj)
  · intro j k hj hk hid
    exact h.executedOnce j k (hold j hj) (hold k hk) hid

/-- The call that takes a checkpoint is the first and only one to execute it. -/
theorem StoreInv.take {taken : AgentCheckpoint B} {state : AgentState B}
    (h : StoreInv resumers config) (hph : config.phase i = .ready checkpoint state)
    (htake : InMemoryCheckpointStore.take (resumers i).checkpointId config.store =
      (.ok taken, store)) :
    StoreInv resumers { config with
      store, phase := Function.update config.phase i (.executing checkpoint state) } := by
  obtain ⟨hget, rfl⟩ := InMemoryCheckpointStore.take_ok htake
  have hpresent : (resumers i).checkpointId ∈ config.store.checkpoints :=
    Std.TreeMap.mem_iff_isSome_getElem?.mpr (by rw [hget]; rfl)
  have hfst : ∀ j, (config.phase j).isExecuting = true →
      (resumers j).checkpointId ≠ (resumers i).checkpointId := by
    intro j hj heq
    exact h.disjoint _ hpresent (heq ▸ h.executed j hj)
  refine ⟨?_, ?_, ?_, h.savedOnce, ?_, ?_, ?_⟩
  · intro id stored hstd
    dsimp only at hstd
    rw [Std.TreeMap.getElem?_erase] at hstd
    split at hstd
    · cases hstd
    · exact h.stored id stored hstd
  · intro id hid hcons
    obtain ⟨hne, hid⟩ := Std.TreeMap.mem_erase.mp hid
    rcases Std.TreeSet.mem_insert.mp hcons with heq | hcons
    · exact hne heq
    · exact h.disjoint id hid hcons
  · intro saved hsav
    by_cases heq : compare (resumers i).checkpointId saved.id = .eq
    · exact .inr (Std.TreeSet.mem_insert.mpr (.inl heq))
    · rcases h.known saved hsav with hmem | hmem
      · exact .inl (Std.TreeMap.mem_erase.mpr ⟨heq, hmem⟩)
      · exact .inr (Std.TreeSet.mem_insert.mpr (.inr hmem))
  · intro j copy hcopy
    dsimp only at hcopy
    by_cases hji : j = i
    · subst hji
      rw [Function.update_self] at hcopy
      cases hcopy
      exact h.copies j checkpoint (by rw [hph]; rfl)
    · rw [Function.update_of_ne hji] at hcopy
      exact h.copies j copy hcopy
  · intro j hj
    dsimp only at hj
    by_cases hji : j = i
    · subst hji
      exact Std.TreeSet.mem_insert.mpr (.inl Std.ReflCmp.compare_self)
    · rw [Function.update_of_ne hji] at hj
      exact Std.TreeSet.mem_insert.mpr (.inr (h.executed j hj))
  · intro j k hj hk hid
    dsimp only at hj hk
    by_cases hji : j = i <;> by_cases hki : k = i
    · rw [hji, hki]
    · subst hji
      rw [Function.update_of_ne hki] at hk
      exact absurd hid.symm (hfst k hk)
    · subst hki
      rw [Function.update_of_ne hji] at hj
      exact absurd hid (hfst j hj)
    · rw [Function.update_of_ne hji] at hj
      rw [Function.update_of_ne hki] at hk
      exact h.executedOnce j k hj hk hid

theorem storeStep_inv (h : StoreInv resumers config)
    (hstep : StoreStep resumers config actor config') : StoreInv resumers config' := by
  cases hstep with
  | save checkpoint hsave => exact h.save hsave
  | saveFailed hsave =>
    cases InMemoryCheckpointStore.save_error hsave
    exact h
  | poison =>
    exact ⟨h.stored, h.disjoint, h.known, h.savedOnce, h.copies, h.executed, h.executedOnce⟩
  | @load i store result hph hload =>
    cases result with
    | ok checkpoint =>
      obtain ⟨hget, rfl⟩ := InMemoryCheckpointStore.load_ok hload
      refine h.setPhase (fun copy hcopy => ?_) rfl
      cases hcopy
      exact h.stored _ checkpoint hget
    | error source =>
      have hsto : store = config.store := by
        rw [← InMemoryCheckpointStore.load_snd (resumers i).checkpointId config.store, hload]
      subst hsto
      exact h.setPhase (fun copy hcopy => nomatch hcopy) rfl
  | @validate i checkpoint hph =>
    have hcopies := h.copies i checkpoint (by rw [hph]; rfl)
    unfold Resumer.onValidate
    split
    · exact h.setPhase (fun copy hcopy => nomatch hcopy) rfl
    · split
      · exact h.setPhase (fun copy hcopy => nomatch hcopy) rfl
      · refine h.setPhase (fun copy hcopy => ?_) rfl
        cases hcopy
        exact hcopies
  | @take i checkpoint state store result hph htake =>
    cases result with
    | ok taken => exact h.take hph htake
    | error source =>
      cases InMemoryCheckpointStore.take_error htake
      exact h.setPhase (fun copy hcopy => nomatch hcopy) rfl

theorem storeRun_inv (hrun : StoreRun resumers config steps config') (h : StoreInv resumers config) :
    StoreInv resumers config' := by
  induction hrun with
  | nil => exact h
  | snoc _ hstep ih => exact storeStep_inv ih hstep

/-! ## A refused call -/

/-- A step of a call changes the store only when it gets past `take`. -/
theorem storeStep_store (hstep : StoreStep resumers config (.resumer i) config') :
    config'.store = config.store ∨ (config'.phase i).isExecuting = true := by
  cases hstep with
  | @load _ store result hph hload =>
    left
    rw [← InMemoryCheckpointStore.load_snd (resumers i).checkpointId config.store, hload]
  | validate => exact .inl rfl
  | @take _ checkpoint state store result hph htake =>
    cases result with
    | ok taken =>
      right
      dsimp only
      rw [Function.update_self]
      rfl
    | error source => exact .inl (InMemoryCheckpointStore.take_error htake)

/-- A call that got past `take` stays past it. -/
theorem storeStep_executing (hstep : StoreStep resumers config actor config')
    (hi : (config.phase i).isExecuting = true) : (config'.phase i).isExecuting = true := by
  have hkeep : ∀ j phase, (config.phase j).isExecuting = false →
      (Function.update config.phase j phase i).isExecuting = true := by
    intro j phase hj
    by_cases hij : i = j
    · subst hij
      rw [hi] at hj
      cases hj
    · rwa [Function.update_of_ne hij]
  cases hstep with
  | save => exact hi
  | saveFailed => exact hi
  | poison => exact hi
  | load i hph => exact hkeep _ _ (by rw [hph]; rfl)
  | validate i hph => exact hkeep _ _ (by rw [hph]; rfl)
  | take i hph => exact hkeep _ _ (by rw [hph]; rfl)

/-- If a call has changed the store at some step of a run, it is past `take` at its end. -/
theorem storeRun_changed (hrun : StoreRun resumers config steps config')
    {before after : StoreConfig B ι} (hstep : (before, StoreActor.resumer i, after) ∈ steps)
    (hchan : after.store ≠ before.store) : (config'.phase i).isExecuting = true := by
  induction hrun with
  | nil => cases hstep
  | snoc _ hlast ih =>
    rcases List.mem_append.mp hstep with hstep | hstep
    · exact storeStep_executing hlast (ih hstep)
    · cases List.mem_singleton.mp hstep
      exact (storeStep_store hlast).resolve_left hchan

end Preserved

/-! ## What the protocol guarantees -/

/-- Every interleaving of resumes and saves on a fresh store: an id gets past `take` once and
cannot be saved again, a refused call has not changed the store, what is executed is the one
value saved under the requested id, and stored and consumed ids stay apart. -/
theorem checkpoint_executed_at_most_once [DecidableEq ι] (resumers : ι → Resumer B W)
    {steps : List (StoreConfig B ι × StoreActor ι × StoreConfig B ι)} {config : StoreConfig B ι}
    (hrun : StoreRun resumers .initial steps config) :
    ((∀ i j, (config.phase i).isExecuting = true → (config.phase j).isExecuting = true →
        (resumers i).checkpointId = (resumers j).checkpointId → i = j) ∧
      ∀ checkpoint : AgentCheckpoint B,
        checkpoint.id ∈ config.store.checkpoints ∨ checkpoint.id ∈ config.store.consumed →
        InMemoryCheckpointStore.save checkpoint config.store =
          (.error (if config.store.poisoned then .storeUnavailable else .duplicate checkpoint.id),
            config.store)) ∧
    (∀ i error, config.phase i = .failed error →
      ∀ before after, (before, StoreActor.resumer i, after) ∈ steps → after.store = before.store) ∧
    (∀ i checkpoint state, config.phase i = .executing checkpoint state →
      checkpoint.id = (resumers i).checkpointId ∧ checkpoint ∈ config.saved ∧
        ∀ other ∈ config.saved, other.id = checkpoint.id → other = checkpoint) ∧
    ∀ id, id ∈ config.store.checkpoints → id ∉ config.store.consumed := by
  have hinv := storeRun_inv hrun (storeInv_initial resumers)
  refine ⟨⟨hinv.executedOnce, fun checkpoint htkn => ?_⟩, fun i error hfail before after hstep => ?_,
    fun i checkpoint state hexec => ?_, hinv.disjoint⟩
  · rw [InMemoryCheckpointStore.save_apply]
    cases hpoisoned : config.store.poisoned with
    | true => simp
    | false =>
      have hdupl : (config.store.checkpoints.contains checkpoint.id ||
          config.store.consumed.contains checkpoint.id) = true := by
        rw [Bool.or_eq_true]
        exact htkn
      rw [hdupl]
      simp
  · by_contra hchan
    have hexec := storeRun_changed hrun hstep hchan
    rw [hfail] at hexec
    cases hexec
  · obtain ⟨hid, hsav⟩ := hinv.copies i checkpoint (by rw [hexec]; rfl)
    refine ⟨hid, hsav, fun other hoth heq => ?_⟩
    exact List.inj_on_of_nodup_map hinv.savedOnce hoth hsav heq

/-! A checkpoint of the scripted agent and a call that asks for it. -/

namespace Script

def checkpoint : AgentCheckpoint Tally where
  id := ⟨⟨7⟩⟩
  graphId := definition.id
  graphVersion := definition.version
  stateSchemaVersion := .initial
  runId := ⟨⟨1⟩⟩
  position := ⟨⟨.MIN⟩, doneId⟩
  state := .new {}
  budget := { maxSteps := ⟨5, by decide⟩, maxDuration := 0 }
  usage := { steps := 1 }
  visited := [workId]
  effectReceipts := []
  suspend := ⟨.approval, ()⟩
  trace := {}

def resumer : Resumer Tally Script where
  graph := graph ⟨5, by decide⟩
  schemaVersion := .initial
  checkpointId := checkpoint.id
  input := (4 : Nat)

end Script

/-- Two calls load the same checkpoint, and the second comes too late. -/
theorem checkpoint_executed_at_most_once_scripted :
    ∃ steps config,
      StoreRun (fun _ : Bool => Script.resumer) .initial steps config ∧
      (config.phase false).isExecuting = true ∧ config.phase true =
        .failed (.checkpointAlreadyConsumed Script.checkpoint.id) ∧
      ∀ i j, (config.phase i).isExecuting = true → (config.phase j).isExecuting = true → i = j := by
  have hsta : StoreRun (fun _ : Bool => Script.resumer) .initial [] .initial := .nil _
  have hsav := hsta.snoc (.save Script.checkpoint rfl)
  have hldd := hsav.snoc (.load false rfl rfl)
  have hraced := hldd.snoc (.load true rfl rfl)
  have hvalid := hraced.snoc (.validate false rfl)
  have hboth := hvalid.snoc (.validate true rfl)
  have htkn := hboth.snoc (.take false rfl rfl)
  have hlate := htkn.snoc (.take true rfl rfl)
  exact ⟨_, _, hlate, rfl, rfl, fun i j hi hj =>
    (checkpoint_executed_at_most_once _ hlate).1.1 i j hi hj rfl⟩

/-! ## The function behind the protocol -/

/-- `resume_with_context` on the in-memory store is its resumer's steps, taken without
interruption, followed by the execution of the resumer's copy. -/
theorem resumeWithContext_steps [DecidableEq ι] {resumers : ι → Resumer B W}
    {runtime : GraphRuntime B W (InMemoryCheckpointState B)} {watch : Interruption W} {fuel : Nat}
    {checkpointId : CheckpointId} {input : ResumeInput B} {trace : RunTrace}
    {shared shared' : Shared B W (InMemoryCheckpointState B)}
    {result : Except (ResumeError B) (Execution B)}
    (hstore : runtime.checkpointStore = some (InMemoryCheckpointStore.store B))
    (h : resumeWithContext runtime watch fuel checkpointId input trace shared = (result, shared'))
    {config : StoreConfig B ι} {i : ι} (hsto : config.store = shared.store)
    (hph : config.phase i = .loading)
    (hres : resumers i = ⟨runtime.graph, stateSchemaVersion B, checkpointId, input⟩) :
    ∃ steps config', StoreRun resumers config steps config' ∧
      ((∃ error, config'.phase i = .failed error ∧ result = .error error ∧
          config'.store = shared'.store) ∨
        ∃ checkpoint state outcome, config'.phase i = .executing checkpoint state ∧
          executeFrom runtime (checkpoint.context trace) watch true fuel
            (resumeVars checkpoint state)
            { shared with store := config'.store, usage := checkpoint.usage } =
              (outcome, shared') ∧
          result = outcome.mapError .runFailed) := by
  have hid : (resumers i).checkpointId = checkpointId := by rw [hres]
  have hload : ∀ {loaded : Except CheckpointError (AgentCheckpoint B)} {st},
      InMemoryCheckpointStore.load checkpointId shared.store = (loaded, st) →
      StoreStep resumers config (.resumer i) { config with
        store := st, phase := Function.update config.phase i (Resumer.onLoad loaded) } := by
    intro loaded st hldd
    exact .load i hph (by rw [hid, hsto, hldd])
  have hval : ∀ {checkpoint : AgentCheckpoint B} {st},
      InMemoryCheckpointStore.load checkpointId shared.store = (.ok checkpoint, st) →
      ∃ steps config', StoreRun resumers config steps config' ∧ config'.store = st ∧
        config'.phase i = (resumers i).onValidate checkpoint := by
    intro checkpoint st hldd
    refine ⟨_, _, ((StoreRun.nil config).snoc (hload hldd)).snoc
      (.validate i (Function.update_self _ _ _)), rfl, ?_⟩
    exact Function.update_self _ _ _
  cases resumeWithContext_ways hstore h with
  | unloaded hldd =>
    exact ⟨_, _, (StoreRun.nil config).snoc (hload hldd),
      .inl ⟨_, Function.update_self _ _ _, rfl, rfl⟩⟩
  | @unsuitable checkpoint st error hldd hchk =>
    obtain ⟨steps, config', hrun, hst, hfin⟩ := hval hldd
    rw [hres, Resumer.onValidate, hchk] at hfin
    exact ⟨steps, config', hrun, .inl ⟨error, hfin, rfl, hst⟩⟩
  | @inputRejected checkpoint st error hldd hchk hin =>
    obtain ⟨steps, config', hrun, hst, hfin⟩ := hval hldd
    rw [hres, Resumer.onValidate, hchk] at hfin
    dsimp only at hfin
    rw [hin] at hfin
    exact ⟨steps, config', hrun, .inl ⟨error, hfin, rfl, hst⟩⟩
  | @untaken checkpoint st st' state source hldd hchk hin htake =>
    obtain ⟨steps, config', hrun, hst, hfin⟩ := hval hldd
    rw [hres, Resumer.onValidate, hchk] at hfin
    dsimp only at hfin
    rw [hin] at hfin
    have hstep : StoreStep resumers config' (.resumer i) { config' with
        store := st'
        phase := Function.update config'.phase i
          ((resumers i).onTake checkpoint state (.error source)) } :=
      .take i hfin (by rw [hid, hst]; exact htake)
    refine ⟨_, _, hrun.snoc hstep, .inl ⟨_, Function.update_self _ _ _, ?_, rfl⟩⟩
    rw [hid]
  | @executed checkpoint taken st st' state outcome _ hldd hchk hin htake hexe =>
    obtain ⟨steps, config', hrun, hst, hfin⟩ := hval hldd
    rw [hres, Resumer.onValidate, hchk] at hfin
    dsimp only at hfin
    rw [hin] at hfin
    have hstep : StoreStep resumers config' (.resumer i) { config' with
        store := st'
        phase := Function.update config'.phase i
          ((resumers i).onTake checkpoint state (.ok taken)) } :=
      .take i hfin (by rw [hid, hst]; exact htake)
    exact ⟨_, _, hrun.snoc hstep,
      .inr ⟨checkpoint, state, outcome, Function.update_self _ _ _, hexe, rfl⟩⟩

/-- A store in which the checkpoint has been saved. -/
def Script.savedShared : Shared Tally Script (InMemoryCheckpointState Tally) where
  world := suspending
  store := (InMemoryCheckpointStore.save checkpoint InMemoryCheckpointStore.new).2
  uuids := fun n => ⟨BitVec.ofNat 128 n⟩

/-- A call on the store, whatever it comes to. -/
theorem Script.exists_resumed : ∃ result shared', resumeWithContext (runtime ⟨5, by decide⟩) quiet 1
    checkpoint.id (4 : Nat) {} savedShared = (result, shared') :=
  ⟨_, _, rfl⟩

theorem resumeWithContext_steps_scripted : ∃ steps config,
    StoreRun (fun _ : Unit => Script.resumer) ⟨Script.savedShared.store, fun _ => .loading, []⟩
      steps config ∧ config.phase () ≠ .loading := by
  obtain ⟨result, shared', h⟩ := Script.exists_resumed
  obtain ⟨steps, config, hrun, hend⟩ : ∃ steps config,
      StoreRun (fun _ : Unit => Script.resumer) ⟨Script.savedShared.store, fun _ => .loading, []⟩
        steps config ∧ _ := resumeWithContext_steps rfl h rfl (i := ()) rfl rfl
  refine ⟨steps, config, hrun, fun hph => ?_⟩
  obtain ⟨_, hfai, -⟩ | ⟨_, _, _, hexe, -⟩ := hend
  · cases hph.symm.trans hfai
  · cases hph.symm.trans hexe

/-- The state of a run that was suspended at `checkpoint` and whose resume came to `result`: a
refused resume leaves it suspended. -/
def Segment.resumedStateOf {S : Type} (segment : Segment B W S) (checkpoint : AgentCheckpoint B) :
    Except (ResumeError B) (Execution B) → RunState B W S
  | .ok execution => segment.stateOf (.ok execution)
  | .error (.runFailed error) => .failed error
  | .error _ => .suspended checkpoint

/-- `resume` and `resume_with_context` continue the run that the loaded checkpoint belongs to. -/
theorem resumeWithContext_run {S : Type} {runtimes : GraphRuntime B W S → Prop}
    {runtime : GraphRuntime B W S} {store : CheckpointStore B S} {watch : Interruption W}
    {fuel : Nat} {checkpoint : AgentCheckpoint B} {input : ResumeInput B} {trace : RunTrace}
    {shared shared' : Shared B W S} {result : Except (ResumeError B) (Execution B)}
    (hrtm : runtimes runtime) (hsto : runtime.checkpointStore = some store)
    (hload : (store.load checkpoint.id shared.store).1 = .ok checkpoint)
    (h : resumeWithContext runtime watch fuel checkpoint.id input trace shared =
      (result, shared')) :
    Relation.ReflTransGen (Step runtimes) (.suspended checkpoint, shared)
      ((Segment.mk runtime (checkpoint.context trace) true).resumedStateOf checkpoint result,
        shared') := by
  have hels : ∀ st, Relation.ReflTransGen (Step runtimes) (.suspended checkpoint, shared)
      (.suspended checkpoint, { shared with store := st }) := fun st =>
    .single (.elsewhere _ shared shared.world st shared.uuids shared.usage rfl)
  cases resumeWithContext_ways hsto h with
  | unloaded hfai =>
    rw [hfai] at hload
    cases hload
  | @unsuitable _ st error hldd hchk =>
    have herr := checkResumable_error hchk
    cases error with
    | runFailed source => cases herr
    | _ => exact hels st
  | @inputRejected _ st error hldd hchk hin =>
    obtain ⟨rejection, rfl⟩ := applyResumeInput_error hin
    exact hels st
  | @untaken _ _ st' _ source hldd hchk hin htake =>
    cases source <;> exact hels st'
  | @executed loaded _ _ st' _ result _ hldd hchk hin htake hexec =>
    rw [hldd] at hload
    cases hload
    have hrun := executeFrom_run runtimes ⟨runtime, checkpoint.context trace, true⟩ hexec
    have hsome : runtime.checkpointStore.isSome = true := by rw [hsto]; rfl
    have hresume : Relation.ReflTransGen (Step runtimes) (.suspended checkpoint, shared) _ :=
      (hels st').tail (.resume _ input trace hrtm hsome hchk hin)
    have hall := hresume.trans hrun
    cases result <;> exact hall

theorem resumeWithContext_run_scripted : ∃ shared' runState,
    Relation.ReflTransGen (Step (Only (Script.runtime ⟨5, by decide⟩)))
      (.suspended Script.checkpoint, Script.savedShared) (runState, shared') := by
  obtain ⟨result, shared', h⟩ := Script.exists_resumed
  exact ⟨shared', _, resumeWithContext_run (only_self _) rfl rfl h⟩

end ServerRS.AgentCore

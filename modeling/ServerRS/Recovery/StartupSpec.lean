import ServerRS.Recovery.Startup
import ServerRS.Spool.CheckpointFits

/-!
# What one recovery does

Wherever the recovery is cut off, the checkpoint has moved over frames that are inserted and
whose hooks have converged, and epochs were ended only behind the checkpoint
(`startupRecovery_wp`).
-/

namespace ServerRS.Recovery

open Lib Spool Stepwise RecoveryIo

variable {M : Type} [SourceMessage M] {settings : HookSettings} {stores : RecoveryStores M}
  {env : SpoolEnv M} {spool : RealtimeMessageSpool}

/-! ## Accounts of the events -/

/-- The frame was inserted and each of its required hooks has converged. -/
def Settled (settings : HookSettings) (events : List (RecoveryEvent M))
    (frame : RecoveredRealtimeSpoolFrame M) : Prop :=
  ∃ outcome hooks, .inserted frame outcome ∈ events ∧
    requiredHookKeys settings frame.message outcome = .ok hooks ∧
    ∀ hook ∈ hooks, .converged frame hook ∈ events

/-- What the events of a recovery say when its frames were `start` and those that are not
yet covered by the checkpoint are `pending`. -/
structure Accounted (settings : HookSettings) (start pending : List (RecoveredRealtimeSpoolFrame M))
    (events : List (RecoveryEvent M)) : Prop where
  settled : ∃ done, start = done ++ pending ∧ ∀ frame ∈ done, Settled settings events frame
  finalizing : ∀ claim, .finalizing claim ∈ events → claim.epoch.status = .connected ∧
    ∀ frame ∈ pending, frame.connectionEpochId ≠ claim.epoch.connectionEpochId
  finishing : ∀ claim, .finishing claim ∈ events → claim.epoch.status = .connecting ∧
    ∀ frame ∈ start, frame.connectionEpochId ≠ claim.epoch.connectionEpochId

/-- The events end no epoch. -/
def EndsNone (events : List (RecoveryEvent M)) : Prop :=
  ∀ claim, .finalizing claim ∉ events ∧ .finishing claim ∉ events

theorem Settled.mono {events more : List (RecoveryEvent M)} {frame : RecoveredRealtimeSpoolFrame M}
    (h : Settled settings events frame) (hsub : events ⊆ more) : Settled settings more frame := by
  obtain ⟨outcome, hooks, hinsd, hhooks, hconv⟩ := h
  exact ⟨outcome, hooks, hsub hinsd, hhooks, fun hook hhook => hsub (hconv hook hhook)⟩

namespace Accounted

variable {start pending : List (RecoveredRealtimeSpoolFrame M)} {events more : List (RecoveryEvent M)}

theorem nil (start : List (RecoveredRealtimeSpoolFrame M)) : Accounted settings start start [] :=
  ⟨⟨[], rfl, fun _ h => absurd h List.not_mem_nil⟩, fun _ h => absurd h List.not_mem_nil,
    fun _ h => absurd h List.not_mem_nil⟩

theorem extend (h : Accounted settings start pending events) (hnone : EndsNone more) :
    Accounted settings start pending (events ++ more) := by
  obtain ⟨done, hsta, hdone⟩ := h.settled
  refine ⟨⟨done, hsta, fun frame hfrm => (hdone frame hfrm).mono (List.subset_append_left ..)⟩,
      fun claim hcl => ?_,
    fun claim hcl => ?_⟩
  · exact h.finalizing claim ((List.mem_append.mp hcl).resolve_right (hnone claim).1)
  · exact h.finishing claim ((List.mem_append.mp hcl).resolve_right (hnone claim).2)

/-- The checkpoint passes a frame that is settled. -/
theorem pass {frame : RecoveredRealtimeSpoolFrame M}
    (h : Accounted settings start (frame :: pending) events) (hfrm : Settled settings events frame) :
    Accounted settings start pending events := by
  obtain ⟨done, hsta, hdone⟩ := h.settled
  refine ⟨⟨done ++ [frame], by rw [hsta, List.append_assoc]; rfl, fun other hoth => ?_⟩,
    fun claim hcl => ?_, h.finishing⟩
  · rcases List.mem_append.mp hoth with hoth | hoth
    · exact hdone other hoth
    · obtain rfl := List.mem_singleton.mp hoth
      exact hfrm
  · exact (h.finalizing claim hcl).imp_right fun hnot other hoth =>
      hnot other (List.mem_cons_of_mem _ hoth)

variable {claim : ClaimedLegacyRealtimeSpoolEpoch}

theorem finalize (h : Accounted settings start pending events)
    (hstat : claim.epoch.status = .connected)
    (hcov : ∀ frame ∈ pending, frame.connectionEpochId ≠ claim.epoch.connectionEpochId) :
    Accounted settings start pending (events ++ [.finalizing claim]) := by
  obtain ⟨done, hsta, hdone⟩ := h.settled
  refine ⟨⟨done, hsta, fun frame hfrm => (hdone frame hfrm).mono (List.subset_append_left ..)⟩,
      fun other hoth => ?_,
    fun other hoth => ?_⟩
  · rcases List.mem_append.mp hoth with hoth | hoth
    · exact h.finalizing other hoth
    · cases List.mem_singleton.mp hoth
      exact ⟨hstat, hcov⟩
  · exact h.finishing other ((List.mem_append.mp hoth).resolve_right (by simp))

theorem finish (h : Accounted settings start pending events)
    (hstat : claim.epoch.status = .connecting)
    (hnone : ∀ frame ∈ start, frame.connectionEpochId ≠ claim.epoch.connectionEpochId) :
    Accounted settings start pending (events ++ [.finishing claim]) := by
  obtain ⟨done, hsta, hdone⟩ := h.settled
  refine ⟨⟨done, hsta, fun frame hfrm => (hdone frame hfrm).mono (List.subset_append_left ..)⟩,
      fun other hoth => ?_,
    fun other hoth => ?_⟩
  · exact h.finalizing other ((List.mem_append.mp hoth).resolve_right (by simp))
  · rcases List.mem_append.mp hoth with hoth | hoth
    · exact h.finishing other hoth
    · cases List.mem_singleton.mp hoth
      exact ⟨hstat, hnone⟩

end Accounted

/-! ## No failures -/

/-- Every call of the ports succeeds, and a checkpoint fits into its partition. -/
structure NoFailures (env : SpoolEnv M) (stores : RecoveryStores M) : Prop where
  claims : stores.claims.failure = none
  renew : ∀ world claim, stores.renew world claim = .ok ()
  insert : ∀ world message, ∃ outcome rest,
    stores.insertMessagesIfAbsent world [message] = .ok (outcome :: rest)
  message : ∀ world correlation eventId, stores.onMessageIngested world correlation eventId = .ok ()
  artifact : ∀ world artifactId message, stores.createArtifact world artifactId message = .ok ()
  finish : ∀ world claim, stores.finishConnecting world claim = .ok ()
  finalize : ∀ world claim, stores.finalizeConnected world claim = .ok ()
  checkpoints : SmallCheckpoints env

/-! ## Rules for the calls -/

/-- The world after some more events. -/
def RecoveryWorld.extend (world : RecoveryWorld M) (more : List (RecoveryEvent M)) :
    RecoveryWorld M := { world with events := world.events ++ more }

@[simp] theorem RecoveryWorld.extend_nil (world : RecoveryWorld M) : world.extend [] = world := by
  rw [extend, List.append_nil]

@[simp] theorem RecoveryWorld.extend_extend (world : RecoveryWorld M)
    (first second : List (RecoveryEvent M)) :
    (world.extend first).extend second = world.extend (first ++ second) := by
  rw [extend, extend, extend, List.append_assoc]

section

variable {α : Type} {C : RecoveryWorld M → Prop} {Q : α → RecoveryWorld M → Prop}
  {E : RealtimeSpoolFatal → RecoveryWorld M → Prop} {world : RecoveryWorld M}

theorem note_wp {event : RecoveryEvent M} {Q : Unit → RecoveryWorld M → Prop}
    (hdone : C (world.extend [event])) (h : Q () (world.extend [event])) :
    wp (note event) C Q E world := wp_atomic hdone h

theorem ask_wp {ε : Type} {answer : RecoveryWorld M → Except ε α}
    (hok : ∀ a, answer world = .ok a → Q a world)
    (herr : ∀ e, answer world = .error e → E ⟨.reconciliationFailed⟩ world) :
    wp (ask answer) C Q E world := by
  refine wp_get_bind (wp_ofExcept (fun a ha => ?_) fun e he => ?_)
  · cases hans : answer world with
    | ok b =>
      rw [hans] at ha
      cases ha
      exact hok _ hans
    | error e =>
      rw [hans] at ha
      cases ha
  · cases hans : answer world with
    | ok b =>
      rw [hans] at he
      cases he
    | error e' =>
      rw [hans] at he
      cases he
      exact herr e' hans

variable {call : SpoolIo α}

theorem onSpool_wp {C' : SpoolDisk → Prop} {Q' : α → SpoolDisk → Prop}
    {E' : RealtimeMessageSpoolError → SpoolDisk → Prop} (h : wp call C' Q' E' world.disk)
    (hC : ∀ disk, C' disk → C { world with disk })
    (hQ : ∀ a disk, Q' a disk → Q a { world with disk })
    (hE : ∀ e disk, E' e disk → E ⟨e.kind⟩ { world with disk }) : wp (onSpool call) C Q E world :=
  wp_zoom (wp_mapError (wp_mono h hC hQ hE))

/-- A call that only reads. -/
theorem onSpool_of_pure {a : α} (h : call world.disk = ⟨.ok a, world.disk, []⟩) :
    onSpool call world = ⟨.ok a, world, []⟩ := by
  rw [onSpool, zoom, mapError, h]
  rfl

end

/-! ## Hooks -/

section

variable {C : RecoveryWorld M → Prop} {Q : Unit → RecoveryWorld M → Prop}
  {E : RealtimeSpoolFatal → RecoveryWorld M → Prop} {world : RecoveryWorld M}
  {frame : RecoveredRealtimeSpoolFrame M} {outcome : IngestMessageOutcome}

theorem endsNone_nil : EndsNone ([] : List (RecoveryEvent M)) :=
  fun _ => ⟨List.not_mem_nil, List.not_mem_nil⟩

theorem EndsNone.append {first second : List (RecoveryEvent M)} (h : EndsNone first)
    (h' : EndsNone second) : EndsNone (first ++ second) := fun claim =>
  ⟨fun hmem => (List.mem_append.mp hmem).elim (h claim).1 (h' claim).1,
    fun hmem => (List.mem_append.mp hmem).elim (h claim).2 (h' claim).2⟩

theorem endsNone_firing (hook : RealtimeSpoolHookKey) : EndsNone [.firing frame hook] :=
  fun _ => ⟨by simp, by simp⟩

theorem endsNone_converged (hook : RealtimeSpoolHookKey) :
    EndsNone [.firing frame hook, .converged frame hook] := fun _ => ⟨by simp, by simp⟩

variable {hooks : List RealtimeSpoolHookKey}

theorem maybeApplyPendingRecall_wp (hhooks : recallHooks settings frame.message = .ok hooks)
    (hpt : ∀ more, EndsNone more → C (world.extend more))
    (hdone : ∀ more, EndsNone more → (∀ hook ∈ hooks, .converged frame hook ∈ more) →
      Q () (world.extend more))
    (herr : ∀ e more, EndsNone more → ¬NoFailures env stores → E e (world.extend more)) :
    wp (maybeApplyPendingRecall settings stores frame outcome) C Q E world := by
  rw [recallHooks] at hhooks
  rw [maybeApplyPendingRecall]
  split at hhooks
  · next henab =>
    rw [if_pos henab]
    cases hcor : correlationOf frame.message with
    | error e =>
      rw [hcor] at hhooks
      cases hhooks
    | ok correlation =>
      rw [hcor] at hhooks
      cases hhooks
      refine wp_bind (note_wp (hpt _ (endsNone_firing _)) ?_)
      refine wp_bind (ask_wp (fun _ _ => ?_) fun e he => ?_)
      · refine note_wp ?_ ?_
        · rw [RecoveryWorld.extend_extend]
          exact hpt _ (endsNone_converged _)
        · rw [RecoveryWorld.extend_extend]
          exact hdone _ (endsNone_converged _) (by simp)
      · refine herr _ _ (endsNone_firing _) fun hheal => ?_
        rw [hheal.message] at he
        cases he
  · next hdis =>
    rw [if_neg hdis]
    cases hhooks
    have h := hdone [] endsNone_nil fun _ h => absurd h List.not_mem_nil
    rw [RecoveryWorld.extend_nil] at h
    exact wp_pure h

theorem createArtifacts_wp (artifactIds : List ArtifactId)
    (hpt : ∀ more, EndsNone more → C (world.extend more)) (hdone : ∀ more, EndsNone more →
      (∀ artifactId ∈ artifactIds, .converged frame (.artifact artifactId) ∈ more) →
        Q () (world.extend more))
    (herr : ∀ e more, EndsNone more → ¬NoFailures env stores → E e (world.extend more)) :
    wp (createArtifacts stores frame artifactIds) C Q E world := by
  induction artifactIds generalizing world with
  | nil =>
    have h := hdone [] endsNone_nil fun _ h => absurd h List.not_mem_nil
    rw [RecoveryWorld.extend_nil] at h
    exact wp_pure h
  | cons artifactId rest ih =>
    rw [createArtifacts]
    refine wp_bind (note_wp (hpt _ (endsNone_firing _)) ?_)
    refine wp_bind (ask_wp (fun _ _ => ?_) fun e he => ?_)
    · have hfst : EndsNone [.firing frame (.artifact artifactId),
          .converged frame (.artifact artifactId)] := endsNone_converged _
      refine wp_bind (note_wp ?_ ?_)
      · rw [RecoveryWorld.extend_extend]
        exact hpt _ hfst
      rw [RecoveryWorld.extend_extend]
      refine ih (fun more hmore => ?_) (fun more hmore hall => ?_) fun e more hmore hfail => ?_
      · rw [RecoveryWorld.extend_extend]
        exact hpt _ (hfst.append hmore)
      · rw [RecoveryWorld.extend_extend]
        refine hdone _ (hfst.append hmore) fun other hoth => ?_
        rcases List.mem_cons.mp hoth with rfl | hoth
        · simp
        · exact List.mem_append_right _ (hall other hoth)
      · rw [RecoveryWorld.extend_extend]
        exact herr e _ (hfst.append hmore) hfail
    · refine herr _ _ (endsNone_firing _) fun hheal => ?_
      rw [hheal.artifact] at he
      cases he

theorem maybeCreateArtifacts_wp (hpt : ∀ more, EndsNone more → C (world.extend more))
    (hdone : ∀ more, EndsNone more →
      (∀ hook ∈ artifactHooks settings frame.message outcome, .converged frame hook ∈ more) →
        Q () (world.extend more))
    (herr : ∀ e more, EndsNone more → ¬NoFailures env stores → E e (world.extend more)) :
    wp (maybeCreateArtifacts settings stores frame outcome) C Q E world := by
  rw [maybeCreateArtifacts]
  rw [artifactHooks] at hdone
  split at hdone
  · next henab =>
    rw [if_pos henab]
    refine createArtifacts_wp _ hpt (fun more hmore hall => hdone more hmore ?_) herr
    intro hook hhook
    obtain ⟨artifactId, hmem, rfl⟩ := List.mem_map.mp hhook
    exact hall artifactId hmem
  · next hdis =>
    rw [if_neg hdis]
    have h := hdone [] endsNone_nil fun _ h => absurd h List.not_mem_nil
    rw [RecoveryWorld.extend_nil] at h
    exact wp_pure h

theorem firePostHooks_wp (hhooks : requiredHookKeys settings frame.message outcome = .ok hooks)
    (hpt : ∀ more, EndsNone more → C (world.extend more))
    (hdone : ∀ more, EndsNone more → (∀ hook ∈ hooks, .converged frame hook ∈ more) →
      Q () (world.extend more))
    (herr : ∀ e more, EndsNone more → ¬NoFailures env stores → E e (world.extend more)) :
    wp (firePostHooks settings stores frame outcome) C Q E world := by
  rw [requiredHookKeys] at hhooks
  cases hrec : recallHooks settings frame.message with
  | error e =>
    rw [hrec] at hhooks
    cases hhooks
  | ok recalled =>
    rw [hrec] at hhooks
    cases hhooks
    rw [firePostHooks]
    refine wp_bind (maybeApplyPendingRecall_wp hrec hpt (fun first hfst hall => ?_) herr)
    refine maybeCreateArtifacts_wp (fun more hmore => ?_) (fun more hmore hall' => ?_)
      fun e more hmore (hfail : ¬NoFailures env stores) => ?_
    · rw [RecoveryWorld.extend_extend]
      exact hpt _ (hfst.append hmore)
    · rw [RecoveryWorld.extend_extend]
      refine hdone _ (hfst.append hmore) fun hook hhook => ?_
      exact List.mem_append.mpr ((List.mem_append.mp hhook).imp (hall hook) (hall' hook))
    · rw [RecoveryWorld.extend_extend]
      exact herr e _ (hfst.append hmore) hfail

end

end ServerRS.Recovery

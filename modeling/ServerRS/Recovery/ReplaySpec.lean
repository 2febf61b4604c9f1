import ServerRS.Recovery.StartupSpec
import ServerRS.Spool.Receipts

/-!
# The loops of the recovery

The checks before the first write pass unless the recovery has to stop (`FailsClosed`). Then
every round of the first loop moves the checkpoint over the frame that it has settled
(`replayFrame_wp`), and the second loop ends the epochs behind the checkpoint
(`finishEpochs_wp`).
-/

namespace ServerRS.Recovery

open Lib Spool Stepwise RecoveryIo

variable {M : Type} [SourceMessage M] {settings : HookSettings} {stores : RecoveryStores M}
  {env : SpoolEnv M} {spool : RealtimeMessageSpool} {account : SourceAccountRef}

/-! ## The checks -/

/-- What makes the recovery stop before its first write: a frame without a claim, a frame of
a connecting epoch, a frame of another account than its epoch, or an epoch that has ended. -/
inductive FailsClosed (account : SourceAccountRef) (frames : List (RecoveredRealtimeSpoolFrame M))
    (claims : List ClaimedLegacyRealtimeSpoolEpoch) : Prop where
  | unclaimed (frame) (hfrm : frame ∈ frames)
    (hnone : ∀ claim ∈ claims, claim.epoch.connectionEpochId = frame.connectionEpochId →
      claim.epoch.account ≠ account)
  | connecting (claim) (hcl : claim ∈ claims) (hstat : claim.epoch.status = .connecting)
    (frame) (hfrm : frame ∈ frames) (hown : frame.connectionEpochId = claim.epoch.connectionEpochId)
  | otherAccount (claim) (hcl : claim ∈ claims) (frame) (hfrm : frame ∈ frames)
    (hown : frame.connectionEpochId = claim.epoch.connectionEpochId)
    (hacc : (SourceMessage.source frame.message).accountRef ≠ claim.epoch.account)
  | terminal (claim) (hcl : claim ∈ claims) (hcon : claim.epoch.status ≠ .connecting)
    (hconnected : claim.epoch.status ≠ .connected)

section

variable {frames : List (RecoveredRealtimeSpoolFrame M)}
  {claims : List ClaimedLegacyRealtimeSpoolEpoch} {claim : ClaimedLegacyRealtimeSpoolEpoch}
  {frame : RecoveredRealtimeSpoolFrame M}

theorem mem_ownedFrames :
    frame ∈ ownedFrames frames claim ↔
      frame ∈ frames ∧ frame.connectionEpochId = claim.epoch.connectionEpochId := by
  rw [ownedFrames, List.mem_filter, decide_eq_true_iff]

theorem hasClaim_iff :
    hasClaim account claims frame = true ↔ ∃ claim ∈ claims,
      claim.epoch.connectionEpochId = frame.connectionEpochId ∧ claim.epoch.account = account := by
  simp only [hasClaim, List.any_eq_true, Bool.and_eq_true, decide_eq_true_iff]

/-- When the plan of a claim stops the recovery. -/
theorem isGlobalFailClosed_forClaim_iff :
    (LegacyRealtimeSpoolRecoveryPlan.forClaim claim (ownedFrames frames claim)).isGlobalFailClosed =
      true ↔
      (∃ frame ∈ frames, frame.connectionEpochId = claim.epoch.connectionEpochId ∧
        (claim.epoch.status = .connecting ∨
          (SourceMessage.source frame.message).accountRef ≠ claim.epoch.account)) ∨
      (claim.epoch.status ≠ .connecting ∧ claim.epoch.status ≠ .connected) := by
  rw [LegacyRealtimeSpoolRecoveryPlan.forClaim]
  split
  · next hmism =>
    -- the frames are those of the epoch, so an account differs
    simp only [Bool.not_eq_true', List.all_eq_false, mem_ownedFrames, Bool.and_eq_true,
      decide_eq_true_iff, not_and] at hmism
    obtain ⟨frame, ⟨hfrm, hown⟩, hacc⟩ := hmism
    exact iff_of_true rfl (.inl ⟨frame, hfrm, hown, .inr (hacc hown)⟩)
  · next hmatch =>
    simp only [Bool.not_eq_true', Bool.not_eq_false, List.all_eq_true, mem_ownedFrames,
      Bool.and_eq_true, decide_eq_true_iff] at hmatch
    have haccounts : ∀ frame ∈ frames,
        frame.connectionEpochId = claim.epoch.connectionEpochId →
          (SourceMessage.source frame.message).accountRef = claim.epoch.account :=
      fun frame hfrm hown => (hmatch frame ⟨hfrm, hown⟩).2
    cases hstat : claim.epoch.status with
    | connecting =>
      dsimp only
      split
      · next hemp =>
        refine iff_of_false (by simp [LegacyRealtimeSpoolRecoveryPlan.isGlobalFailClosed]) ?_
        rintro (⟨frame, hfrm, hown, -⟩ | ⟨hnot, -⟩)
        · have hmem := mem_ownedFrames.mpr ⟨hfrm, hown⟩
          rw [List.isEmpty_iff.mp hemp] at hmem
          exact List.not_mem_nil hmem
        · exact hnot rfl
      · next hsome =>
        obtain ⟨frame, hfrm⟩ := List.exists_mem_of_ne_nil _ (mt List.isEmpty_iff.mpr hsome)
        rw [mem_ownedFrames] at hfrm
        exact iff_of_true rfl (.inl ⟨frame, hfrm.1, hfrm.2, .inl rfl⟩)
    | connected =>
      refine iff_of_false (by simp [LegacyRealtimeSpoolRecoveryPlan.isGlobalFailClosed]) ?_
      rintro (⟨frame, hfrm, hown, hnot | hacc⟩ | ⟨-, hnot⟩)
      · cases hnot
      · exact hacc (haccounts frame hfrm hown)
      · exact hnot rfl
    | disconnected => exact iff_of_true rfl (.inr ⟨by simp, by simp⟩)
    | shutdown => exact iff_of_true rfl (.inr ⟨by simp, by simp⟩)
    | connectFailed => exact iff_of_true rfl (.inr ⟨by simp, by simp⟩)

/-- The checks find everything that makes the recovery stop. -/
theorem checkPlans_fails (h : FailsClosed account frames claims) :
    checkPlans account frames claims = fatal .recoveryInvariantViolation := by
  rw [checkPlans]
  split
  · rfl
  · next hcld =>
    rw [if_pos]
    rw [List.any_eq_true]
    cases h with
    | unclaimed frame hfrm hnone =>
      refine absurd ?_ hcld
      rw [List.any_eq_true]
      refine ⟨frame, hfrm, ?_⟩
      rw [Bool.not_eq_true', Bool.eq_false_iff, ne_eq, hasClaim_iff]
      rintro ⟨claim, hcl, hown, hacc⟩
      exact hnone claim hcl hown hacc
    | connecting claim hcl hstat frame hfrm hown =>
      exact ⟨claim, hcl, isGlobalFailClosed_forClaim_iff.mpr
        (.inl ⟨frame, hfrm, hown, .inl hstat⟩)⟩
    | otherAccount claim hcl frame hfrm hown hacc =>
      exact ⟨claim, hcl, isGlobalFailClosed_forClaim_iff.mpr
        (.inl ⟨frame, hfrm, hown, .inr hacc⟩)⟩
    | terminal claim hcl hcon hconnected =>
      exact ⟨claim, hcl, isGlobalFailClosed_forClaim_iff.mpr (.inr ⟨hcon, hconnected⟩)⟩

theorem checkPlans_passes (h : ¬FailsClosed account frames claims) :
    checkPlans account frames claims = pure () := by
  rw [checkPlans, if_neg, if_neg]
  · rw [List.any_eq_true]
    rintro ⟨claim, hcl, hplan⟩
    rcases isGlobalFailClosed_forClaim_iff.mp hplan with
      ⟨frame, hfrm, hown, hstat | hacc⟩ | ⟨hcon, hconnected⟩
    · exact h (.connecting claim hcl hstat frame hfrm hown)
    · exact h (.otherAccount claim hcl frame hfrm hown hacc)
    · exact h (.terminal claim hcl hcon hconnected)
  · rw [List.any_eq_true]
    rintro ⟨frame, hfrm, hnone⟩
    rw [Bool.not_eq_true', Bool.eq_false_iff, ne_eq, hasClaim_iff] at hnone
    exact h (.unclaimed frame hfrm fun claim hcl hown hacc =>
      hnone ⟨claim, hcl, hown, hacc⟩)

/-- Behind the checks every frame has its claim. -/
theorem find?_claim_isSome (h : ¬FailsClosed account frames claims) (hfrm : frame ∈ frames) :
    ∃ claim, claims.find? (fun claim =>
      claim.epoch.connectionEpochId = frame.connectionEpochId) = some claim := by
  rw [← Option.isSome_iff_exists, List.find?_isSome]
  by_contra hnone
  simp only [not_exists, not_and, decide_eq_true_iff] at hnone
  exact h (.unclaimed frame hfrm fun claim hcl hown =>
    absurd hown (hnone claim hcl))

/-- Behind the checks every claim can be ended once the frames are covered. -/
theorem claims_end (h : ¬FailsClosed account frames claims) (hcl : claim ∈ claims) :
    claim.epoch.status = .connected ∨ claim.epoch.status = .connecting ∧
      ∀ frame ∈ frames, frame.connectionEpochId ≠ claim.epoch.connectionEpochId := by
  by_cases hconnected : claim.epoch.status = .connected
  · exact .inl hconnected
  by_cases hcon : claim.epoch.status = .connecting
  · exact .inr ⟨hcon, fun frame hfrm hown =>
      h (.connecting claim hcl hcon frame hfrm hown)⟩
  · exact absurd (.terminal claim hcl hcon hconnected) h

end

/-! ## Where the recovery stands -/

/-- The disk holds a log of which these frames are pending. -/
def PendingOn (env : SpoolEnv M) (spool : RealtimeMessageSpool) (pending : List (WalFrame env))
    (disk : SpoolDisk) : Prop :=
  ∃ log, log.pending = pending ∧ Represents False env spool log [] disk

/-- A recovery that found the frames `start` and the events `before` is done with all frames
but `pending`. -/
def Along (settings : HookSettings) (env : SpoolEnv M) (spool : RealtimeMessageSpool)
    (before : List (RecoveryEvent M)) (start : List (RecoveredRealtimeSpoolFrame M))
    (pending : List (WalFrame env)) (world : RecoveryWorld M) : Prop :=
  PendingOn env spool pending world.disk ∧ ∃ new, world.events = before ++ new ∧
    Accounted settings start (pending.map (WalFrame.recovered spool)) new

section

variable {before more : List (RecoveryEvent M)} {start : List (RecoveredRealtimeSpoolFrame M)}
  {pending rest : List (WalFrame env)} {frame : WalFrame env} {world : RecoveryWorld M}

theorem Along.extend (h : Along settings env spool before start pending world)
    (hnone : EndsNone more) : Along settings env spool before start pending (world.extend more) := by
  obtain ⟨hdisk, new, hevs, hacco⟩ := h
  refine ⟨hdisk, new ++ more, ?_, hacco.extend hnone⟩
  rw [← List.append_assoc, ← hevs]
  rfl

variable {disk : SpoolDisk} {claims : List ClaimedLegacyRealtimeSpoolEpoch}
  {claim : ClaimedLegacyRealtimeSpoolEpoch}

/-- The checkpoint is still where it was. -/
theorem Along.repend (h : Along settings env spool before start pending world)
    (hnone : EndsNone more) (hdisk : PendingOn env spool pending disk) :
    Along settings env spool before start pending { world.extend more with disk } :=
  ⟨hdisk, (h.extend hnone).2⟩

/-- The checkpoint has passed the first pending frame, which is settled. -/
theorem Along.pass (h : Along settings env spool before start (frame :: rest) world)
    (hnone : EndsNone more) (hset : Settled settings more (frame.recovered spool))
    (hdisk : PendingOn env spool rest disk) :
    Along settings env spool before start rest { world.extend more with disk } := by
  obtain ⟨-, new, hevs, hacco⟩ := h
  refine ⟨hdisk, new ++ more, ?_, (hacco.extend hnone).pass
    (hset.mono (List.subset_append_right ..))⟩
  rw [← List.append_assoc, ← hevs]
  rfl

/-! ## The frames -/

theorem PendingOn.of_advanced {log : CutLog (WalFrame env)} (hpend : log.pending = frame :: rest)
    (h : Advanced False env spool log [frame.recordId] disk) : PendingOn env spool rest disk := by
  obtain ⟨n, hn, hids, hlog⟩ := h
  refine ⟨_, ?_, hlog⟩
  show log.pending.drop n = rest
  rw [hpend] at hids ⊢
  cases n with
  | zero => cases hids
  | succ n =>
    -- one id is the id of one frame
    rw [List.take_succ_cons, List.map_cons, List.cons.injEq] at hids
    have htake : rest.take n = [] := List.map_eq_nil_iff.mp hids.2.symm
    rw [List.drop_succ_cons]
    conv_rhs => rw [← List.take_append_drop n rest, htake, List.nil_append]

/-- Moving the checkpoint over the first pending frame. -/
theorem passFrame_wp (h : PendingOn env spool (frame :: rest) disk) (nonce : Nonce) :
    wp (spool.advanceCheckpoint env ⟨spool.generationId, [frame.recordId]⟩ nonce)
      (fun disk' => PendingOn env spool (frame :: rest) disk' ∨ PendingOn env spool rest disk')
      (fun _ disk' => PendingOn env spool rest disk' ∧
        (SmallCheckpoints env → TempsGone disk → TempsGone disk'))
      (fun _ disk' => (PendingOn env spool (frame :: rest) disk' ∨ PendingOn env spool rest disk') ∧
        ¬(SmallCheckpoints env ∧ TempsGone disk)) disk := by
  obtain ⟨log, hpend, hlog⟩ := h
  -- without machine crashes every frame counts as durable
  have hsynced := hlog.syncAll_of_no_crash id
  have hpend' : log.syncAll.pending = frame :: rest := hpend
  have hpass := advanceCheckpoint_wp hsynced ⟨spool.generationId, [frame.recordId]⟩ nonce
    (CoversDurable.syncAll _)
  have hwhere : ∀ disk', ((Represents False env spool log.syncAll [] disk' ∧
      disk' .checkpoint = disk .checkpoint) ∨
        Advanced False env spool log.syncAll [frame.recordId] disk') →
      PendingOn env spool (frame :: rest) disk' ∨ PendingOn env spool rest disk' :=
    fun disk' hdisk' => hdisk'.imp (fun hsame => ⟨_, hpend', hsame.1⟩)
      (PendingOn.of_advanced hpend')
  have hdone : ∀ disk', (([frame.recordId] = [] ∧ disk' = disk) ∨
      Advanced False env spool log.syncAll [frame.recordId] disk') →
        PendingOn env spool rest disk' := fun disk' hdisk' =>
    PendingOn.of_advanced hpend' (hdisk'.resolve_left fun hnil => by cases hnil.1)
  by_cases hfits : SmallCheckpoints env ∧ TempsGone disk
  · have hfit := advanceCheckpoint_fits_wp hsynced hfits.1 hfits.2 1 nonce
    rw [hpend', List.take_succ_cons, List.take_zero] at hfit
    exact wp_mono (wp_and hpass hfit) (fun disk' hdisk' => hwhere disk' hdisk'.1)
      (fun _ disk' hdisk' => ⟨hdone disk' hdisk'.1, fun _ _ => hdisk'.2⟩)
      fun _ _ hdisk' => hdisk'.2.elim
  · exact wp_mono hpass hwhere
      (fun _ disk' hdisk' => ⟨hdone disk' hdisk', fun hsmall htemps => absurd ⟨hsmall, htemps⟩ hfits⟩)
      fun _ disk' hdisk' => ⟨hwhere disk' hdisk', hfits⟩

/-- The recovery stands before or behind a frame. -/
def Around (settings : HookSettings) (env : SpoolEnv M) (spool : RealtimeMessageSpool)
    (before : List (RecoveryEvent M)) (start : List (RecoveredRealtimeSpoolFrame M))
    (frame : WalFrame env) (rest : List (WalFrame env)) (world : RecoveryWorld M) : Prop :=
  Along settings env spool before start (frame :: rest) world ∨
    Along settings env spool before start rest world

/-- One round: the frame is inserted, its hooks converge, and the checkpoint passes it. -/
theorem replayFrame_wp (h : Along settings env spool before start (frame :: rest) world)
    (htemps : NoFailures env stores → TempsGone world.disk)
    (hcl : ∃ claim, claims.find? (fun claim => claim.epoch.connectionEpochId =
      (frame.recovered spool).connectionEpochId) = some claim) :
    wp (replayFrame settings stores env spool claims (frame.recovered spool))
      (Around settings env spool before start frame rest)
      (fun _ world' => Along settings env spool before start rest world' ∧
        (NoFailures env stores → TempsGone world'.disk))
      (fun _ world' => Around settings env spool before start frame rest world' ∧
        ¬NoFailures env stores) world := by
  obtain ⟨claim, hcl⟩ := hcl
  have hpt : ∀ more, EndsNone more → Around settings env spool before start frame rest
      (world.extend more) := fun more hmore => .inl (h.extend hmore)
  have hren : EndsNone [RecoveryEvent.renewing (M := M) claim] := fun _ => ⟨by simp, by simp⟩
  have hins : EndsNone [.renewing claim, .inserting (frame.recovered spool)] :=
    fun _ => ⟨by simp, by simp⟩
  rw [replayFrame, hcl]
  refine wp_bind (note_wp (hpt _ hren) ?_)
  refine wp_bind (ask_wp (fun _ _ => ?_) fun e he => ⟨hpt _ hren, fun hheal => ?_⟩)
  swap
  · rw [hheal.renew] at he
    cases he
  refine wp_bind (note_wp ?_ ?_)
  · rw [RecoveryWorld.extend_extend]
    exact hpt _ hins
  rw [RecoveryWorld.extend_extend]
  refine wp_bind (ask_wp (fun outcomes houtc => ?_)
    fun e he => ⟨hpt _ hins, fun hheal => ?_⟩)
  swap
  · obtain ⟨outcome, rest, hok⟩ := hheal.insert
      (world.extend ([.renewing claim] ++ [.inserting (frame.recovered spool)]))
      (frame.recovered spool).message
    rw [hok] at he
    cases he
  cases outcomes with
  | nil =>
    refine wp_throw ⟨hpt _ hins, fun hheal => ?_⟩
    obtain ⟨outcome, rest, hok⟩ := hheal.insert
      (world.extend ([.renewing claim] ++ [.inserting (frame.recovered spool)]))
      (frame.recovered spool).message
    rw [hok] at houtc
    cases houtc
  | cons outcome _ =>
    have hinsd : EndsNone [.renewing claim, .inserting (frame.recovered spool),
        .inserted (frame.recovered spool) outcome] := fun _ => ⟨by simp, by simp⟩
    refine wp_bind (note_wp ?_ ?_)
    · rw [RecoveryWorld.extend_extend]
      exact hpt _ hinsd
    rw [RecoveryWorld.extend_extend]
    obtain ⟨hooks, hhooks⟩ := requiredHookKeys_ok settings outcome (frame.recovered spool).valid
    refine wp_bind (wp_ofExcept (fun hooks' hhooks' => ?_) fun e he => ?_)
    swap
    · rw [hhooks] at he
      cases he
    obtain rfl : hooks = hooks' := Except.ok.inj (hhooks.symm.trans hhooks')
    refine wp_bind (firePostHooks_wp hhooks (fun more hmore => ?_) (fun more hmore hall => ?_)
      fun e more hmore (hfail : ¬NoFailures env stores) => ?_)
    · rw [RecoveryWorld.extend_extend]
      exact hpt _ (hinsd.append hmore)
    · -- the frame is settled, so the checkpoint may pass it
      rw [RecoveryWorld.extend_extend]
      have hnone := hinsd.append hmore
      have hset : Settled settings ([.renewing claim, .inserting (frame.recovered spool),
          .inserted (frame.recovered spool) outcome] ++ more) (frame.recovered spool) :=
        ⟨outcome, hooks, List.mem_append_left _ (by simp), hhooks,
          fun hook hhook => List.mem_append_right _ (hall hook hhook)⟩
      refine wp_get_bind ?_
      rw [checkpointablePrefix_converged]
      refine onSpool_wp (passFrame_wp h.1 _) (fun disk' hdisk' => ?_) (fun _ disk' hdisk' => ?_)
        fun e disk' hdisk' => ⟨?_, fun hheal => ?_⟩
      · exact hdisk'.imp (h.repend hnone) (h.pass hnone hset)
      · exact ⟨h.pass hnone hset hdisk'.1,
          fun hheal => hdisk'.2 hheal.checkpoints (htemps hheal)⟩
      · exact hdisk'.1.imp (h.repend hnone) (h.pass hnone hset)
      · exact hdisk'.2 ⟨hheal.checkpoints, htemps hheal⟩
    · rw [RecoveryWorld.extend_extend]
      exact ⟨hpt _ (hinsd.append hmore), hfail⟩

/-- The loop over the pending frames. -/
theorem replayFrames_wp (h : Along settings env spool before start pending world)
    (htemps : NoFailures env stores → TempsGone world.disk)
    (hclaims : ∀ frame ∈ pending, ∃ claim, claims.find? (fun claim =>
      claim.epoch.connectionEpochId = (frame.recovered spool).connectionEpochId) = some claim) :
    wp (replayFrames settings stores env spool claims (pending.map (WalFrame.recovered spool)))
      (fun world' => ∃ pending', Along settings env spool before start pending' world')
      (fun _ world' => Along settings env spool before start [] world')
      (fun _ world' => (∃ pending', Along settings env spool before start pending' world') ∧
        ¬NoFailures env stores) world := by
  induction pending generalizing world with
  | nil => exact wp_pure h
  | cons frame rest ih =>
    rw [List.map_cons, replayFrames]
    have hsom : ∀ world', Around settings env spool before start frame rest world' →
        ∃ pending', Along settings env spool before start pending' world' :=
      fun world' hwd' => hwd'.elim (fun halong => ⟨_, halong⟩) fun halong => ⟨_, halong⟩
    refine wp_bind (wp_mono (replayFrame_wp h htemps (hclaims frame List.mem_cons_self)) hsom
      (fun _ world' hwd' => ?_) fun e world' hwd' => ⟨hsom world' hwd'.1, hwd'.2⟩)
    exact ih hwd'.1 hwd'.2 fun other hoth => hclaims other (List.mem_cons_of_mem _ hoth)

/-! ## The epochs -/

theorem Along.finalize (h : Along settings env spool before start [] world)
    (hstat : claim.epoch.status = .connected) :
    Along settings env spool before start [] (world.extend [.finalizing claim]) := by
  obtain ⟨hdisk, new, hevs, hacco⟩ := h
  refine ⟨hdisk, new ++ [.finalizing claim], ?_,
    hacco.finalize hstat fun _ hfrm => absurd hfrm List.not_mem_nil⟩
  rw [← List.append_assoc, ← hevs]
  rfl

theorem Along.finish (h : Along settings env spool before start [] world)
    (hstat : claim.epoch.status = .connecting)
    (hnone : ∀ frame ∈ start, frame.connectionEpochId ≠ claim.epoch.connectionEpochId) :
    Along settings env spool before start [] (world.extend [.finishing claim]) := by
  obtain ⟨hdisk, new, hevs, hacco⟩ := h
  refine ⟨hdisk, new ++ [.finishing claim], ?_, hacco.finish hstat hnone⟩
  rw [← List.append_assoc, ← hevs]
  rfl

/-- The loop over the claims, when every frame has been passed. -/
theorem finishEpochs_wp (h : Along settings env spool before start [] world)
    (hends : ∀ claim ∈ claims, claim.epoch.status = .connected ∨
      claim.epoch.status = .connecting ∧
        ∀ frame ∈ start, frame.connectionEpochId ≠ claim.epoch.connectionEpochId) :
    wp (finishEpochs stores claims) (Along settings env spool before start [])
      (fun _ => Along settings env spool before start [])
      (fun _ world' => Along settings env spool before start [] world' ∧ ¬NoFailures env stores)
      world := by
  induction claims generalizing world with
  | nil => exact wp_pure h
  | cons claim rest ih =>
    have hren : Along settings env spool before start [] (world.extend [.renewing claim]) :=
      h.extend fun _ => ⟨by simp, by simp⟩
    have hrest := fun world' (hwd' : Along settings env spool before start [] world') =>
      ih hwd' fun other hoth => hends other (List.mem_cons_of_mem _ hoth)
    rw [finishEpochs]
    refine wp_bind (note_wp hren ?_)
    refine wp_bind (ask_wp (fun _ _ => ?_) fun e he => ⟨hren, fun hheal => ?_⟩)
    swap
    · rw [hheal.renew] at he
      cases he
    rcases hends claim List.mem_cons_self with hstat | ⟨hstat, hnone⟩
    · have hfin := hren.finalize hstat
      rw [hstat]
      refine wp_bind (note_wp hfin ?_)
      refine wp_bind (ask_wp (fun _ _ => hrest _ hfin) fun e he => ⟨hfin, fun hheal => ?_⟩)
      rw [hheal.finalize] at he
      cases he
    · have hfinis := hren.finish hstat hnone
      rw [hstat]
      refine wp_bind (note_wp hfinis ?_)
      refine wp_bind (ask_wp (fun _ _ => hrest _ hfinis) fun e he => ⟨hfinis, fun hheal => ?_⟩)
      rw [hheal.finish] at he
      cases he

end

end ServerRS.Recovery

import ServerRS.Recovery.ReplaySpec

/-!
# Repeated recoveries converge

A process opens the spool and recovers it, any number of times, and every time it may be
cut off, or a call may fail. Whatever happened before, the next recovery covers frames only
behind the database, and without failures it ends with nothing pending
(`recovery_converges`).
-/

namespace ServerRS.Recovery

open Lib Spool Stepwise RecoveryIo

variable {M : Type} [SourceMessage M] {settings : HookSettings} {stores : RecoveryStores M}
  {env : SpoolEnv M} {spool : RealtimeMessageSpool} {account : SourceAccountRef}

/-! ## Histories -/

/-- The disk holds a WAL of any frames, any of them covered by the checkpoint, and possibly
a torn frame at the end. -/
def HoldsLog (env : SpoolEnv M) (disk : SpoolDisk) : Prop :=
  ∃ spool log tail, Represents False env spool log tail disk

/-- A process that opens the spool on this disk finds these frames pending. -/
def Pends (env : SpoolEnv M) (disk : SpoolDisk) (frames : List (RecoveredRealtimeSpoolFrame M)) :
    Prop :=
  ∀ generation, ∃ opened, (RealtimeMessageSpool.open env generation disk).result = .ok opened ∧
    (opened.spool.recoverPending env (RealtimeMessageSpool.open env generation disk).state).result =
      .ok frames

def WalSynced (disk : SpoolDisk) : Prop :=
  ∀ file, disk .wal = some file → file.synced = file.bytes.length

/-- An execution that ends or is cut off anywhere, or a machine crash with a synced WAL. -/
inductive RecoveryStep (env : SpoolEnv M) : RecoveryWorld M → RecoveryWorld M → Prop
  | execution (settings : HookSettings) (stores : RecoveryStores M) (generation : Uuid)
      (account : SourceAccountRef) {world world' : RecoveryWorld M}
      (hreac : Reaches (startupRecovery settings stores env generation account) world world') :
      RecoveryStep env world world'
  | powerLoss {world : RecoveryWorld M} {disk : SpoolDisk} (hsynced : WalSynced world.disk)
      (hcrash : world.disk.Crash disk) : RecoveryStep env world { world with disk }

theorem RecoveryStep.ended (settings : HookSettings) (stores : RecoveryStores M) (generation : Uuid)
    (account : SourceAccountRef) (world : RecoveryWorld M) : RecoveryStep env world
      (startupRecovery settings stores env generation account world).state :=
  .execution settings stores generation account (.inr rfl)

/-- The claims that an execution gets. -/
def RecoveryStores.claimed (stores : RecoveryStores M) : List ClaimedLegacyRealtimeSpoolEpoch :=
  stores.claims.batches.flatten

/-- What holds of an execution that finds the frames `pending`. -/
structure ExecutionSafe (env : SpoolEnv M) (settings : HookSettings) (stores : RecoveryStores M)
    (account : SourceAccountRef) (pending : List (RecoveredRealtimeSpoolFrame M))
    (run : RecoveryIo M Unit) (world : RecoveryWorld M) : Prop where
  /-- Wherever it is found, what it has covered is settled. -/
  accounted : ∀ world', Reaches run world world' → ∃ pending' new,
    Pends env world'.disk pending' ∧ world'.events = world.events ++ new ∧
      Accounted settings pending pending' new
  /-- It stops before its first write. -/
  failsClosed : FailsClosed account pending stores.claimed →
    (∃ fatal, (run world).result = .error fatal ∧
      (stores.claims.failure = none → fatal = ⟨.recoveryInvariantViolation⟩)) ∧
    ∀ world', Reaches run world world' →
      Pends env world'.disk pending ∧ world'.events = world.events
  /-- Without failures it ends with nothing pending. -/
  completes : NoFailures env stores → ¬FailsClosed account pending stores.claimed →
    (run world).result = .ok () ∧ Pends env (run world).state.disk []

/-- Every execution from here is safe. -/
def Recoverable (env : SpoolEnv M) (world : RecoveryWorld M) : Prop :=
  ∃ pending, Pends env world.disk pending ∧ ∀ settings stores generation account,
    ExecutionSafe env settings stores account pending
      (startupRecovery settings stores env generation account) world

/-! ## One execution -/

section

variable {log : CutLog (WalFrame env)} {tail : Bytes} {world : RecoveryWorld M}

theorem pends_of_represents {disk : SpoolDisk} (h : Represents False env spool log tail disk) :
    Pends env disk (log.pending.map (WalFrame.recovered spool)) := by
  intro generation
  have hopen : wp (RealtimeMessageSpool.open env generation) (fun _ => True)
      (fun opened disk' => opened.spool = spool ∧ Represents False env spool log [] disk')
      (fun _ _ => False) disk :=
    open_wp h generation (fun _ _ => trivial) fun disk' hdisk' _ => ⟨rfl, hdisk'⟩
  cases hres : (RealtimeMessageSpool.open env generation disk).result with
  | error e => exact (wp_error hopen hres).elim
  | ok opened =>
    obtain ⟨hspl, hdisk'⟩ := wp_ok hopen hres
    refine ⟨opened, rfl, ?_⟩
    rw [hspl, hdisk'.recoverPending_eq]

/-- The states in which an execution is found. -/
def Somewhere (settings : HookSettings) (env : SpoolEnv M) (spool : RealtimeMessageSpool)
    (before : List (RecoveryEvent M)) (start : List (RecoveredRealtimeSpoolFrame M))
    (world : RecoveryWorld M) : Prop :=
  ∃ log tail new, Represents False env spool log tail world.disk ∧ world.events = before ++ new ∧
    Accounted settings start (log.pending.map (WalFrame.recovered spool)) new

theorem Along.somewhere {before : List (RecoveryEvent M)}
    {start : List (RecoveredRealtimeSpoolFrame M)} {pending : List (WalFrame env)}
    (h : Along settings env spool before start pending world) :
    Somewhere settings env spool before start world := by
  obtain ⟨⟨log, rfl, hlog⟩, new, hevs, hacc⟩ := h
  exact ⟨log, [], new, hlog, hevs, hacc⟩

/-- The recovery that does not have to stop. -/
theorem recover_wp (h : Represents False env spool log [] world.disk) (htemps : TempsGone world.disk)
    (hplans : ¬FailsClosed account (log.pending.map (WalFrame.recovered spool)) stores.claimed) :
    wp (recoverRealtimeSpoolBeforeConnect settings stores env spool account)
      (Somewhere settings env spool world.events (log.pending.map (WalFrame.recovered spool)))
      (fun _ => Along settings env spool world.events
        (log.pending.map (WalFrame.recovered spool)) [])
      (fun _ world' => Somewhere settings env spool world.events
        (log.pending.map (WalFrame.recovered spool)) world' ∧ ¬NoFailures env stores) world := by
  have hsta : Along settings env spool world.events
      (log.pending.map (WalFrame.recovered spool)) log.pending world :=
    ⟨⟨log, rfl, h⟩, [], (List.append_nil _).symm, .nil _⟩
  have hsom : ∀ world', (∃ pending, Along settings env spool world.events
      (log.pending.map (WalFrame.recovered spool)) pending world') →
        Somewhere settings env spool world.events (log.pending.map (WalFrame.recovered spool)) world' :=
    fun _ ⟨_, halong⟩ => halong.somewhere
  rw [recoverRealtimeSpoolBeforeConnect]
  refine wp_congr (bind_of_pure (onSpool_of_pure h.recoverPending_eq)) (wp_bind ?_)
  rw [claimEpochs]
  split
  · next e hfail =>
    refine wp_throw ⟨hsta.somewhere, fun hheal => ?_⟩
    rw [hheal.claims] at hfail
    cases hfail
  · refine wp_pure ?_
    -- the checks pass, and with them every frame has its claim
    rw [show stores.claims.batches.flatten = stores.claimed from rfl, checkPlans_passes hplans]
    refine wp_congr (pure_bind_apply ..) (wp_bind ?_)
    refine wp_mono (replayFrames_wp hsta (fun _ => htemps) fun frame hfrm => ?_) hsom
      (fun _ world' hwd' => ?_) fun _ world' hwd' => ⟨hsom _ hwd'.1, hwd'.2⟩
    · exact find?_claim_isSome hplans (List.mem_map_of_mem hfrm)
    · exact wp_mono (finishEpochs_wp hwd' fun claim hcl => claims_end hplans hcl)
        (fun _ halong => halong.somewhere) (fun _ _ halong => halong)
        fun _ _ halong => ⟨halong.1.somewhere, halong.2⟩

/-- A process that opens the spool and does not have to stop. -/
theorem startupRecovery_wp (h : Represents False env spool log tail world.disk) (generation : Uuid)
    (hplans : ¬FailsClosed account (log.pending.map (WalFrame.recovered spool)) stores.claimed) :
    wp (startupRecovery settings stores env generation account)
      (Somewhere settings env spool world.events (log.pending.map (WalFrame.recovered spool)))
      (fun _ => Along settings env spool world.events
        (log.pending.map (WalFrame.recovered spool)) [])
      (fun _ world' => Somewhere settings env spool world.events
        (log.pending.map (WalFrame.recovered spool)) world' ∧ ¬NoFailures env stores) world := by
  rw [startupRecovery]
  have hopen : wp (RealtimeMessageSpool.open env generation)
      (fun disk' => ∃ tail', Represents False env spool log tail' disk')
      (fun opened disk' => opened.spool = spool ∧ Represents False env spool log [] disk' ∧
        TempsGone disk') (fun _ _ => False) world.disk :=
    open_wp h generation (fun _ hdisk' => hdisk') fun _ hdisk' htemps => ⟨rfl, hdisk', htemps⟩
  refine wp_bind (onSpool_wp hopen (fun disk' hdisk' => ?_) (fun opened disk' hope => ?_)
    fun _ _ hnever => hnever.elim)
  · obtain ⟨tail', hdisk'⟩ := hdisk'
    exact ⟨log, tail', [], hdisk', (List.append_nil _).symm, .nil _⟩
  · obtain ⟨hspl, hdisk', htemps⟩ := hope
    rw [hspl]
    exact recover_wp hdisk' htemps hplans

/-- Neither the log nor the database has been touched. -/
def Untouched (env : SpoolEnv M) (spool : RealtimeMessageSpool) (log : CutLog (WalFrame env))
    (before : List (RecoveryEvent M)) (world : RecoveryWorld M) : Prop :=
  (∃ tail, Represents False env spool log tail world.disk) ∧ world.events = before

/-- A process that has to stop. -/
theorem startupRecovery_fails_wp (h : Represents False env spool log tail world.disk)
    (generation : Uuid)
    (hfails : FailsClosed account (log.pending.map (WalFrame.recovered spool)) stores.claimed) :
    wp (startupRecovery settings stores env generation account)
      (Untouched env spool log world.events) (fun _ _ => False)
      (fun fatal world' => Untouched env spool log world.events world' ∧
        (stores.claims.failure = none → fatal = ⟨.recoveryInvariantViolation⟩)) world := by
  rw [startupRecovery]
  have hopen : wp (RealtimeMessageSpool.open env generation)
      (fun disk' => ∃ tail', Represents False env spool log tail' disk')
      (fun opened disk' => opened.spool = spool ∧ Represents False env spool log [] disk')
      (fun _ _ => False) world.disk :=
    open_wp h generation (fun _ hdisk' => hdisk') fun _ hdisk' _ => ⟨rfl, hdisk'⟩
  refine wp_bind (onSpool_wp hopen (fun disk' hdisk' => ⟨hdisk', rfl⟩)
    (fun opened disk' hope => ?_) fun _ _ hnever => hnever.elim)
  obtain ⟨hspl, hdisk'⟩ := hope
  rw [hspl, recoverRealtimeSpoolBeforeConnect]
  refine wp_congr (bind_of_pure (onSpool_of_pure hdisk'.recoverPending_eq)) (wp_bind ?_)
  rw [claimEpochs]
  split
  · next e hfail =>
    exact wp_throw ⟨⟨⟨[], hdisk'⟩, rfl⟩, fun hnone => by rw [hfail] at hnone; cases hnone⟩
  · refine wp_pure ?_
    rw [show stores.claims.batches.flatten = stores.claimed from rfl, checkPlans_fails hfails]
    exact wp_bind (wp_throw ⟨⟨⟨[], hdisk'⟩, rfl⟩, fun _ => rfl⟩)

end

/-! ## Every execution -/

theorem HoldsLog.step {world world' : RecoveryWorld M} (h : HoldsLog env world.disk)
    (hstep : RecoveryStep env world world') : HoldsLog env world'.disk := by
  obtain ⟨spool, log, tail, hlog⟩ := h
  cases hstep with
  | execution settings stores generation account hreac =>
    by_cases hplans : FailsClosed account (log.pending.map (WalFrame.recovered spool)) stores.claimed
    · have hunt := wp_reaches (startupRecovery_fails_wp hlog generation hplans)
        ⟨⟨tail, hlog⟩, rfl⟩ (fun _ _ hnever => hnever.elim) (fun _ _ hleft => hleft.1) hreac
      obtain ⟨⟨tail', hlog'⟩, -⟩ := hunt
      exact ⟨spool, log, tail', hlog'⟩
    · have hfnd := wp_reaches (startupRecovery_wp hlog generation hplans)
        ⟨log, tail, [], hlog, (List.append_nil _).symm, .nil _⟩
        (fun _ _ halong => halong.somewhere) (fun _ _ hleft => hleft.1) hreac
      obtain ⟨log', tail', new, hlog', -, -⟩ := hfnd
      exact ⟨spool, log', tail', hlog'⟩
  | powerLoss hsynced hcrash =>
    -- the WAL and the checkpoint are synced, so they are left as they were
    obtain ⟨file, hwal, hholds⟩ := hlog.wal
    obtain ⟨file', hwal', hcrashed⟩ := hcrash.of_some hwal
    obtain rfl := hcrashed.eq_of_synced (hsynced file hwal)
    exact ⟨spool, log, tail, hlog.congr (hwal'.trans hwal.symm) (hlog.checkpoint_synced hcrash)⟩

theorem HoldsLog.recoverable {world : RecoveryWorld M} (h : HoldsLog env world.disk) :
    Recoverable env world := by
  obtain ⟨spool, log, tail, hlog⟩ := h
  refine ⟨_, pends_of_represents hlog, fun settings stores generation account =>
    ⟨fun world' hreac => ?_, fun hfails => ?_, fun hheal hplans => ?_⟩⟩
  · by_cases hplans : FailsClosed account (log.pending.map (WalFrame.recovered spool)) stores.claimed
    · obtain ⟨⟨tail', hlog'⟩, hevs⟩ := wp_reaches (startupRecovery_fails_wp hlog generation hplans)
        ⟨⟨tail, hlog⟩, rfl⟩ (fun _ _ hnever => hnever.elim) (fun _ _ hleft => hleft.1) hreac
      exact ⟨_, [], pends_of_represents hlog', by rw [hevs, List.append_nil], .nil _⟩
    · obtain ⟨log', tail', new, hlog', hevs, hacc⟩ :=
        wp_reaches (startupRecovery_wp hlog generation hplans)
          ⟨log, tail, [], hlog, (List.append_nil _).symm, .nil _⟩
          (fun _ _ halong => halong.somewhere) (fun _ _ hleft => hleft.1) hreac
      exact ⟨_, new, pends_of_represents hlog', hevs, hacc⟩
  · have hrun : wp (startupRecovery settings stores env generation account) _ _ _ world :=
      startupRecovery_fails_wp hlog generation hfails
    refine ⟨?_, fun world' hreac => ?_⟩
    · cases hres : (startupRecovery settings stores env generation account world).result with
      | ok _ => exact (wp_ok hrun hres).elim
      | error fatal => exact ⟨fatal, rfl, (wp_error hrun hres).2⟩
    · obtain ⟨⟨tail', hlog'⟩, hevs⟩ := wp_reaches hrun ⟨⟨tail, hlog⟩, rfl⟩
        (fun _ _ hnever => hnever.elim) (fun _ _ hleft => hleft.1) hreac
      exact ⟨pends_of_represents hlog', hevs⟩
  · have hrun : wp (startupRecovery settings stores env generation account) _ _ _ world :=
      startupRecovery_wp hlog generation hplans
    cases hres : (startupRecovery settings stores env generation account world).result with
    | ok _ =>
      obtain ⟨⟨log', hpend, hlog'⟩, -⟩ := wp_ok hrun hres
      have hpends := pends_of_represents hlog'
      rw [hpend] at hpends
      exact ⟨rfl, hpends⟩
    | error fatal => exact absurd hheal (wp_error hrun hres).2

/-- Wherever any number of executions led, the next one is safe, and converges. -/
theorem recovery_converges {start world : RecoveryWorld M} (hstart : HoldsLog env start.disk)
    (hrun : Relation.ReflTransGen (RecoveryStep env) start world) : Recoverable env world :=
  (run_invariant (fun world => HoldsLog env world.disk) (fun _ _ hlog hstep => hlog.step hstep) hrun
    hstart).recoverable

/-! ## A scripted recovery -/

def scriptedAccount : SourceAccountRef := ⟨.napCat, "account"⟩

instance : SourceMessage Note where
  toSpoolMessage := inferInstance
  source _ := ⟨scriptedAccount.channel, scriptedAccount.accountId, "message"⟩
  conversation _ := ⟨.group, "conversation"⟩
  segments _ := []
  messageId_not_blank _ _ := by decide

def scriptedSettings : HookSettings := ⟨true, true, id⟩

/-- Stores that never fail, with one claim. -/
def scriptedStores (status : ConnectionEpochStatus) : RecoveryStores Note where
  claims := ⟨[[⟨⟨⟨"epoch"⟩, scriptedAccount, status⟩, ⟨"lease"⟩⟩]], none⟩
  renew _ _ := .ok ()
  insertMessagesIfAbsent _ messages :=
    .ok (messages.map fun _ => .accepted ⟨"stored", by decide⟩ none)
  onMessageIngested _ _ _ := .ok ()
  createArtifact _ _ _ := .ok ()
  finishConnecting _ _ := .ok ()
  finalizeConnected _ _ := .ok ()
  nonce _ := noteNonce

theorem length_hyphenated {bytes : Bytes} (hlen : bytes.length = UUID_LEN) :
    (hyphenated bytes).length = 36 := by
  have hdigits : ∀ bytes : Bytes, (bytes.flatMap hexByte).length = 2 * bytes.length := by
    intro bytes
    induction bytes with
    | nil => rfl
    | cons byte bytes ih =>
      rw [List.flatMap_cons, List.length_append, ih, List.length_cons, Nat.mul_succ, Nat.add_comm]
      rfl
  have huuid : UUID_LEN = 16 := rfl
  simp only [hyphenated, List.length_append, List.length_cons, hdigits, List.length_take,
    List.length_drop]
  omega

theorem length_encodeString (text : String) :
    (encodeString text).length = 4 * text.toList.length + 1 := by
  rw [encodeString, List.length_append]
  induction text.toList with
  | nil => rfl
  | cons c chars ih =>
    rw [List.flatMap_cons, List.length_append]
    simp only [List.length_cons, List.length_nil] at ih ⊢
    have hchar : (encodeChar c).length = 4 := rfl
    omega

theorem scripted_smallCheckpoints : SmallCheckpoints scriptedEnv := by
  intro generation record
  have htext : ∀ uuid : Uuid, (encodeString (scriptedText.toString uuid)).length = 145 := by
    intro uuid
    rw [length_encodeString]
    show 4 * (String.ofList (hyphenated uuid.asBytes)).toList.length + 1 = 145
    rw [String.toList_ofList, length_hyphenated uuid.length_asBytes]
  show (encodeString (scriptedText.toString generation) ++
    (encodeString (scriptedText.toString record) ++ [])).length ≤ 4096
  rw [List.append_nil, List.length_append, htext, htext]
  decide

theorem scripted_noFailures (status : ConnectionEpochStatus) :
    NoFailures scriptedEnv (scriptedStores status) where
  claims := rfl
  renew _ _ := rfl
  insert _ _ := ⟨_, _, rfl⟩
  message _ _ _ := rfl
  artifact _ _ _ := rfl
  finish _ _ := rfl
  finalize _ _ := rfl
  checkpoints := scripted_smallCheckpoints

theorem scriptedRunning_holds :
    ∃ log, Holds False scriptedEnv scriptedRunning scriptedSpool log [] := by
  obtain ⟨log, hh⟩ := scriptedRunning_careful.kept.running rfl rfl
  exact ⟨log, hh.files.of_no_crash, hh.process_eq, hh.accounts⟩

theorem holdsLog_oneNote : HoldsLog scriptedEnv (scriptedRunning.noted "first" 2).disk := by
  obtain ⟨log, hh⟩ := scriptedRunning_holds
  obtain ⟨log', hh'⟩ := hh.wholeCall firstNote_whole
  exact ⟨_, log', [], hh'.files⟩

/-- The world before the first note is recovered. -/
def recoverOneNote : RecoveryWorld Note := ⟨(scriptedRunning.noted "first" 2).disk, []⟩

/-- The world after it. -/
def recoveredOneNote : RecoveryWorld Note :=
  (startupRecovery scriptedSettings (scriptedStores .connected) scriptedEnv scriptedGeneration
    scriptedAccount recoverOneNote).state

theorem recovery_converges_oneNote : Recoverable scriptedEnv recoveredOneNote := by
  -- kept general: the disk of the note must not be evaluated here
  have hwd : ∀ disk, HoldsLog scriptedEnv disk →
      HoldsLog scriptedEnv (⟨disk, []⟩ : RecoveryWorld Note).disk := fun _ hdisk => hdisk
  have hsta : HoldsLog scriptedEnv recoverOneNote.disk := hwd _ holdsLog_oneNote
  have hstep : RecoveryStep scriptedEnv recoverOneNote recoveredOneNote :=
    .ended scriptedSettings (scriptedStores .connected) scriptedGeneration scriptedAccount
      recoverOneNote
  exact recovery_converges hsta (.single hstep)

/-! ## A frame that was never synced -/

/-- The process that appended the note was killed before the sync. -/
def unsyncedNote : RecoveryWorld Note := ⟨(scriptedRunning.cutNote "first" 2 284).disk, []⟩

/-- The next one has recovered it. -/
def adoptedNote : RecoveryWorld Note :=
  (startupRecovery scriptedSettings (scriptedStores .connected) scriptedEnv scriptedGeneration
    scriptedAccount unsyncedNote).state

theorem holdsLog_unsyncedNote : HoldsLog scriptedEnv unsyncedNote.disk := by
  obtain ⟨log, hh⟩ := scriptedRunning_holds
  obtain ⟨log', tail, hh', -⟩ := hh.appendFailed newFrame_first (leaves_cutNote 284)
  exact ⟨_, log', tail, hh'.files⟩

theorem adoptedNote_evaluates :
    ([SpoolFile.wal, .compactTemp, .checkpoint, .checkpointTemp].all fun name =>
      (adoptedNote.disk name).all fun file => file.synced ≤ file.bytes.length) = true ∧
    fileLen adoptedNote.disk.loseUnsynced .wal = WAL_HEADER_LEN ∧
    (startupRecovery scriptedSettings (scriptedStores .connected) scriptedEnv scriptedGeneration
      scriptedAccount { adoptedNote with disk := adoptedNote.disk.loseUnsynced }).result =
        .error ⟨.recoveryInvariantViolation⟩ := by
  decide +kernel

theorem not_failsClosed_connected :
    ¬FailsClosed (M := Note) scriptedAccount [] (scriptedStores .connected).claimed := by
  have hmem : ∀ claim ∈ (scriptedStores .connected).claimed, claim.epoch.status = .connected := by
    decide
  intro hfails
  cases hfails with
  | unclaimed _ hfrm => exact absurd hfrm List.not_mem_nil
  | connecting _ _ _ _ hfrm => exact absurd hfrm List.not_mem_nil
  | otherAccount _ _ _ hfrm => exact absurd hfrm List.not_mem_nil
  | terminal claim hcl _ hconnected => exact hconnected (hmem claim hcl)

/-- The checkpoint over a frame that `open` adopted survives a crash that the frame does not. The
WAL is empty then and nothing fails, but the recovery does. -/
theorem unsyncedFrame_stops_recovery : ∃ (world : RecoveryWorld Note) (disk : SpoolDisk),
    HoldsLog scriptedEnv unsyncedNote.disk ∧ RecoveryStep scriptedEnv unsyncedNote world ∧
      world.disk.Crash disk ∧ fileLen disk .wal = WAL_HEADER_LEN ∧
      ¬FailsClosed (M := Note) scriptedAccount [] (scriptedStores .connected).claimed ∧
      NoFailures scriptedEnv (scriptedStores .connected) ∧
      (startupRecovery scriptedSettings (scriptedStores .connected) scriptedEnv scriptedGeneration
        scriptedAccount { world with disk }).result = .error ⟨.recoveryInvariantViolation⟩ := by
  obtain ⟨hsynced, hlen, hrec⟩ := adoptedNote_evaluates
  -- kept general: the disk must not be evaluated here
  obtain ⟨world, hwd⟩ : ∃ world, world = adoptedNote := ⟨_, rfl⟩
  have hstep : RecoveryStep scriptedEnv unsyncedNote world := by
    rw [hwd]
    exact .ended scriptedSettings (scriptedStores .connected) scriptedGeneration scriptedAccount _
  rw [← hwd] at hsynced hlen hrec
  have hcrash : world.disk.Crash world.disk.loseUnsynced := Disk.crash_loseUnsynced fun name =>
    List.all_eq_true.mp hsynced name (by cases name <;> simp)
  exact ⟨world, _, holdsLog_unsyncedNote, hstep, hcrash, hlen, not_failsClosed_connected,
    scripted_noFailures _, hrec⟩

end ServerRS.Recovery

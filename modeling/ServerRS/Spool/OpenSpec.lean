import ServerRS.Spool.CompactSpec

/-!
# Opening a spool

`open` succeeds on every disk that holds a log, also with a torn frame behind it, and
changes nothing of the log (`open_wp`). On an empty disk it creates the empty log, but on
the way the WAL file exists without its header (`open_new_wp`).
-/

namespace ServerRS.Spool

open Lib Stepwise

variable {M : Type} [SpoolMessage M] {crashes : Prop} {env : SpoolEnv M} {spool : RealtimeMessageSpool}
  {log : CutLog (WalFrame env)} {tail : Bytes} {disk : SpoolDisk}

section

variable {C : SpoolDisk → Prop} {Q : Unit → SpoolDisk → Prop}
  {E : RealtimeMessageSpoolError → SpoolDisk → Prop}

theorem removeTemp_wp {name : SpoolFile}
    (h : ∀ disk', disk' name = none → (∀ other, other ≠ name → disk' other = disk other) →
      C disk' ∧ Q () disk') : wp (removeNonAuthoritativeTemp name) C Q E disk := by
  refine wp_get_bind ?_
  split
  · obtain ⟨hc, hq⟩ := h (disk.set name none) (Disk.set_self ..)
      fun other hoth => Disk.set_of_ne _ hoth
    exact Disk.wp_remove hc hq
  · next hnone => exact wp_pure (h disk (by simpa using hnone) fun _ _ => rfl).2

end

/-- There are no temporary files. -/
def TempsGone (disk : SpoolDisk) : Prop :=
  disk .compactTemp = none ∧ disk .checkpointTemp = none

theorem TempsGone.set_wal (h : TempsGone disk) (file : Option (File UInt8)) :
    TempsGone (disk.set .wal file) :=
  ⟨(Disk.set_of_ne _ (by decide)).trans h.1, (Disk.set_of_ne _ (by decide)).trans h.2⟩

/-- With the temporary files gone the spool is within its budgets. -/
theorem Represents.verifyBudgetLocked_eq (h : Represents crashes env spool log tail disk)
    (htemps : TempsGone disk) : verifyBudgetLocked env disk = ⟨.ok (), disk, []⟩ := by
  obtain ⟨hcomp, htemp⟩ := htemps
  obtain ⟨file, hwal, hholds⟩ := h.wal
  have hlen := hholds.len_le
  have hall := hholds.allocated_le
  have hquar := env.quarantine_le
  have hckpt : allocatedFileBytes env disk .checkpoint ≤ METADATA_BYTES := by
    have hckpt := h.checkpoint
    rw [allocatedFileBytes]
    cases hlast : lastId log.marked with
    | none =>
      rw [hlast] at hckpt
      rw [show disk .checkpoint = none from hckpt]
      exact Nat.zero_le _
    | some last =>
      rw [hlast] at hckpt
      obtain ⟨found, hfnd, hfile⟩ := hckpt
      rw [hfnd]
      exact hfile.allocated_le
  have hmeta : metadataBytes env disk ≤ METADATA_BYTES := by
    rw [metadataBytes, env.allocation.empty, allocatedFileBytes, allocatedFileBytes, htemp]
    rw [allocatedFileBytes] at hckpt
    simp only [saturatingAdd, Option.elim_none]
    omega
  have hwalAllocated : allocatedFileBytes env disk .wal ≤ ACTIVE_WAL_BYTES := by
    rw [allocatedFileBytes, hwal]
    exact hall
  have hactv : ACTIVE_WAL_BYTES = 240 * 2 ^ 20 := rfl
  have hquarantineMax : QUARANTINE_BYTES = 16 * 2 ^ 20 := rfl
  have hmetaMax : METADATA_BYTES = 16 * 2 ^ 20 := rfl
  have htotal : TOTAL_BYTES = 512 * 2 ^ 20 := rfl
  have htempNone : allocatedFileBytes env disk .compactTemp = 0 := by
    rw [allocatedFileBytes, hcomp]
    rfl
  have husage : diskUsage env disk ≤ TOTAL_BYTES := by
    rw [diskUsage, htempNone]
    simp only [saturatingAdd]
    omega
  rw [verifyBudgetLocked, get_bind_apply, if_neg]
  · rfl
  · simp only [not_or, Nat.not_lt, fileLen, hwal, hcomp, htempNone, Option.elim_some,
      Option.elim_none]
    exact ⟨hlen, hwalAllocated, Nat.zero_le _, Nat.zero_le _, hquar, hmeta, husage⟩

/-! ## Truncating the tail -/

variable {file : File UInt8}

theorem WalHolds.truncate {generation : Uuid} (h : WalHolds crashes env generation log tail file) :
    WalHolds crashes env generation log []
      (file.setLen (WAL_HEADER_LEN + (frameLog generation log.stored).length)) := by
  obtain ⟨base, hbase, hnil, hbytes⟩ := h.content
  set offset := WAL_HEADER_LEN + (frameLog generation log.stored).length with hoffset
  have hle : offset ≤ file.bytes.length := by
    rw [hbytes, length_walBytes]
    omega
  have htake : file.bytes.take offset = walBytes env generation base log.stored [] := by
    rw [hbytes, walBytes, walBytes, List.append_nil, ← List.append_assoc]
    exact List.take_left' (by rw [List.length_append, length_walHeader env.key.length_keyId])
  have hlen : (file.bytes.take offset).length = offset := by
    rw [List.length_take]
    omega
  refine ⟨⟨base, hbase, hnil, htake⟩, .nil, fun hc => (h.durable hc).imp id fun hdurable => ?_, ?_, ?_,
    ?_⟩
  · -- the durable frames are stored ones
    have hstd : (frameLog generation (log.stored.take log.durable)).length ≤
        (frameLog generation log.stored).length := by
      conv_rhs => rw [← List.take_append_drop log.durable log.stored]
      rw [frameLog_append, List.length_append]
      exact Nat.le_add_right _ _
    exact Nat.le_min.mpr ⟨hdurable, by omega⟩
  · show min file.synced offset ≤ (file.bytes.take offset).length
    omega
  · exact (hlen.trans_le hle).trans h.len_le
  · exact (env.allocation.mono (hlen.trans_le hle)).trans h.allocated_le

theorem Represents.set_wal (h : Represents crashes env spool log tail disk) {tail' : Bytes}
    (hfile : WalHolds crashes env spool.generationUuid log tail' file) :
    Represents crashes env spool log tail' (disk.set .wal (some file)) :=
  ⟨h.generation_ne, h.generationId_eq, ⟨file, Disk.set_self .., hfile⟩,
    by rw [Disk.set_of_ne _ (by decide)]; exact h.checkpoint, h.records, h.admissions⟩

/-- The frames of the recovery, and whether a torn frame was found. -/
def recoveryOf (spool : RealtimeMessageSpool) (log : CutLog (WalFrame env)) (truncated : Bool) :
    RealtimeMessageSpoolRecovery M where
  frames := log.pending.map (fun frame => .replay (frame.recovered spool)) ++
    if truncated then [.truncateIncompleteFinalTail] else []
  truncatedFinalTail := truncated

theorem replay_pendingOf :
    ((pendingOf spool log).map fun frame => RealtimeSpoolRecoveryFrame.replay frame.recovered) =
      log.pending.map fun frame => .replay (frame.recovered spool) := by
  have h := congrArg (List.map RealtimeSpoolRecoveryFrame.replay)
    (map_recovered_scannedFrom (WAL_HEADER_LEN + (frameLog spool.generationUuid log.covered).length)
      log.pending : _ = log.pending.map (WalFrame.recovered spool))
  rwa [List.map_map, List.map_map] at h

section

variable {C : SpoolDisk → Prop} {Q : RealtimeMessageSpoolOpen M → SpoolDisk → Prop}
  {E : RealtimeMessageSpoolError → SpoolDisk → Prop}

theorem openLocked_wp (h : Represents crashes env spool log tail disk)
    (htemps : TempsGone disk) (hpt : ∀ disk', Represents crashes env spool log [] disk' → C disk')
    (hdone : ∀ disk', Represents crashes env spool log [] disk' → TempsGone disk' →
      Q ⟨spool, recoveryOf spool log (!tail.isEmpty)⟩ disk') :
    wp (spool.openLocked env) C Q E disk := by
  obtain ⟨file, hwal, hholds⟩ := h.wal
  rw [RealtimeMessageSpool.openLocked]
  cases tail with
  | nil =>
    refine wp_congr (bind_of_pure (h.scanLocked_complete true)) ?_
    refine wp_congr (bind_of_pure h.readCheckpointLocked_eq) ?_
    rw [h.pendingAfterCheckpoint_eq]
    refine wp_bind (wp_ofExcept (fun pending hpend => ?_) fun e he => by cases he)
    cases hpend
    refine wp_congr (bind_of_pure (h.verifyBudgetLocked_eq htemps)) (wp_pure ?_)
    have hres := hdone disk h htemps
    rw [recoveryOf, ← replay_pendingOf] at hres
    simpa [scanOf] using hres
  | cons byte rest =>
    -- the torn frame is cut off
    refine wp_bind (wp_congr (h.scanLocked_eq true) ?_)
    rw [if_neg (by simp)]
    have hfile := hholds.truncate
    have hcut := h.set_wal hfile
    have hsync := h.set_wal hfile.sync_file
    refine wp_bind (wp_bind (Disk.wp_setLen hwal (hpt _ hcut) ?_))
    refine Disk.wp_syncAll (Disk.set_self ..) ?_ (wp_pure ?_)
    · rw [Disk.set_set]
      exact hpt _ hsync
    rw [Disk.set_set]
    refine wp_congr (bind_of_pure hsync.readCheckpointLocked_eq) ?_
    rw [hsync.pendingAfterCheckpoint_eq]
    refine wp_bind (wp_ofExcept (fun pending hpend => ?_) fun e he => by cases he)
    cases hpend
    refine wp_congr (bind_of_pure (hsync.verifyBudgetLocked_eq (htemps.set_wal _))) (wp_pure ?_)
    have hres := hdone _ hsync (htemps.set_wal _)
    rw [recoveryOf, ← replay_pendingOf] at hres
    simpa [scanOf] using hres

/-! ## Opening -/

omit [SpoolMessage M] in
theorem generationIdOf_eq (generation : Uuid) :
    generationIdOf env generation = .ok ⟨env.text.toString generation⟩ := by
  rw [generationIdOf, env.text.new_toString]

/-- A WAL that is there names the generation. -/
theorem Represents.initializeOrReadWal_eq (h : Represents crashes env spool log tail disk)
    (generation : Uuid) : initializeOrReadWal env generation disk = ⟨.ok spool, disk, []⟩ := by
  obtain ⟨file, hwal, hholds⟩ := h.wal
  obtain ⟨base, -, hnil, hbytes⟩ := hholds.content
  have hlen := length_walBytes env spool.generationUuid base log.stored tail
  rw [← hbytes] at hlen
  have hhdr : file.bytes.take WAL_HEADER_LEN =
      walHeader env.key.keyId spool.generationUuid base := by
    rw [hbytes, walBytes, List.take_left' (length_walHeader env.key.length_keyId _ _)]
  rw [initializeOrReadWal, get_bind_apply, hwal]
  dsimp only
  rw [if_neg (by omega), hhdr,
    parseWalHeader_walHeader env.text env.key.length_keyId h.generation_ne hnil, ok_bind_apply]
  dsimp only
  rw [generationIdOf_eq, ok_bind_apply, ← h.generationId_eq]
  rfl

/-- `open` on a disk that holds a log. -/
theorem open_wp (h : Represents crashes env spool log tail disk) (generation : Uuid)
    (hpt : ∀ disk', (∃ tail', Represents crashes env spool log tail' disk') → C disk')
    (hdone : ∀ disk', Represents crashes env spool log [] disk' → TempsGone disk' →
      Q ⟨spool, recoveryOf spool log (!tail.isEmpty)⟩ disk') :
    wp (RealtimeMessageSpool.open env generation) C Q E disk := by
  rw [RealtimeMessageSpool.open]
  refine wp_bind (removeTemp_wp fun disk₁ hcomp hsame₁ => ⟨hpt _ ⟨tail, ?_⟩, ?_⟩)
  · exact h.congr (hsame₁ _ (by decide)) (hsame₁ _ (by decide))
  have h₁ := h.congr (hsame₁ .wal (by decide)) (hsame₁ .checkpoint (by decide))
  refine wp_bind (removeTemp_wp fun disk₂ htemp hsame₂ => ⟨hpt _ ⟨tail, ?_⟩, ?_⟩)
  · exact h₁.congr (hsame₂ _ (by decide)) (hsame₂ _ (by decide))
  have h₂ := h₁.congr (hsame₂ .wal (by decide)) (hsame₂ .checkpoint (by decide))
  refine wp_congr (bind_of_pure (h₂.initializeOrReadWal_eq generation)) ?_
  exact openLocked_wp h₂ ⟨(hsame₂ .compactTemp (by decide)).trans hcomp, htemp⟩
    (fun disk' h' => hpt disk' ⟨[], h'⟩) hdone

/-! ## The first open -/

/-- The spool that `open` creates with the uuid it draws. -/
def newSpool (env : SpoolEnv M) (generation : Uuid) : RealtimeMessageSpool :=
  ⟨generation, ⟨env.text.toString generation⟩⟩

variable {generation : Uuid}

/-- A new WAL file with a header only. -/
theorem represents_new (hgen : generation ≠ Uuid.nil) (hckpt : disk .checkpoint = none)
    {file : File UInt8} (hwal : disk .wal = some file)
    (hbytes : file.bytes = walHeader env.key.keyId generation none)
    (hsync : file.synced ≤ file.bytes.length) :
    Represents crashes env (newSpool env generation) CutLog.empty [] disk := by
  have hlen : file.bytes.length = WAL_HEADER_LEN := by
    rw [hbytes, length_walHeader env.key.length_keyId]
  have hgrow := env.allocation.grow 0 file.bytes.length
  rw [Nat.zero_add, env.allocation.empty, hlen] at hgrow
  refine ⟨hgen, rfl, ⟨file, hwal, ⟨none, rfl, by simp, ?_⟩, .nil, fun _ => .inl rfl, hsync,
    ?_, ?_⟩, hckpt, List.nodup_nil, List.nodup_nil⟩
  · rw [hbytes, walBytes]
    exact (List.append_nil _).symm
  · rw [hlen]
    decide
  · rw [hlen]
    exact hgrow.trans (by decide)

/-- What the first `open` leaves wherever it is cut off: no WAL yet, a WAL file without its
whole header, or the empty log. -/
inductive Creating (crashes : Prop) (env : SpoolEnv M) (generation : Uuid) (disk : SpoolDisk) :
    Prop where
  | absent (hwal : disk .wal = none)
  | partialHeader (file : File UInt8) (hwal : disk .wal = some file)
      (hshort : file.bytes.length < WAL_HEADER_LEN)
  | created (hlog : Represents crashes env (newSpool env generation) CutLog.empty [] disk)

/-- `open` on an empty disk. -/
theorem open_new_wp (hwal : disk .wal = none) (hckpt : disk .checkpoint = none)
    (hgen : generation ≠ Uuid.nil)
    (hpt : ∀ disk', disk' .checkpoint = none → Creating crashes env generation disk' → C disk')
    (hdone : ∀ disk', Represents crashes env (newSpool env generation) CutLog.empty [] disk' →
      Q ⟨newSpool env generation, ⟨[], false⟩⟩ disk') :
    wp (RealtimeMessageSpool.open env generation) C Q E disk := by
  rw [RealtimeMessageSpool.open]
  refine wp_bind (removeTemp_wp fun disk₁ hcomp hsame₁ => ⟨hpt _ ?_ (.absent ?_), ?_⟩)
  · rw [hsame₁ _ (by decide), hckpt]
  · rw [hsame₁ _ (by decide), hwal]
  refine wp_bind (removeTemp_wp fun disk₂ htemp hsame₂ => ⟨hpt _ ?_ (.absent ?_), ?_⟩)
  · rw [hsame₂ _ (by decide), hsame₁ _ (by decide), hckpt]
  · rw [hsame₂ _ (by decide), hsame₁ _ (by decide), hwal]
  have hckpt₂ : disk₂ .checkpoint = none := by
    rw [hsame₂ _ (by decide), hsame₁ _ (by decide), hckpt]
  have hcomp₂ : disk₂ .compactTemp = none := by rw [hsame₂ _ (by decide), hcomp]
  have hset : ∀ file name, name ≠ SpoolFile.wal →
      (Disk.set disk₂ .wal file) name = disk₂ name := fun file name hname => Disk.set_of_ne _ hname
  -- the WAL file before it is synced
  have hpart : ∀ part, part <+: walHeader env.key.keyId generation none →
      C (disk₂.set .wal (some (File.write part ⟨[], 0⟩))) := by
    intro part hpref
    refine hpt _ (by rw [hset _ _ (by decide), hckpt₂]) ?_
    rcases Nat.lt_or_ge part.length WAL_HEADER_LEN with hlt | hge
    · exact .partialHeader _ (Disk.set_self ..) hlt
    · have hwhole : part = walHeader env.key.keyId generation none :=
        hpref.eq_of_length_le (by rwa [length_walHeader env.key.length_keyId])
      exact .created (represents_new hgen (by rw [hset _ _ (by decide), hckpt₂])
        (Disk.set_self ..) hwhole (Nat.zero_le _))
  have hcreated : ∀ file : File UInt8, file.bytes = walHeader env.key.keyId generation none →
      file.synced ≤ file.bytes.length →
        Represents crashes env (newSpool env generation) CutLog.empty [] (disk₂.set .wal (some file)) :=
    fun file hbytes hsync => represents_new hgen
      (by rw [hset _ _ (by decide), hckpt₂]) (Disk.set_self ..) hbytes hsync
  have hsome : disk₂ .wal = none := by rw [hsame₂ _ (by decide), hsame₁ _ (by decide), hwal]
  refine wp_bind (wp_get_bind ?_)
  rw [hsome]
  refine wp_bind (Disk.wp_create ?_ ?_)
  · simpa using hpart [] (List.nil_prefix)
  refine wp_bind (writeWalHeader_wp (Disk.set_self ..) (fun part hpref => ?_) ?_)
  · rw [Disk.set_set]
    exact hpart part hpref
  rw [Disk.set_set]
  have hnew := hcreated (File.sync (File.write (walHeader env.key.keyId generation none) ⟨[], 0⟩))
    rfl (Nat.le_refl _)
  refine wp_bind (Disk.wp_syncAll (Disk.set_self ..) ?_ ?_)
  · rw [Disk.set_set]
    exact hpt _ (by rw [hset _ _ (by decide), hckpt₂]) (.created hnew)
  rw [Disk.set_set, generationIdOf_eq]
  refine wp_bind (wp_ofExcept (fun generationId hid => wp_pure ?_) fun e he => by cases he)
  cases hid
  refine openLocked_wp hnew (TempsGone.set_wal ⟨hcomp₂, htemp⟩ _)
    (fun disk' h' => hpt disk' ?_ (.created h')) ?_
  · exact h'.checkpoint
  · intro disk' h' _
    exact hdone disk' h'

end

end ServerRS.Spool

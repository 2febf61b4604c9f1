import ServerRS.Spool.OpenSpec

/-!
# Checkpoints fit into their partition

A checkpoint names two uuids, so its text is short. Beside a log, and with no temporary
files left, moving the checkpoint then stays within every budget
(`advanceCheckpoint_fits_wp`).
-/

namespace ServerRS.Spool

open Lib Stepwise

variable {M : Type} [SpoolMessage M] {crashes : Prop} {env : SpoolEnv M} {spool : RealtimeMessageSpool}
  {log : CutLog (WalFrame env)} {tail : Bytes} {disk : SpoolDisk}

/-- The text of a checkpoint is short. -/
def SmallCheckpoints (env : SpoolEnv M) : Prop :=
  ∀ generation record : Uuid, (env.checkpointJson.toVec
    ⟨⟨env.text.toString generation⟩, some ⟨env.text.toString record⟩⟩).length ≤ 4096

omit [SpoolMessage M] in
theorem length_checkpointBytes_eq (nonce : Nonce) (plaintext : Bytes) :
    (checkpointBytes env.key nonce plaintext).length =
      CHECKPOINT_HEADER_LEN + (plaintext.length + TAG_LEN) := by
  have hhdr : (checkpointHeaderOf env.key nonce plaintext).length = CHECKPOINT_HEADER_LEN :=
    length_sealedHeader rfl env.key.length_keyId _ _
  rw [length_checkpointBytes, hhdr, env.key.length_seal]

/-- What the checkpoint file takes up. -/
theorem Represents.checkpoint_small (h : Represents crashes env spool log tail disk)
    (hsmall : SmallCheckpoints env) :
    allocatedFileBytes env disk .checkpoint ≤ 4149 + ALLOCATION_GRANULARITY_RESERVE := by
  have hckpt := h.checkpoint
  rw [allocatedFileBytes]
  cases hlast : lastId log.marked with
  | none =>
    rw [hlast] at hckpt
    rw [show disk .checkpoint = none from hckpt]
    exact Nat.zero_le _
  | some last =>
    rw [hlast] at hckpt
    obtain ⟨file, hfile, ⟨nonce, hbytes⟩, -, -, -⟩ := hckpt
    obtain ⟨record, -, rfl, -⟩ := Represents.recordUuid_lastId hlast
    have hpln := hsmall spool.generationUuid record
    rw [h.generationId_eq] at hbytes
    have hgrow := env.allocation.grow 0 file.bytes.length
    rw [Nat.zero_add, env.allocation.empty] at hgrow
    rw [hfile, Option.elim_some]
    refine hgrow.trans ?_
    rw [hbytes, length_checkpointBytes_eq]
    have hhdr : CHECKPOINT_HEADER_LEN = 37 := rfl
    have htag : TAG_LEN = 16 := rfl
    omega

theorem reserved_le {length : ℕ} (hleng : length ≤ 4149) :
    saturatingAdd length ALLOCATION_GRANULARITY_RESERVE ≤ 2 ^ 17 := by
  have hres : ALLOCATION_GRANULARITY_RESERVE = 2 ^ 16 := rfl
  rw [saturatingAdd]
  omega

/-- Room in the partition of the metadata and in all. -/
theorem Represents.metadata_fits (h : Represents crashes env spool log tail disk)
    (hsmall : SmallCheckpoints env) (htemps : TempsGone disk) {length : ℕ} (hleng : length ≤ 4149) :
    ¬(METADATA_BYTES < saturatingAdd length ALLOCATION_GRANULARITY_RESERVE ∨
      METADATA_BYTES < saturatingAdd (metadataBytes env disk)
        (saturatingAdd length ALLOCATION_GRANULARITY_RESERVE) ∨
      TOTAL_BYTES < saturatingAdd (diskUsage env disk)
        (saturatingAdd length ALLOCATION_GRANULARITY_RESERVE)) := by
  obtain ⟨file, hwal, hholds⟩ := h.wal
  have hall := hholds.allocated_le
  have hquar := env.quarantine_le
  have hckpt := h.checkpoint_small hsmall
  have hwalAllocated : allocatedFileBytes env disk .wal ≤ ACTIVE_WAL_BYTES := by
    rw [allocatedFileBytes, hwal]
    exact hall
  have hcomp : allocatedFileBytes env disk .compactTemp = 0 := by
    rw [allocatedFileBytes, htemps.1]
    rfl
  have htemp : allocatedFileBytes env disk .checkpointTemp = 0 := by
    rw [allocatedFileBytes, htemps.2]
    rfl
  have hres : ALLOCATION_GRANULARITY_RESERVE = 2 ^ 16 := rfl
  have hactv : ACTIVE_WAL_BYTES = 240 * 2 ^ 20 := rfl
  have hquarantineMax : QUARANTINE_BYTES = 16 * 2 ^ 20 := rfl
  have hmeta : METADATA_BYTES = 16 * 2 ^ 20 := rfl
  have htotal : TOTAL_BYTES = 512 * 2 ^ 20 := rfl
  have hreser := reserved_le hleng
  have hmet : metadataBytes env disk ≤ 2 ^ 17 := by
    rw [metadataBytes, env.allocation.empty, htemp]
    simp only [saturatingAdd]
    omega
  have husage : diskUsage env disk ≤ 257 * 2 ^ 20 := by
    rw [diskUsage, hcomp]
    simp only [saturatingAdd]
    omega
  generalize saturatingAdd length ALLOCATION_GRANULARITY_RESERVE = reserved at hreser
  rw [not_or, not_or, Nat.not_lt, Nat.not_lt, Nat.not_lt, saturatingAdd, saturatingAdd]
  omega

/-- With a small checkpoint in place and no temporary files, the budgets are kept. -/
theorem verifyBudgetLocked_fits {disk' : SpoolDisk} (h : Represents crashes env spool log tail disk)
    (hwal : disk' .wal = disk .wal) {file : File UInt8} (hfile : disk' .checkpoint = some file)
    (hleng : file.bytes.length ≤ 4149) (htemps : TempsGone disk') :
    verifyBudgetLocked env disk' = ⟨.ok (), disk', []⟩ := by
  obtain ⟨walFile, hwalFile, hholds⟩ := h.wal
  have hlen := hholds.len_le
  have hall := hholds.allocated_le
  have hquar := env.quarantine_le
  rw [hwalFile] at hwal
  have hckpt : allocatedFileBytes env disk' .checkpoint ≤ 2 ^ 17 := by
    have hgrow := env.allocation.grow 0 file.bytes.length
    rw [Nat.zero_add, env.allocation.empty] at hgrow
    have hres : ALLOCATION_GRANULARITY_RESERVE = 2 ^ 16 := rfl
    rw [allocatedFileBytes, hfile, Option.elim_some]
    omega
  have hwalAllocated : allocatedFileBytes env disk' .wal ≤ ACTIVE_WAL_BYTES := by
    rw [allocatedFileBytes, hwal]
    exact hall
  have hcomp : allocatedFileBytes env disk' .compactTemp = 0 := by
    rw [allocatedFileBytes, htemps.1]
    rfl
  have htemp : allocatedFileBytes env disk' .checkpointTemp = 0 := by
    rw [allocatedFileBytes, htemps.2]
    rfl
  have hmet : metadataBytes env disk' ≤ 2 ^ 17 := by
    rw [metadataBytes, env.allocation.empty, htemp]
    simp only [saturatingAdd]
    omega
  have hactv : ACTIVE_WAL_BYTES = 240 * 2 ^ 20 := rfl
  have hquarantineMax : QUARANTINE_BYTES = 16 * 2 ^ 20 := rfl
  have husage : diskUsage env disk' ≤ 257 * 2 ^ 20 := by
    rw [diskUsage, hcomp]
    simp only [saturatingAdd]
    omega
  rw [verifyBudgetLocked, get_bind_apply, if_neg]
  · rfl
  · simp only [not_or, Nat.not_lt, fileLen, hwal, hcomp, htemps.1, Option.elim_some,
      Option.elim_none]
    exact ⟨hlen, hwalAllocated, Nat.zero_le _, Nat.zero_le _, hquar,
      hmet.trans (by decide), husage.trans (by decide)⟩

theorem writeCheckpoint_fits_wp (h : Represents crashes env spool log tail disk)
    (hsmall : SmallCheckpoints env) (htemps : TempsGone disk) (record : Uuid) (nonce : Nonce) :
    wp (writeCheckpointLocked env ⟨spool.generationId, some ⟨env.text.toString record⟩⟩ nonce)
      (fun _ => True) (fun _ => TempsGone) (fun _ _ => False) disk := by
  have hpln := hsmall spool.generationUuid record
  rw [← h.generationId_eq] at hpln
  obtain ⟨plaintext, heq⟩ : ∃ plaintext, env.checkpointJson.toVec
      ⟨spool.generationId, some ⟨env.text.toString record⟩⟩ = plaintext := ⟨_, rfl⟩
  rw [heq] at hpln
  have hleng : (checkpointBytes env.key nonce plaintext).length =
      CHECKPOINT_HEADER_LEN + (plaintext.length + TAG_LEN) := length_checkpointBytes_eq nonce plaintext
  have hhdr : CHECKPOINT_HEADER_LEN = 37 := rfl
  have htag : TAG_LEN = 16 := rfl
  rw [writeCheckpointLocked, heq]
  dsimp only
  rw [if_neg (by omega)]
  refine wp_get_bind ?_
  rw [length_checkpointBytes] at hleng
  rw [if_neg (h.metadata_fits hsmall htemps (by omega))]
  refine wp_bind (Disk.wp_create trivial ?_)
  refine wp_bind (Disk.wp_writeAll (Disk.set_self ..) (fun _ _ => trivial) ?_)
  rw [Disk.set_set]
  refine wp_bind (Disk.wp_writeAll (Disk.set_self ..) (fun _ _ => trivial) ?_)
  rw [Disk.set_set]
  refine wp_bind (Disk.wp_syncAll (Disk.set_self ..) trivial ?_)
  rw [Disk.set_set]
  refine wp_bind (wp_bind (Disk.wp_rename (Disk.set_self ..) trivial ?_))
  refine Disk.wp_syncAll (Disk.set_of_ne _ (by decide) |>.trans (Disk.set_self ..)) trivial ?_
  have hfin : ∀ disk', disk' .wal = disk .wal → disk' .checkpoint = some
      (File.sync (File.write (checkpointBytes env.key nonce plaintext) ⟨[], 0⟩)) → TempsGone disk' →
        wp (verifyBudgetLocked env) (fun _ => True) (fun _ => TempsGone)
          (fun (_ : RealtimeMessageSpoolError) _ => False) disk' := by
    intro disk' hwal hckpt htemps'
    refine wp_of_pure (verifyBudgetLocked_fits h hwal hckpt ?_ htemps') htemps'
    show (checkpointBytes env.key nonce plaintext).length ≤ 4149
    rw [length_checkpointBytes]
    omega
  refine hfin _ ?_ ?_ ⟨?_, ?_⟩
  · simp
  · simp only [Disk.set_self, File.sync_sync, File.write_write]
    rfl
  · simpa using htemps.1
  · simp

theorem mismatch_take (offset : ℕ) (pending : List (WalFrame env)) (n : ℕ) :
    RealtimeMessageSpool.mismatch ((pending.take n).map WalFrame.recordId)
      (scannedFrom spool offset pending) = false := by
  induction pending generalizing offset n with
  | nil => simp [RealtimeMessageSpool.mismatch, scannedFrom]
  | cons frame pending ih =>
    cases n with
    | zero => simp [RealtimeMessageSpool.mismatch]
    | succ n =>
      have hrest := ih (offset + (frame.bytes spool.generationUuid).length) n
      rw [RealtimeMessageSpool.mismatch, Bool.or_eq_false_iff] at hrest ⊢
      refine ⟨?_, ?_⟩
      · simp [scannedFrom]
      · rw [List.take_succ_cons, List.map_cons, scannedFrom, List.zip_cons_cons, List.any_cons,
          hrest.2, Bool.or_false]
        simp [WalFrame.recordId, WalFrame.scanned]

/-- Passing pending frames by the checkpoint succeeds and leaves no temporary file. -/
theorem advanceCheckpoint_fits_wp (h : Represents crashes env spool log [] disk)
    (hsmall : SmallCheckpoints env) (htemps : TempsGone disk) (n : ℕ) (nonce : Nonce) :
    wp (spool.advanceCheckpoint env
      ⟨spool.generationId, (log.pending.take n).map WalFrame.recordId⟩ nonce)
      (fun _ => True) (fun _ => TempsGone) (fun _ _ => False) disk := by
  rw [RealtimeMessageSpool.advanceCheckpoint]
  rw [if_neg (by simp)]
  split
  · exact wp_pure htemps
  · next hne =>
    refine wp_congr (bind_of_pure (h.scanLocked_complete false)) ?_
    refine wp_congr (bind_of_pure h.readCheckpointLocked_eq) ?_
    rw [h.pendingAfterCheckpoint_eq]
    refine wp_bind (wp_ofExcept (fun pending hpend => ?_) fun e he => by cases he)
    cases hpend
    rw [pendingOf, mismatch_take, if_neg Bool.false_ne_true]
    -- the last record of the prefix is the text of a uuid
    obtain ⟨last, hlast⟩ : ∃ last, lastId (log.pending.take n) = some last :=
      Option.isSome_iff_exists.mp (by simpa [lastId] using hne)
    obtain ⟨record, -, rfl, -⟩ := Represents.recordUuid_lastId hlast
    rw [lastId, ← List.getLast?_map] at hlast
    rw [hlast]
    exact writeCheckpoint_fits_wp h hsmall htemps record nonce

end ServerRS.Spool

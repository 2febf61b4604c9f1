import ServerRS.Spool.AppendSpec

/-!
# Moving the checkpoint

`advance_checkpoint` writes a new checkpoint beside the old one and renames it into place:
wherever it is cut off, the disk holds the log with the old mark or with the new one
(`advanceCheckpoint_wp`).
-/

namespace ServerRS.Spool

open Lib Stepwise

variable {M : Type} [SpoolMessage M] {crashes : Prop} {env : SpoolEnv M} {spool : RealtimeMessageSpool}
  {log : CutLog (WalFrame env)} {disk : SpoolDisk}

/-- The mark has moved over the frames with these ids. -/
def Advanced (crashes : Prop) (env : SpoolEnv M) (spool : RealtimeMessageSpool)
    (log : CutLog (WalFrame env)) (recordIds : List RealtimeSpoolRecordId) (disk : SpoolDisk) :
    Prop :=
  ∃ n, ∃ h : log.covered.length + n ≤ log.durable,
    recordIds = (log.pending.take n).map WalFrame.recordId ∧
      Represents crashes env spool (log.advance n h) [] disk

/-- The pending frames that the checkpoint is about to pass are durable. -/
def CoversDurable (log : CutLog (WalFrame env)) (recordIds : List RealtimeSpoolRecordId) : Prop :=
  ∀ n ≤ log.pending.length, recordIds = (log.pending.take n).map WalFrame.recordId →
    log.covered.length + n ≤ log.durable

/-! ## The prefix -/

theorem eq_of_not_mismatch {recordIds : List RealtimeSpoolRecordId} {offset : ℕ}
    {pending : List (WalFrame env)}
    (h : RealtimeMessageSpool.mismatch recordIds (scannedFrom spool offset pending) = false) :
    recordIds.length ≤ pending.length ∧
      recordIds = (pending.take recordIds.length).map WalFrame.recordId := by
  induction recordIds generalizing offset pending with
  | nil => exact ⟨Nat.zero_le _, rfl⟩
  | cons id recordIds ih =>
    cases pending with
    | nil => simp [RealtimeMessageSpool.mismatch, scannedFrom] at h
    | cons frame pending =>
      simp only [RealtimeMessageSpool.mismatch, scannedFrom, List.length_cons, List.zip_cons_cons,
        List.any_cons, Bool.or_eq_false_iff, decide_eq_false_iff_not, ne_eq, Decidable.not_not]
        at h
      obtain ⟨hlen, hid, hany⟩ := h
      obtain ⟨hle, heq⟩ := ih (by
        rw [RealtimeMessageSpool.mismatch, Bool.or_eq_false_iff]
        exact ⟨by simpa using hlen, hany⟩)
      refine ⟨Nat.succ_le_succ hle, ?_⟩
      rw [List.length_cons, List.take_succ_cons, List.map_cons, ← heq, hid]
      rfl

/-! ## Writing the checkpoint -/

variable {C : SpoolDisk → Prop} {Q : Unit → SpoolDisk → Prop}
  {E : RealtimeMessageSpoolError → SpoolDisk → Prop} {last : RealtimeSpoolRecordId}
  {file : File UInt8}

omit [SpoolMessage M] in
theorem verifyBudget_wp (hok : Q () disk) (herr : ∀ e, E e disk) :
    wp (verifyBudgetLocked env) C Q E disk := by
  refine wp_get_bind ?_
  split
  · exact wp_throw (herr _)
  · exact wp_pure hok

omit [SpoolMessage M] in
theorem length_checkpointBytes (nonce : Nonce) (plaintext : Bytes) :
    (checkpointBytes env.key nonce plaintext).length =
      (checkpointHeaderOf env.key nonce plaintext).length + (env.key.sealInPlace nonce
        (checkpointHeaderOf env.key nonce plaintext) plaintext).length := List.length_append

omit [SpoolMessage M] in
/-- Until the rename the checkpoint is the old one, then it is the new one. -/
theorem writeCheckpoint_wp {generationId : RealtimeSpoolGenerationId} {nonce : Nonce}
    (hold : ∀ disk', disk' .wal = disk .wal → disk' .checkpoint = disk .checkpoint → C disk')
    (hnew : ∀ file disk', CheckpointHolds env generationId last file →
      disk' .wal = disk .wal → disk' .checkpoint = some file → C disk' ∧ Q () disk')
    (herr : ∀ e disk', C disk' → E e disk') :
    wp (writeCheckpointLocked env ⟨generationId, some last⟩ nonce) C Q E disk := by
  obtain ⟨plaintext, hpln⟩ :
      ∃ plaintext, env.checkpointJson.toVec ⟨generationId, some last⟩ = plaintext := ⟨_, rfl⟩
  have hsta : ∀ e, E e disk := fun e => herr e disk (hold disk rfl rfl)
  rw [writeCheckpointLocked, hpln]
  dsimp only
  split
  · exact wp_throw (hsta _)
  · refine wp_get_bind ?_
    split
    · exact wp_throw (hsta _)
    · next hbudget =>
      -- the new checkpoint fits into the metadata partition
      obtain ⟨hres, -, -⟩ := not_or.mp hbudget |>.imp_right not_or.mp
      have hmeta : METADATA_BYTES = 2 ^ 24 := rfl
      rw [Nat.not_lt, saturatingAdd_le (by omega)] at hres
      have hholds : CheckpointHolds env generationId last
          ⟨checkpointBytes env.key nonce plaintext,
            (checkpointBytes env.key nonce plaintext).length⟩ := by
        have hgrow := env.allocation.grow 0 (checkpointBytes env.key nonce plaintext).length
        rw [Nat.zero_add, env.allocation.empty, length_checkpointBytes] at hgrow
        refine ⟨⟨nonce, by rw [hpln]⟩, rfl, ?_, ?_⟩
        · show (checkpointBytes env.key nonce plaintext).length ≤ _
          rw [length_checkpointBytes]
          omega
        · show env.allocation.bytes (checkpointBytes env.key nonce plaintext).length ≤ _
          rw [length_checkpointBytes]
          omega
      -- writing beside the old one
      have htemp : ∀ file, C (disk.set .checkpointTemp file) := fun file =>
        hold _ (Disk.set_of_ne _ (by decide)) (Disk.set_of_ne _ (by decide))
      refine wp_bind (Disk.wp_create (htemp _) ?_)
      refine wp_bind (Disk.wp_writeAll (Disk.set_self ..) (fun part _ => ?_) ?_)
      · rw [Disk.set_set]
        exact htemp _
      rw [Disk.set_set]
      refine wp_bind (Disk.wp_writeAll (Disk.set_self ..) (fun part _ => ?_) ?_)
      · rw [Disk.set_set]
        exact htemp _
      rw [Disk.set_set]
      refine wp_bind (Disk.wp_syncAll (Disk.set_self ..) ?_ ?_)
      · rw [Disk.set_set]
        exact htemp _
      rw [Disk.set_set]
      -- taking its place
      have hrepl := fun disk' => hnew _ disk' hholds
      refine wp_bind (wp_bind (Disk.wp_rename (Disk.set_self ..) ?_ ?_))
      · exact (hrepl _ (by simp) (by simp; rfl)).1
      refine Disk.wp_syncAll (Disk.set_of_ne _ (by decide) |>.trans (Disk.set_self ..)) ?_ ?_
      · exact (hrepl _ (by simp) (by simp; rfl)).1
      refine verifyBudget_wp ?_ fun e => herr e _ ?_
      · exact (hrepl _ (by simp) (by simp; rfl)).2
      · exact (hrepl _ (by simp) (by simp; rfl)).1

/-! ## The call -/

theorem WalHolds.advance {generation : Uuid} {tail : Bytes}
    (h : WalHolds crashes env generation log tail file) {n : ℕ}
    (hn : log.covered.length + n ≤ log.durable) :
    WalHolds crashes env generation (log.advance n hn) tail file := by
  refine ⟨?_, h.torn, ?_, h.synced_le, h.len_le, h.allocated_le⟩
  · rw [CutLog.stored_advance]
    exact h.content
  · rw [CutLog.stored_advance]
    exact h.durable

/-- A new checkpoint beside the same WAL moves the mark. -/
theorem Represents.advance (h : Represents crashes env spool log [] disk) {n : ℕ}
    (hn : log.covered.length + n ≤ log.durable)
    (hlast : ((log.pending.take n).map WalFrame.recordId).getLast? = some last)
    (hfile : CheckpointHolds env spool.generationId last file) {disk' : SpoolDisk}
    (hwal : disk' .wal = disk .wal) (hckpt : disk' .checkpoint = some file) :
    Represents crashes env spool (log.advance n hn) [] disk' := by
  obtain ⟨walFile, hwalFile, hholds⟩ := h.wal
  refine ⟨h.generation_ne, h.generationId_eq, ⟨walFile, hwal.trans hwalFile, hholds.advance hn⟩, ?_,
    by rw [CutLog.all_advance]; exact h.records, by rw [CutLog.all_advance]; exact h.admissions⟩
  have hmark : lastId (log.advance n hn).marked = some last := by
    rw [List.getLast?_map] at hlast
    obtain ⟨frame, hfrm, rfl⟩ := Option.map_eq_some_iff.mp hlast
    rw [lastId, CutLog.marked_advance, List.getLast?_append, hfrm]
    rfl
  rw [hmark, hckpt]
  exact ⟨file, rfl, hfile⟩

theorem advanceCheckpoint_wp (h : Represents crashes env spool log [] disk)
    (upTo : RealtimeSpoolCheckpointPrefix) (nonce : Nonce)
    (hdurable : CoversDurable log upTo.recordIds) :
    wp (spool.advanceCheckpoint env upTo nonce)
      (fun disk' => (Represents crashes env spool log [] disk' ∧ disk' .checkpoint = disk .checkpoint) ∨
        Advanced crashes env spool log upTo.recordIds disk')
      (fun _ disk' => (upTo.recordIds = [] ∧ disk' = disk) ∨
        Advanced crashes env spool log upTo.recordIds disk')
      (fun _ disk' => (Represents crashes env spool log [] disk' ∧ disk' .checkpoint = disk .checkpoint) ∨
        Advanced crashes env spool log upTo.recordIds disk') disk := by
  rw [RealtimeMessageSpool.advanceCheckpoint]
  split
  · exact wp_throw (.inl ⟨h, rfl⟩)
  split
  · next hemp => exact wp_pure (.inl ⟨List.isEmpty_iff.mp hemp, rfl⟩)
  · next hne =>
    refine wp_congr (bind_of_pure (h.scanLocked_complete false)) ?_
    refine wp_congr (bind_of_pure h.readCheckpointLocked_eq) ?_
    rw [h.pendingAfterCheckpoint_eq]
    refine wp_bind (wp_ofExcept (fun pending hpend => ?_) fun e he => by cases he)
    cases hpend
    split
    · exact wp_throw (.inl ⟨h, rfl⟩)
    · next hmatch =>
      -- the prefix is the beginning of what is pending
      obtain ⟨hle, hids⟩ := eq_of_not_mismatch (Bool.eq_false_iff.mpr hmatch)
      have hn := hdurable _ hle hids
      obtain ⟨last, hlast⟩ : ∃ last, upTo.recordIds.getLast? = some last :=
        Option.isSome_iff_exists.mp (by simpa using hne)
      rw [hlast]
      refine writeCheckpoint_wp (fun disk' hwal hckpt => .inl ⟨?_, hckpt⟩)
        (fun file disk' hfile hwal hckpt => ?_) fun _ _ hc => hc
      · exact h.congr hwal hckpt
      · have hadv : Advanced crashes env spool log upTo.recordIds disk' :=
          ⟨_, hn, hids, h.advance hn (hids ▸ hlast) hfile hwal hckpt⟩
        exact ⟨.inr hadv, .inr hadv⟩

end ServerRS.Spool

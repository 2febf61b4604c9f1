import ServerRS.Spool.CheckpointSpec

/-!
# Compacting the WAL

`compact` writes the pending frames to a new file whose header names the record of the
checkpoint, and renames it over the WAL: wherever it is cut off, the disk holds the log
with the covered frames or without them (`compact_wp`).
-/

namespace ServerRS.Spool

open Lib Stepwise

variable {M : Type} [SpoolMessage M] {crashes : Prop} {env : SpoolEnv M} {spool : RealtimeMessageSpool}
  {log : CutLog (WalFrame env)} {disk : SpoolDisk}

section

variable {C : SpoolDisk → Prop} {Q : Unit → SpoolDisk → Prop}
  {E : RealtimeMessageSpoolError → SpoolDisk → Prop} {name : SpoolFile} {file : File UInt8}

/-- Cut off, the five writes leave the beginning of the header. -/
theorem writeWalHeader_wp {keyId : Bytes} {generation : Uuid} {base : Option Uuid}
    (hname : disk name = some file) (hpart : ∀ part, part <+: walHeader keyId generation base →
      C (disk.set name (some (file.write part))))
    (h : Q () (disk.set name (some (file.write (walHeader keyId generation base))))) :
    wp (writeWalHeader name keyId generation base) C Q E disk := by
  have hall : ∀ before part data rest : Bytes, part <+: data →
      before ++ data ++ rest = walHeader keyId generation base →
        C (disk.set name (some (file.write (before ++ part)))) := by
    intro before part data rest hdata hwhole
    refine hpart _ (List.IsPrefix.trans ?_ ⟨rest, hwhole⟩)
    exact (List.prefix_append_right_inj before).mpr hdata
  rw [writeWalHeader]
  refine wp_bind (Disk.wp_writeAll hname (fun part hdata => ?_) ?_)
  · exact hall [] part WAL_MAGIC ([FORMAT_VERSION] ++ keyId ++ generation.asBytes ++
      (base.getD Uuid.nil).asBytes) hdata (by simp [walHeader])
  refine wp_bind (Disk.wp_writeAll_next (fun part hdata => ?_) ?_)
  · exact hall _ part _ (keyId ++ generation.asBytes ++ (base.getD Uuid.nil).asBytes) hdata
      (by simp [walHeader])
  refine wp_bind (Disk.wp_writeAll_next (fun part hdata => ?_) ?_)
  · exact hall _ part _ (generation.asBytes ++ (base.getD Uuid.nil).asBytes) hdata
      (by simp [walHeader])
  refine wp_bind (Disk.wp_writeAll_next (fun part hdata => ?_) ?_)
  · exact hall _ part _ (base.getD Uuid.nil).asBytes hdata (by simp [walHeader])
  refine Disk.wp_writeAll_next (fun part hdata => ?_) h
  exact hall _ part _ [] hdata (by simp [walHeader])

/-- Copying frames appends exactly their bytes. -/
theorem copyFrames_wp {source rest written : Bytes} {offset : ℕ} {frames : List (WalFrame env)}
    (hsrc : source.drop offset = frameLog spool.generationUuid frames ++ rest)
    (htemp : ∀ data, C (disk.set .compactTemp (some (file.write data))))
    (h : Q () (disk.set .compactTemp
      (some (file.write (written ++ frameLog spool.generationUuid frames))))) :
    wp (RealtimeMessageSpool.copyFrames source (scannedFrom spool offset frames)) C Q E
      (disk.set .compactTemp (some (file.write written))) := by
  induction frames generalizing offset written with
  | nil =>
    rw [frameLog_nil, List.append_nil] at h
    exact wp_pure h
  | cons frame frames ih =>
    rw [frameLog_cons, List.append_assoc] at hsrc
    have hdata : (source.drop offset).take (frame.bytes spool.generationUuid).length =
        frame.bytes spool.generationUuid := by
      rw [hsrc, List.take_left]
    have hnext : source.drop (offset + (frame.bytes spool.generationUuid).length) =
        frameLog spool.generationUuid frames ++ rest := by
      rw [← List.drop_drop, hsrc, List.drop_left]
    rw [scannedFrom, RealtimeMessageSpool.copyFrames]
    simp only [WalFrame.scanned, hdata]
    rw [if_neg (Nat.lt_irrefl _)]
    refine wp_bind (Disk.wp_writeAll_next (fun part _ => htemp _) (ih hnext ?_))
    rwa [frameLog_cons, ← List.append_assoc] at h

omit [SpoolMessage M] in
theorem ensureCompactBudget_wp {compactLen : ℕ} (hok : Q () disk) (herr : ∀ e, E e disk) :
    wp (ensureCompactBudgetLocked env compactLen) C Q E disk := by
  refine wp_get_bind ?_
  split
  · exact wp_throw (herr _)
  · exact wp_pure hok

end

/-- The compacted file: the header names the record of the mark, the pending frames follow. -/
theorem WalHolds.compact {generation uuid : Uuid} {file : File UInt8}
    (h : WalHolds crashes env generation log [] file) (hnil : uuid ≠ Uuid.nil)
    (hlast : lastId log.marked = some ⟨env.text.toString uuid⟩) :
    WalHolds crashes env generation log.compact [] (File.sync ⟨walBytes env generation (some uuid)
      log.pending [], 0⟩) := by
  obtain ⟨base, -, -, hbytes⟩ := h.content
  have hle : (walBytes env generation (some uuid) log.pending []).length ≤ file.bytes.length := by
    rw [hbytes, length_walBytes, length_walBytes, CutLog.stored, frameLog_append,
      List.length_append]
    omega
  refine ⟨⟨some uuid, hlast.symm, by simpa using hnil, rfl⟩, .nil, fun _ => .inr ?_, Nat.le_refl _,
    hle.trans h.len_le, (env.allocation.mono hle).trans h.allocated_le⟩
  show WAL_HEADER_LEN + (frameLog generation (log.pending.take log.pending.length)).length ≤
    (walBytes env generation (some uuid) log.pending []).length
  rw [List.take_length, length_walBytes]
  omega

theorem Represents.compact (h : Represents crashes env spool log [] disk) (disk' : SpoolDisk)
    {uuid : Uuid}
    (hnil : uuid ≠ Uuid.nil) (hlast : lastId log.marked = some ⟨env.text.toString uuid⟩)
    (hwal : disk' .wal = some (File.sync ⟨walBytes env spool.generationUuid
      (some uuid) log.pending [], 0⟩)) (hckpt : disk' .checkpoint = disk .checkpoint) :
    Represents crashes env spool log.compact [] disk' := by
  obtain ⟨file, -, hholds⟩ := h.wal
  refine ⟨h.generation_ne, h.generationId_eq, ⟨_, hwal, hholds.compact hnil hlast⟩, ?_,
    by rw [CutLog.all_compact]; exact h.records, by rw [CutLog.all_compact]; exact h.admissions⟩
  rw [CutLog.marked_compact, hckpt]
  exact h.checkpoint

/-- The log with or without its covered frames. -/
def Compacted (crashes : Prop) (env : SpoolEnv M) (spool : RealtimeMessageSpool)
    (log : CutLog (WalFrame env)) (disk : SpoolDisk) : Prop :=
  Represents crashes env spool log [] disk ∨ Represents crashes env spool log.compact [] disk

theorem compact_wp (h : Represents crashes env spool log [] disk) :
    wp (spool.compact env) (Compacted crashes env spool log) (fun _ => Compacted crashes env spool log)
      (fun _ => Compacted crashes env spool log) disk := by
  obtain ⟨file, hwal, hholds⟩ := h.wal
  obtain ⟨base, -, -, hbytes⟩ := hholds.content
  rw [RealtimeMessageSpool.compact]
  refine wp_congr (bind_of_pure (h.scanLocked_complete false)) ?_
  refine wp_congr (bind_of_pure h.readCheckpointLocked_eq) ?_
  have hmark : (checkpointOf spool log).bind StoredCheckpoint.lastRecordId = lastId log.marked := by
    rw [checkpointOf]
    cases lastId log.marked <;> rfl
  rw [hmark]
  cases hlast : lastId log.marked with
  | none => exact wp_pure (.inl h)
  | some last =>
    obtain ⟨uuid, hnil, rfl, huuid⟩ := Represents.recordUuid_lastId hlast
    rw [h.pendingAfterCheckpoint_eq]
    refine wp_bind (wp_ofExcept (fun pending hpend => ?_) fun e he => by cases he)
    cases hpend
    dsimp only
    split
    · exact wp_throw (.inl h)
    refine wp_bind (ensureCompactBudget_wp ?_ fun _ => .inl h)
    -- as long as only the temporary file is written, the log is the old one
    have htemp : ∀ file, Compacted crashes env spool log (disk.set .compactTemp file) := fun file =>
      .inl (h.congr (Disk.set_of_ne _ (by decide)) (Disk.set_of_ne _ (by decide)))
    refine wp_bind (Disk.wp_create (htemp _) ?_)
    rw [huuid]
    refine wp_bind (wp_ofExcept (fun found hfnd => ?_) fun e he => by cases he)
    cases hfnd
    refine wp_bind (writeWalHeader_wp (Disk.set_self ..) (fun part _ => ?_) ?_)
    · rw [Disk.set_set]
      exact htemp _
    rw [Disk.set_set]
    refine wp_get_bind ?_
    rw [Disk.set_of_ne _ (by decide), hwal]
    have hsrc : file.bytes.drop (WAL_HEADER_LEN +
        (frameLog spool.generationUuid log.covered).length) =
          frameLog spool.generationUuid log.pending ++ [] := by
      rw [hbytes, walBytes, CutLog.stored, frameLog_append, ← List.append_assoc,
        ← List.append_assoc, List.append_assoc]
      exact List.drop_left' (by rw [List.length_append, length_walHeader env.key.length_keyId])
    refine wp_bind (copyFrames_wp hsrc (fun _ => htemp _) ?_)
    refine wp_bind (Disk.wp_syncAll (Disk.set_self ..) ?_ ?_)
    · rw [Disk.set_set]
      exact htemp _
    rw [Disk.set_set]
    -- the new file takes the place of the WAL
    have hfin : (File.write (walHeader env.key.keyId spool.generationUuid (some uuid) ++
        frameLog spool.generationUuid log.pending) ⟨[], 0⟩).sync =
          File.sync ⟨walBytes env spool.generationUuid (some uuid) log.pending [], 0⟩ := by
      simp [File.write, File.sync, walBytes]
    have hfinish : ∀ disk', Represents crashes env spool log.compact [] disk' →
        wp (do let _ ← scanLocked env spool false; verifyBudgetLocked env)
          (Compacted crashes env spool log) (fun _ => Compacted crashes env spool log)
          (fun _ => Compacted crashes env spool log) disk' := fun disk' hdone =>
      wp_congr (bind_of_pure (hdone.scanLocked_complete false))
        (verifyBudget_wp (.inr hdone) fun _ => .inr hdone)
    have hcomp := fun disk' => h.compact disk' hnil hlast
    refine wp_bind (wp_bind (Disk.wp_rename (Disk.set_self ..) (.inr (hcomp _ ?_ ?_)) ?_))
    · simpa using hfin
    · simp
    refine Disk.wp_syncAll (Disk.set_of_ne _ (by decide) |>.trans (Disk.set_self ..)) ?_ ?_
    · refine .inr (hcomp _ ?_ ?_)
      · simpa using congrArg File.sync hfin
      · simp
    refine hfinish _ (hcomp _ ?_ ?_)
    · simpa using congrArg File.sync hfin
    · simp

end ServerRS.Spool

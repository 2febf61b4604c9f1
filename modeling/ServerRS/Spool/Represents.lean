import ServerRS.Lib.CutLog
import ServerRS.Spool.MessageSpool
import ServerRS.Spool.WalImage

/-!
# The log that a disk holds

`Represents crashes env spool log tail disk` connects the files of a spool to a `CutLog`: the WAL
holds the stored frames and its header names the last dropped one, the checkpoint names the
last frame under the mark. Everything the spool reads follows from it
(`Represents.recoverPending_eq`), and a crash keeps it (`Represents.crash`).
-/

namespace ServerRS.Spool

open Lib

variable {M : Type} [SpoolMessage M] {crashes : Prop} {env : SpoolEnv M}

def lastId (frames : List (WalFrame env)) : Option RealtimeSpoolRecordId :=
  frames.getLast?.map WalFrame.recordId

/-- A WAL file that holds the stored frames of `log`. Where there are crashes, the durable
ones are synced. -/
structure WalHolds (crashes : Prop) (env : SpoolEnv M) (generation : Uuid)
    (log : CutLog (WalFrame env)) (tail : Bytes) (file : File UInt8) : Prop where
  content : ∃ base, baseRecordId env base = lastId log.dropped ∧ base ≠ some Uuid.nil ∧
    file.bytes = walBytes env generation base log.stored tail
  torn : TornFrame env generation tail
  durable : crashes → log.durable = 0 ∨
    WAL_HEADER_LEN + (frameLog generation (log.stored.take log.durable)).length ≤ file.synced
  synced_le : file.synced ≤ file.bytes.length
  len_le : file.bytes.length ≤ ACTIVE_WAL_BYTES
  allocated_le : env.allocation.bytes file.bytes.length ≤ ACTIVE_WAL_BYTES

/-- A checkpoint file that names `last`. -/
structure CheckpointHolds (env : SpoolEnv M) (generationId : RealtimeSpoolGenerationId)
    (last : RealtimeSpoolRecordId) (file : File UInt8) : Prop where
  content : ∃ nonce, file.bytes =
    checkpointBytes env.key nonce (env.checkpointJson.toVec ⟨generationId, some last⟩)
  synced : file.synced = file.bytes.length
  len_le : file.bytes.length ≤ METADATA_BYTES
  allocated_le : env.allocation.bytes file.bytes.length ≤ METADATA_BYTES

/-- The checkpoint file for a mark: there is none as long as nothing is marked. -/
def CheckpointOf (env : SpoolEnv M) (generationId : RealtimeSpoolGenerationId) :
    Option RealtimeSpoolRecordId → Option (File UInt8) → Prop
  | none, file => file = none
  | some last, file => ∃ found, file = some found ∧ CheckpointHolds env generationId last found

/-- The disk holds `log`, and after its last frame possibly a torn one. -/
structure Represents (crashes : Prop) (env : SpoolEnv M) (spool : RealtimeMessageSpool)
    (log : CutLog (WalFrame env)) (tail : Bytes) (disk : SpoolDisk) : Prop where
  generation_ne : spool.generationUuid ≠ Uuid.nil
  generationId_eq : spool.generationId = ⟨env.text.toString spool.generationUuid⟩
  wal : ∃ file, disk .wal = some file ∧ WalHolds crashes env spool.generationUuid log tail file
  checkpoint : CheckpointOf env spool.generationId (lastId log.marked) (disk .checkpoint)
  records : (log.all.map WalFrame.recordId).Nodup
  admissions : (log.all.map WalFrame.admissionId).Nodup

/-- What the scanner finds of a log. -/
def scanOf (spool : RealtimeMessageSpool) (log : CutLog (WalFrame env)) (truncated : Bool) :
    ScannedWal M :=
  ⟨lastId log.dropped, scannedFrom spool WAL_HEADER_LEN log.stored, truncated⟩

def checkpointOf (spool : RealtimeMessageSpool) (log : CutLog (WalFrame env)) :
    Option StoredCheckpoint :=
  (lastId log.marked).map fun last => ⟨spool.generationId, some last⟩

/-- The pending frames as the scanner finds them. -/
def pendingOf (spool : RealtimeMessageSpool) (log : CutLog (WalFrame env)) :
    List (ScannedFrame M) :=
  scannedFrom spool (WAL_HEADER_LEN + (frameLog spool.generationUuid log.covered).length)
    log.pending

section

variable {spool : RealtimeMessageSpool}

@[simp] theorem length_scannedFrom (offset : ℕ) (frames : List (WalFrame env)) :
    (scannedFrom spool offset frames).length = frames.length := by
  induction frames generalizing offset with
  | nil => rfl
  | cons frame frames ih => rw [scannedFrom, List.length_cons, ih, List.length_cons]

theorem scannedFrom_append (offset : ℕ) (first rest : List (WalFrame env)) :
    scannedFrom spool offset (first ++ rest) = scannedFrom spool offset first ++
      scannedFrom spool (offset + (frameLog spool.generationUuid first).length) rest := by
  induction first generalizing offset with
  | nil => rfl
  | cons frame first ih =>
    simp only [List.cons_append, scannedFrom, ih, frameLog_cons, List.length_append,
      Nat.add_assoc]

theorem map_recovered_scannedFrom (offset : ℕ) (frames : List (WalFrame env)) :
    (scannedFrom spool offset frames).map ScannedFrame.recovered =
      frames.map (WalFrame.recovered spool) := by
  induction frames generalizing offset with
  | nil => rfl
  | cons frame frames ih =>
    rw [scannedFrom, List.map_cons, ih, List.map_cons]
    rfl

theorem map_recordId_scannedFrom (spool : RealtimeMessageSpool) (offset : ℕ)
    (frames : List (WalFrame env)) :
    (scannedFrom spool offset frames).map (fun frame => frame.stored.recordId) =
      frames.map WalFrame.recordId := by
  induction frames generalizing offset with
  | nil => rfl
  | cons frame frames ih =>
    rw [scannedFrom, List.map_cons, ih, List.map_cons]
    rfl

end

namespace Represents

variable {spool : RealtimeMessageSpool} {log : CutLog (WalFrame env)} {tail : Bytes}
  {disk : SpoolDisk}

/-- Only the WAL and the checkpoint count. -/
theorem congr {other : SpoolDisk} (h : Represents crashes env spool log tail disk)
    (hwal : other .wal = disk .wal) (hckpt : other .checkpoint = disk .checkpoint) :
    Represents crashes env spool log tail other :=
  ⟨h.generation_ne, h.generationId_eq, hwal ▸ h.wal, hckpt ▸ h.checkpoint, h.records,
    h.admissions⟩

theorem readable (h : Represents crashes env spool log tail disk) {base : Option Uuid}
    (hbase : base ≠ some Uuid.nil) : ReadableWal env spool.generationUuid base log.stored tail :=
  ⟨h.generation_ne, hbase, (log.stored_sublist_all.map _).nodup h.records,
    (log.stored_sublist_all.map _).nodup h.admissions, h.wal.choose_spec.2.torn⟩

/-- Scanning finds the stored frames and truncates what follows them. -/
theorem scanLocked_eq (h : Represents crashes env spool log tail disk) (repairTail : Bool) :
    scanLocked env spool repairTail disk =
      (if tail.isEmpty then pure (scanOf spool log false)
      else do
        truncateFinalTail (WAL_HEADER_LEN + (frameLog spool.generationUuid log.stored).length)
          repairTail
        pure (scanOf spool log true) : SpoolIo (ScannedWal M)) disk := by
  obtain ⟨file, hwal, hfile⟩ := h.wal
  obtain ⟨base, hbase, hnil, hbytes⟩ := hfile.content
  rw [ServerRS.Spool.scanLocked_eq hwal hbytes (h.readable hnil) repairTail]
  simp only [scannedWal, scanOf, hbase]

theorem scanLocked_complete (h : Represents crashes env spool log [] disk) (repairTail : Bool) :
    scanLocked env spool repairTail disk = ⟨.ok (scanOf spool log false), disk, []⟩ :=
  h.scanLocked_eq repairTail

variable {last : RealtimeSpoolRecordId}

theorem recordUuid_lastId {frames : List (WalFrame env)} (hlast : lastId frames = some last) :
    ∃ uuid, uuid ≠ Uuid.nil ∧ last = ⟨env.text.toString uuid⟩ ∧
      recordUuid env.text last = .ok uuid := by
  obtain ⟨frame, -, rfl⟩ := Option.map_eq_some_iff.mp hlast
  obtain ⟨uuid, hnil, heq⟩ := frame.recordable.record_uuid
  refine ⟨uuid, hnil, heq, ?_⟩
  rw [WalFrame.recordId, heq, recordUuid, env.text.parseStr_toString]

omit [SpoolMessage M] in
theorem readCheckpoint_eq {generationId : RealtimeSpoolGenerationId} {file : File UInt8}
    (hfile : CheckpointHolds env generationId last file)
    (huuid : ∃ uuid, recordUuid env.text last = .ok uuid) :
    readCheckpoint env (some file) = .ok (some ⟨generationId, some last⟩) := by
  obtain ⟨⟨nonce, hbytes⟩, -, hlen, -⟩ := hfile
  obtain ⟨uuid, huuid⟩ := huuid
  set plaintext := env.checkpointJson.toVec ⟨generationId, some last⟩ with hpln
  set header := checkpointHeaderOf env.key nonce plaintext with hhdr
  have hheaderLen : header.length = CHECKPOINT_HEADER_LEN :=
    length_sealedHeader rfl env.key.length_keyId _ _
  have hleng : file.bytes.length = CHECKPOINT_HEADER_LEN + (plaintext.length + TAG_LEN) := by
    rw [hbytes, checkpointBytes, ← hhdr, List.length_append, hheaderLen, env.key.length_seal]
  have htake : file.bytes.take CHECKPOINT_HEADER_LEN = header := by
    rw [hbytes, checkpointBytes, ← hhdr, List.take_left' hheaderLen]
  have hdrop : file.bytes.drop CHECKPOINT_HEADER_LEN =
      env.key.sealInPlace nonce header plaintext := by
    rw [hbytes, checkpointBytes, ← hhdr, List.drop_left' hheaderLen]
  have hmeta : METADATA_BYTES = 2 ^ 24 := rfl
  have hparse : parseCheckpointHeader header env.key.keyId =
      .ok (plaintext.length + TAG_LEN, nonce) := by
    rw [parseCheckpointHeader, if_neg (by simp [hheaderLen])]
    exact parseSealedHeader_sealedHeader rfl _ _ env.key.length_keyId (by omega) (by omega)
      (by omega) _
  rw [readCheckpoint]
  simp only [htake, hdrop, hparse, Except.bind, bind]
  rw [if_neg (by omega), if_neg (by simp [hleng]), env.key.open_seal]
  simp only [hpln, env.checkpointJson.fromSlice_toVec, huuid]

theorem readCheckpointLocked_eq (h : Represents crashes env spool log tail disk) :
    readCheckpointLocked env disk = ⟨.ok (checkpointOf spool log), disk, []⟩ := by
  have hckpt := h.checkpoint
  rw [readCheckpointLocked, Stepwise.get_bind_apply, checkpointOf]
  cases hlast : lastId log.marked with
  | none =>
    rw [hlast] at hckpt
    rw [show disk .checkpoint = none from hckpt]
    rfl
  | some last =>
    rw [hlast] at hckpt
    obtain ⟨file, hfile, hholds⟩ := hckpt
    obtain ⟨uuid, -, -, huuid⟩ := recordUuid_lastId hlast
    rw [hfile, readCheckpoint_eq hholds ⟨uuid, huuid⟩]
    rfl

/-- The record that the base names is not stored any more. -/
theorem lastId_dropped_ne (h : Represents crashes env spool log tail disk) {frame : WalFrame env}
    (hfrm : frame ∈ log.stored) : lastId log.dropped ≠ some frame.recordId := by
  intro heq
  obtain ⟨last, hlast, hid⟩ := Option.map_eq_some_iff.mp heq
  have hnd := h.records
  rw [CutLog.all, List.map_append, List.nodup_append] at hnd
  exact hnd.2.2 _ (List.mem_map_of_mem (List.mem_of_getLast? hlast)) _
    (List.mem_map_of_mem hfrm) hid

/-- What is pending after the checkpoint are the pending frames. -/
theorem pendingAfterCheckpoint_eq (h : Represents crashes env spool log tail disk) (truncated : Bool) :
    pendingAfterCheckpoint spool (scanOf spool log truncated) (checkpointOf spool log) =
      .ok (pendingOf spool log) := by
  rcases hcov : log.covered.getLast? with _ | last
  · -- nothing is covered: the checkpoint names the base
    have hnil := List.getLast?_eq_none_iff.mp hcov
    have hmark : lastId log.marked = lastId log.dropped := by
      rw [CutLog.marked, hnil, List.append_nil]
    have hpend : pendingOf spool log = scannedFrom spool WAL_HEADER_LEN log.stored := by
      rw [pendingOf, CutLog.stored, hnil]
      rfl
    rw [pendingAfterCheckpoint.eq_def, checkpointOf, hmark, hpend]
    cases hbase : lastId log.dropped with
    | none => simp [scanOf, hbase]
    | some base => simp [scanOf, hbase]
  · -- the checkpoint names a stored frame
    have hmark : lastId log.marked = some last.recordId := by
      rw [lastId, CutLog.marked, List.getLast?_append, hcov]
      rfl
    have hmem : last ∈ log.stored :=
      List.mem_append_left _ (List.mem_of_getLast? hcov)
    have hbase := h.lastId_dropped_ne hmem
    -- its position among the scanned frames
    have hspl : scannedFrom spool WAL_HEADER_LEN log.stored =
        scannedFrom spool WAL_HEADER_LEN log.covered ++ pendingOf spool log :=
      scannedFrom_append WAL_HEADER_LEN log.covered log.pending
    have hids : ((scannedFrom spool WAL_HEADER_LEN log.stored).map
        fun frame => frame.stored.recordId).Nodup := by
      rw [map_recordId_scannedFrom]
      exact (log.stored_sublist_all.map _).nodup h.records
    obtain ⟨found, hfnd, hid⟩ : ∃ found : ScannedFrame M,
        (scannedFrom spool WAL_HEADER_LEN log.covered).getLast? = some found ∧
          found.stored.recordId = last.recordId := by
      have hmap := congrArg List.getLast? (map_recordId_scannedFrom spool
        WAL_HEADER_LEN log.covered)
      rw [List.getLast?_map, List.getLast?_map, hcov] at hmap
      exact Option.map_eq_some_iff.mp hmap
    rw [hspl] at hids
    have hindex := CutLog.findIdx?_last (fun frame => frame.stored.recordId) hfnd hids
    rw [length_scannedFrom] at hindex
    have hpos : 0 < log.covered.length :=
      List.length_pos_of_mem (List.mem_of_getLast? hcov)
    have hdrop : (scannedFrom spool WAL_HEADER_LEN log.covered ++ pendingOf spool log).drop
        (log.covered.length - 1 + 1) = pendingOf spool log := by
      rw [List.drop_left' (by rw [length_scannedFrom]; omega)]
    rw [← hid] at hbase
    rw [pendingAfterCheckpoint.eq_def, checkpointOf, hmark]
    simp only [Option.map_some, scanOf, ne_eq, not_true_eq_false, if_false, hbase, hspl, ← hid,
      hindex, hdrop]

theorem recoverPending_eq (h : Represents crashes env spool log [] disk) :
    spool.recoverPending env disk = ⟨.ok (log.pending.map (WalFrame.recovered spool)), disk, []⟩ := by
  rw [RealtimeMessageSpool.recoverPending, Stepwise.bind_of_pure (h.scanLocked_complete false),
    Stepwise.bind_of_pure h.readCheckpointLocked_eq, h.pendingAfterCheckpoint_eq,
    Stepwise.ok_bind_apply, pendingOf, map_recovered_scannedFrom]
  rfl

end Represents

/-! ## Losing what was not synced -/

section

variable {generation : Uuid} {log : CutLog (WalFrame env)} {tail : Bytes} {file : File UInt8}

/-- The first bytes of a WAL, at least its header, hold its first frames. -/
theorem walBytes_take (base : Option Uuid) (frames : List (WalFrame env))
    (htorn : TornFrame env generation tail) {keep : ℕ} (hhdr : WAL_HEADER_LEN ≤ keep) :
    ∃ n tail', n ≤ frames.length ∧ TornFrame env generation tail' ∧
      (walBytes env generation base frames tail).take keep =
        walBytes env generation base (frames.take n) tail' ∧
      ∀ m ≤ frames.length,
        WAL_HEADER_LEN + (frameLog generation (frames.take m)).length ≤ keep → m ≤ n := by
  obtain ⟨n, tail', hn, htorn', htake, hkeep⟩ := take_frameLog frames htorn (keep - WAL_HEADER_LEN)
  have hlen := length_walHeader env.key.length_keyId generation base
  refine ⟨n, tail', hn, htorn', ?_, fun m hm hle => hkeep m hm (by omega)⟩
  rw [walBytes, walBytes, List.take_append, List.take_of_length_le (by omega), hlen, htake]

theorem WalHolds.crash (h : WalHolds crashes env generation log tail file)
    (hc : crashes) {left : File UInt8}
    (hcrash : file.Crash left) (hhdr : WAL_HEADER_LEN ≤ left.bytes.length) :
    ∃ n tail', ∃ hlow : log.durable ≤ n, ∃ hhigh : n ≤ log.stored.length,
      WalHolds crashes env generation (log.crash n hlow hhigh) tail' left := by
  obtain ⟨keep, hsynced, hle, rfl⟩ := hcrash
  obtain ⟨base, hbase, hnil, hbytes⟩ := h.content
  have hlen : (file.bytes.take keep).length = keep := by rw [List.length_take]; omega
  rw [hlen] at hhdr
  obtain ⟨n, tail', hn, htorn, htake, hkeep⟩ :=
    walBytes_take base log.stored h.torn hhdr
  have hlow : log.durable ≤ n := by
    rcases h.durable hc with hzero | hdurable
    · omega
    · exact hkeep log.durable log.durable_le (hdurable.trans hsynced)
  refine ⟨n, tail', hlow, hn, ⟨base, hbase, hnil, ?_⟩, htorn, fun _ => .inr ?_, ?_, ?_, ?_⟩
  · rw [CutLog.stored_crash, ← htake, hbytes]
  · -- everything that is left is durable
    have hcut := congrArg List.length htake
    rw [← hbytes, hlen, length_walBytes] at hcut
    show WAL_HEADER_LEN + (frameLog generation
      ((log.crash n hlow hn).stored.take n)).length ≤ keep
    rw [CutLog.stored_crash, List.take_take, Nat.min_self]
    omega
  · exact hlen.ge
  · exact (hlen.trans_le hle).trans h.len_le
  · exact (env.allocation.mono (hlen.trans_le hle)).trans h.allocated_le

/-- All complete frames within the synced bytes are durable. -/
theorem WalHolds.sync (h : WalHolds crashes env generation log tail file) {n : ℕ}
    (hlow : log.durable ≤ n) (hhigh : n ≤ log.stored.length) (hn : crashes →
      WAL_HEADER_LEN + (frameLog generation (log.stored.take n)).length ≤ file.synced) :
    WalHolds crashes env generation (log.sync n hlow hhigh) tail file :=
  ⟨h.content, h.torn, fun hc => .inr (hn hc), h.synced_le, h.len_le, h.allocated_le⟩

end

namespace Represents

variable {spool : RealtimeMessageSpool} {log : CutLog (WalFrame env)} {tail : Bytes}
  {disk : SpoolDisk}

theorem checkpoint_synced (h : Represents crashes env spool log tail disk) {left : SpoolDisk}
    (hcrash : disk.Crash left) : left .checkpoint = disk .checkpoint := by
  have hckpt := h.checkpoint
  cases hlast : lastId log.marked with
  | none =>
    rw [hlast] at hckpt
    have hnone : disk .checkpoint = none := hckpt
    rw [hnone, hcrash.of_none hnone]
  | some last =>
    rw [hlast] at hckpt
    obtain ⟨file, hfile, hholds⟩ := hckpt
    obtain ⟨file', hleft, hcras⟩ := hcrash.of_some hfile
    rw [hleft, hfile, hcras.eq_of_synced hholds.synced]

/-- A crash that leaves the header of the WAL leaves a log with the durable frames. -/
theorem crash (h : Represents crashes env spool log tail disk) (hc : crashes) {left : SpoolDisk}
    (hcrash : disk.Crash left)
    (hhdr : ∀ file, left .wal = some file → WAL_HEADER_LEN ≤ file.bytes.length) :
    ∃ n tail', ∃ hlow : log.durable ≤ n, ∃ hhigh : n ≤ log.stored.length,
      Represents crashes env spool (log.crash n hlow hhigh) tail' left := by
  obtain ⟨file, hwal, hholds⟩ := h.wal
  obtain ⟨file', hleft, hcras⟩ := hcrash.of_some hwal
  obtain ⟨n, tail', hlow, hhigh, hholds'⟩ := hholds.crash hc hcras (hhdr file' hleft)
  have hsub := log.all_crash_sublist hlow hhigh
  refine ⟨n, tail', hlow, hhigh, h.generation_ne, h.generationId_eq, ⟨file', hleft, hholds'⟩, ?_,
    (hsub.map _).nodup h.records, (hsub.map _).nodup h.admissions⟩
  rw [h.checkpoint_synced hcrash]
  exact h.checkpoint

end Represents

end ServerRS.Spool

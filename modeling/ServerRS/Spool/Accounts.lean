import ServerRS.Spool.History

/-!
# Keeping the accounts of a history

`Holds` says that the files of a history hold a log that accounts for what the history
promised: an acknowledged record is durable and pending or was passed by a checkpoint, and
what an acknowledged checkpoint covers is under the mark. Every call keeps it.
-/

namespace ServerRS.Spool

open Lib Stepwise

variable {M : Type} [SpoolMessage M] {crashes : Prop} {env : SpoolEnv M}

/-- What the log owes to a history. -/
structure Accounts (log : CutLog (WalFrame env)) (h : SpoolHistory M) : Prop where
  attempted : (log.all.map WalFrame.stored).Sublist h.attempts
  receipts : ∀ id ∈ h.receipts, id ∈ h.replaced ∨ id ∈ log.durablePending.map WalFrame.recordId
  acked : ∀ id ∈ h.acked, id ∈ log.marked.map WalFrame.recordId

/-- The files hold a log that accounts for the history. -/
structure Holds (crashes : Prop) (env : SpoolEnv M) (h : SpoolHistory M)
    (spool : RealtimeMessageSpool) (log : CutLog (WalFrame env)) (tail : Bytes) : Prop where
  files : Represents crashes env spool log tail h.disk
  process_eq : ∀ running, h.process = some running → running = spool
  accounts : Accounts log h

/-- The WAL file is missing or has its whole header. -/
def HeaderComplete (disk : SpoolDisk) : Prop :=
  ∀ file, disk .wal = some file → WAL_HEADER_LEN ≤ file.bytes.length

/-- The records of the complete frames among `bytes`. -/
def recordsIn (env : SpoolEnv M) (spool : RealtimeMessageSpool) (bytes : Bytes) :
    List RealtimeSpoolRecordId :=
  match scanLoop (nextFrame env spool) bytes.length ⟨WAL_HEADER_LEN, [], [], []⟩
      (bytes.drop WAL_HEADER_LEN) with
  | .ok (scan, _) => scan.frames.map fun frame => frame.stored.recordId
  | .error _ => []

/-- None of the records is in the WAL in unsynced bytes only. -/
def SyncedBefore (env : SpoolEnv M) (spool : RealtimeMessageSpool) (disk : SpoolDisk)
    (recordIds : List RealtimeSpoolRecordId) : Prop :=
  ∀ file, disk .wal = some file → ∀ id ∈ recordIds, id ∈ recordsIn env spool file.bytes →
    id ∈ recordsIn env spool (file.bytes.take file.synced)

/-! ## Durable frames -/

section

variable {spool : RealtimeMessageSpool} {log : CutLog (WalFrame env)} {tail : Bytes}
  {disk : SpoolDisk} {frames : List (WalFrame env)}

theorem recordsIn_walBytes {base : Option Uuid}
    (h : ReadableWal env spool.generationUuid base frames tail) :
    recordsIn env spool (walBytes env spool.generationUuid base frames tail) =
      frames.map WalFrame.recordId := by
  have hdrop : (walBytes env spool.generationUuid base frames tail).drop WAL_HEADER_LEN =
      frameLog spool.generationUuid frames ++ tail := by
    rw [walBytes, List.drop_left' (length_walHeader env.key.length_keyId _ _)]
  rw [recordsIn, hdrop, scanLoop_walBytes h.records h.admissions h.torn
    (by rw [length_walBytes, List.length_append]; omega)]
  show ((frames.foldl (ScanState.push spool) ⟨WAL_HEADER_LEN, [], [], []⟩).frames.map
    fun frame => frame.stored.recordId) = _
  rw [(foldl_push spool _ frames).1, List.nil_append, map_recordId_scannedFrom]

/-- Where nothing crashes, every stored frame counts as durable. -/
theorem Represents.syncAll_of_no_crash (h : Represents crashes env spool log tail disk)
    (hc : ¬crashes) : Represents crashes env spool log.syncAll tail disk := by
  obtain ⟨file, hwal, hholds⟩ := h.wal
  exact ⟨h.generation_ne, h.generationId_eq, ⟨file, hwal,
    hholds.sync log.durable_le (Nat.le_refl _) fun hcrash => absurd hcrash hc⟩, h.checkpoint,
    h.records, h.admissions⟩

/-- A frame at a known position of a log without repetitions. -/
theorem index_lt_of_mem_take (hnd : (frames.map WalFrame.recordId).Nodup) {i m : ℕ}
    (hi : i < frames.length) (hmem : frames[i].recordId ∈ (frames.take m).map WalFrame.recordId) :
    i < m := by
  obtain ⟨j, hj, heq⟩ := List.mem_iff_getElem.mp hmem
  rw [List.length_map, List.length_take] at hj
  have hjlen : j < frames.length := by omega
  rw [List.getElem_map, List.getElem_take] at heq
  have hij : (frames.map WalFrame.recordId)[j]? = (frames.map WalFrame.recordId)[i]? := by
    rw [List.getElem?_map, List.getElem?_map, List.getElem?_eq_getElem hjlen,
      List.getElem?_eq_getElem hi, Option.map_some, Option.map_some, heq]
  have := (List.getElem?_inj (by rwa [List.length_map]) hnd).mp hij
  omega

theorem recordsIn_of_short {bytes : Bytes} (h : bytes.length ≤ WAL_HEADER_LEN) :
    recordsIn env spool bytes = [] := by
  rw [recordsIn, List.drop_of_length_le h, scanLoop_nil]
  rfl

/-- The last of the first pending frames, by its position among the stored ones. -/
theorem pending_lt_of_mem (hnd : (log.stored.map WalFrame.recordId).Nodup) {n m : ℕ}
    (hpos : 0 < n) (hn : n ≤ log.pending.length)
    (hmem : ∀ id ∈ (log.pending.take n).map WalFrame.recordId,
      id ∈ (log.stored.take m).map WalFrame.recordId) : log.covered.length + n ≤ m := by
  have hlen : log.covered.length + (n - 1) < log.stored.length := by
    rw [CutLog.stored, List.length_append]
    omega
  have hget : log.stored[log.covered.length + (n - 1)] = log.pending[n - 1] := by
    simp only [CutLog.stored]
    rw [List.getElem_append_right (by omega)]
    simp
  have hlast : log.pending[n - 1].recordId ∈ (log.pending.take n).map WalFrame.recordId :=
    List.mem_map_of_mem (List.mem_take_iff_getElem.mpr ⟨n - 1, by omega, rfl⟩)
  have := index_lt_of_mem_take hnd hlen (hget ▸ hmem _ hlast)
  omega

/-- A prefix that lies in the synced bytes is durable. -/
theorem Represents.coversDurable (h : Represents crashes env spool log [] disk)
    {recordIds : List RealtimeSpoolRecordId} (hsynced : SyncedBefore env spool disk recordIds) :
    ∃ n, ∃ hlow : log.durable ≤ n, ∃ hhigh : n ≤ log.stored.length,
      Represents crashes env spool (log.sync n hlow hhigh) [] disk ∧
        CoversDurable (log.sync n hlow hhigh) recordIds := by
  obtain ⟨file, hwal, hholds⟩ := h.wal
  obtain ⟨base, hbase, hnil, hbytes⟩ := hholds.content
  have hids := hsynced file hwal
  rw [hbytes, recordsIn_walBytes (h.readable hnil)] at hids
  have hrecs : (log.stored.map WalFrame.recordId).Nodup :=
    (log.stored_sublist_all.map _).nodup h.records
  have hstd : ∀ n, ∀ id ∈ (log.pending.take n).map WalFrame.recordId,
      id ∈ log.stored.map WalFrame.recordId := fun n =>
    ((List.take_sublist n log.pending).trans (List.sublist_append_right _ _)).map _ |>.subset
  have hcov := log.covered_le
  rcases Nat.lt_or_ge file.synced WAL_HEADER_LEN with hshort | hhdr
  · -- no frame is synced, so the prefix is empty
    refine ⟨log.durable, Nat.le_refl _, log.durable_le, h, fun n hn heq => ?_⟩
    rw [recordsIn_of_short (by rw [List.length_take]; omega)] at hids
    rcases Nat.eq_zero_or_pos n with rfl | hpos
    · exact hcov
    · refine (pending_lt_of_mem hrecs hpos hn fun id hid => ?_).trans hcov
      exact absurd (hids id (heq ▸ hid) (hstd n id hid)) List.not_mem_nil
  · obtain ⟨m, tail', hm, htorn, htake, hkeep⟩ := walBytes_take base log.stored hholds.torn hhdr
    have hlen := congrArg List.length htake
    rw [length_walBytes, ← hbytes, List.length_take] at hlen
    have hsyncedLe := hholds.synced_le
    -- raise the number of durable frames to those that are synced
    refine ⟨max log.durable m, Nat.le_max_left _ _, Nat.max_le.mpr ⟨log.durable_le, hm⟩, ?_, ?_⟩
    · refine ⟨h.generation_ne, h.generationId_eq, ⟨file, hwal, hholds.sync _ _ fun hc => ?_⟩,
        h.checkpoint, h.records, h.admissions⟩
      rcases hholds.durable hc with hzero | hdur
      · rw [hzero, Nat.zero_max]
        omega
      · rw [Nat.max_eq_right (hkeep _ log.durable_le hdur)]
        omega
    · intro n hn heq
      rw [htake, recordsIn_walBytes ⟨h.generation_ne, hnil, (hrecs.sublist
        ((List.take_sublist m log.stored).map _)), ((log.stored_sublist_all.map _).nodup
          h.admissions).sublist ((List.take_sublist m log.stored).map _), htorn⟩] at hids
      rcases Nat.eq_zero_or_pos n with rfl | hpos
      · exact hcov.trans (Nat.le_max_left _ _)
      · refine (pending_lt_of_mem hrecs hpos hn fun id hid => ?_).trans (Nat.le_max_right _ _)
        exact hids id (heq ▸ hid) (hstd n id hid)

/-- Beside the same checkpoint the mark has not moved. -/
theorem Represents.of_advance {n : ℕ} {disk disk' : SpoolDisk}
    (hold : Represents crashes env spool log [] disk) (hn : log.covered.length + n ≤ log.durable)
    (h : Represents crashes env spool (log.advance n hn) [] disk')
    (hckpt : disk' .checkpoint = disk .checkpoint) :
    Represents crashes env spool log [] disk' := by
  obtain ⟨file, hwal, hholds⟩ := h.wal
  refine ⟨hold.generation_ne, hold.generationId_eq, ⟨file, hwal, ?_⟩, ?_, hold.records,
    hold.admissions⟩
  · refine ⟨?_, hholds.torn, ?_, hholds.synced_le, hholds.len_le, hholds.allocated_le⟩
    · have hcontent := hholds.content
      rwa [CutLog.stored_advance] at hcontent
    · have hdur := hholds.durable
      rwa [CutLog.stored_advance] at hdur
  · rw [hckpt]
    exact hold.checkpoint

end

/-! ## The accounts through the operations of the log -/

namespace Accounts

variable {log : CutLog (WalFrame env)} {h : SpoolHistory M} {h' : SpoolHistory M} {n : ℕ}
  {frame : WalFrame env}

section

variable (ha : Accounts log h)
include ha

/-- A log with the same records and no less durable ones. -/
theorem of_grown {log' : CutLog (WalFrame env)}
    (hall : (log'.all.map WalFrame.stored).Sublist h'.attempts)
    (hdur : log.durablePending.Sublist log'.durablePending) (hmarked : log'.marked = log.marked)
    (hrcps : h'.receipts = h.receipts) (hrepl : h'.replaced = h.replaced)
    (hacked : h'.acked = h.acked) : Accounts log' h' := by
  refine ⟨hall, fun id hid => ?_, fun id hid => ?_⟩
  · rw [hrcps] at hid
    rw [hrepl]
    exact (ha.receipts id hid).imp_right fun hmem => (hdur.map _).subset hmem
  · rw [hacked] at hid
    rw [hmarked]
    exact ha.acked id hid

theorem sync (hlow : log.durable ≤ n) (hhigh : n ≤ log.stored.length) :
    Accounts (log.sync n hlow hhigh) h :=
  ha.of_grown ha.attempted (log.durablePending_sync hlow hhigh) rfl rfl rfl rfl

theorem compact : Accounts log.compact h :=
  ha.of_grown (by rw [CutLog.all_compact]; exact ha.attempted) log.durablePending_compact
    log.marked_compact rfl rfl rfl

theorem crash (hlow : log.durable ≤ n) (hhigh : n ≤ log.stored.length) :
    Accounts (log.crash n hlow hhigh) h :=
  ha.of_grown (((log.all_crash_sublist hlow hhigh).map _).trans ha.attempted)
    (log.durablePending_crash hlow hhigh) rfl rfl rfl rfl

/-- The attempt at a further frame, which may not be in the log. -/
theorem attempt {stored : StoredMessageFrame M}
    (hatt : h'.attempts = h.attempts ++ [stored]) (hrcps : h'.receipts = h.receipts)
    (hrepl : h'.replaced = h.replaced) (hacked : h'.acked = h.acked) : Accounts log h' :=
  ha.of_grown (by rw [hatt]; exact ha.attempted.trans (List.sublist_append_left _ _))
    (List.Sublist.refl _) rfl hrcps hrepl hacked

theorem append (hatt : h'.attempts = h.attempts ++ [frame.stored])
    (hrcps : h'.receipts = h.receipts) (hrepl : h'.replaced = h.replaced)
    (hacked : h'.acked = h.acked) : Accounts (log.append frame) h' := by
  refine ha.of_grown ?_ (log.durablePending_append frame) rfl hrcps hrepl hacked
  rw [hatt, CutLog.all_append, List.map_append]
  exact ha.attempted.append (List.Sublist.refl _)

/-- The receipt for a frame that has become durable. -/
theorem receipt (hfrm : frame ∈ log.durablePending) (hatt : h'.attempts = h.attempts)
    (hrcps : h'.receipts = h.receipts ++ [frame.recordId])
    (hrepl : h'.replaced = h.replaced) (hacked : h'.acked = h.acked) : Accounts log h' := by
  refine ⟨by rw [hatt]; exact ha.attempted, fun id hid => ?_, by rw [hacked]; exact ha.acked⟩
  rw [hrcps, List.mem_append, List.mem_singleton] at hid
  rw [hrepl]
  rcases hid with hid | rfl
  · exact ha.receipts id hid
  · exact .inr (List.mem_map_of_mem hfrm)

/-- The mark moves; the records it passes are recorded as replaced, and may be as acked. -/
theorem advance (hn : log.covered.length + n ≤ log.durable)
    (hatt : h'.attempts = h.attempts) (hrcps : h'.receipts = h.receipts)
    (hrepl : h'.replaced = h.replaced ++ (log.pending.take n).map WalFrame.recordId)
    (hacked : ∀ id ∈ h'.acked, id ∈ h.acked ∨ id ∈ (log.pending.take n).map WalFrame.recordId) :
    Accounts (log.advance n hn) h' := by
  refine ⟨by rw [hatt, CutLog.all_advance]; exact ha.attempted, fun id hid => ?_,
    fun id hid => ?_⟩
  · rw [hrcps] at hid
    rw [hrepl, List.mem_append]
    rcases ha.receipts id hid with hid | hid
    · exact .inl (.inl hid)
    · obtain ⟨frame, hfrm, rfl⟩ := List.mem_map.mp hid
      exact (log.mem_durablePending_advance hn hfrm).elim
        (fun hmem => .inl (.inr (List.mem_map_of_mem hmem)))
        fun hmem => .inr (List.mem_map_of_mem hmem)
  · rw [CutLog.marked_advance, List.map_append, List.mem_append]
    exact (hacked id hid).imp (ha.acked id) fun hmem => hmem

end

end Accounts

/-! ## The accounts through the calls -/

namespace Holds

variable {spool : RealtimeMessageSpool} {log : CutLog (WalFrame env)} {tail : Bytes}
  {h : SpoolHistory M}

/-- `open` succeeds on whatever a history left. -/
theorem open_result (hh : Holds crashes env h spool log tail) (generation : Uuid) :
    (RealtimeMessageSpool.open env generation h.disk).result =
        .ok ⟨spool, recoveryOf spool log (!tail.isEmpty)⟩ ∧
      Represents crashes env spool log [] (RealtimeMessageSpool.open env generation h.disk).state := by
  have hwp : wp (RealtimeMessageSpool.open env generation) (fun _ => True)
      (fun opened disk' => opened = ⟨spool, recoveryOf spool log (!tail.isEmpty)⟩ ∧
        Represents crashes env spool log [] disk') (fun _ _ => False) h.disk :=
    open_wp hh.files generation (fun _ _ => trivial) fun _ h' _ => ⟨rfl, h'⟩
  cases hres : (RealtimeMessageSpool.open env generation h.disk).result with
  | error e => exact (wp_error hwp hres).elim
  | ok opened =>
    obtain ⟨rfl, hfiles⟩ := wp_ok hwp hres
    exact ⟨rfl, hfiles⟩

variable {disk : SpoolDisk} {admission : RealtimeSpoolAdmission M} {recordUuid : Uuid}
  {nonce : Nonce} {upTo : RealtimeSpoolCheckpointPrefix}

theorem open_leaves (hh : Holds crashes env h spool log tail) {generation : Uuid}
    (hleft : Leaves (RealtimeMessageSpool.open env generation) h.disk disk) :
    ∃ tail', Represents crashes env spool log tail' disk := by
  have hwp : wp (RealtimeMessageSpool.open env generation)
      (fun disk' => ∃ tail', Represents crashes env spool log tail' disk') (fun _ _ => True)
      (fun _ _ => False) h.disk := open_wp hh.files generation (fun _ h' => h') fun _ _ _ => trivial
  exact wp_leaves hwp ⟨tail, hh.files⟩ (fun _ _ he => he.elim) hleft

/-- A new frame is none of the log. -/
theorem new_record (hh : Holds crashes env h spool log tail)
    (hnew : NewFrame env h admission recordUuid) :
    (storedFrame env admission recordUuid).recordId ∉ log.all.map WalFrame.recordId := fun hmem => by
  have hsub := hh.accounts.attempted.map StoredMessageFrame.recordId
  rw [List.map_map] at hsub
  exact hnew.record_new (hsub.subset hmem)

theorem new_admission (hh : Holds crashes env h spool log tail)
    (hnew : NewFrame env h admission recordUuid) :
    admission.admissionId ∉ log.all.map WalFrame.admissionId := fun hmem => by
  have hsub := hh.accounts.attempted.map StoredMessageFrame.admissionId
  rw [List.map_map] at hsub
  exact hnew.admission_new (hsub.subset hmem)

section

variable (hh : Holds crashes env h spool log [])
include hh

theorem append_wp (hnew : NewFrame env h admission recordUuid) (nonce : Nonce) :
    wp (spool.append env admission recordUuid nonce)
      (Attempted crashes env spool log (storedFrame env admission recordUuid))
      (fun receipt disk' => receipt.recordId = (storedFrame env admission recordUuid).recordId ∧
        ∃ frame : WalFrame env, frame.stored = storedFrame env admission recordUuid ∧
          Represents crashes env spool (log.append frame).syncAll [] disk')
      (fun _ disk' => disk' = h.disk) h.disk :=
  ServerRS.Spool.append_wp hh.files admission hnew.admission_not_blank hnew.record_ne nonce
    (hh.new_record hnew) (hh.new_admission hnew)

/-- An acknowledged frame is durable and pending. -/
theorem appended {receipt : DurableSpoolReceipt} (hnew : NewFrame env h admission recordUuid)
    (hok : (spool.append env admission recordUuid nonce h.disk).result = .ok receipt) :
    ∃ log', Holds crashes env { h with
      disk := (spool.append env admission recordUuid nonce h.disk).state
      attempts := h.attempts ++ [storedFrame env admission recordUuid]
      receipts := h.receipts ++ [receipt.recordId] } spool log' [] := by
  obtain ⟨hid, frame, hfrm, hfiles⟩ := wp_ok (hh.append_wp hnew nonce) hok
  have happ : Accounts (log.append frame) { h with
      attempts := h.attempts ++ [storedFrame env admission recordUuid] } :=
    hh.accounts.append (by rw [hfrm]) rfl rfl rfl
  have hpend : frame ∈ (log.append frame).syncAll.durablePending := by
    rw [CutLog.durablePending_syncAll]
    exact List.mem_append_right _ (List.mem_singleton_self frame)
  refine ⟨_, hfiles, hh.process_eq, (happ.sync _ _).receipt hpend rfl ?_ rfl rfl⟩
  rw [hid, ← hfrm]
  rfl

/-- A failed `append` leaves the log, or the log with the whole frame. -/
theorem appendFailed (hnew : NewFrame env h admission recordUuid)
    (hleft : Leaves (spool.append env admission recordUuid nonce) h.disk disk) :
    ∃ log' tail', Holds crashes env { h with
        disk
        failed := true
        attempts := h.attempts ++ [storedFrame env admission recordUuid] } spool log' tail' ∧
      (tail' = [] ∨ log' = log ∧ tail'.length < frameLen env (storedFrame env admission recordUuid)) := by
  have hpos : ([] : Bytes).length < frameLen env (storedFrame env admission recordUuid) := by
    rw [frameLen, FRAME_HEADER_LEN]
    exact Nat.lt_of_lt_of_le (by decide : 0 < 4 + 1 + KEY_ID_LEN + 4 + NONCE_LEN)
      (Nat.le_add_right _ _)
  have hsta : Attempted crashes env spool log (storedFrame env admission recordUuid) h.disk :=
    .inl ⟨[], hpos, hh.files⟩
  rcases wp_leaves (hh.append_wp hnew nonce) hsta (fun _ _ he => he ▸ hsta) hleft with
    ⟨tail', hlt, hfiles⟩ | ⟨frame, hfrm, hfiles⟩
  · exact ⟨log, tail', ⟨hfiles, hh.process_eq, hh.accounts.attempt rfl rfl rfl rfl⟩,
      .inr ⟨rfl, hlt⟩⟩
  · exact ⟨log.append frame, [], ⟨hfiles, hh.process_eq,
      hh.accounts.append (by rw [hfrm]) rfl rfl rfl⟩, .inl rfl⟩

theorem recover_points (hleft : Leaves (spool.recoverPending env) h.disk disk) : disk = h.disk := by
  rw [Leaves, points, hh.files.recoverPending_eq] at hleft
  rcases hleft with hmem | ⟨e, he, -⟩
  · exact List.mem_singleton.mp hmem
  · cases he

/-- `advance_checkpoint` moves the mark over exactly the records of the prefix. -/
theorem advanced (hdur : CoversDurable log upTo.recordIds)
    (hok : (spool.advanceCheckpoint env upTo nonce h.disk).result = .ok ()) :
    ∃ log', Holds crashes env { h with
      disk := (spool.advanceCheckpoint env upTo nonce h.disk).state
      replaced := h.replaced ++ upTo.recordIds
      acked := h.acked ++ upTo.recordIds } spool log' [] := by
  rcases wp_ok (advanceCheckpoint_wp hh.files upTo nonce hdur) hok with
    ⟨hemp, hdisk⟩ | ⟨n, hn, hids, hfiles⟩
  · refine ⟨log, by rw [hdisk]; exact hh.files, hh.process_eq, ?_⟩
    rw [hemp, List.append_nil, List.append_nil]
    exact ⟨hh.accounts.attempted, hh.accounts.receipts, hh.accounts.acked⟩
  · refine ⟨_, hfiles, hh.process_eq, hh.accounts.advance hn rfl rfl (by rw [hids]) fun id hid => ?_⟩
    rw [← hids]
    exact List.mem_append.mp hid

theorem advanceFailed (hdur : CoversDurable log upTo.recordIds)
    (hleft : Leaves (spool.advanceCheckpoint env upTo nonce) h.disk disk) :
    ∃ log', Holds crashes env { h with
      disk
      failed := true
      replaced := if disk .checkpoint = h.disk .checkpoint then h.replaced
        else h.replaced ++ upTo.recordIds } spool log' [] := by
  have hold : ∀ replaced, replaced = h.replaced → Represents crashes env spool log [] disk →
      Holds crashes env { h with disk, failed := true, replaced } spool log [] := by
    rintro _ rfl hfiles
    exact ⟨hfiles, hh.process_eq, hh.accounts.attempted, hh.accounts.receipts, hh.accounts.acked⟩
  rcases wp_leaves (advanceCheckpoint_wp hh.files upTo nonce hdur) (.inl ⟨hh.files, rfl⟩)
    (fun _ _ he => he) hleft with ⟨hfiles, hsame⟩ | ⟨n, hn, hids, hfiles⟩
  · exact ⟨log, hold _ (if_pos hsame) hfiles⟩
  · by_cases hsame : disk .checkpoint = h.disk .checkpoint
    · exact ⟨log, hold _ (if_pos hsame) (hh.files.of_advance hn hfiles hsame)⟩
    · refine ⟨_, hfiles, hh.process_eq, hh.accounts.advance hn rfl rfl ?_ fun id hid => .inl hid⟩
      show (if _ then _ else _) = _
      rw [if_neg hsame, hids]

theorem compact_points {failed : Bool} (hcomp : Compacted crashes env spool log disk) :
    ∃ log', Holds crashes env { h with disk, failed } spool log' [] := by
  rcases hcomp with hfiles | hfiles
  · exact ⟨log, hfiles, hh.process_eq, hh.accounts.attempted, hh.accounts.receipts,
      hh.accounts.acked⟩
  · have hacc := hh.accounts.compact
    exact ⟨log.compact, hfiles, hh.process_eq, hacc.attempted, hacc.receipts,
      hacc.acked⟩

end

theorem crashed (hh : Holds crashes env h spool log tail) (hc : crashes)
    (hcrash : h.disk.Crash disk) (hhdr : HeaderComplete disk) :
    ∃ log' tail', Holds crashes env { h with disk } spool log' tail' := by
  obtain ⟨n, tail', hlow, hhigh, hfiles⟩ := hh.files.crash hc hcrash hhdr
  have hacc := hh.accounts.crash hlow hhigh
  exact ⟨_, tail', hfiles, hh.process_eq, hacc.attempted, hacc.receipts,
    hacc.acked⟩

/-! ### What can be read back -/

/-- The pending frames of the log are what the history asks for. -/
theorem complete (hh : Holds crashes env h spool log tail) :
    h.Complete (log.pending.map (WalFrame.recovered spool)) := by
  have hids : (log.pending.map (WalFrame.recovered spool)).map RecoveredRealtimeSpoolFrame.recordId =
      log.pending.map WalFrame.recordId := by
    rw [List.map_map]
    rfl
  have hnd := hh.files.records
  rw [CutLog.all_eq_marked, List.map_append, List.nodup_append] at hnd
  refine ⟨?_, by rw [hids]; exact hnd.2.1, fun id hid hnot => ?_, fun id hid hmem => ?_⟩
  · have hsub := hh.accounts.attempted.map StoredMessageFrame.content
    rw [CutLog.all_eq_marked, List.map_append, List.map_append, List.map_map] at hsub
    rw [List.map_map]
    have hpend := (List.sublist_append_right _ _).trans hsub
    rwa [List.map_map] at hpend
  · rw [hids]
    exact ((List.take_sublist _ _).map _).subset ((hh.accounts.receipts id hid).resolve_left hnot)
  · rw [hids] at hmem
    exact hnd.2.2 id (hh.accounts.acked id hid) id hmem rfl

theorem recovers (hh : Holds crashes env h spool log tail) : h.Recovers env := by
  intro generation _
  obtain ⟨hopen, hfiles⟩ := hh.open_result generation
  exact ⟨_, _, hopen, by rw [hfiles.recoverPending_eq], hh.complete⟩

end Holds

end ServerRS.Spool

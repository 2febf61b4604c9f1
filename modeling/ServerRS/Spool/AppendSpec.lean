import ServerRS.Spool.Represents

/-!
# Appending a frame

From a disk that holds a log, `append` leaves the log as it was, with the beginning of a
frame behind it, or with the whole frame; once it returns, the frame is durable
(`append_wp`).
-/

namespace ServerRS.Spool

open Lib Stepwise

variable {M : Type} [SpoolMessage M] {crashes : Prop} {env : SpoolEnv M}

/-- The frame that `append` makes of an admission and the uuid it draws. -/
def storedFrame (env : SpoolEnv M) (admission : RealtimeSpoolAdmission M) (recordUuid : Uuid) :
    StoredMessageFrame M :=
  ⟨admission.admissionId, ⟨env.text.toString recordUuid⟩, admission.connectionEpochId,
    admission.message⟩

/-- The number of bytes of a frame. -/
def frameLen (env : SpoolEnv M) (stored : StoredMessageFrame M) : ℕ :=
  FRAME_HEADER_LEN + ((env.frameJson.toVec stored).length + TAG_LEN)

/-- The log as it was, possibly with the beginning of the frame behind it, or with the frame
appended to it. -/
def Attempted (crashes : Prop) (env : SpoolEnv M) (spool : RealtimeMessageSpool)
    (log : CutLog (WalFrame env)) (stored : StoredMessageFrame M) (disk : SpoolDisk) : Prop :=
  (∃ tail, tail.length < frameLen env stored ∧ Represents crashes env spool log tail disk) ∨
    ∃ frame : WalFrame env, frame.stored = stored ∧
      Represents crashes env spool (log.append frame) [] disk

theorem saturatingAdd_le {a b c : ℕ} (hc : c < 2 ^ 64 - 1) :
    saturatingAdd a b ≤ c ↔ a + b ≤ c := by
  rw [saturatingAdd]
  omega

/-! ## The WAL file grows -/

section

variable {generation : Uuid} {log : CutLog (WalFrame env)} {file : File UInt8}

theorem walBytes_part (base : Option Uuid) (frames : List (WalFrame env)) (part : Bytes) :
    walBytes env generation base frames [] ++ part = walBytes env generation base frames part := by
  rw [walBytes, walBytes, List.append_nil, List.append_assoc]

theorem walBytes_append (base : Option Uuid) (frames : List (WalFrame env)) (frame : WalFrame env) :
    walBytes env generation base frames [] ++ frame.bytes generation =
      walBytes env generation base (frames ++ [frame]) [] := by
  simp only [walBytes, List.append_nil, List.append_assoc, frameLog_append, frameLog_cons,
    frameLog_nil]

/-- `additional` more bytes fit into the partition of the WAL. -/
structure FitsWal (env : SpoolEnv M) (file : File UInt8) (additional : ℕ) : Prop where
  len_le : file.bytes.length + additional ≤ ACTIVE_WAL_BYTES
  allocated_le : env.allocation.bytes file.bytes.length +
    (additional + ALLOCATION_GRANULARITY_RESERVE) ≤ ACTIVE_WAL_BYTES

omit [SpoolMessage M] in
theorem FitsWal.bytes_le {additional n : ℕ} (h : FitsWal env file additional) (hn : n ≤ additional) :
    file.bytes.length + n ≤ ACTIVE_WAL_BYTES ∧
      env.allocation.bytes (file.bytes.length + n) ≤ ACTIVE_WAL_BYTES := by
  have hlen := h.len_le
  have hall := h.allocated_le
  have hgrow := env.allocation.grow file.bytes.length n
  omega

theorem WalHolds.write_part (h : WalHolds crashes env generation log [] file) {frame : WalFrame env}
    (hfits : FitsWal env file (frame.bytes generation).length) {part : Bytes}
    (hpart : part <+: frame.bytes generation) (hlt : part.length < (frame.bytes generation).length) :
    WalHolds crashes env generation log part (file.write part) := by
  obtain ⟨base, hbase, hnil, hbytes⟩ := h.content
  obtain ⟨hlen, hall⟩ := hfits.bytes_le hpart.length_le
  refine ⟨⟨base, hbase, hnil, ?_⟩, .inr ⟨frame, trivial, hpart, hlt⟩, h.durable, ?_, ?_, ?_⟩
  · rw [File.bytes_write, hbytes, walBytes_part]
  · rw [File.synced_write, File.bytes_write, List.length_append]
    exact h.synced_le.trans (Nat.le_add_right _ _)
  · rwa [File.bytes_write, List.length_append]
  · rwa [File.bytes_write, List.length_append]

theorem WalHolds.write (h : WalHolds crashes env generation log [] file) (frame : WalFrame env)
    (hfits : FitsWal env file (frame.bytes generation).length) :
    WalHolds crashes env generation (log.append frame) [] (file.write (frame.bytes generation)) := by
  obtain ⟨base, hbase, hnil, hbytes⟩ := h.content
  obtain ⟨hlen, hall⟩ := hfits.bytes_le (Nat.le_refl _)
  refine ⟨⟨base, hbase, hnil, ?_⟩, .nil, fun hc => (h.durable hc).imp id fun hdur => ?_, ?_, ?_,
    ?_⟩
  · rw [File.bytes_write, hbytes, walBytes_append, CutLog.stored_append]
  · show WAL_HEADER_LEN + (frameLog generation ((log.append frame).stored.take log.durable)).length ≤ _
    rw [CutLog.stored_append, List.take_append_of_le_length log.durable_le_stored]
    exact hdur
  · rw [File.synced_write, File.bytes_write, List.length_append]
    exact h.synced_le.trans (Nat.le_add_right _ _)
  · rwa [File.bytes_write, List.length_append]
  · rwa [File.bytes_write, List.length_append]

theorem WalHolds.sync_file {tail : Bytes} (h : WalHolds crashes env generation log tail file) :
    WalHolds crashes env generation log tail file.sync :=
  ⟨h.content, h.torn, fun hc => (h.durable hc).imp id (fun hle => hle.trans h.synced_le), Nat.le_refl _,
    h.len_le, h.allocated_le⟩

/-- A synced WAL: every frame is durable. -/
theorem WalHolds.syncAll (h : WalHolds crashes env generation log [] file) :
    WalHolds crashes env generation log.syncAll [] file.sync := by
  obtain ⟨base, hbase, hnil, hbytes⟩ := h.content
  refine ⟨⟨base, hbase, hnil, hbytes⟩, .nil, fun _ => .inr ?_, Nat.le_refl _, h.len_le, h.allocated_le⟩
  show WAL_HEADER_LEN + (frameLog generation (log.stored.take log.stored.length)).length ≤
    file.bytes.length
  rw [List.take_length, hbytes, length_walBytes]
  omega

end

/-! ## Budgets -/

variable {spool : RealtimeMessageSpool} {log : CutLog (WalFrame env)} {disk : SpoolDisk}

omit [SpoolMessage M] in
theorem ensureAppendBudget_wp {file : File UInt8} (hwal : disk .wal = some file) {additional : ℕ}
    {C : SpoolDisk → Prop} {Q : Unit → SpoolDisk → Prop}
    {E : RealtimeMessageSpoolError → SpoolDisk → Prop}
    (hok : FitsWal env file additional → Q () disk) (herr : ∀ e, E e disk) :
    wp (ensureAppendBudgetLocked env additional) C Q E disk := by
  refine wp_get_bind ?_
  dsimp only
  split
  · exact wp_throw (herr _)
  · next hpar =>
    split
    · exact wp_throw (herr _)
    · simp only [not_or, Nat.not_lt, fileLen, allocatedFileBytes, hwal, Option.elim_some]
        at hpar
      have hactv : ACTIVE_WAL_BYTES = 240 * 2 ^ 20 := rfl
      rw [saturatingAdd_le (by omega), saturatingAdd_le (by omega)] at hpar
      have hreserve : ALLOCATION_GRANULARITY_RESERVE = 2 ^ 16 := rfl
      have hsum : saturatingAdd additional ALLOCATION_GRANULARITY_RESERVE =
          additional + ALLOCATION_GRANULARITY_RESERVE := by
        rw [saturatingAdd]
        omega
      rw [hsum] at hpar
      exact wp_pure (hok ⟨hpar.1, hpar.2⟩)

/-! ## The call -/

theorem Represents.append (h : Represents crashes env spool log [] disk) (frame : WalFrame env)
    (hrec : frame.recordId ∉ log.all.map WalFrame.recordId)
    (hadm : frame.admissionId ∉ log.all.map WalFrame.admissionId) {file : File UInt8}
    (hfile : WalHolds crashes env spool.generationUuid (log.append frame) [] file) :
    Represents crashes env spool (log.append frame) [] (disk.set .wal (some file)) := by
  refine ⟨h.generation_ne, h.generationId_eq, ⟨file, Disk.set_self .., hfile⟩, ?_, ?_, ?_⟩
  · rw [Disk.set_of_ne _ (by decide)]
    exact h.checkpoint
  · rw [CutLog.all_append, List.map_append, List.nodup_append]
    exact ⟨h.records, List.nodup_singleton _, by simpa using hrec⟩
  · rw [CutLog.all_append, List.map_append, List.nodup_append]
    exact ⟨h.admissions, List.nodup_singleton _, by simpa using hadm⟩

theorem append_wp (h : Represents crashes env spool log [] disk) (admission : RealtimeSpoolAdmission M)
    (hblank : isBlank admission.admissionId.asStr = false) {recordUuid : Uuid}
    (hnil : recordUuid ≠ Uuid.nil) (nonce : Nonce)
    (hrec : (storedFrame env admission recordUuid).recordId ∉ log.all.map WalFrame.recordId)
    (hadm : admission.admissionId ∉ log.all.map WalFrame.admissionId) :
    wp (spool.append env admission recordUuid nonce)
      (Attempted crashes env spool log (storedFrame env admission recordUuid))
      (fun receipt disk' => receipt.recordId = (storedFrame env admission recordUuid).recordId ∧
        ∃ frame : WalFrame env, frame.stored = storedFrame env admission recordUuid ∧
          Represents crashes env spool (log.append frame).syncAll [] disk')
      (fun _ disk' => disk' = disk) disk := by
  obtain ⟨file, hwal, hholds⟩ := h.wal
  set stored := storedFrame env admission recordUuid with hstd
  rw [RealtimeMessageSpool.append, env.text.new_toString]
  show wp (if env.config.maxFramePlaintext < (env.frameJson.toVec stored).length then _ else _)
    _ _ _ _
  split
  · exact wp_throw rfl
  · next hfits =>
    -- the frame is one that can be written
    let frame : WalFrame env := ⟨stored, nonce,
      ⟨hblank, ⟨recordUuid, hnil, rfl⟩, admission.valid, admission.epoch_eq, by omega⟩⟩
    have hencrypt : encryptFrame env.key spool.generationUuid nonce (env.frameJson.toVec stored) =
        .ok (frame.bytes spool.generationUuid) := by
      have hdefault := env.config.le_default
      have htag : TAG_LEN = 16 := rfl
      have hmax : DEFAULT_MAX_FRAME_PLAINTEXT = 2 ^ 20 := rfl
      rw [encryptFrame, if_pos (by omega)]
      rfl
    show wp (Stepwise.ofExcept (encryptFrame env.key spool.generationUuid nonce
      (env.frameJson.toVec stored)) >>= _) _ _ _ _
    rw [hencrypt]
    refine wp_bind (wp_ofExcept (fun bytes hbytes => ?_) (fun e he => by cases he))
    cases hbytes
    refine wp_bind (ensureAppendBudget_wp hwal (fun hbudget => ?_) fun e => rfl)
    refine wp_get_bind ?_
    rw [hwal]
    have hwhole := hholds.write frame hbudget
    refine wp_bind (Disk.wp_writeAll hwal (fun part hpart => ?_) ?_)
    · -- cut off within the write
      rcases Nat.lt_or_ge part.length (frame.bytes spool.generationUuid).length with hlt | hge
      · have hpartial := hholds.write_part hbudget hpart hlt
        exact .inl ⟨part, by rwa [frame.length_bytes] at hlt, h.generation_ne, h.generationId_eq,
            ⟨_, Disk.set_self .., hpartial⟩,
          by rw [Disk.set_of_ne _ (by decide)]; exact h.checkpoint, h.records, h.admissions⟩
      · rw [hpart.eq_of_length_le hge]
        exact .inr ⟨frame, rfl, h.append frame hrec hadm hwhole⟩
    · have hsync := h.append frame hrec hadm hwhole.sync_file
      have hdur : Represents crashes env spool (log.append frame).syncAll [] _ :=
        ⟨h.generation_ne, h.generationId_eq, ⟨_, Disk.set_self .., hwhole.syncAll⟩,
          hsync.checkpoint, hsync.records, hsync.admissions⟩
      refine wp_bind (Disk.wp_syncAll (Disk.set_self ..) (.inr ⟨frame, rfl, ?_⟩)
        (wp_pure ⟨rfl, frame, rfl, ?_⟩))
      · rwa [Disk.set_set]
      · rwa [Disk.set_set]

end ServerRS.Spool

import Mathlib.Order.Monotone.Basic
import ServerRS.Lib.CrashDisk
import ServerRS.Lib.FramedLog
import ServerRS.Spool.Format

/-!
# Reading the spool

Models `encrypt_frame`, `scan_locked`, `pending_after_checkpoint` and
`read_checkpoint_locked` of `realtime_spool.rs`. The WAL is its header followed by a
framed log; the scanner reads it back frame by frame (`scanLocked_eq`).
-/

namespace ServerRS.Spool

open Lib

/-! ## The data model -/

/-- `RealtimeMessageSpoolConfig`, after `validate`. -/
structure RealtimeMessageSpoolConfig where
  maxFramePlaintext : ℕ
  pos : 0 < maxFramePlaintext
  le_default : maxFramePlaintext ≤ DEFAULT_MAX_FRAME_PLAINTEXT

structure StoredMessageFrame (M : Type) where
  admissionId : RealtimeSpoolAdmissionId
  recordId : RealtimeSpoolRecordId
  connectionEpochId : ConnectionEpochId
  message : M
deriving DecidableEq

structure StoredCheckpoint where
  generationId : RealtimeSpoolGenerationId
  lastRecordId : Option RealtimeSpoolRecordId
deriving DecidableEq

/-- `allocated_file_bytes` as a function of the length: a file that grows by `k` bytes takes
up to a granule more than `k` further bytes. -/
structure Allocation where
  bytes : ℕ → ℕ
  empty : bytes 0 = 0
  mono : Monotone bytes
  grow : ∀ n k, bytes (n + k) ≤ bytes n + k + ALLOCATION_GRANULARITY_RESERVE

/-- What a spool is opened with, and what it takes from outside. -/
structure SpoolEnv (M : Type) where
  config : RealtimeMessageSpoolConfig
  key : SpoolKey
  text : UuidText
  frameJson : JsonCodec (StoredMessageFrame M)
  checkpointJson : JsonCodec StoredCheckpoint
  allocation : Allocation
  /-- `directory_file_bytes(quarantine_dir)`; the spool never writes there. -/
  quarantineBytes : ℕ
  quarantine_le : quarantineBytes ≤ QUARANTINE_BYTES

/-- The files of a spool. The lock file stays empty and is left out. -/
inductive SpoolFile where
  | wal
  | compactTemp
  | checkpoint
  | checkpointTemp
deriving DecidableEq

abbrev SpoolDisk := Disk SpoolFile UInt8

abbrev SpoolIo := Stepwise SpoolDisk RealtimeMessageSpoolError

/-- An opened spool. -/
structure RealtimeMessageSpool where
  generationUuid : Uuid
  generationId : RealtimeSpoolGenerationId
deriving DecidableEq

/-- A complete WAL frame, as `RecoveredRealtimeSpoolFrame::new` lets it through. -/
structure RecoveredRealtimeSpoolFrame (M : Type) [SpoolMessage M] where
  generationId : RealtimeSpoolGenerationId
  recordId : RealtimeSpoolRecordId
  connectionEpochId : ConnectionEpochId
  message : M
  valid : SpoolMessage.validate message = true
  epoch_eq : SpoolMessage.connectionEpochId message = some connectionEpochId

variable {M : Type} [SpoolMessage M]

def RecoveredRealtimeSpoolFrame.new (generationId : RealtimeSpoolGenerationId)
    (recordId : RealtimeSpoolRecordId) (connectionEpochId : ConnectionEpochId) (message : M) :
    Except RealtimeSpoolError (RecoveredRealtimeSpoolFrame M) :=
  if hval : SpoolMessage.validate message = true then
    if hep : SpoolMessage.connectionEpochId message = some connectionEpochId then
      .ok ⟨generationId, recordId, connectionEpochId, message, hval, hep⟩
    else .error .epochMismatch
  else .error .invalidMessage

structure ScannedFrame (M : Type) [SpoolMessage M] where
  stored : StoredMessageFrame M
  recovered : RecoveredRealtimeSpoolFrame M
  offset : ℕ
  encodedLen : ℕ

structure ScannedWal (M : Type) [SpoolMessage M] where
  baseRecordId : Option RealtimeSpoolRecordId
  frames : List (ScannedFrame M)
  truncatedFinalTail : Bool

/-! ## Frames -/

/-- A frame under its nonce: header, then the sealed plaintext. -/
def frameBytes (key : SpoolKey) (generation : Uuid) (nonce : Nonce) (plaintext : Bytes) : Bytes :=
  let header := frameHeader key.keyId (plaintext.length + TAG_LEN) nonce
  header ++ key.sealInPlace nonce (frameAad header generation) plaintext

/-- `encrypt_frame`, with the nonce that it draws. -/
def encryptFrame (key : SpoolKey) (generation : Uuid) (nonce : Nonce) (plaintext : Bytes) :
    Except RealtimeMessageSpoolError Bytes :=
  if plaintext.length + TAG_LEN < 2 ^ 32 then .ok (frameBytes key generation nonce plaintext)
  else .error (spoolError .capacityExhausted "frame_length")

def recordUuid (text : UuidText) (recordId : RealtimeSpoolRecordId) :
    Except RealtimeMessageSpoolError Uuid :=
  match text.parseStr recordId.asStr with
  | some uuid => .ok uuid
  | none => .error (spoolError .recoveryInvariantViolation "record_uuid")

/-- The variables of the loop in `scan_locked`. -/
structure ScanState (M : Type) [SpoolMessage M] where
  offset : ℕ
  frames : List (ScannedFrame M)
  recordIds : List RealtimeSpoolRecordId
  admissionIds : List RealtimeSpoolAdmissionId

/-- One round of the loop in `scan_locked`; `none` is an incomplete final frame. -/
def nextFrame (env : SpoolEnv M) (spool : RealtimeMessageSpool) (scan : ScanState M)
    (rest : Bytes) : Except RealtimeMessageSpoolError (Option (ScanState M × ℕ)) :=
  if rest.length < FRAME_HEADER_LEN then .ok none
  else do
    let header := rest.take FRAME_HEADER_LEN
    let (encryptedLen, nonce) ←
      parseFrameHeader header env.key.keyId env.config.maxFramePlaintext
    let encodedLen := FRAME_HEADER_LEN + encryptedLen
    if rest.length < encodedLen then .ok none
    else
      let encrypted := (rest.drop FRAME_HEADER_LEN).take encryptedLen
      match env.key.openInPlace nonce (frameAad header spool.generationUuid) encrypted with
      | none => .error (spoolError .recoveryCorruptFrame "frame_auth")
      | some plaintext =>
        match env.frameJson.fromSlice plaintext with
        | none => .error (spoolError .recoveryCorruptFrame "frame_decode")
        | some stored =>
          if isBlank stored.admissionId.asStr then
            .error (spoolError .recoveryInvariantViolation "admission_id")
          else do
            let _ ← recordUuid env.text stored.recordId
            if stored.recordId ∈ scan.recordIds then
              .error (spoolError .recoveryInvariantViolation "duplicate_record")
            else if stored.admissionId ∈ scan.admissionIds then
              .error (spoolError .recoveryInvariantViolation "duplicate_admission")
            else
              match RecoveredRealtimeSpoolFrame.new spool.generationId stored.recordId
                  stored.connectionEpochId stored.message with
              | .error _ => .error (spoolError .recoveryInvariantViolation "frame_identity")
              | .ok recovered =>
                .ok (some ({
                  offset := scan.offset + encodedLen
                  frames := scan.frames ++ [⟨stored, recovered, scan.offset, encodedLen⟩]
                  recordIds := stored.recordId :: scan.recordIds
                  admissionIds := stored.admissionId :: scan.admissionIds }, encodedLen))

def truncateFinalTail (offset : ℕ) (repairTail : Bool) : SpoolIo Unit :=
  if !repairTail then .throw (spoolError .recoveryCorruptFrame "incomplete_tail")
  else do
    Disk.setLen .wal offset
    Disk.syncAll .wal

/-- `scan_locked`. The truncation is the last thing its loop does. -/
def scanLocked (env : SpoolEnv M) (spool : RealtimeMessageSpool) (repairTail : Bool) :
    SpoolIo (ScannedWal M) := do
  let disk ← .get
  match disk .wal with
  | none => .throw (spoolError .recoveryInvariantViolation "wal_open")
  | some file =>
    if file.bytes.length < WAL_HEADER_LEN then
      .throw (spoolError .recoveryCorruptFrame "wal_header")
    else do
      let (generationUuid, baseRecordId) ←
        .ofExcept (parseWalHeader env.text (file.bytes.take WAL_HEADER_LEN) env.key.keyId)
      if generationUuid ≠ spool.generationUuid then
        .throw (spoolError .recoveryInvariantViolation "wal_generation")
      else do
        let (scan, tail) ← .ofExcept (scanLoop (nextFrame env spool) file.bytes.length
          ⟨WAL_HEADER_LEN, [], [], []⟩ (file.bytes.drop WAL_HEADER_LEN))
        if tail.isEmpty then pure ⟨baseRecordId, scan.frames, false⟩
        else do
          truncateFinalTail scan.offset repairTail
          pure ⟨baseRecordId, scan.frames, true⟩

/-! ## The checkpoint -/

/-- The file that `write_checkpoint_locked` writes, under its nonce. -/
def checkpointHeaderOf (key : SpoolKey) (nonce : Nonce) (plaintext : Bytes) : Bytes :=
  checkpointHeader key.keyId (plaintext.length + TAG_LEN) nonce

def checkpointBytes (key : SpoolKey) (nonce : Nonce) (plaintext : Bytes) : Bytes :=
  checkpointHeaderOf key nonce plaintext ++
    key.sealInPlace nonce (checkpointHeaderOf key nonce plaintext) plaintext

/-- `read_checkpoint_locked`, on the file it finds. -/
def readCheckpoint (env : SpoolEnv M) (file : Option (File UInt8)) :
    Except RealtimeMessageSpoolError (Option StoredCheckpoint) :=
  match file with
  | none => .ok none
  | some file =>
    let bytes := file.bytes
    if bytes.length < CHECKPOINT_HEADER_LEN + TAG_LEN then
      .error (spoolError .recoveryInvariantViolation "checkpoint_format")
    else do
      let header := bytes.take CHECKPOINT_HEADER_LEN
      let (encryptedLen, nonce) ← parseCheckpointHeader header env.key.keyId
      if bytes.length ≠ CHECKPOINT_HEADER_LEN + encryptedLen then
        .error (spoolError .recoveryInvariantViolation "checkpoint_length")
      else
        match env.key.openInPlace nonce header (bytes.drop CHECKPOINT_HEADER_LEN) with
        | none => .error (spoolError .recoveryInvariantViolation "checkpoint_auth")
        | some plaintext =>
          match env.checkpointJson.fromSlice plaintext with
          | none => .error (spoolError .recoveryInvariantViolation "checkpoint_decode")
          | some checkpoint => do
            if let some recordId := checkpoint.lastRecordId then
              let _ ← recordUuid env.text recordId
            .ok (some checkpoint)

def readCheckpointLocked (env : SpoolEnv M) : SpoolIo (Option StoredCheckpoint) := do
  let disk ← .get
  .ofExcept (readCheckpoint env (disk .checkpoint))

def pendingAfterCheckpoint (spool : RealtimeMessageSpool) (scan : ScannedWal M)
    (checkpoint : Option StoredCheckpoint) :
    Except RealtimeMessageSpoolError (List (ScannedFrame M)) :=
  match checkpoint with
  | none =>
    if scan.baseRecordId.isSome then
      .error (spoolError .recoveryInvariantViolation "checkpoint_missing")
    else .ok scan.frames
  | some checkpoint =>
    if checkpoint.generationId ≠ spool.generationId then
      .error (spoolError .recoveryInvariantViolation "checkpoint_generation")
    else
      match checkpoint.lastRecordId with
      | none =>
        if scan.baseRecordId.isSome then
          .error (spoolError .recoveryInvariantViolation "checkpoint_base")
        else .ok scan.frames
      | some lastRecordId =>
        if scan.baseRecordId = some lastRecordId then .ok scan.frames
        else
          match scan.frames.findIdx? (fun frame => frame.stored.recordId = lastRecordId) with
          | none => .error (spoolError .recoveryInvariantViolation "checkpoint_record")
          | some index => .ok (scan.frames.drop (index + 1))

end ServerRS.Spool

import ServerRS.Spool.Scan

/-!
# The operations of the message spool

Models `RealtimeMessageSpool::{open, append, recover_pending, advance_checkpoint, compact}`
and the functions they call in `realtime_spool.rs`. Everything random is an argument: the
uuids of `Uuid::new_v4` and the nonces of `random_nonce`. The process and operation locks
make each call run alone. Creating and renaming a file is durable at once, so `sync_parent`
does nothing here; telemetry is left out.
-/

namespace ServerRS.Spool

open Lib

variable {M : Type} [SpoolMessage M]

/-! ## Types of the interface -/

/-- `RealtimeSpoolAdmission`: its message passed the checks of `new`. -/
structure RealtimeSpoolAdmission (M : Type) [SpoolMessage M] where
  admissionId : RealtimeSpoolAdmissionId
  connectionEpochId : ConnectionEpochId
  message : M
  valid : SpoolMessage.validate message = true
  epoch_eq : SpoolMessage.connectionEpochId message = some connectionEpochId

def RealtimeSpoolAdmission.new (admissionId : RealtimeSpoolAdmissionId)
    (connectionEpochId : ConnectionEpochId) (message : M) :
    Except RealtimeSpoolError (RealtimeSpoolAdmission M) :=
  if hval : SpoolMessage.validate message = true then
    if hep : SpoolMessage.connectionEpochId message = some connectionEpochId then
      .ok ⟨admissionId, connectionEpochId, message, hval, hep⟩
    else .error .epochMismatch
  else .error .invalidMessage

structure DurableSpoolReceipt where
  admissionId : RealtimeSpoolAdmissionId
  generationId : RealtimeSpoolGenerationId
  recordId : RealtimeSpoolRecordId
deriving DecidableEq

structure RealtimeSpoolCheckpointPrefix where
  generationId : RealtimeSpoolGenerationId
  recordIds : List RealtimeSpoolRecordId
deriving DecidableEq

inductive RealtimeSpoolRecoveryFrame (M : Type) [SpoolMessage M] where
  | replay (frame : RecoveredRealtimeSpoolFrame M)
  | truncateIncompleteFinalTail
  | globalFailClosed (kind : RealtimeSpoolFatalKind)

structure RealtimeMessageSpoolRecovery (M : Type) [SpoolMessage M] where
  frames : List (RealtimeSpoolRecoveryFrame M)
  truncatedFinalTail : Bool

structure RealtimeMessageSpoolOpen (M : Type) [SpoolMessage M] where
  spool : RealtimeMessageSpool
  recovery : RealtimeMessageSpoolRecovery M

/-! ## Budgets -/

def fileLen (disk : SpoolDisk) (name : SpoolFile) : ℕ :=
  (disk name).elim 0 fun file => file.bytes.length

section

variable (env : SpoolEnv M)

def allocatedFileBytes (disk : SpoolDisk) (name : SpoolFile) : ℕ :=
  (disk name).elim 0 fun file => env.allocation.bytes file.bytes.length

/-- `metadata_bytes_locked`; the last summand is the empty lock file. -/
def metadataBytes (disk : SpoolDisk) : ℕ :=
  saturatingAdd (saturatingAdd (allocatedFileBytes env disk .checkpoint)
    (allocatedFileBytes env disk .checkpointTemp)) (env.allocation.bytes 0)

def diskUsage (disk : SpoolDisk) : ℕ :=
  saturatingAdd (saturatingAdd (saturatingAdd (allocatedFileBytes env disk .wal)
    (allocatedFileBytes env disk .compactTemp)) env.quarantineBytes) (metadataBytes env disk)

def ensureAppendBudgetLocked (additional : ℕ) : SpoolIo Unit := do
  let disk ← .get
  let reserved := saturatingAdd additional ALLOCATION_GRANULARITY_RESERVE
  if ACTIVE_WAL_BYTES < saturatingAdd (fileLen disk .wal) additional ∨
      ACTIVE_WAL_BYTES < saturatingAdd (allocatedFileBytes env disk .wal) reserved then
    .throw (spoolError .capacityExhausted "active_wal_partition")
  else if TOTAL_BYTES < saturatingAdd (diskUsage env disk) reserved then
    .throw (spoolError .capacityExhausted "total_budget")
  else pure ()

def ensureCompactBudgetLocked (compactLen : ℕ) : SpoolIo Unit := do
  let disk ← .get
  if TOTAL_BYTES < saturatingAdd (saturatingAdd (diskUsage env disk) compactLen)
      ALLOCATION_GRANULARITY_RESERVE then
    .throw (spoolError .capacityExhausted "compact_peak_budget")
  else pure ()

def verifyBudgetLocked : SpoolIo Unit := do
  let disk ← .get
  if ACTIVE_WAL_BYTES < fileLen disk .wal ∨
      ACTIVE_WAL_BYTES < allocatedFileBytes env disk .wal ∨
      COMPACT_TEMP_BYTES < fileLen disk .compactTemp ∨
      COMPACT_TEMP_BYTES < allocatedFileBytes env disk .compactTemp ∨
      QUARANTINE_BYTES < env.quarantineBytes ∨
      METADATA_BYTES < metadataBytes env disk ∨
      TOTAL_BYTES < diskUsage env disk then
    .throw (spoolError .capacityExhausted "budget_verify")
  else pure ()

end

/-! ## Files -/

def removeNonAuthoritativeTemp (name : SpoolFile) : SpoolIo Unit := do
  let disk ← .get
  if (disk name).isSome then Disk.remove name else pure ()

/-- `write_wal_header`: five writes. -/
def writeWalHeader (name : SpoolFile) (keyId : Bytes) (generation : Uuid)
    (baseRecord : Option Uuid) : SpoolIo Unit := do
  Disk.writeAll name WAL_MAGIC
  Disk.writeAll name [FORMAT_VERSION]
  Disk.writeAll name keyId
  Disk.writeAll name generation.asBytes
  Disk.writeAll name (baseRecord.getD Uuid.nil).asBytes

def durableReplace (source target : SpoolFile) : SpoolIo Unit := do
  Disk.rename source target
  Disk.syncAll target

section

variable (env : SpoolEnv M)

/-- `RealtimeSpoolGenerationId::new(generation.to_string())`. -/
def generationIdOf (generation : Uuid) :
    Except RealtimeMessageSpoolError RealtimeSpoolGenerationId :=
  match SpoolId.new (env.text.toString generation) with
  | .ok generationId => .ok generationId
  | .error _ => .error (spoolError .recoveryInvariantViolation "generation_id")

/-- `initialize_or_read_wal`; `generation` is the uuid it draws for a new WAL. -/
def initializeOrReadWal (generation : Uuid) : SpoolIo RealtimeMessageSpool := do
  let disk ← .get
  match disk .wal with
  | none => do
    Disk.create .wal
    writeWalHeader .wal env.key.keyId generation none
    Disk.syncAll .wal
    let generationId ← .ofExcept (generationIdOf env generation)
    pure ⟨generation, generationId⟩
  | some file =>
    if file.bytes.length < WAL_HEADER_LEN then
      .throw (spoolError .recoveryCorruptFrame "wal_header")
    else do
      let (generation, _) ←
        .ofExcept (parseWalHeader env.text (file.bytes.take WAL_HEADER_LEN) env.key.keyId)
      let generationId ← .ofExcept (generationIdOf env generation)
      pure ⟨generation, generationId⟩

def writeCheckpointLocked (checkpoint : StoredCheckpoint) (nonce : Nonce) : SpoolIo Unit := do
  let plaintext := env.checkpointJson.toVec checkpoint
  if 2 ^ 32 ≤ plaintext.length + TAG_LEN then
    .throw (spoolError .checkpointFailed "checkpoint_length")
  else do
    let header := checkpointHeaderOf env.key nonce plaintext
    let encrypted := env.key.sealInPlace nonce header plaintext
    let totalLen := header.length + encrypted.length
    let reservedLen := saturatingAdd totalLen ALLOCATION_GRANULARITY_RESERVE
    let disk ← .get
    if METADATA_BYTES < reservedLen ∨
        METADATA_BYTES < saturatingAdd (metadataBytes env disk) reservedLen ∨
        TOTAL_BYTES < saturatingAdd (diskUsage env disk) reservedLen then
      .throw (spoolError .capacityExhausted "metadata_partition")
    else do
      Disk.create .checkpointTemp
      Disk.writeAll .checkpointTemp header
      Disk.writeAll .checkpointTemp encrypted
      Disk.syncAll .checkpointTemp
      durableReplace .checkpointTemp .checkpoint
      verifyBudgetLocked env

/-! ## The calls of the interface -/

namespace RealtimeMessageSpool

variable (spool : RealtimeMessageSpool)

/-- The part of `open` that holds the operation lock. -/
def openLocked : SpoolIo (RealtimeMessageSpoolOpen M) := do
  let scan ← scanLocked env spool true
  let checkpoint ← readCheckpointLocked env
  let pending ← .ofExcept (pendingAfterCheckpoint spool scan checkpoint)
  verifyBudgetLocked env
  let frames := pending.map fun frame => .replay frame.recovered
  pure {
    spool
    recovery := {
      frames := if scan.truncatedFinalTail then frames ++ [.truncateIncompleteFinalTail] else frames
      truncatedFinalTail := scan.truncatedFinalTail } }

/-- `RealtimeMessageSpool::open`; `generation` is drawn in case there is no WAL yet. -/
def «open» (generation : Uuid) : SpoolIo (RealtimeMessageSpoolOpen M) := do
  removeNonAuthoritativeTemp .compactTemp
  removeNonAuthoritativeTemp .checkpointTemp
  let spool ← initializeOrReadWal env generation
  openLocked env spool

/-- `append`; `recordUuid` and `nonce` are drawn by the call. -/
def append (admission : RealtimeSpoolAdmission M) (recordUuid : Uuid) (nonce : Nonce) :
    SpoolIo DurableSpoolReceipt := do
  match SpoolId.new (env.text.toString recordUuid) with
  | .error _ => .throw (spoolError .recoveryInvariantViolation "record_id")
  | .ok recordId =>
    let plaintext := env.frameJson.toVec
      ⟨admission.admissionId, recordId, admission.connectionEpochId, admission.message⟩
    if env.config.maxFramePlaintext < plaintext.length then
      .throw (spoolError .capacityExhausted "frame_limit")
    else do
      let frame ← .ofExcept (encryptFrame env.key spool.generationUuid nonce plaintext)
      ensureAppendBudgetLocked env frame.length
      let disk ← .get
      if (disk .wal).isNone then .throw (spoolError .appendFailed "append_open")
      else do
        Disk.writeAll .wal frame
        Disk.syncAll .wal
        pure ⟨admission.admissionId, spool.generationId, recordId⟩

def recoverPending : SpoolIo (List (RecoveredRealtimeSpoolFrame M)) := do
  let scan ← scanLocked env spool false
  let checkpoint ← readCheckpointLocked env
  let pending ← .ofExcept (pendingAfterCheckpoint spool scan checkpoint)
  pure (pending.map ScannedFrame.recovered)

/-- The prefix is not the beginning of what is pending. -/
def mismatch (recordIds : List RealtimeSpoolRecordId) (pending : List (ScannedFrame M)) : Bool :=
  pending.length < recordIds.length ||
    (recordIds.zip pending).any fun (expected, actual) => expected ≠ actual.stored.recordId

def advanceCheckpoint (upTo : RealtimeSpoolCheckpointPrefix) (nonce : Nonce) : SpoolIo Unit := do
  if upTo.generationId ≠ spool.generationId then
    .throw (spoolError .checkpointFailed "checkpoint_generation")
  else if upTo.recordIds.isEmpty then pure ()
  else do
    let scan ← scanLocked env spool false
    let checkpoint ← readCheckpointLocked env
    let pending ← .ofExcept (pendingAfterCheckpoint spool scan checkpoint)
    if mismatch upTo.recordIds pending then
      .throw (spoolError .checkpointFailed "checkpoint_prefix")
    else
      writeCheckpointLocked env ⟨spool.generationId, upTo.recordIds.getLast?⟩ nonce

/-- `copy_exact` of one frame after the other into the compacted WAL. Its chunks of 64 KiB
are writes that can be cut off anywhere, like the write of the whole frame. -/
def copyFrames (source : Bytes) : List (ScannedFrame M) → SpoolIo Unit
  | [] => pure ()
  | frame :: frames =>
    let data := (source.drop frame.offset).take frame.encodedLen
    if data.length < frame.encodedLen then
      .throw (spoolError .checkpointFailed "compact_read")
    else do
      Disk.writeAll .compactTemp data
      copyFrames source frames

def compact : SpoolIo Unit := do
  let scan ← scanLocked env spool false
  let checkpoint ← readCheckpointLocked env
  match checkpoint.bind StoredCheckpoint.lastRecordId with
  | none => pure ()
  | some lastRecordId => do
    let pending ← .ofExcept (pendingAfterCheckpoint spool scan checkpoint)
    let compactLen := WAL_HEADER_LEN + (pending.map ScannedFrame.encodedLen).sum
    if COMPACT_TEMP_BYTES < compactLen then
      .throw (spoolError .capacityExhausted "compact_partition")
    else do
      ensureCompactBudgetLocked env compactLen
      Disk.create .compactTemp
      let base ← .ofExcept (recordUuid env.text lastRecordId)
      writeWalHeader .compactTemp env.key.keyId spool.generationUuid (some base)
      let disk ← .get
      match disk .wal with
      | none => .throw (spoolError .checkpointFailed "compact_source")
      | some source =>
        copyFrames source.bytes pending
        Disk.syncAll .compactTemp
        durableReplace .compactTemp .wal
        let _ ← scanLocked env spool false
        verifyBudgetLocked env

end RealtimeMessageSpool

end

/-! ## A scripted environment

Uuids as hyphenated hexadecimal text, strings as sequences of character codes, and a cipher that only
adds its tag. -/

/-! ## Uuids as text -/

def hexDigit (n : ℕ) : Char := if n < 10 then .ofNat (48 + n) else .ofNat (87 + n)

def hexValue (c : Char) : ℕ := if c.toNat < 58 then c.toNat - 48 else c.toNat - 87

def hexByte (byte : UInt8) : List Char := [hexDigit (byte.toNat / 16), hexDigit (byte.toNat % 16)]

def hexBytes : List Char → Bytes
  | high :: low :: rest => .ofNat (hexValue high * 16 + hexValue low) :: hexBytes rest
  | _ => []

/-- `8-4-4-4-12` digits. -/
def hyphenated (bytes : Bytes) : List Char :=
  (bytes.take 4).flatMap hexByte ++ '-' :: ((bytes.drop 4).take 2).flatMap hexByte ++
    '-' :: ((bytes.drop 6).take 2).flatMap hexByte ++
    '-' :: ((bytes.drop 8).take 2).flatMap hexByte ++ '-' :: (bytes.drop 10).flatMap hexByte

theorem hexDigit_lt : ∀ n < 16, hexValue (hexDigit n) = n ∧ hexDigit n ≠ '-' ∧
    isWhitespace (hexDigit n) = false := by decide

theorem hexBytes_hexByte (byte : UInt8) (rest : List Char) :
    hexBytes (hexByte byte ++ rest) = byte :: hexBytes rest := by
  have hlt := byte.toNat_lt
  have hhigh := (hexDigit_lt (byte.toNat / 16) (by omega)).1
  have hlow := (hexDigit_lt (byte.toNat % 16) (by omega)).1
  show UInt8.ofNat _ :: hexBytes rest = _
  rw [hhigh, hlow, Nat.div_add_mod', UInt8.ofNat_toNat]

theorem hexBytes_flatMap (bytes : Bytes) (rest : List Char) :
    hexBytes (bytes.flatMap hexByte ++ rest) = bytes ++ hexBytes rest := by
  induction bytes with
  | nil => rfl
  | cons byte bytes ih =>
    rw [List.flatMap_cons, List.append_assoc, hexBytes_hexByte, ih, List.cons_append]

theorem filter_flatMap (bytes : Bytes) :
    (bytes.flatMap hexByte).filter (· != '-') = bytes.flatMap hexByte := by
  rw [List.filter_eq_self]
  intro c hc
  obtain ⟨byte, -, hc⟩ := List.mem_flatMap.mp hc
  have hlt := byte.toNat_lt
  have hhigh := (hexDigit_lt (byte.toNat / 16) (by omega)).2.1
  have hlow := (hexDigit_lt (byte.toNat % 16) (by omega)).2.1
  rcases List.mem_cons.mp hc with rfl | hc
  · simpa using hhigh
  · obtain rfl := List.mem_singleton.mp hc
    simpa using hlow

theorem hexBytes_hyphenated (bytes : Bytes) :
    hexBytes ((hyphenated bytes).filter (· != '-')) = bytes := by
  have hhyphen : ∀ rest : List Char, ('-' :: rest).filter (· != '-') = rest.filter (· != '-') :=
    fun rest => rfl
  have hspl : bytes.take 4 ++ ((bytes.drop 4).take 2 ++ ((bytes.drop 6).take 2 ++
      ((bytes.drop 8).take 2 ++ bytes.drop 10))) = bytes := by
    have h4 := List.take_append_drop 4 bytes
    have h6 := List.take_append_drop 2 (bytes.drop 4)
    have h8 := List.take_append_drop 2 (bytes.drop 6)
    have h10 := List.take_append_drop 2 (bytes.drop 8)
    rw [List.drop_drop] at h6 h8 h10
    rw [h10, h8, h6, h4]
  have hlast := hexBytes_flatMap (bytes.drop 10) []
  rw [List.append_nil] at hlast
  simp only [hyphenated, List.append_assoc, List.cons_append, List.filter_append, hhyphen,
    filter_flatMap, hexBytes_flatMap, hlast]
  rw [show hexBytes [] = [] from rfl, List.append_nil, hspl]

theorem not_blank_hyphenated {bytes : Bytes} (hlen : bytes.length = UUID_LEN) :
    (hyphenated bytes).all isWhitespace = false := by
  match bytes, hlen with
  | byte :: rest, _ =>
    have hhigh := (hexDigit_lt (byte.toNat / 16) (by have := byte.toNat_lt; omega)).2.2
    simp [hyphenated, hexByte, hhigh]

def scriptedText : UuidText where
  toString uuid := .ofList (hyphenated uuid.asBytes)
  parseStr text := Uuid.fromSlice (hexBytes (text.toList.filter (· != '-')))
  parseStr_toString uuid := by
    rw [String.toList_ofList, hexBytes_hyphenated, Uuid.fromSlice_asBytes]
  toString_not_blank uuid := by
    rw [isBlank, String.toList_ofList, not_blank_hyphenated uuid.length_asBytes]

/-! ## Strings as bytes -/

def encodeChar (c : Char) : Bytes := toBeBytes c.toNat

/-- The codes of the characters, and a terminator that no code begins with. -/
def encodeString (text : String) : Bytes := text.toList.flatMap encodeChar ++ [0xFF]

def decodeChars : Bytes → Option (List Char × Bytes)
  | a :: b :: c :: d :: rest =>
    if a = 0xFF then some ([], b :: c :: d :: rest)
    else (decodeChars rest).map fun (chars, rest) => (.ofNat (fromBeBytes [a, b, c, d]) :: chars, rest)
  | a :: rest => if a = 0xFF then some ([], rest) else none
  | [] => none

def decodeString (bytes : Bytes) : Option (String × Bytes) :=
  (decodeChars bytes).map fun (chars, rest) => (.ofList chars, rest)

theorem decodeChars_terminator (rest : Bytes) : decodeChars (0xFF :: rest) = some ([], rest) := by
  match rest with
  | [] => rfl
  | [_] => rfl
  | [_, _] => rfl
  | _ :: _ :: _ :: _ => rfl

theorem decodeChars_encode (chars : List Char) (rest : Bytes) :
    decodeChars (chars.flatMap encodeChar ++ 0xFF :: rest) = some (chars, rest) := by
  induction chars with
  | nil => exact decodeChars_terminator rest
  | cons c chars ih =>
    have hlt : c.toNat < 2 ^ 24 := by
      rcases c.valid with h | h
      · exact Nat.lt_trans h (by decide)
      · exact Nat.lt_trans h.2 (by decide)
    have hfst : UInt8.ofNat (c.toNat / 2 ^ 24) = 0 := by
      rw [Nat.div_eq_of_lt hlt]
      rfl
    have hcode := fromBeBytes_toBeBytes (n := c.toNat) (by omega)
    rw [toBeBytes] at hcode
    rw [List.flatMap_cons, List.append_assoc]
    show (if UInt8.ofNat (c.toNat / 2 ^ 24) = 0xFF then _
      else (decodeChars (chars.flatMap encodeChar ++ 0xFF :: rest)).map _) = _
    rw [if_neg (by rw [hfst]; decide), ih, Option.map_some]
    simp only [hcode, Char.ofNat_toNat]

theorem decodeString_encodeString (text : String) (rest : Bytes) :
    decodeString (encodeString text ++ rest) = some (text, rest) := by
  rw [decodeString, encodeString, List.append_assoc]
  show (decodeChars (_ ++ 0xFF :: rest)).map _ = _
  rw [decodeChars_encode, Option.map_some]
  exact congrArg (fun text => some (text, rest)) String.ofList_toList

/-! ## The environment -/

/-- A message that is always valid. -/
structure Note where
  epoch : ConnectionEpochId
  text : String
deriving DecidableEq

instance : SpoolMessage Note where
  validate _ := true
  connectionEpochId note := some note.epoch

def scriptedFrameJson : JsonCodec (StoredMessageFrame Note) where
  toVec frame := encodeString frame.admissionId.asStr ++ (encodeString frame.recordId.asStr ++
    (encodeString frame.connectionEpochId.asStr ++ (encodeString frame.message.epoch.asStr ++
      (encodeString frame.message.text ++ []))))
  fromSlice bytes := do
    let (admissionId, bytes) ← decodeString bytes
    let (recordId, bytes) ← decodeString bytes
    let (connectionEpochId, bytes) ← decodeString bytes
    let (epoch, bytes) ← decodeString bytes
    let (text, _) ← decodeString bytes
    some ⟨⟨admissionId⟩, ⟨recordId⟩, ⟨connectionEpochId⟩, ⟨⟨epoch⟩, text⟩⟩
  fromSlice_toVec frame := by
    simp only [decodeString_encodeString, Option.bind_eq_bind, Option.bind_some]

def scriptedCheckpointJson : JsonCodec StoredCheckpoint where
  toVec checkpoint := encodeString checkpoint.generationId.asStr ++
    checkpoint.lastRecordId.elim [] fun recordId => encodeString recordId.asStr ++ []
  fromSlice bytes := do
    let (generationId, bytes) ← decodeString bytes
    some ⟨⟨generationId⟩, (decodeString bytes).map fun (recordId, _) => ⟨recordId⟩⟩
  fromSlice_toVec := by
    rintro ⟨generationId, _ | recordId⟩
    · simp only [Option.elim_none, decodeString_encodeString, Option.bind_eq_bind, Option.bind_some]
      rfl
    · simp only [Option.elim_some, decodeString_encodeString, Option.bind_eq_bind,
        Option.bind_some, Option.map_some]

/-- The cipher adds a tag of zeros. -/
def scriptedKey : SpoolKey where
  keyId := List.replicate KEY_ID_LEN 7
  length_keyId := List.length_replicate
  sealInPlace _ _ plaintext := plaintext ++ List.replicate TAG_LEN 0
  openInPlace _ _ encrypted :=
    if encrypted.drop (encrypted.length - TAG_LEN) = List.replicate TAG_LEN 0 then
      some (encrypted.take (encrypted.length - TAG_LEN))
    else none
  open_seal _ _ plaintext := by
    have hlen : (plaintext ++ List.replicate TAG_LEN (0 : UInt8)).length - TAG_LEN =
        plaintext.length := by
      rw [List.length_append, List.length_replicate, Nat.add_sub_cancel]
    rw [hlen, List.drop_left, if_pos rfl, List.take_left]
  length_seal _ _ plaintext := by rw [List.length_append, List.length_replicate]

/-- Whole blocks of 4096 bytes. -/
def scriptedAllocation : Allocation where
  bytes n := (n + 4095) / 4096 * 4096
  empty := rfl
  mono m n h := Nat.mul_le_mul_right _ (Nat.div_le_div_right (by omega))
  grow n k := by
    have hreserve : ALLOCATION_GRANULARITY_RESERVE = 65536 := rfl
    omega

def scriptedEnv : SpoolEnv Note where
  config := ⟨DEFAULT_MAX_FRAME_PLAINTEXT, by decide, Nat.le_refl _⟩
  key := scriptedKey
  text := scriptedText
  frameJson := scriptedFrameJson
  checkpointJson := scriptedCheckpointJson
  allocation := scriptedAllocation
  quarantineBytes := 0
  quarantine_le := Nat.zero_le _

def scriptedGeneration : Uuid := ⟨List.replicate UUID_LEN 1, List.length_replicate⟩

end ServerRS.Spool

import Mathlib.Algebra.Order.Ring.Nat
import Mathlib.Data.List.Infix

/-!
# The file formats of the message spool

Models the constants, the id newtypes and the header codecs of
`qqbot-server/src/infrastructure/realtime_spool.rs` and the types of
`personal-secretary/src/domain/realtime_spool.rs` that it uses.

What the spool takes from other crates is a parameter here: the AES-256-GCM key of
`ring` (`SpoolKey`), `serde_json` on a stored type (`JsonCodec`), the text form of a uuid
(`UuidText`), and the message that an admission carries (`SpoolMessage`).
-/

namespace ServerRS.Spool

abbrev Bytes := List UInt8

/-! ## Constants -/

def WAL_MAGIC : Bytes := [0x51, 0x4D, 0x57, 0x4C]
def FRAME_MAGIC : Bytes := [0x51, 0x4D, 0x46, 0x52]
def CHECKPOINT_MAGIC : Bytes := [0x51, 0x4D, 0x43, 0x50]
def FORMAT_VERSION : UInt8 := 1
abbrev KEY_ID_LEN : ℕ := 16
abbrev UUID_LEN : ℕ := 16
abbrev NONCE_LEN : ℕ := 12
abbrev TAG_LEN : ℕ := 16
abbrev WAL_HEADER_LEN : ℕ := 4 + 1 + KEY_ID_LEN + UUID_LEN + UUID_LEN
abbrev FRAME_HEADER_LEN : ℕ := 4 + 1 + KEY_ID_LEN + 4 + NONCE_LEN
abbrev CHECKPOINT_HEADER_LEN : ℕ := 4 + 1 + KEY_ID_LEN + 4 + NONCE_LEN
abbrev DEFAULT_MAX_FRAME_PLAINTEXT : ℕ := 1024 * 1024
abbrev ACTIVE_WAL_BYTES : ℕ := 240 * 1024 * 1024
abbrev COMPACT_TEMP_BYTES : ℕ := 240 * 1024 * 1024
abbrev QUARANTINE_BYTES : ℕ := 16 * 1024 * 1024
abbrev METADATA_BYTES : ℕ := 16 * 1024 * 1024
abbrev TOTAL_BYTES : ℕ := 512 * 1024 * 1024
abbrev ALLOCATION_GRANULARITY_RESERVE : ℕ := 64 * 1024

def saturatingAdd (a b : ℕ) : ℕ := min (a + b) (2 ^ 64 - 1)

/-! ## Errors -/

inductive RealtimeSpoolFatalKind where
  | keyUnavailable
  | lockUnavailable
  | capacityExhausted
  | appendFailed
  | syncFailed
  | writerStopped
  | checkpointFailed
  | recoveryCorruptFrame
  | recoveryInvariantViolation
  | reconciliationFailed
deriving DecidableEq

structure RealtimeMessageSpoolError where
  kind : RealtimeSpoolFatalKind
  stage : String
deriving DecidableEq

def spoolError (kind : RealtimeSpoolFatalKind) (stage : String) : RealtimeMessageSpoolError :=
  ⟨kind, stage⟩

inductive RealtimeSpoolError where
  | emptyField (field : String)
  | invalidMessage
  | epochMismatch
deriving DecidableEq

/-! ## Ids -/

/-- `char::is_whitespace`. -/
def isWhitespace (c : Char) : Bool :=
  (0x09 ≤ c.val && c.val ≤ 0x0D) || c.val == 0x20 || c.val == 0x85 || c.val == 0xA0 ||
    c.val == 0x1680 || (0x2000 ≤ c.val && c.val ≤ 0x200A) || c.val == 0x2028 ||
    c.val == 0x2029 || c.val == 0x202F || c.val == 0x205F || c.val == 0x3000

/-- `value.trim().is_empty()`. -/
def isBlank (value : String) : Bool := value.toList.all isWhitespace

/-- `str::trim`. -/
def trim (value : String) : String :=
  String.ofList (((value.toList.dropWhile isWhitespace).reverse.dropWhile isWhitespace).reverse)

/-- The `spool_id!` newtypes. Deserialising one does not run the check of `new`. -/
structure SpoolId (field : String) where
  asStr : String
deriving DecidableEq

def SpoolId.new {field : String} (value : String) : Except RealtimeSpoolError (SpoolId field) :=
  if isBlank value then .error (.emptyField field) else .ok ⟨value⟩

abbrev RealtimeSpoolAdmissionId := SpoolId "realtime_spool_admission_id"
abbrev RealtimeSpoolGenerationId := SpoolId "realtime_spool_generation_id"
abbrev RealtimeSpoolRecordId := SpoolId "realtime_spool_record_id"

structure ConnectionEpochId where
  asStr : String
deriving DecidableEq

structure Uuid where
  asBytes : Bytes
  length_asBytes : asBytes.length = UUID_LEN
deriving DecidableEq

namespace Uuid

def nil : Uuid := ⟨List.replicate UUID_LEN 0, List.length_replicate⟩

def isNil (uuid : Uuid) : Bool := uuid = nil

def fromSlice (bytes : Bytes) : Option Uuid :=
  if h : bytes.length = UUID_LEN then some ⟨bytes, h⟩ else none

@[simp] theorem fromSlice_asBytes (uuid : Uuid) : fromSlice uuid.asBytes = some uuid :=
  dif_pos uuid.length_asBytes

end Uuid

/-- `Uuid::to_string` and `Uuid::parse_str`. -/
structure UuidText where
  toString : Uuid → String
  parseStr : String → Option Uuid
  parseStr_toString : ∀ uuid, parseStr (toString uuid) = some uuid
  toString_not_blank : ∀ uuid, isBlank (toString uuid) = false

namespace UuidText

variable (text : UuidText)

theorem new_toString {field : String} (uuid : Uuid) :
    SpoolId.new (text.toString uuid) = .ok (⟨text.toString uuid⟩ : SpoolId field) := by
  rw [SpoolId.new, if_neg (by simp [text.toString_not_blank])]

end UuidText

/-! ## What the spool relies on -/

structure Nonce where
  bytes : Bytes
  length_bytes : bytes.length = NONCE_LEN
deriving DecidableEq

/-- The key of `load_key`: its id and `aead::LessSafeKey` of `ring`. What is sealed opens
again under the same nonce and additional data, and grows by the tag. -/
structure SpoolKey where
  keyId : Bytes
  length_keyId : keyId.length = KEY_ID_LEN
  sealInPlace : Nonce → (aad plaintext : Bytes) → Bytes
  openInPlace : Nonce → (aad encrypted : Bytes) → Option Bytes
  open_seal : ∀ nonce aad plaintext,
    openInPlace nonce aad (sealInPlace nonce aad plaintext) = some plaintext
  length_seal : ∀ nonce aad plaintext,
    (sealInPlace nonce aad plaintext).length = plaintext.length + TAG_LEN

/-- `serde_json::to_vec` and `serde_json::from_slice` on one type. -/
structure JsonCodec (τ : Type) where
  toVec : τ → Bytes
  fromSlice : Bytes → Option τ
  fromSlice_toVec : ∀ value, fromSlice (toVec value) = some value

/-- What the spool asks of an `InboundMessageEnvelope`. -/
class SpoolMessage (M : Type) where
  validate : M → Bool
  connectionEpochId : M → Option ConnectionEpochId

/-! ## Big-endian lengths -/

/-- `u32::to_be_bytes`. -/
def toBeBytes (n : ℕ) : Bytes :=
  [.ofNat (n / 2 ^ 24), .ofNat (n / 2 ^ 16), .ofNat (n / 2 ^ 8), .ofNat n]

/-- `u32::from_be_bytes`. -/
def fromBeBytes (bytes : Bytes) : ℕ := bytes.foldl (fun n byte => n * 2 ^ 8 + byte.toNat) 0

@[simp] theorem length_toBeBytes (n : ℕ) : (toBeBytes n).length = 4 := rfl

theorem fromBeBytes_toBeBytes {n : ℕ} (h : n < 2 ^ 32) : fromBeBytes (toBeBytes n) = n := by
  simp only [fromBeBytes, toBeBytes, List.foldl_cons, List.foldl_nil, UInt8.toNat_ofNat']
  omega

/-! ## The WAL header -/

/-- The bytes that `write_wal_header` writes. -/
def walHeader (keyId : Bytes) (generation : Uuid) (baseRecord : Option Uuid) : Bytes :=
  WAL_MAGIC ++ [FORMAT_VERSION] ++ keyId ++ generation.asBytes ++
    (baseRecord.getD Uuid.nil).asBytes

def parseWalHeader (text : UuidText) (header keyId : Bytes) :
    Except RealtimeMessageSpoolError (Uuid × Option RealtimeSpoolRecordId) :=
  if header.take 4 ≠ WAL_MAGIC ∨ (header.drop 4).take 1 ≠ [FORMAT_VERSION] then
    .error (spoolError .recoveryCorruptFrame "wal_header")
  else if (header.drop 5).take KEY_ID_LEN ≠ keyId then
    .error (spoolError .keyUnavailable "wal_key_id")
  else
    match Uuid.fromSlice ((header.drop 21).take 16) with
    | none => .error (spoolError .recoveryCorruptFrame "wal_generation")
    | some generation =>
      if generation.isNil then .error (spoolError .recoveryCorruptFrame "wal_generation")
      else
        match Uuid.fromSlice ((header.drop 37).take 16) with
        | none => .error (spoolError .recoveryCorruptFrame "wal_base")
        | some base =>
          if base.isNil then .ok (generation, none)
          else
            match SpoolId.new (text.toString base) with
            | .error _ => .error (spoolError .recoveryCorruptFrame "wal_base")
            | .ok recordId => .ok (generation, some recordId)

/-! ## The headers of sealed data -/

/-- The header of a frame or of the checkpoint: magic, version, key id, length, nonce. -/
def sealedHeader (magic keyId : Bytes) (encryptedLen : ℕ) (nonce : Nonce) : Bytes :=
  magic ++ [FORMAT_VERSION] ++ keyId ++ toBeBytes encryptedLen ++ nonce.bytes

def frameHeader : Bytes → ℕ → Nonce → Bytes := sealedHeader FRAME_MAGIC

def checkpointHeader : Bytes → ℕ → Nonce → Bytes := sealedHeader CHECKPOINT_MAGIC

def frameAad (header : Bytes) (generation : Uuid) : Bytes := header ++ generation.asBytes

/-- The checks shared by `parse_frame_header` and `parse_checkpoint_header`; `stage` names
the format in the errors. -/
def parseSealedHeader (magic : Bytes) (kind : RealtimeSpoolFatalKind) (stage : String)
    (maxEncrypted : ℕ) (header keyId : Bytes) : Except RealtimeMessageSpoolError (ℕ × Nonce) :=
  if header.take 4 ≠ magic ∨ (header.drop 4).take 1 ≠ [FORMAT_VERSION] then
    .error (spoolError kind (stage ++ "_header"))
  else if (header.drop 5).take 16 ≠ keyId then
    .error (spoolError .keyUnavailable (stage ++ "_key_id"))
  else if ((header.drop 21).take 4).length ≠ 4 then
    .error (spoolError kind (stage ++ "_length"))
  else
    let encryptedLen := fromBeBytes ((header.drop 21).take 4)
    if encryptedLen < TAG_LEN ∨ maxEncrypted < encryptedLen then
      .error (spoolError kind (stage ++ "_length"))
    else if h : ((header.drop 25).take 12).length = NONCE_LEN then
      .ok (encryptedLen, ⟨(header.drop 25).take 12, h⟩)
    else .error (spoolError kind (stage ++ "_header"))

def parseFrameHeader (header keyId : Bytes) (maxPlaintext : ℕ) :
    Except RealtimeMessageSpoolError (ℕ × Nonce) :=
  parseSealedHeader FRAME_MAGIC .recoveryCorruptFrame "frame"
    (saturatingAdd maxPlaintext TAG_LEN) header keyId

def parseCheckpointHeader (header keyId : Bytes) : Except RealtimeMessageSpoolError (ℕ × Nonce) :=
  if header.length ≠ CHECKPOINT_HEADER_LEN then
    .error (spoolError .recoveryInvariantViolation "checkpoint_header")
  else
    parseSealedHeader CHECKPOINT_MAGIC .recoveryInvariantViolation "checkpoint" METADATA_BYTES
      header keyId

/-! ## Round trips -/

section

variable {keyId : Bytes}

theorem length_walHeader (hkey : keyId.length = KEY_ID_LEN) (generation : Uuid)
    (baseRecord : Option Uuid) :
    (walHeader keyId generation baseRecord).length = WAL_HEADER_LEN := by
  simp only [walHeader, List.length_append, hkey, Uuid.length_asBytes]
  rfl

theorem length_sealedHeader {magic : Bytes} (hmagic : magic.length = 4)
    (hkey : keyId.length = KEY_ID_LEN) (encryptedLen : ℕ) (nonce : Nonce) :
    (sealedHeader magic keyId encryptedLen nonce).length = FRAME_HEADER_LEN := by
  simp only [sealedHeader, List.length_append, hmagic, hkey, nonce.length_bytes, length_toBeBytes]
  rfl

/-- A field of a header, by its offset and length. -/
theorem field_eq {header : Bytes} (before field after : Bytes)
    (h : header = before ++ (field ++ after)) {offset length : ℕ}
    (hbef : before.length = offset) (hfield : field.length = length) :
    (header.drop offset).take length = field := by
  subst h hbef hfield
  rw [List.drop_left, List.take_left]

theorem parseWalHeader_walHeader (text : UuidText) (hkey : keyId.length = KEY_ID_LEN)
    {generation : Uuid} (hgener : generation ≠ Uuid.nil) {baseRecord : Option Uuid}
    (hbase : baseRecord ≠ some Uuid.nil) :
    parseWalHeader text (walHeader keyId generation baseRecord) keyId =
      .ok (generation, baseRecord.map fun base => ⟨text.toString base⟩) := by
  set header := walHeader keyId generation baseRecord with hhdr
  set base := baseRecord.getD Uuid.nil with hbase'
  have hlay : header = WAL_MAGIC ++ ([FORMAT_VERSION] ++ (keyId ++
      (generation.asBytes ++ base.asBytes))) := by
    simp only [hhdr, walHeader, List.append_assoc, ← hbase']
  have hmagic : header.take 4 = WAL_MAGIC := field_eq [] WAL_MAGIC _ hlay rfl rfl
  have hver : (header.drop 4).take 1 = [FORMAT_VERSION] :=
    field_eq WAL_MAGIC [FORMAT_VERSION] _ hlay rfl rfl
  have hkeyId : (header.drop 5).take KEY_ID_LEN = keyId :=
    field_eq (WAL_MAGIC ++ [FORMAT_VERSION]) keyId (generation.asBytes ++ base.asBytes)
      (by simp [hlay]) rfl hkey
  have hgen : (header.drop 21).take 16 = generation.asBytes :=
    field_eq (WAL_MAGIC ++ [FORMAT_VERSION] ++ keyId) generation.asBytes base.asBytes
      (by simp [hlay]) (by rw [List.length_append, hkey]; rfl) generation.length_asBytes
  have hlast : (header.drop 37).take 16 = base.asBytes :=
    field_eq (WAL_MAGIC ++ [FORMAT_VERSION] ++ keyId ++ generation.asBytes) base.asBytes []
      (by simp [hlay])
      (by rw [List.length_append, List.length_append, hkey, generation.length_asBytes]; rfl)
      base.length_asBytes
  rw [parseWalHeader, hmagic, hver, hkeyId, hgen, hlast]
  simp only [Uuid.fromSlice_asBytes, Uuid.isNil, hgener, ne_eq, not_true_eq_false, or_self,
    if_false, decide_false, Bool.false_eq_true]
  cases baseRecord with
  | none => rfl
  | some uuid =>
    have hnil : uuid ≠ Uuid.nil := fun h => hbase (by rw [h])
    simp only [hbase', Option.getD_some, hnil, decide_false, Bool.false_eq_true, if_false,
      text.new_toString, Option.map_some]

theorem parseSealedHeader_sealedHeader {magic : Bytes} (hmagic : magic.length = 4)
    (kind : RealtimeSpoolFatalKind) (stage : String) (hkey : keyId.length = KEY_ID_LEN)
    {encryptedLen maxEncrypted : ℕ} (hmin : TAG_LEN ≤ encryptedLen)
    (hmax : encryptedLen ≤ maxEncrypted) (hu32 : encryptedLen < 2 ^ 32) (nonce : Nonce) :
    parseSealedHeader magic kind stage maxEncrypted
      (sealedHeader magic keyId encryptedLen nonce) keyId = .ok (encryptedLen, nonce) := by
  set header := sealedHeader magic keyId encryptedLen nonce with hhdr
  have hlay : header = magic ++ ([FORMAT_VERSION] ++ (keyId ++
      (toBeBytes encryptedLen ++ nonce.bytes))) := by
    simp only [hhdr, sealedHeader, List.append_assoc]
  have hmagic' : header.take 4 = magic := field_eq [] magic _ hlay rfl hmagic
  have hver : (header.drop 4).take 1 = [FORMAT_VERSION] :=
    field_eq magic [FORMAT_VERSION] _ hlay hmagic rfl
  have hkeyId : (header.drop 5).take 16 = keyId :=
    field_eq (magic ++ [FORMAT_VERSION]) keyId (toBeBytes encryptedLen ++ nonce.bytes)
      (by simp [hlay]) (by rw [List.length_append, hmagic]; rfl) hkey
  have hlen : (header.drop 21).take 4 = toBeBytes encryptedLen :=
    field_eq (magic ++ [FORMAT_VERSION] ++ keyId) (toBeBytes encryptedLen) nonce.bytes
      (by simp [hlay])
      (by rw [List.length_append, List.length_append, hmagic, hkey]; rfl) rfl
  have hnonce : (header.drop 25).take 12 = nonce.bytes :=
    field_eq (magic ++ [FORMAT_VERSION] ++ keyId ++ toBeBytes encryptedLen) nonce.bytes []
      (by simp [hlay])
      (by rw [List.length_append, List.length_append, List.length_append, hmagic, hkey]; rfl)
      nonce.length_bytes
  have hrange : ¬(encryptedLen < TAG_LEN ∨ maxEncrypted < encryptedLen) := by omega
  simp only [parseSealedHeader, hmagic', hver, hkeyId, hlen, hnonce,
    fromBeBytes_toBeBytes hu32, hrange, nonce.length_bytes, length_toBeBytes, ne_eq,
    not_true_eq_false, or_self, if_false, dif_pos]

end

end ServerRS.Spool

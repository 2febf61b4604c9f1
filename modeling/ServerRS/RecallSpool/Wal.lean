import ServerRS.Spool.Format

/-!
# The recall spool

Models how `qqbot-server/src/infrastructure/recall.rs` opens the file that holds the recalls on their
way to the database: the frames and their errors, the header of the file, the recovery that quarantines
what it cannot read, and the reading that follows it.

The disk is the spool file and the quarantine directory. The clock is read whenever something is
quarantined; it gives the milliseconds of each reading.
-/

namespace ServerRS.RecallSpool

open Spool (Bytes SpoolKey JsonCodec Nonce KEY_ID_LEN NONCE_LEN TAG_LEN fromBeBytes toBeBytes)

def MAGIC : Bytes := [0x52, 0x53, 0x50, 0x4C]
def VERSION : UInt8 := 1
abbrev SPOOL_HEADER_LEN : ℕ := 4 + 1 + 16
abbrev HEADER_LEN : ℕ := 4 + 1 + 4 + NONCE_LEN
abbrev MAX_FRAME_PLAINTEXT : ℕ := 16 * 1024

inductive FrameError where
  | tornTail
  | invalidMagic
  | unsupportedVersion
  | invalidLength
  | invalidNonce
  | authentication
  | invalidPayload
deriving DecidableEq

def FrameError.code : FrameError → String
  | .tornTail => "torn_tail"
  | .invalidMagic => "invalid_magic"
  | .unsupportedVersion => "unsupported_version"
  | .invalidLength => "invalid_length"
  | .invalidNonce => "invalid_nonce"
  | .authentication => "authentication_failed"
  | .invalidPayload => "invalid_payload"

/-- `aead::Nonce::try_assume_unique_for_key`. -/
def tryAssumeUniqueForKey (bytes : Bytes) : Option Nonce :=
  if h : bytes.length = NONCE_LEN then some ⟨bytes, h⟩ else none

/-- The spool of one process: its key, and how a recall event becomes JSON. -/
structure RecallWal (E : Type) where
  key : SpoolKey
  json : JsonCodec E

/-- The spool file and the files of the quarantine directory. -/
structure RecallDisk where
  spool : Option Bytes
  quarantine : List (String × Bytes)
deriving DecidableEq

/-! ## Frames -/

/-- The position of the first window of four bytes that is the magic. -/
def magicPosition : Bytes → Option ℕ
  | [] => none
  | byte :: rest =>
    if (byte :: rest).take 4 = MAGIC then some 0 else (magicPosition rest).map (· + 1)

def nextFrameOffset (bytes : Bytes) (currentOffset : ℕ) : Option ℕ :=
  let searchFrom := currentOffset + 1
  (magicPosition (bytes.drop searchFrom)).map (searchFrom + ·)

namespace RecallWal

variable {E : Type} (self : RecallWal E)

/-- What `encrypt` writes for a plaintext under a nonce. -/
def encrypt (nonce : Nonce) (plaintext : Bytes) : Bytes :=
  let aad := MAGIC ++ [VERSION] ++ toBeBytes (plaintext.length + TAG_LEN)
  aad ++ nonce.bytes ++ self.key.sealInPlace nonce aad plaintext

def decodeOne (bytes : Bytes) : Except FrameError (ℕ × E) :=
  if bytes.length < HEADER_LEN then .error .tornTail
  else if bytes.take 4 ≠ MAGIC then .error .invalidMagic
  else if (bytes.drop 4).take 1 ≠ [VERSION] then .error .unsupportedVersion
  else
    let length := fromBeBytes ((bytes.drop 5).take 4)
    if ¬ (TAG_LEN ≤ length ∧ length ≤ MAX_FRAME_PLAINTEXT + TAG_LEN) then .error .invalidLength
    else
      let total := HEADER_LEN + length
      if bytes.length < total then .error .tornTail
      else
        match tryAssumeUniqueForKey ((bytes.drop 9).take NONCE_LEN) with
        | none => .error .invalidNonce
        | some nonce =>
          match self.key.openInPlace nonce (bytes.take 9) ((bytes.drop HEADER_LEN).take length) with
          | none => .error .authentication
          | some plaintext =>
            match self.json.fromSlice plaintext with
            | none => .error .invalidPayload
            | some event => .ok (total, event)

/-- The loop of `decode_frames`, over what is left of the bytes. -/
def decodeFrom : ℕ → Bytes → Except String (List (ℕ × E))
  | 0, _ => .ok []
  | fuel + 1, bytes =>
    if bytes.isEmpty then .ok []
    else
      match self.decodeOne bytes with
      | .ok (consumed, event) =>
        (decodeFrom fuel (bytes.drop consumed)).map fun frames => (consumed, event) :: frames
      | .error error => .error ("recall spool invalid after recovery: " ++ error.code)

def decodeFrames (bytes : Bytes) : Except String (List (ℕ × E)) :=
  self.decodeFrom bytes.length bytes

def events (snapshot : Bytes) : Except String (List E) :=
  (self.decodeFrames snapshot).map fun frames => frames.map Prod.snd

/-! ## The file -/

/-- The bytes that a new file begins with. -/
def header : Bytes := MAGIC ++ [VERSION] ++ self.key.keyId

def initializeOrVerifyHeader (disk : RecallDisk) : Except String Unit × RecallDisk :=
  let bytes := disk.spool.getD []
  if bytes.length = 0 then (.ok (), { disk with spool := some self.header })
  else if bytes.length < SPOOL_HEADER_LEN ∨ bytes.take 4 ≠ MAGIC ∨ (bytes.drop 4).take 1 ≠ [VERSION] then
    (.error "recall spool header is missing or unsupported", disk)
  else if (bytes.drop 5).take KEY_ID_LEN ≠ self.key.keyId then
    (.error "recall spool encryption key does not match spool key id", disk)
  else (.ok (), disk)

/-- The temporary file takes the place of the spool. -/
def replaceIo (bytes : Bytes) (disk : RecallDisk) : RecallDisk :=
  { disk with spool := some (self.header ++ bytes) }

end RecallWal

def quarantineName (timestamp : ℕ) (reason : String) : String :=
  s!"recall-spool-{timestamp}-{reason}.bin"

/-- `quarantine` creates a new file, and fails when there is one of that name. -/
def quarantine (timestamp : ℕ) (bytes : Bytes) (reason : String) (disk : RecallDisk) :
    Except String Unit × RecallDisk :=
  if quarantineName timestamp reason ∈ disk.quarantine.map Prod.fst then
    (.error "File exists", disk)
  else (.ok (),
    { disk with quarantine := disk.quarantine ++ [(quarantineName timestamp reason, bytes)] })

namespace RecallWal

variable {E : Type} (self : RecallWal E)

/-- The loop of `recover`, over what is left of the file. -/
def recoverFrom : ℕ → (ℕ → ℕ) → (rest recovered : Bytes) → RecallDisk →
    Except String Bytes × RecallDisk
  | 0, _, _, recovered, disk => (.ok recovered, disk)
  | fuel + 1, clock, rest, recovered, disk =>
    if rest.isEmpty then (.ok recovered, disk)
    else
      match self.decodeOne rest with
      | .ok (consumed, _) =>
        recoverFrom fuel clock (rest.drop consumed) (recovered ++ rest.take consumed) disk
      | .error .tornTail =>
        match quarantine (clock 0) rest "torn_tail" disk with
        | (.error error, disk) => (.error error, disk)
        | (.ok _, disk) => (.ok recovered, disk)
      | .error error =>
        let «end» := (nextFrameOffset rest 0).getD rest.length
        match quarantine (clock 0) (rest.take «end») error.code disk with
        | (.error error, disk) => (.error error, disk)
        | (.ok _, disk) =>
          recoverFrom fuel (fun n => clock (n + 1)) (rest.drop «end») recovered disk

def recover (clock : ℕ → ℕ) (disk : RecallDisk) : Except String Unit × RecallDisk :=
  let bytes := disk.spool.getD []
  match self.recoverFrom bytes.length clock (bytes.drop SPOOL_HEADER_LEN) [] disk with
  | (.error error, disk) => (.error error, disk)
  | (.ok recovered, disk) =>
    if recovered ≠ bytes.drop SPOOL_HEADER_LEN then (.ok (), self.replaceIo recovered disk)
    else (.ok (), disk)

def snapshot (disk : RecallDisk) : Except String Bytes :=
  let bytes := disk.spool.getD []
  if bytes.length < SPOOL_HEADER_LEN then .error "recall spool header is truncated"
  else .ok (bytes.drop SPOOL_HEADER_LEN)

/-- `refresh_telemetry`; the events are the backlog. -/
def refreshTelemetry (disk : RecallDisk) : Except String (List E) :=
  (snapshot disk).bind self.events

/-- `RecallWal::open`. -/
def openWal (clock : ℕ → ℕ) (disk : RecallDisk) : Except String (List E) × RecallDisk :=
  match self.initializeOrVerifyHeader disk with
  | (.error error, disk) => (.error error, disk)
  | (.ok _, disk) =>
    match self.recover clock disk with
    | (.error error, disk) => (.error error, disk)
    | (.ok _, disk) => (self.refreshTelemetry disk, disk)

end RecallWal

end ServerRS.RecallSpool

import ServerRS.Spool.Scan

/-!
# What a WAL file holds

`walBytes` is the content of a WAL file: the header, the frames that were written
completely, and possibly the beginning of one more. Scanning such a file finds exactly its
frames (`scanLocked_eq`).
-/

namespace ServerRS.Spool

open Lib

variable {M : Type} [SpoolMessage M]

/-- What `append` makes sure of before it writes a frame, and `scan_locked` checks again. -/
structure Recordable (env : SpoolEnv M) (stored : StoredMessageFrame M) : Prop where
  admission_not_blank : isBlank stored.admissionId.asStr = false
  record_uuid : ∃ uuid, uuid ≠ Uuid.nil ∧ stored.recordId = ⟨env.text.toString uuid⟩
  valid : SpoolMessage.validate stored.message = true
  epoch_eq : SpoolMessage.connectionEpochId stored.message = some stored.connectionEpochId
  fits : (env.frameJson.toVec stored).length ≤ env.config.maxFramePlaintext

/-- A frame as `append` writes it. -/
structure WalFrame (env : SpoolEnv M) where
  stored : StoredMessageFrame M
  nonce : Nonce
  recordable : Recordable env stored

namespace WalFrame

variable {env : SpoolEnv M}

def recordId (frame : WalFrame env) : RealtimeSpoolRecordId := frame.stored.recordId

def admissionId (frame : WalFrame env) : RealtimeSpoolAdmissionId := frame.stored.admissionId

def bytes (generation : Uuid) (frame : WalFrame env) : Bytes :=
  frameBytes env.key generation frame.nonce (env.frameJson.toVec frame.stored)

def recovered (spool : RealtimeMessageSpool) (frame : WalFrame env) :
    RecoveredRealtimeSpoolFrame M :=
  ⟨spool.generationId, frame.stored.recordId, frame.stored.connectionEpochId,
    frame.stored.message, frame.recordable.valid, frame.recordable.epoch_eq⟩

/-- The frame as the scanner finds it at `offset`. -/
def scanned (spool : RealtimeMessageSpool) (offset : ℕ) (frame : WalFrame env) : ScannedFrame M :=
  ⟨frame.stored, frame.recovered spool, offset, (frame.bytes spool.generationUuid).length⟩

theorem new_eq (spool : RealtimeMessageSpool) (frame : WalFrame env) :
    RecoveredRealtimeSpoolFrame.new spool.generationId frame.stored.recordId
      frame.stored.connectionEpochId frame.stored.message = .ok (frame.recovered spool) := by
  rw [RecoveredRealtimeSpoolFrame.new, dif_pos frame.recordable.valid,
    dif_pos frame.recordable.epoch_eq]
  rfl

theorem recordUuid_eq (frame : WalFrame env) :
    ∃ uuid, uuid ≠ Uuid.nil ∧ recordUuid env.text frame.stored.recordId = .ok uuid := by
  obtain ⟨uuid, hnil, hrecor⟩ := frame.recordable.record_uuid
  exact ⟨uuid, hnil, by rw [hrecor, recordUuid, env.text.parseStr_toString]⟩

def header (frame : WalFrame env) : Bytes :=
  frameHeader env.key.keyId ((env.frameJson.toVec frame.stored).length + TAG_LEN) frame.nonce

theorem length_header (frame : WalFrame env) : frame.header.length = FRAME_HEADER_LEN :=
  length_sealedHeader rfl env.key.length_keyId _ _

theorem length_bytes (generation : Uuid) (frame : WalFrame env) :
    (frame.bytes generation).length =
      FRAME_HEADER_LEN + ((env.frameJson.toVec frame.stored).length + TAG_LEN) := by
  show (frame.header ++ env.key.sealInPlace _ _ _).length = _
  rw [List.length_append, length_header, env.key.length_seal]

theorem take_header (generation : Uuid) (frame : WalFrame env) (rest : Bytes) :
    (frame.bytes generation ++ rest).take FRAME_HEADER_LEN = frame.header := by
  show ((frame.header ++ _) ++ rest).take _ = _
  rw [List.append_assoc, List.take_left' frame.length_header]

theorem take_sealed (generation : Uuid) (frame : WalFrame env) (rest : Bytes) :
    ((frame.bytes generation ++ rest).drop FRAME_HEADER_LEN).take
      ((env.frameJson.toVec frame.stored).length + TAG_LEN) =
        env.key.sealInPlace frame.nonce (frameAad frame.header generation)
          (env.frameJson.toVec frame.stored) := by
  show (((frame.header ++ _) ++ rest).drop _).take _ = _
  rw [List.append_assoc, List.drop_left' frame.length_header,
    List.take_left' (env.key.length_seal _ _ _)]
  rfl

theorem bytes_ne_nil (generation : Uuid) (frame : WalFrame env) : frame.bytes generation ≠ [] := by
  intro h
  have := frame.length_bytes generation
  rw [h, List.length_nil, FRAME_HEADER_LEN] at this
  omega

theorem parseFrameHeader_eq (frame : WalFrame env) :
    parseFrameHeader frame.header env.key.keyId env.config.maxFramePlaintext =
      .ok ((env.frameJson.toVec frame.stored).length + TAG_LEN, frame.nonce) := by
  have hfits := frame.recordable.fits
  have hmax := env.config.le_default
  have htag : TAG_LEN = 16 := rfl
  have hdefault : DEFAULT_MAX_FRAME_PLAINTEXT = 2 ^ 20 := rfl
  refine parseSealedHeader_sealedHeader rfl _ _ env.key.length_keyId (by omega) ?_ (by omega) _
  rw [saturatingAdd]
  omega

end WalFrame

def frameLog {env : SpoolEnv M} (generation : Uuid) (frames : List (WalFrame env)) : Bytes :=
  encodeAll (WalFrame.bytes generation) frames

section

variable {env : SpoolEnv M} (generation : Uuid)

@[simp] theorem frameLog_nil : frameLog generation ([] : List (WalFrame env)) = [] := rfl

@[simp] theorem frameLog_cons (frame : WalFrame env) (frames : List (WalFrame env)) :
    frameLog generation (frame :: frames) = frame.bytes generation ++ frameLog generation frames :=
  rfl

@[simp] theorem frameLog_append (first second : List (WalFrame env)) :
    frameLog generation (first ++ second) =
      frameLog generation first ++ frameLog generation second := encodeAll_append first second

end

/-- What is left at the end of the file of a frame that was being written. -/
def TornFrame (env : SpoolEnv M) (generation : Uuid) (tail : Bytes) : Prop :=
  Torn (WalFrame.bytes generation : WalFrame env → Bytes) (fun _ => True) tail

/-- Cutting a sequence of frames leaves the first ones and a torn one. -/
theorem take_frameLog {env : SpoolEnv M} {generation : Uuid} (frames : List (WalFrame env))
    {tail : Bytes} (htorn : TornFrame env generation tail) (k : ℕ) :
    ∃ n tail', n ≤ frames.length ∧ TornFrame env generation tail' ∧
      (frameLog generation frames ++ tail).take k =
        frameLog generation (frames.take n) ++ tail' ∧
      ∀ m ≤ frames.length, (frameLog generation (frames.take m)).length ≤ k → m ≤ n :=
  take_encodeAll_append (fun _ _ => trivial) htorn k

/-- The content of a WAL file. -/
def walBytes (env : SpoolEnv M) (generation : Uuid) (base : Option Uuid)
    (frames : List (WalFrame env)) (tail : Bytes) : Bytes :=
  walHeader env.key.keyId generation base ++
    (frameLog generation frames ++ tail)

/-! ## Scanning -/

section

variable {env : SpoolEnv M} {spool : RealtimeMessageSpool}

/-- The scanner state after one more frame. -/
def ScanState.push (spool : RealtimeMessageSpool) (scan : ScanState M) (frame : WalFrame env) :
    ScanState M where
  offset := scan.offset + (frame.bytes spool.generationUuid).length
  frames := scan.frames ++ [frame.scanned spool scan.offset]
  recordIds := frame.recordId :: scan.recordIds
  admissionIds := frame.admissionId :: scan.admissionIds

/-- None of the frames repeats an id. -/
structure DistinctIds (scan : ScanState M) (frames : List (WalFrame env)) : Prop where
  records : (frames.map WalFrame.recordId).Nodup
  admissions : (frames.map WalFrame.admissionId).Nodup
  new_record : ∀ frame ∈ frames, frame.recordId ∉ scan.recordIds
  new_admission : ∀ frame ∈ frames, frame.admissionId ∉ scan.admissionIds

variable {scan : ScanState M} {frame : WalFrame env} {frames : List (WalFrame env)}

theorem DistinctIds.tail (h : DistinctIds scan (frame :: frames)) :
    DistinctIds (scan.push spool frame) frames := by
  obtain ⟨hrec, hadm, hnewRec, hnewAdm⟩ := h
  rw [List.map_cons, List.nodup_cons] at hrec hadm
  refine ⟨hrec.2, hadm.2, fun g hg hmem => ?_, fun g hg hmem => ?_⟩
  · rcases List.mem_cons.mp hmem with heq | hmem
    · exact hrec.1 (heq ▸ List.mem_map_of_mem hg)
    · exact hnewRec g (List.mem_cons_of_mem _ hg) hmem
  · rcases List.mem_cons.mp hmem with heq | hmem
    · exact hadm.1 (heq ▸ List.mem_map_of_mem hg)
    · exact hnewAdm g (List.mem_cons_of_mem _ hg) hmem

/-- Reading a complete frame. -/
theorem nextFrame_bytes (h : DistinctIds scan (frame :: frames)) (rest : Bytes) :
    nextFrame env spool scan (frame.bytes spool.generationUuid ++ rest) =
      .ok (some (scan.push spool frame, (frame.bytes spool.generationUuid).length)) := by
  have hlen := frame.length_bytes spool.generationUuid
  obtain ⟨uuid, -, huuid⟩ := frame.recordUuid_eq
  have hrecor : frame.stored.recordId ∉ scan.recordIds := h.new_record frame List.mem_cons_self
  have hadmis : frame.stored.admissionId ∉ scan.admissionIds :=
    h.new_admission frame List.mem_cons_self
  rw [nextFrame, if_neg (by rw [List.length_append]; omega)]
  simp only [frame.take_header, frame.parseFrameHeader_eq, Except.bind, bind]
  rw [if_neg (by rw [List.length_append]; omega), frame.take_sealed, env.key.open_seal]
  simp only [env.frameJson.fromSlice_toVec, frame.recordable.admission_not_blank, huuid, hrecor,
    hadmis, frame.new_eq, Bool.false_eq_true, if_false, ScanState.push, WalFrame.scanned, hlen]
  rfl

/-- Reading a frame whose writing was cut off. -/
theorem nextFrame_torn {tail : Bytes} (h : TornFrame env spool.generationUuid tail)
    (hne : tail ≠ []) : nextFrame env spool scan tail = .ok none := by
  rcases h with rfl | ⟨frame, -, hpre, hlen⟩
  · exact absurd rfl hne
  rw [nextFrame]
  split
  · rfl
  · next hhdr =>
    -- the header is complete, the sealed part is not
    have htake : tail.take FRAME_HEADER_LEN = frame.header := by
      obtain ⟨rest, hrest⟩ := hpre
      have hspl : frame.bytes spool.generationUuid = frame.header ++ _ := rfl
      have h : (tail ++ rest).take FRAME_HEADER_LEN = frame.header := by
        rw [hrest, hspl, List.take_left' frame.length_header]
      rwa [List.take_append_of_le_length (by omega)] at h
    simp only [htake, frame.parseFrameHeader_eq, Except.bind, bind]
    rw [frame.length_bytes] at hlen
    rw [if_pos (by omega)]

/-- The frames as the scanner finds them, the first one at `offset`. -/
def scannedFrom (spool : RealtimeMessageSpool) : ℕ → List (WalFrame env) → List (ScannedFrame M)
  | _, [] => []
  | offset, frame :: frames =>
    frame.scanned spool offset ::
      scannedFrom spool (offset + (frame.bytes spool.generationUuid).length) frames

theorem foldl_push (spool : RealtimeMessageSpool) (scan : ScanState M) (frames : List (WalFrame env)) :
    (frames.foldl (ScanState.push spool) scan).frames =
        scan.frames ++ scannedFrom spool scan.offset frames ∧
      (frames.foldl (ScanState.push spool) scan).offset = scan.offset +
        (frameLog spool.generationUuid frames).length := by
  induction frames generalizing scan with
  | nil => exact ⟨by simp [scannedFrom], by simp⟩
  | cons frame frames ih =>
    obtain ⟨hfram, hoffs⟩ := ih (scan.push spool frame)
    rw [List.foldl_cons, hfram, hoffs]
    refine ⟨?_, ?_⟩
    · simp [ScanState.push, scannedFrom]
    · rw [frameLog_cons, List.length_append, ← Nat.add_assoc]
      rfl

theorem scanLoop_walBytes {tail : Bytes} (hrecs : (frames.map WalFrame.recordId).Nodup)
    (hadmissions : (frames.map WalFrame.admissionId).Nodup)
    (htail : TornFrame env spool.generationUuid tail) {fuel : ℕ}
    (hfuel : (frameLog spool.generationUuid frames ++ tail).length ≤ fuel) :
    scanLoop (nextFrame env spool) fuel ⟨WAL_HEADER_LEN, [], [], []⟩
        (frameLog spool.generationUuid frames ++ tail) =
      .ok (frames.foldl (ScanState.push spool) ⟨WAL_HEADER_LEN, [], [], []⟩, tail) :=
  scanLoop_encodeAll (fun _ _ _ rest h => nextFrame_bytes h rest)
    (fun _ _ _ h => h.tail) (fun frame => frame.bytes_ne_nil _)
    (fun _ _ h hne => nextFrame_torn h hne) ⟨hrecs, hadmissions, by simp, by simp⟩ htail hfuel

end

/-! ## Scanning a whole file -/

section

variable {env : SpoolEnv M} {spool : RealtimeMessageSpool} {disk : SpoolDisk} {file : File UInt8}
  {base : Option Uuid} {frames : List (WalFrame env)} {tail : Bytes}

/-- The base record of a WAL header, in text form. -/
def baseRecordId (env : SpoolEnv M) (base : Option Uuid) : Option RealtimeSpoolRecordId :=
  base.map fun uuid => ⟨env.text.toString uuid⟩

/-- A WAL file whose frames repeat no id and whose header can be read back. -/
structure ReadableWal (env : SpoolEnv M) (generation : Uuid) (base : Option Uuid)
    (frames : List (WalFrame env)) (tail : Bytes) : Prop where
  generation_ne : generation ≠ Uuid.nil
  base_ne : base ≠ some Uuid.nil
  records : (frames.map WalFrame.recordId).Nodup
  admissions : (frames.map WalFrame.admissionId).Nodup
  torn : TornFrame env generation tail

/-- What `scan_locked` finds in a readable WAL. -/
def scannedWal (spool : RealtimeMessageSpool) (base : Option Uuid) (frames : List (WalFrame env))
    (truncated : Bool) : ScannedWal M :=
  ⟨baseRecordId env base, scannedFrom spool WAL_HEADER_LEN frames, truncated⟩

theorem length_walBytes (env : SpoolEnv M) (generation : Uuid) (base : Option Uuid)
    (frames : List (WalFrame env)) (tail : Bytes) :
    (walBytes env generation base frames tail).length = WAL_HEADER_LEN +
      ((frameLog generation frames).length + tail.length) := by
  rw [walBytes, List.length_append, length_walHeader env.key.length_keyId, List.length_append]

/-- `scan_locked` up to the decision about the tail. -/
theorem scanLocked_eq (hwal : disk .wal = some file)
    (hbytes : file.bytes = walBytes env spool.generationUuid base frames tail)
    (h : ReadableWal env spool.generationUuid base frames tail) (repairTail : Bool) :
    scanLocked env spool repairTail disk =
      (if tail.isEmpty then pure (scannedWal spool base frames false)
      else do
        truncateFinalTail (WAL_HEADER_LEN + (frameLog spool.generationUuid frames).length)
          repairTail
        pure (scannedWal spool base frames true) : SpoolIo (ScannedWal M)) disk := by
  have hlen := length_walBytes env spool.generationUuid base frames tail
  rw [← hbytes] at hlen
  have hhdr : file.bytes.take WAL_HEADER_LEN =
      walHeader env.key.keyId spool.generationUuid base := by
    rw [hbytes, walBytes, List.take_left' (length_walHeader env.key.length_keyId _ _)]
  have hrest : file.bytes.drop WAL_HEADER_LEN =
      frameLog spool.generationUuid frames ++ tail := by
    rw [hbytes, walBytes, List.drop_left' (length_walHeader env.key.length_keyId _ _)]
  have hloop := scanLoop_walBytes h.records h.admissions h.torn
    (show _ ≤ file.bytes.length by rw [hlen, List.length_append]; omega)
  obtain ⟨hfram, hoffs⟩ := foldl_push spool ⟨WAL_HEADER_LEN, [], [], []⟩ frames
  rw [scanLocked, Stepwise.get_bind_apply]
  simp only [hwal]
  rw [if_neg (by rw [hlen]; omega)]
  simp only [hhdr, hrest, hloop, hfram, hoffs, List.nil_append,
    parseWalHeader_walHeader env.text env.key.length_keyId h.generation_ne h.base_ne,
    Stepwise.ok_bind_apply, ne_eq, not_true_eq_false, if_false]
  rfl

end

end ServerRS.Spool

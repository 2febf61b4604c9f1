import ServerRS.Lib.Except
import ServerRS.Spool.MessageSpool
import ServerRS.Spool.WalImage

/-!
# Repairing the tail of the WAL

Scanning inverts writing (`scanLocked_repair`, `scanLocked_noRepair`): what is found in a WAL file are
the frames that were written, and only the beginning of one more frame is cut off.

Of any bytes at all the scanner cuts nothing off that belongs to the complete frames the file begins
with (`scanLocked_cut`): a frame begins where the one before it ends, and only there. What stands
behind an incomplete frame goes with it, be it a frame or not (`SwallowedFrame`).
-/

namespace ServerRS.Spool

open Lib

variable {M : Type} [SpoolMessage M]

/-- The length of the complete frame at the beginning of `bytes`, if there is one and it opens. -/
def authenticFrameLen (env : SpoolEnv M) (spool : RealtimeMessageSpool) (bytes : Bytes) : Option ℕ :=
  if bytes.length < FRAME_HEADER_LEN then none
  else
    match parseFrameHeader (bytes.take FRAME_HEADER_LEN) env.key.keyId env.config.maxFramePlaintext with
    | .error _ => none
    | .ok (encryptedLen, nonce) =>
      if bytes.length < FRAME_HEADER_LEN + encryptedLen then none
      else
        (env.key.openInPlace nonce (frameAad (bytes.take FRAME_HEADER_LEN) spool.generationUuid)
          ((bytes.drop FRAME_HEADER_LEN).take encryptedLen)).map fun _ =>
            FRAME_HEADER_LEN + encryptedLen

/-- The first `n` bytes are complete frames that open. -/
abbrev AuthenticFrames (env : SpoolEnv M) (spool : RealtimeMessageSpool) : Bytes → ℕ → Prop :=
  FrameRun (authenticFrameLen env spool)

section

variable {env : SpoolEnv M} {spool : RealtimeMessageSpool}

/-! ## One round of the scanner -/

variable {scan scan' : ScanState M} {rest : Bytes}

/-- A round that reads a frame has opened it. -/
theorem nextFrame_some {len : ℕ} (h : nextFrame env spool scan rest = .ok (some (scan', len))) :
    authenticFrameLen env spool rest = some len ∧ 0 < len ∧ scan'.offset = scan.offset + len := by
  unfold nextFrame at h
  split at h
  · cases h
  · next hhdr =>
    obtain ⟨⟨encryptedLen, nonce⟩, hparse, hrest⟩ := Lib.Except.bind_ok h
    simp only at hrest
    split at hrest
    · cases hrest
    · next hcomp =>
      split at hrest
      · cases hrest
      · next plaintext hopen =>
        split at hrest
        · cases hrest
        · split at hrest
          · cases hrest
          · obtain ⟨uuid, -, hrest⟩ := Lib.Except.bind_ok hrest
            split at hrest
            · cases hrest
            · split at hrest
              · cases hrest
              · split at hrest
                · cases hrest
                · cases hrest
                  refine ⟨?_, Nat.add_pos_left (by decide) _, rfl⟩
                  rw [authenticFrameLen, if_neg hhdr, hparse]
                  simp only
                  rw [if_neg hcomp, hopen]
                  rfl

/-- Where a round stops there is no complete frame. -/
theorem nextFrame_none (h : nextFrame env spool scan rest = .ok none) :
    authenticFrameLen env spool rest = none := by
  unfold nextFrame at h
  unfold authenticFrameLen
  split at h
  · next hhdr => rw [if_pos hhdr]
  · next hhdr =>
    obtain ⟨⟨encryptedLen, nonce⟩, hparse, hrest⟩ := Lib.Except.bind_ok h
    rw [if_neg hhdr, hparse]
    simp only at hrest ⊢
    split at hrest
    · next hinc => rw [if_pos hinc]
    · split at hrest
      · cases hrest
      · split at hrest
        · cases hrest
        · split at hrest
          · cases hrest
          · obtain ⟨uuid, -, hrest⟩ := Lib.Except.bind_ok hrest
            split at hrest
            · cases hrest
            · split at hrest
              · cases hrest
              · split at hrest <;> cases hrest

/-- The loop reads the longest run of frames. -/
theorem scanLoop_authentic {tail : Bytes} {fuel : ℕ} (hfuel : rest.length ≤ fuel)
    (h : scanLoop (nextFrame env spool) fuel scan rest = .ok (scan', tail)) :
    ∃ n, AuthenticFrames env spool rest n ∧ scan'.offset = scan.offset + n ∧ tail = rest.drop n ∧
      ∀ m, AuthenticFrames env spool rest m → m ≤ n :=
  @scanLoop_longest _ _ _ _ _ ScanState.offset (fun _ _ _ _ h => nextFrame_some h)
    (fun _ _ h => nextFrame_none h) rfl _ _ _ _ _ hfuel h

/-! ## Whole files -/

variable {disk : SpoolDisk} {file : File UInt8}

/-- The file, cut to its first `n` bytes. -/
def cutWal (disk : SpoolDisk) (file : File UInt8) (n : ℕ) : SpoolDisk :=
  disk.set .wal (some (file.setLen n).sync)

theorem truncateFinalTail_repair (hwal : disk .wal = some file) (n : ℕ) :
    (truncateFinalTail n true disk).result = .ok () ∧
      (truncateFinalTail n true disk).state = cutWal disk file n := by
  have hset : (disk.set .wal ((disk .wal).map (File.setLen n))).set .wal
      (((disk.set .wal ((disk .wal).map (File.setLen n))) .wal).map File.sync) =
        cutWal disk file n := by
    rw [hwal, Disk.set_self, Disk.set_set]
    rfl
  exact ⟨rfl, hset⟩

/-- Of any file, the scanner keeps the longest run of complete frames that open. -/
theorem scanLocked_cut (hwal : disk .wal = some file) (repairTail : Bool) :
    (scanLocked env spool repairTail disk).state = disk ∨
      ∃ n, AuthenticFrames env spool (file.bytes.drop WAL_HEADER_LEN) n ∧
        (∀ m, AuthenticFrames env spool (file.bytes.drop WAL_HEADER_LEN) m → m ≤ n) ∧
        (scanLocked env spool repairTail disk).state = cutWal disk file (WAL_HEADER_LEN + n) := by
  rw [scanLocked, Stepwise.get_bind_apply]
  simp only [hwal]
  split
  · exact .inl rfl
  cases hparse : parseWalHeader env.text (file.bytes.take WAL_HEADER_LEN) env.key.keyId with
  | error e => exact .inl rfl
  | ok header =>
    obtain ⟨generationUuid, baseRecordId⟩ := header
    rw [Stepwise.ok_bind_apply]
    simp only
    split
    · exact .inl rfl
    cases hloop : scanLoop (nextFrame env spool) file.bytes.length ⟨WAL_HEADER_LEN, [], [], []⟩
        (file.bytes.drop WAL_HEADER_LEN) with
    | error e => exact .inl rfl
    | ok scanned =>
      obtain ⟨scan, tail⟩ := scanned
      rw [Stepwise.ok_bind_apply]
      simp only
      split
      · exact .inl rfl
      cases repairTail with
      | false => exact .inl rfl
      | true =>
        have hfuel : (file.bytes.drop WAL_HEADER_LEN).length ≤ file.bytes.length := by
          rw [List.length_drop]
          exact Nat.sub_le _ _
        obtain ⟨n, hrun, hoffset, -, hlongest⟩ := scanLoop_authentic hfuel hloop
        refine .inr ⟨n, hrun, hlongest, ?_⟩
        simp only at hoffset
        rw [hoffset]
        exact (truncateFinalTail_repair hwal _).2

variable {base : Option Uuid} {frames : List (WalFrame env)} {tail : Bytes}

/-- With repair, what was written is found, and the file ends with its last complete frame. -/
theorem scanLocked_repair (hwal : disk .wal = some file)
    (hbytes : file.bytes = walBytes env spool.generationUuid base frames tail)
    (h : ReadableWal env spool.generationUuid base frames tail) :
    (scanLocked env spool true disk).result = .ok (scannedWal spool base frames !tail.isEmpty) ∧
      ∃ file', (scanLocked env spool true disk).state = disk.set .wal (some file') ∧
        file'.bytes = walBytes env spool.generationUuid base frames [] := by
  rw [scanLocked_eq hwal hbytes h true]
  cases tail with
  | nil => exact ⟨rfl, file, (Function.update_eq_self_iff.mpr hwal.symm).symm, hbytes⟩
  | cons byte rest =>
    set n := WAL_HEADER_LEN + (frameLog spool.generationUuid frames).length with hn
    have hkept : file.bytes.take n = walBytes env spool.generationUuid base frames [] := by
      rw [hbytes, walBytes, walBytes, List.append_nil, ← List.append_assoc]
      refine List.take_left' ?_
      rw [List.length_append, length_walHeader env.key.length_keyId, hn]
    exact ⟨rfl, (file.setLen n).sync, (truncateFinalTail_repair hwal n).2, hkept⟩

/-- Without repair, a file that ends within a frame is refused. -/
theorem scanLocked_noRepair (hwal : disk .wal = some file)
    (hbytes : file.bytes = walBytes env spool.generationUuid base frames tail)
    (h : ReadableWal env spool.generationUuid base frames tail) :
    scanLocked env spool false disk =
      if tail = [] then ⟨.ok (scannedWal spool base frames false), disk, []⟩
      else ⟨.error (spoolError .recoveryCorruptFrame "incomplete_tail"), disk, []⟩ := by
  rw [scanLocked_eq hwal hbytes h false]
  cases tail with
  | nil => rfl
  | cons byte rest => rfl

end

/-- A scan with repair returns the frames that were written, in order, and cuts the file behind the
last of them; without repair it returns them if nothing follows, and else fails. Of any file at all
the scanner looks at every frame once, and cuts off nothing but what follows the longest run of
complete frames that open. -/
theorem scanLocked_inverts (env : SpoolEnv M) (spool : RealtimeMessageSpool) (disk : SpoolDisk)
    (file : File UInt8) (hwal : disk .wal = some file) :
    (∀ base (frames : List (WalFrame env)) tail,
      ReadableWal env spool.generationUuid base frames tail →
      file.bytes = walBytes env spool.generationUuid base frames tail →
        ((scanLocked env spool true disk).result = .ok (scannedWal spool base frames !tail.isEmpty) ∧
          ∃ file', (scanLocked env spool true disk).state = disk.set .wal (some file') ∧
            file'.bytes = walBytes env spool.generationUuid base frames []) ∧
        scanLocked env spool false disk =
          if tail = [] then ⟨.ok (scannedWal spool base frames false), disk, []⟩
          else ⟨.error (spoolError .recoveryCorruptFrame "incomplete_tail"), disk, []⟩) ∧
      (∀ fuel, file.bytes.length ≤ fuel →
        scanLoop (nextFrame env spool) fuel ⟨WAL_HEADER_LEN, [], [], []⟩
            (file.bytes.drop WAL_HEADER_LEN) =
          scanLoop (nextFrame env spool) file.bytes.length ⟨WAL_HEADER_LEN, [], [], []⟩
            (file.bytes.drop WAL_HEADER_LEN)) ∧
      ∀ repairTail, (scanLocked env spool repairTail disk).state = disk ∨
        ∃ n, AuthenticFrames env spool (file.bytes.drop WAL_HEADER_LEN) n ∧
          (∀ m, AuthenticFrames env spool (file.bytes.drop WAL_HEADER_LEN) m → m ≤ n) ∧
          (scanLocked env spool repairTail disk).state =
            cutWal disk file (WAL_HEADER_LEN + n) := by
  refine ⟨fun base frames tail hread hbytes => ?_, fun fuel hfuel => ?_, scanLocked_cut hwal⟩
  · exact ⟨scanLocked_repair hwal hbytes hread, scanLocked_noRepair hwal hbytes hread⟩
  · have hrest : (file.bytes.drop WAL_HEADER_LEN).length ≤ file.bytes.length := by
      rw [List.length_drop]
      exact Nat.sub_le _ _
    exact scanLoop_fuel (fun _ _ _ _ h => (nextFrame_some h).2.1) (hrest.trans hfuel) hrest

/-- `open` succeeds on nothing but what `seal` made. -/
def SpoolKey.Exact (key : SpoolKey) : Prop :=
  ∀ nonce aad encrypted plaintext, key.openInPlace nonce aad encrypted = some plaintext →
    encrypted = key.sealInPlace nonce aad plaintext

namespace SwallowedFrame

def spool : RealtimeMessageSpool := ⟨scriptedGeneration, ⟨"generation"⟩⟩

def uuid : Uuid := ⟨List.replicate UUID_LEN 2, List.length_replicate⟩

theorem length_nonce : (List.replicate NONCE_LEN (3 : UInt8)).length = NONCE_LEN :=
  List.length_replicate

theorem recordable_note (text : String)
    (hfits : (scriptedFrameJson.toVec ⟨⟨"a"⟩, ⟨scriptedText.toString uuid⟩, ⟨"epoch"⟩,
      ⟨⟨"epoch"⟩, text⟩⟩).length ≤ DEFAULT_MAX_FRAME_PLAINTEXT) :
    Recordable scriptedEnv ⟨⟨"a"⟩, ⟨scriptedText.toString uuid⟩, ⟨"epoch"⟩, ⟨⟨"epoch"⟩, text⟩⟩ where
  admission_not_blank := (by decide : isBlank "a" = false)
  record_uuid := ⟨uuid, by decide, rfl⟩
  valid := rfl
  epoch_eq := rfl
  fits := hfits

/-- A frame with a note. -/
def frame (text : String)
    (hfits : (scriptedFrameJson.toVec ⟨⟨"a"⟩, ⟨scriptedText.toString uuid⟩, ⟨"epoch"⟩,
      ⟨⟨"epoch"⟩, text⟩⟩).length ≤ DEFAULT_MAX_FRAME_PLAINTEXT) : WalFrame scriptedEnv where
  stored := ⟨⟨"a"⟩, ⟨scriptedText.toString uuid⟩, ⟨"epoch"⟩, ⟨⟨"epoch"⟩, text⟩⟩
  nonce := ⟨List.replicate NONCE_LEN 3, length_nonce⟩
  recordable := recordable_note text hfits

def short : WalFrame scriptedEnv := frame "note" (by decide +kernel)

def long : WalFrame scriptedEnv := frame "a note that is longer" (by decide +kernel)

def diskOf (bytes : Bytes) : SpoolDisk := fun name =>
  if name = .wal then some ⟨bytes, bytes.length⟩ else none

/-- A file that ends within its second frame. -/
theorem tail_repaired :
    (scanLocked scriptedEnv spool true (diskOf (walBytes scriptedEnv scriptedGeneration none [short]
      ((long.bytes scriptedGeneration).take 1)))).result =
        .ok (scannedWal spool none [short] true) := by
  have htorn : TornFrame scriptedEnv scriptedGeneration ((long.bytes scriptedGeneration).take 1) :=
    .of_take trivial (by decide +kernel)
  have hread : ReadableWal scriptedEnv scriptedGeneration none [short]
      ((long.bytes scriptedGeneration).take 1) :=
    ⟨by decide, by decide, by decide, by decide, htorn⟩
  exact ((scanLocked_inverts scriptedEnv spool (diskOf _) _ rfl).1 none [short] _ hread rfl).1.1

theorem exact_scriptedKey : scriptedKey.Exact := by
  intro nonce aad encrypted plaintext hopen
  have htag : encrypted.drop (encrypted.length - TAG_LEN) = List.replicate TAG_LEN 0 := by
    by_contra hne
    rw [show scriptedKey.openInPlace nonce aad encrypted = none from if_neg hne] at hopen
    cases hopen
  rw [show scriptedKey.openInPlace nonce aad encrypted =
    some (encrypted.take (encrypted.length - TAG_LEN)) from if_pos htag] at hopen
  cases hopen
  show encrypted = encrypted.take _ ++ List.replicate TAG_LEN 0
  rw [← htag, List.take_append_drop]

/-- The header of a frame whose writing was cut off, and behind it a complete frame. -/
def bytes : Bytes :=
  walHeader scriptedKey.keyId scriptedGeneration none ++
    (long.header ++ short.bytes scriptedGeneration)

/-- The complete frame, which opens, is cut off with the header in front of it. -/
theorem frame_swallowed : scriptedKey.Exact ∧
    authenticFrameLen scriptedEnv spool (bytes.drop (WAL_HEADER_LEN + FRAME_HEADER_LEN)) =
      some (short.bytes scriptedGeneration).length ∧
    ((scanLocked scriptedEnv spool true (diskOf bytes)).state .wal).map (·.bytes.length) =
      some WAL_HEADER_LEN := by
  refine ⟨exact_scriptedKey, ?_, ?_⟩
  · decide +kernel
  · decide +kernel

end SwallowedFrame

end ServerRS.Spool

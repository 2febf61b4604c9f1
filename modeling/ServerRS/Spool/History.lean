import ServerRS.Lib.Reachable
import ServerRS.Spool.OpenSpec

/-!
# Histories of a spool

A history is a run over one set of files: processes open the spool, call it, stop or are
cut off within a call, and the machine may crash while no process has it open. Besides the
files a history records what was attempted, what was acknowledged and what the checkpoint
was moved over.
-/

namespace ServerRS.Spool

open Lib Stepwise

variable {M : Type} [SpoolMessage M]

structure SpoolHistory (M : Type) where
  disk : SpoolDisk
  /-- The spool that a process has open. -/
  process : Option RealtimeMessageSpool
  /-- A call of this process has not returned `Ok`. -/
  failed : Bool
  /-- The frames of all calls of `append`, in their order. -/
  attempts : List (StoredMessageFrame M)
  /-- The records that `append` returned a receipt for. -/
  receipts : List RealtimeSpoolRecordId
  /-- The records of the prefixes for which a new checkpoint was put in place. -/
  replaced : List RealtimeSpoolRecordId
  /-- The records of the prefixes for which `advance_checkpoint` returned `Ok`. -/
  acked : List RealtimeSpoolRecordId

inductive SpoolAction (M : Type) [SpoolMessage M] where
  | «open» (generation : Uuid)
  | append (admission : RealtimeSpoolAdmission M) (recordUuid : Uuid) (nonce : Nonce)
  | recoverPending
  | advanceCheckpoint (upTo : RealtimeSpoolCheckpointPrefix) (nonce : Nonce)
  | compact
  | stop
  | crash

/-- `Uuid::new_v4` draws a new record id, and so does the caller for the admission. -/
structure NewFrame (env : SpoolEnv M) (h : SpoolHistory M) (admission : RealtimeSpoolAdmission M)
    (recordUuid : Uuid) : Prop where
  record_ne : recordUuid ≠ Uuid.nil
  record_new : ⟨env.text.toString recordUuid⟩ ∉ h.attempts.map StoredMessageFrame.recordId
  admission_not_blank : isBlank admission.admissionId.asStr = false
  admission_new : admission.admissionId ∉ h.attempts.map StoredMessageFrame.admissionId

instance (env : SpoolEnv M) (h : SpoolHistory M) (admission : RealtimeSpoolAdmission M)
    (recordUuid : Uuid) : Decidable (NewFrame env h admission recordUuid) :=
  decidable_of_iff (recordUuid ≠ Uuid.nil ∧
      (∀ frame ∈ h.attempts, frame.recordId ≠ ⟨env.text.toString recordUuid⟩) ∧
      isBlank admission.admissionId.asStr = false ∧
      ∀ frame ∈ h.attempts, frame.admissionId ≠ admission.admissionId) <| by
    rw [← List.forall_mem_map (P := (· ≠ _)), ← List.forall_mem_map (P := (· ≠ admission.admissionId))]
    constructor
    · rintro ⟨hne, hrec, hblank, hadm⟩
      exact ⟨hne, fun hmem => hrec _ hmem rfl, hblank, fun hmem => hadm _ hmem rfl⟩
    · rintro ⟨hne, hrec, hblank, hadm⟩
      exact ⟨hne, fun _ hmem heq => hrec (heq ▸ hmem), hblank, fun _ hmem heq => hadm (heq ▸ hmem)⟩

open SpoolAction in
/-- The steps of a history. A call that does not return `Ok` leaves one of the states it
goes through. -/
inductive SpoolStep (env : SpoolEnv M) :
    SpoolHistory M → SpoolAction M → SpoolHistory M → Prop
  | opened {h : SpoolHistory M} {generation : Uuid} {opened : RealtimeMessageSpoolOpen M}
      (hcls : h.process = none) (hgen : generation ≠ Uuid.nil)
      (hok : (RealtimeMessageSpool.open env generation h.disk).result = .ok opened) :
      SpoolStep env h («open» generation) { h with
        disk := (RealtimeMessageSpool.open env generation h.disk).state
        process := some opened.spool
        failed := false }
  | openFailed {h : SpoolHistory M} {generation : Uuid} {disk : SpoolDisk}
      (hcls : h.process = none) (hgen : generation ≠ Uuid.nil)
      (hleft : Leaves (RealtimeMessageSpool.open env generation) h.disk disk) :
      SpoolStep env h («open» generation) { h with disk }
  | appended {h : SpoolHistory M} {spool : RealtimeMessageSpool}
      {admission : RealtimeSpoolAdmission M} {recordUuid : Uuid} {nonce : Nonce}
      {receipt : DurableSpoolReceipt} (hopen : h.process = some spool)
      (hnew : NewFrame env h admission recordUuid)
      (hok : (spool.append env admission recordUuid nonce h.disk).result = .ok receipt) :
      SpoolStep env h (append admission recordUuid nonce) { h with
        disk := (spool.append env admission recordUuid nonce h.disk).state
        attempts := h.attempts ++ [storedFrame env admission recordUuid]
        receipts := h.receipts ++ [receipt.recordId] }
  | appendFailed {h : SpoolHistory M} {spool : RealtimeMessageSpool}
      {admission : RealtimeSpoolAdmission M} {recordUuid : Uuid} {nonce : Nonce}
      {disk : SpoolDisk} (hopen : h.process = some spool)
      (hnew : NewFrame env h admission recordUuid)
      (hleft : Leaves (spool.append env admission recordUuid nonce) h.disk disk) :
      SpoolStep env h (append admission recordUuid nonce) { h with
        disk
        failed := true
        attempts := h.attempts ++ [storedFrame env admission recordUuid] }
  | recovered {h : SpoolHistory M} {spool : RealtimeMessageSpool}
      {frames : List (RecoveredRealtimeSpoolFrame M)} (hopen : h.process = some spool)
      (hok : (spool.recoverPending env h.disk).result = .ok frames) :
      SpoolStep env h recoverPending { h with disk := (spool.recoverPending env h.disk).state }
  | recoverFailed {h : SpoolHistory M} {spool : RealtimeMessageSpool} {disk : SpoolDisk}
      (hopen : h.process = some spool)
      (hleft : Leaves (spool.recoverPending env) h.disk disk) :
      SpoolStep env h recoverPending { h with disk, failed := true }
  | advanced {h : SpoolHistory M} {spool : RealtimeMessageSpool}
      {upTo : RealtimeSpoolCheckpointPrefix} {nonce : Nonce} (hopen : h.process = some spool)
      (hok : (spool.advanceCheckpoint env upTo nonce h.disk).result = .ok ()) :
      SpoolStep env h (advanceCheckpoint upTo nonce) { h with
        disk := (spool.advanceCheckpoint env upTo nonce h.disk).state
        replaced := h.replaced ++ upTo.recordIds
        acked := h.acked ++ upTo.recordIds }
  | advanceFailed {h : SpoolHistory M} {spool : RealtimeMessageSpool}
      {upTo : RealtimeSpoolCheckpointPrefix} {nonce : Nonce} {disk : SpoolDisk}
      (hopen : h.process = some spool)
      (hleft : Leaves (spool.advanceCheckpoint env upTo nonce) h.disk disk) :
      SpoolStep env h (advanceCheckpoint upTo nonce) { h with
        disk
        failed := true
        replaced := if disk .checkpoint = h.disk .checkpoint then h.replaced
          else h.replaced ++ upTo.recordIds }
  | compacted {h : SpoolHistory M} {spool : RealtimeMessageSpool} (hopen : h.process = some spool)
      (hok : (spool.compact env h.disk).result = .ok ()) :
      SpoolStep env h compact { h with disk := (spool.compact env h.disk).state }
  | compactFailed {h : SpoolHistory M} {spool : RealtimeMessageSpool} {disk : SpoolDisk}
      (hopen : h.process = some spool) (hleft : Leaves (spool.compact env) h.disk disk) :
      SpoolStep env h compact { h with disk, failed := true }
  | stopped {h : SpoolHistory M} :
      SpoolStep env h stop { h with process := none, failed := false }
  | crashed {h : SpoolHistory M} {disk : SpoolDisk} (hcls : h.process = none)
      (hcrash : h.disk.Crash disk) : SpoolStep env h crash { h with disk }

/-- Nothing has happened on an empty disk. -/
def SpoolHistory.initial : SpoolHistory M :=
  ⟨fun _ => none, none, false, [], [], [], []⟩

/-! ## What a history promises -/

/-- What the frame says, apart from the admission that it came from. -/
def StoredMessageFrame.content (frame : StoredMessageFrame M) :
    RealtimeSpoolRecordId × ConnectionEpochId × M :=
  (frame.recordId, frame.connectionEpochId, frame.message)

def RecoveredRealtimeSpoolFrame.content (frame : RecoveredRealtimeSpoolFrame M) :
    RealtimeSpoolRecordId × ConnectionEpochId × M :=
  (frame.recordId, frame.connectionEpochId, frame.message)

/-- A list of recovered frames is what the history asks for: in append order and without
duplicates, every acknowledged record that no new checkpoint covers, none that an
acknowledged checkpoint covers, and none that was never appended. -/
structure SpoolHistory.Complete (h : SpoolHistory M)
    (frames : List (RecoveredRealtimeSpoolFrame M)) : Prop where
  order : (frames.map RecoveredRealtimeSpoolFrame.content).Sublist
    (h.attempts.map StoredMessageFrame.content)
  nodup : (frames.map RecoveredRealtimeSpoolFrame.recordId).Nodup
  receipts : ∀ id ∈ h.receipts, id ∉ h.replaced →
    id ∈ frames.map RecoveredRealtimeSpoolFrame.recordId
  acked : ∀ id ∈ h.acked, id ∉ frames.map RecoveredRealtimeSpoolFrame.recordId

/-- The next `open` succeeds, and `recover_pending` returns what the history asks for. -/
def SpoolHistory.Recovers (env : SpoolEnv M) (h : SpoolHistory M) : Prop :=
  ∀ generation, generation ≠ Uuid.nil → ∃ opened frames,
    (RealtimeMessageSpool.open env generation h.disk).result = .ok opened ∧
    (opened.spool.recoverPending env
      (RealtimeMessageSpool.open env generation h.disk).state).result = .ok frames ∧
    h.Complete frames

end ServerRS.Spool

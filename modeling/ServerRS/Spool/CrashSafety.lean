import ServerRS.Spool.Accounts

/-!
# Crashes lose nothing

In every history whose processes stop after a failed call and move the checkpoint over
synced frames only, the spool recovers exactly as long as no crash has left a WAL without
its whole header (`recovers_iff_headerComplete`).
-/

namespace ServerRS.Spool

open Lib Stepwise

variable {M : Type} [SpoolMessage M] {env : SpoolEnv M}

/-- A process stops using the spool after a failed call. -/
def StopsAfterFailure (h : SpoolHistory M) (action : SpoolAction M) : Prop :=
  h.failed = true → action = .stop

/-- The checkpoint is moved over frames that the WAL holds in its synced bytes. -/
def CheckpointsSynced (env : SpoolEnv M) (h : SpoolHistory M) (action : SpoolAction M) : Prop :=
  ∀ spool upTo nonce, h.process = some spool → action = .advanceCheckpoint upTo nonce →
    SyncedBefore env spool h.disk upTo.recordIds

/-- A step of a history that meets both. -/
def CarefulStep (env : SpoolEnv M) (h h' : SpoolHistory M) : Prop :=
  ∃ action, StopsAfterFailure h action ∧ CheckpointsSynced env h action ∧ SpoolStep env h action h'

/-! ## A WAL without its header -/

variable {disk disk' : SpoolDisk} {file : File UInt8}

theorem headerComplete_of_none (hwal : disk .wal = none) :
    HeaderComplete disk := fun file hfile => by simp [hwal] at hfile

theorem headerComplete_iff (hwal : disk .wal = some file) :
    HeaderComplete disk ↔ WAL_HEADER_LEN ≤ file.bytes.length := by
  refine ⟨fun h => h file hwal, fun h file' hfile => ?_⟩
  rw [hwal] at hfile
  cases hfile
  exact h

/-- `open` fails on it and leaves it as it is. -/
theorem open_short_wp (hwal : disk .wal = some file) (hshort : file.bytes.length < WAL_HEADER_LEN)
    (generation : Uuid) :
    wp (RealtimeMessageSpool.open env generation)
      (fun disk' => disk' .wal = some file ∧ disk' .checkpoint = disk .checkpoint)
      (fun _ _ => False)
      (fun _ disk' => disk' .wal = some file ∧ disk' .checkpoint = disk .checkpoint) disk := by
  rw [RealtimeMessageSpool.open]
  refine wp_bind (removeTemp_wp fun disk₁ _ hsame₁ => ?_)
  have hwal₁ : disk₁ .wal = some file := (hsame₁ .wal (by decide)).trans hwal
  have hckpt₁ := hsame₁ .checkpoint (by decide)
  refine ⟨⟨hwal₁, hckpt₁⟩, wp_bind (removeTemp_wp fun disk₂ _ hsame₂ => ?_)⟩
  have hwal₂ : disk₂ .wal = some file := (hsame₂ .wal (by decide)).trans hwal₁
  have hckpt₂ := (hsame₂ .checkpoint (by decide)).trans hckpt₁
  refine ⟨⟨hwal₂, hckpt₂⟩, wp_bind (wp_get_bind ?_)⟩
  rw [hwal₂]
  dsimp only
  rw [if_pos hshort]
  exact wp_throw ⟨hwal₂, hckpt₂⟩

theorem open_short_error (hhdr : ¬HeaderComplete disk) (generation : Uuid)
    (opened : RealtimeMessageSpoolOpen M) :
    (RealtimeMessageSpool.open env generation disk).result ≠ .ok opened := by
  intro hok
  cases hwal : disk .wal with
  | none => exact hhdr (headerComplete_of_none hwal)
  | some file =>
    rw [headerComplete_iff hwal, Nat.not_le] at hhdr
    exact wp_ok (open_short_wp hwal hhdr generation) hok

/-- Being cut off, `open` does not complete the header. -/
theorem open_short_leaves (hhdr : ¬HeaderComplete disk) {generation : Uuid}
    (hleft : Leaves (RealtimeMessageSpool.open env generation) disk disk') :
    ¬HeaderComplete disk' := by
  cases hwal : disk .wal with
  | none => exact absurd (headerComplete_of_none hwal) hhdr
  | some file =>
    rw [headerComplete_iff hwal, Nat.not_le] at hhdr
    obtain ⟨hwal', -⟩ := wp_leaves (open_short_wp hwal hhdr generation) ⟨hwal, rfl⟩
      (fun _ _ he => he) hleft
    rwa [headerComplete_iff hwal', Nat.not_le]

theorem headerComplete_of_crash (hcrash : disk.Crash disk') (hhdr : HeaderComplete disk') :
    HeaderComplete disk := by
  intro file hwal
  obtain ⟨file', hwal', keep, -, hle, rfl⟩ := hcrash.of_some hwal
  have hlen := hhdr _ hwal'
  rw [List.length_take] at hlen
  omega

/-! ## The invariant -/

/-- No spool was created yet, its WAL has no complete header, or the files hold a log that
accounts for the history. -/
inductive Kept (env : SpoolEnv M) (h : SpoolHistory M) : Prop where
  | absent (hwal : h.disk .wal = none) (hckpt : h.disk .checkpoint = none)
      (hcls : h.process = none) (hrcps : h.receipts = []) (hacked : h.acked = [])
  | short (hhdr : ¬HeaderComplete h.disk) (hcls : h.process = none)
  | holds (spool : RealtimeMessageSpool) (log : CutLog (WalFrame env)) (tail : Bytes)
      (hholds : Holds True env h spool log tail)
      (hcomp : ∀ running, h.process = some running → h.failed = false → tail = [])

namespace Kept

variable {h : SpoolHistory M} {disk : SpoolDisk} {generation : Uuid}

/-- An empty log accounts for a history in which nothing was promised. -/
theorem holds_new {process : Option RealtimeMessageSpool} {failed : Bool}
    (hrcps : h.receipts = []) (hacked : h.acked = [])
    (hlog : Represents True env (newSpool env generation) CutLog.empty [] disk)
    (hprocess : ∀ running, process = some running → running = newSpool env generation) :
    Kept env { h with disk, process, failed } := by
  refine .holds _ CutLog.empty [] ⟨hlog, hprocess, List.nil_sublist _, ?_, ?_⟩ fun _ _ _ => rfl
  · intro id hid
    simp [hrcps] at hid
  · intro id hid
    simp [hacked] at hid

/-- A process that is open calls a spool whose files hold a complete log. -/
theorem running (hkept : Kept env h) {spool : RealtimeMessageSpool} (hopen : h.process = some spool)
    (hfail : h.failed = false) : ∃ log, Holds True env h spool log [] := by
  cases hkept with
  | absent _ _ hcls => simp [hopen] at hcls
  | short _ hcls => simp [hopen] at hcls
  | holds spool' log tail hholds hcomp =>
    obtain rfl := hholds.process_eq spool hopen
    obtain rfl := hcomp spool hopen hfail
    exact ⟨log, hholds⟩

theorem opened (hkept : Kept env h) (hgen : generation ≠ Uuid.nil)
    {opened : RealtimeMessageSpoolOpen M}
    (hok : (RealtimeMessageSpool.open env generation h.disk).result = .ok opened) :
    Kept env { h with
      disk := (RealtimeMessageSpool.open env generation h.disk).state
      process := some opened.spool
      failed := false } := by
  cases hkept with
  | absent hwal hckpt _ hrcps hacked =>
    have hwp : wp (RealtimeMessageSpool.open env generation) (fun _ => True)
        (fun opened disk' => opened.spool = newSpool env generation ∧
          Represents True env (newSpool env generation) CutLog.empty [] disk')
        (fun _ _ => True) h.disk :=
      open_new_wp hwal hckpt hgen (fun _ _ _ => trivial) fun _ h' => ⟨rfl, h'⟩
    obtain ⟨hspl, hlog⟩ := wp_ok hwp hok
    refine holds_new hrcps hacked hlog fun running hrng => ?_
    rw [← hspl, Option.some.inj hrng]
  | short hhdr => exact absurd hok (open_short_error hhdr generation opened)
  | holds spool log tail hholds =>
    obtain ⟨hres, hfiles⟩ := hholds.open_result generation
    rw [hres] at hok
    cases hok
    refine .holds spool log [] ⟨hfiles, fun running hrng => ?_, hholds.accounts.attempted,
      hholds.accounts.receipts, hholds.accounts.acked⟩ fun _ _ _ => rfl
    exact (Option.some.inj hrng).symm

theorem openFailed (hkept : Kept env h) (hcls : h.process = none) (hgen : generation ≠ Uuid.nil)
    (hleft : Leaves (RealtimeMessageSpool.open env generation) h.disk disk) :
    Kept env { h with disk } := by
  cases hkept with
  | absent hwal hckpt _ hrcps hacked =>
    have hwp : wp (RealtimeMessageSpool.open env generation)
        (fun disk' => disk' .checkpoint = none ∧ Creating True env generation disk')
        (fun _ _ => True) (fun _ _ => False) h.disk :=
      open_new_wp hwal hckpt hgen (fun _ hnone h' => ⟨hnone, h'⟩) fun _ _ => trivial
    obtain ⟨hnone, hcre⟩ := wp_leaves hwp ⟨hckpt, .absent hwal⟩
      (fun _ _ he => he.elim) hleft
    cases hcre with
    | absent hwal' => exact .absent hwal' hnone hcls hrcps hacked
    | partialHeader file hwal' hshort =>
      refine .short ?_ hcls
      show ¬HeaderComplete disk
      rwa [headerComplete_iff hwal', Nat.not_le]
    | created hlog =>
      exact holds_new hrcps hacked hlog fun running hrng => by simp [hcls] at hrng
  | short hhdr => exact .short (open_short_leaves hhdr hleft) hcls
  | holds spool log tail hholds =>
    obtain ⟨tail', hfiles⟩ := hholds.open_leaves hleft
    refine .holds spool log tail' ⟨hfiles, hholds.process_eq, hholds.accounts.attempted,
      hholds.accounts.receipts, hholds.accounts.acked⟩ fun running hrng => ?_
    simp [hcls] at hrng

theorem crashed (hkept : Kept env h) (hcls : h.process = none) (hcrash : h.disk.Crash disk) :
    Kept env { h with disk } := by
  by_cases hhdr : HeaderComplete disk
  · cases hkept with
    | absent hwal hckpt _ hrcps hacked =>
      exact .absent (hcrash.of_none hwal) (hcrash.of_none hckpt) hcls hrcps hacked
    | short hshort => exact absurd (headerComplete_of_crash hcrash hhdr) hshort
    | holds spool log tail hholds =>
      obtain ⟨log', tail', hholds'⟩ := hholds.crashed trivial hcrash hhdr
      exact .holds spool log' tail' hholds' fun running hrng => by simp [hcls] at hrng
  · exact .short hhdr hcls

/-- Every careful step keeps the accounts. -/
theorem step (hkept : Kept env h) {h' : SpoolHistory M} (hstep : CarefulStep env h h') :
    Kept env h' := by
  obtain ⟨action, hstops, hsynced, hstep⟩ := hstep
  -- a call of the open spool is made before any call has failed
  have hfail : action ≠ .stop → h.failed = false := fun hne =>
    Bool.eq_false_iff.mpr fun hfail => hne (hstops hfail)
  cases hstep with
  | opened _ hgen hok => exact hkept.opened hgen hok
  | openFailed hcls hgen hleft => exact hkept.openFailed hcls hgen hleft
  | appended hopen hnew hok =>
    obtain ⟨log, hholds⟩ := hkept.running hopen (hfail (by simp))
    obtain ⟨log', hholds'⟩ := hholds.appended hnew hok
    exact .holds _ log' [] hholds' fun _ _ _ => rfl
  | appendFailed hopen hnew hleft =>
    obtain ⟨log, hholds⟩ := hkept.running hopen (hfail (by simp))
    obtain ⟨log', tail', hholds', -⟩ := hholds.appendFailed hnew hleft
    exact .holds _ log' tail' hholds' fun _ _ h => by simp at h
  | recovered hopen hok =>
    obtain ⟨log, hholds⟩ := hkept.running hopen (hfail (by simp))
    rw [hholds.files.recoverPending_eq]
    exact hkept
  | recoverFailed hopen hleft =>
    obtain ⟨log, hholds⟩ := hkept.running hopen (hfail (by simp))
    obtain rfl := hholds.recover_points hleft
    exact .holds _ log [] ⟨hholds.files, hholds.process_eq, hholds.accounts.attempted,
      hholds.accounts.receipts, hholds.accounts.acked⟩ fun _ _ _ => rfl
  | @advanced spool upTo nonce hopen hok =>
    obtain ⟨log, hholds⟩ := hkept.running hopen (hfail (by simp))
    -- the synced frames count as durable before the checkpoint passes them
    obtain ⟨n, hlow, hhigh, hfiles, hdur⟩ :=
      hholds.files.coversDurable (hsynced spool upTo nonce hopen rfl)
    have hrais : Holds True env h spool (log.sync n hlow hhigh) [] :=
      ⟨hfiles, hholds.process_eq, hholds.accounts.sync hlow hhigh⟩
    obtain ⟨log', hholds'⟩ := hrais.advanced hdur hok
    exact .holds _ log' [] hholds' fun _ _ _ => rfl
  | @advanceFailed spool upTo nonce disk hopen hleft =>
    obtain ⟨log, hholds⟩ := hkept.running hopen (hfail (by simp))
    obtain ⟨n, hlow, hhigh, hfiles, hdur⟩ :=
      hholds.files.coversDurable (hsynced spool upTo nonce hopen rfl)
    have hrais : Holds True env h spool (log.sync n hlow hhigh) [] :=
      ⟨hfiles, hholds.process_eq, hholds.accounts.sync hlow hhigh⟩
    obtain ⟨log', hholds'⟩ := hrais.advanceFailed hdur hleft
    exact .holds _ log' [] hholds' fun _ _ _ => rfl
  | compacted hopen hok =>
    obtain ⟨log, hholds⟩ := hkept.running hopen (hfail (by simp))
    have hcom := wp_ok (compact_wp hholds.files) hok
    obtain ⟨log', hholds'⟩ := hholds.compact_points hcom
    exact .holds _ log' [] hholds' fun _ _ _ => rfl
  | compactFailed hopen hleft =>
    obtain ⟨log, hholds⟩ := hkept.running hopen (hfail (by simp))
    obtain ⟨log', hholds'⟩ := hholds.compact_points (wp_leaves (compact_wp hholds.files)
      (.inl hholds.files) (fun _ _ he => he) hleft)
    exact .holds _ log' [] hholds' fun _ _ _ => rfl
  | stopped =>
    cases hkept with
    | absent hwal hckpt _ hrcps hacked =>
      exact .absent hwal hckpt rfl hrcps hacked
    | short hhdr => exact .short hhdr rfl
    | holds spool log tail hholds =>
      exact .holds spool log tail ⟨hholds.files, fun _ hnone => by simp at hnone,
        hholds.accounts.attempted, hholds.accounts.receipts, hholds.accounts.acked⟩
        fun _ hnone => by simp at hnone
  | crashed hcls hcrash => exact hkept.crashed hcls hcrash

/-- With a complete header everything can be read back. -/
theorem recovers_iff (hkept : Kept env h) : h.Recovers env ↔ HeaderComplete h.disk := by
  refine ⟨fun hrec => ?_, fun hhdr => ?_⟩
  · by_contra hhdr
    obtain ⟨generation, hgen⟩ : ∃ generation : Uuid, generation ≠ Uuid.nil :=
      ⟨⟨List.replicate UUID_LEN 1, List.length_replicate⟩, by decide⟩
    obtain ⟨opened, -, hok, -⟩ := hrec generation hgen
    exact open_short_error hhdr generation opened hok
  · cases hkept with
    | absent hwal hckpt _ hrcps hacked =>
      intro generation hgen
      have hwp : wp (RealtimeMessageSpool.open env generation) (fun _ => True)
          (fun opened disk' => opened = ⟨newSpool env generation, ⟨[], false⟩⟩ ∧
            Represents True env (newSpool env generation) CutLog.empty [] disk')
          (fun _ _ => False) h.disk :=
        open_new_wp hwal hckpt hgen (fun _ _ _ => trivial) fun _ h' => ⟨rfl, h'⟩
      cases hres : (RealtimeMessageSpool.open env generation h.disk).result with
      | error e => exact (wp_error hwp hres).elim
      | ok opened =>
        obtain ⟨rfl, hlog⟩ := wp_ok hwp hres
        refine ⟨_, [], rfl, by rw [hlog.recoverPending_eq]; rfl, ?_⟩
        exact ⟨List.nil_sublist _, List.nodup_nil, by simp [hrcps], by simp [hacked]⟩
    | short hshort => exact absurd hhdr hshort
    | holds spool log tail hholds => exact hholds.recovers

end Kept

def CarefulHistory (env : SpoolEnv M) (h : SpoolHistory M) : Prop :=
  Reachable (fun h => h = SpoolHistory.initial) (CarefulStep env) h

theorem CarefulHistory.kept {h : SpoolHistory M} (hreach : CarefulHistory env h) : Kept env h := by
  refine Reachable.invariant hreach (Kept env) ?_ fun _ _ hkept hstep => hkept.step hstep
  rintro _ rfl
  exact .absent rfl rfl rfl rfl rfl

/-- A spool whose processes stop after a failed call, and whose checkpoints pass synced frames
only, recovers as long as no crash has left a part of the header. -/
theorem recovers_iff_headerComplete {h : SpoolHistory M} (hreach : CarefulHistory env h) :
    h.Recovers env ↔ HeaderComplete h.disk := hreach.kept.recovers_iff

/-! ## Scripted notes -/

/-- A process has just created the scripted spool. -/
def scriptedRunning : SpoolHistory Note := { SpoolHistory.initial with
  disk := (RealtimeMessageSpool.open scriptedEnv scriptedGeneration fun _ => none).state
  process := some (newSpool scriptedEnv scriptedGeneration) }

theorem scripted_open : (RealtimeMessageSpool.open scriptedEnv scriptedGeneration
    fun _ => none).result = .ok ⟨newSpool scriptedEnv scriptedGeneration, ⟨[], false⟩⟩ := rfl

theorem scriptedRunning_opened :
    SpoolStep scriptedEnv SpoolHistory.initial (.open scriptedGeneration) scriptedRunning := by
  have hgen : scriptedGeneration ≠ Uuid.nil := by decide
  have hstep := SpoolStep.opened (h := SpoolHistory.initial) rfl hgen scripted_open
  exact hstep

theorem scriptedRunning_careful : CarefulHistory scriptedEnv scriptedRunning :=
  Reachable.tail (.initial rfl) ⟨_, fun h => by simp [SpoolHistory.initial] at h,
    fun _ _ _ h _ => by simp [SpoolHistory.initial] at h, scriptedRunning_opened⟩

def scriptedSpool : RealtimeMessageSpool := newSpool scriptedEnv scriptedGeneration

def note (text : String) : RealtimeSpoolAdmission Note where
  admissionId := ⟨text⟩
  connectionEpochId := ⟨"epoch"⟩
  message := ⟨⟨"epoch"⟩, text⟩
  valid := rfl
  epoch_eq := rfl

def noteUuid (n : UInt8) : Uuid := ⟨List.replicate UUID_LEN n, List.length_replicate⟩

def noteNonce : Nonce := ⟨List.replicate NONCE_LEN 3, List.length_replicate⟩

def noteId (n : UInt8) : RealtimeSpoolRecordId := ⟨scriptedText.toString (noteUuid n)⟩

/-- Append a note with the uuid of `n`s. -/
def appendNote (text : String) (n : UInt8) : SpoolIo DurableSpoolReceipt :=
  scriptedSpool.append scriptedEnv (note text) (noteUuid n) noteNonce

theorem ok_of_toOption {α ε : Type} {r : Except ε α} {a : α} (h : r.toOption = some a) :
    r = .ok a := by
  cases r with
  | ok b => rw [Option.some.inj h]
  | error e => simp [Except.toOption] at h

section

variable (h : SpoolHistory Note) (text : String) (n : UInt8)

/-- The note has been appended. -/
def SpoolHistory.noted : SpoolHistory Note := { h with
  disk := (appendNote text n h.disk).state
  attempts := h.attempts ++ [storedFrame scriptedEnv (note text) (noteUuid n)]
  receipts := h.receipts ++ [noteId n] }

/-- Appending the note failed in the `i`th state that it goes through. -/
def SpoolHistory.cutNote (i : ℕ) : SpoolHistory Note := { h with
  disk := (points (appendNote text n) h.disk).getD i h.disk
  failed := true
  attempts := h.attempts ++ [storedFrame scriptedEnv (note text) (noteUuid n)] }

variable {h text n}

theorem SpoolHistory.noted_step (hopen : h.process = some scriptedSpool)
    (hnew : NewFrame scriptedEnv h (note text) (noteUuid n))
    (hok : (appendNote text n h.disk).result.toOption =
      some ⟨⟨text⟩, scriptedSpool.generationId, noteId n⟩) :
    SpoolStep scriptedEnv h (.append (note text) (noteUuid n) noteNonce) (h.noted text n) :=
  .appended hopen hnew (ok_of_toOption hok)

theorem leaves_cutNote (i : ℕ) : Leaves (appendNote text n) h.disk (h.cutNote text n i).disk := by
  refine .inl ?_
  show (points (appendNote text n) h.disk).getD i h.disk ∈ points (appendNote text n) h.disk
  rw [List.getD_eq_getElem?_getD]
  cases hpt : (points (appendNote text n) h.disk)[i]? with
  | none => exact List.mem_cons_self
  | some disk => exact List.mem_of_getElem? hpt

theorem SpoolHistory.cutNote_step (hopen : h.process = some scriptedSpool)
    (hnew : NewFrame scriptedEnv h (note text) (noteUuid n)) (i : ℕ) :
    SpoolStep scriptedEnv h (.append (note text) (noteUuid n) noteNonce) (h.cutNote text n i) :=
  .appendFailed hopen hnew (leaves_cutNote i)

end

/-! ## A history with a checkpoint and a crash -/

/-- The first note is covered by a checkpoint. -/
def checkedNote : SpoolHistory Note :=
  let h := scriptedRunning.noted "first" 2
  { h with
    disk := (scriptedSpool.advanceCheckpoint scriptedEnv ⟨scriptedSpool.generationId, [noteId 2]⟩
      noteNonce h.disk).state
    replaced := [noteId 2]
    acked := [noteId 2] }

/-- Its frame is no longer in the WAL. -/
def compactedNote : SpoolHistory Note :=
  { checkedNote with disk := (scriptedSpool.compact scriptedEnv checkedNote.disk).state }

/-- A second note, and a third one of which one byte was written. -/
def tornNote : SpoolHistory Note := (compactedNote.noted "second" 4).cutNote "third" 6 2

/-- The process has stopped, and the machine has lost that byte in a crash. -/
def crashedNote : SpoolHistory Note := { tornNote with
  process := none
  failed := false
  disk := tornNote.disk.loseUnsynced }

theorem CarefulHistory.call {h h' : SpoolHistory M} {action : SpoolAction M}
    (hreach : CarefulHistory env h) (hfail : h.failed = false)
    (hsynced : CheckpointsSynced env h action) (hstep : SpoolStep env h action h') :
    CarefulHistory env h' :=
  Reachable.tail hreach ⟨action, fun h => by simp [hfail] at h, hsynced, hstep⟩

theorem newFrame_first : NewFrame scriptedEnv scriptedRunning (note "first") (noteUuid 2) :=
  ⟨by decide, List.not_mem_nil, by decide, List.not_mem_nil⟩

/-- What the calls of the history return, and how much of its files is synced. -/
theorem crashedNote_evaluates :
    (appendNote "first" 2 scriptedRunning.disk).result.toOption =
      some ⟨⟨"first"⟩, scriptedSpool.generationId, noteId 2⟩ ∧
    (((scriptedRunning.noted "first" 2).disk .wal).all fun file =>
      file.synced = file.bytes.length) = true ∧
    (scriptedSpool.advanceCheckpoint scriptedEnv ⟨scriptedSpool.generationId, [noteId 2]⟩ noteNonce
      (scriptedRunning.noted "first" 2).disk).result.toOption = some () ∧
    (scriptedSpool.compact scriptedEnv checkedNote.disk).result.toOption = some () ∧
    NewFrame scriptedEnv compactedNote (note "second") (noteUuid 4) ∧
    (appendNote "second" 4 compactedNote.disk).result.toOption =
      some ⟨⟨"second"⟩, scriptedSpool.generationId, noteId 4⟩ ∧
    NewFrame scriptedEnv (compactedNote.noted "second" 4) (note "third") (noteUuid 6) ∧
    ([SpoolFile.wal, .compactTemp, .checkpoint, .checkpointTemp].all fun name =>
      (tornNote.disk name).all fun file => file.synced ≤ file.bytes.length) = true ∧
    ((crashedNote.disk .wal).all fun file => WAL_HEADER_LEN ≤ file.bytes.length) = true := by
  decide +kernel

theorem tornNote_careful : CarefulHistory scriptedEnv tornNote := by
  obtain ⟨hfirst, hsynced, hadv, hcompact, hnew, hsecond, hthird, -⟩ := crashedNote_evaluates
  have hnoted := scriptedRunning_careful.call rfl (fun _ _ _ _ h => by cases h)
    (SpoolHistory.noted_step rfl newFrame_first hfirst)
  have hchecked : CarefulHistory scriptedEnv checkedNote := by
    refine hnoted.call rfl ?_ (.advanced rfl (ok_of_toOption hadv))
    -- `append` has synced the whole WAL
    rintro spool _ _ - ⟨⟩ file hwal id hid hmem
    rw [hwal, Option.all_some, decide_eq_true_eq] at hsynced
    rwa [hsynced, List.take_length]
  have hcompacted : CarefulHistory scriptedEnv compactedNote :=
    hchecked.call rfl (fun _ _ _ _ h => by cases h) (.compacted rfl (ok_of_toOption hcompact))
  have hagain := hcompacted.call rfl (fun _ _ _ _ h => by cases h)
    (SpoolHistory.noted_step rfl hnew hsecond)
  exact hagain.call rfl (fun _ _ _ _ h => by cases h) (SpoolHistory.cutNote_step rfl hthird 2)

/-- The process stops, and the machine loses what was not synced. -/
theorem CarefulHistory.stopAndCrash {h : SpoolHistory M} (hreach : CarefulHistory env h)
    (hsynced : ∀ name, ((h.disk name).all fun file => file.synced ≤ file.bytes.length) = true) :
    CarefulHistory env { h with
      process := none
      failed := false
      disk := h.disk.loseUnsynced } := by
  have hstopped : CarefulHistory env { h with process := none, failed := false } :=
    Reachable.tail hreach ⟨.stop, fun _ => rfl, fun _ _ _ _ h => (by cases h), .stopped⟩
  exact hstopped.call rfl (fun _ _ _ _ h => by cases h) (.crashed rfl (Disk.crash_loseUnsynced hsynced))

theorem crashedNote_careful : CarefulHistory scriptedEnv crashedNote := by
  obtain ⟨-, -, -, -, -, -, -, hsynced, -⟩ := crashedNote_evaluates
  refine tornNote_careful.stopAndCrash fun name => ?_
  exact List.all_eq_true.mp hsynced name (by cases name <;> simp)

/-- Of its two receipts one is covered by the checkpoint; the other record is recovered. -/
theorem recovers_iff_headerComplete_scripted : crashedNote.receipts = [noteId 2, noteId 4] ∧
    crashedNote.acked = [noteId 2] ∧ HeaderComplete crashedNote.disk ∧
    (crashedNote.Recovers scriptedEnv ↔ HeaderComplete crashedNote.disk) := by
  obtain ⟨-, -, -, -, -, -, -, -, hlen⟩ := crashedNote_evaluates
  refine ⟨rfl, rfl, fun file hwal => ?_, recovers_iff_headerComplete crashedNote_careful⟩
  rwa [hwal, Option.all_some, decide_eq_true_eq] at hlen

/-! ## A first open that was cut off -/

/-- A WAL file that ends after its magic bytes. -/
def cutOffHeader (synced : ℕ) : SpoolDisk :=
  Disk.set (fun _ => none) .wal (some ⟨WAL_MAGIC, synced⟩)

theorem not_headerComplete_cutOffHeader (synced : ℕ) : ¬HeaderComplete (cutOffHeader synced) := by
  have hwal : cutOffHeader synced .wal = some ⟨WAL_MAGIC, synced⟩ := Disk.set_self ..
  rw [headerComplete_iff hwal]
  show ¬WAL_HEADER_LEN ≤ WAL_MAGIC.length
  decide

/-- The magic bytes have just been written. -/
theorem leaves_cutOffHeader : Leaves (RealtimeMessageSpool.open scriptedEnv scriptedGeneration)
    (fun _ => none) (cutOffHeader 0) := by
  have hpt : (points (RealtimeMessageSpool.open scriptedEnv scriptedGeneration)
      (fun _ => none))[6]? = some (Disk.set (Disk.set (fun _ => none) .wal (some ⟨[], 0⟩)) .wal
        (some ⟨WAL_MAGIC, 0⟩)) := rfl
  rw [Disk.set_set] at hpt
  exact .inl (List.mem_of_getElem? hpt)

/-- The steps of a history whose processes stop after a failed call. -/
def StoppingStep (env : SpoolEnv M) (h h' : SpoolHistory M) : Prop :=
  ∃ action, StopsAfterFailure h action ∧ SpoolStep env h action h'

/-- Not every such history recovers: the first `open` is cut off within the header. -/
theorem not_recovers_cutOffHeader :
    ∃ h, Reachable (fun h => h = SpoolHistory.initial) (StoppingStep scriptedEnv) h ∧
      h.process = none ∧ ¬h.Recovers scriptedEnv := by
  refine ⟨{ SpoolHistory.initial with disk := cutOffHeader 0 }, Reachable.tail (.initial rfl)
    ⟨.open scriptedGeneration, fun h => by simp [SpoolHistory.initial] at h,
      .openFailed rfl (by decide) leaves_cutOffHeader⟩, rfl, fun hrec => ?_⟩
  obtain ⟨opened, -, hok, -⟩ := hrec scriptedGeneration (by decide)
  exact open_short_error (not_headerComplete_cutOffHeader 0) scriptedGeneration opened hok

end ServerRS.Spool

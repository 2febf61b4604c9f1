import ServerRS.Spool.CrashSafety

/-!
# What a receipt is worth after a failure

`append` does not remove what an earlier failed call left in the WAL. As long as every
failed call left none or all of its frame, a receipt stays valid on the same spool and
after reopening it (`receipts_valid`); behind a part of a frame no later frame can be read
(`receipt_behind_part`).
-/

namespace ServerRS.Spool

open Lib Stepwise

variable {M : Type} [SpoolMessage M] {env : SpoolEnv M}

/-- The calls on an open spool. -/
def SpoolAction.isCall : SpoolAction M → Bool
  | .append _ _ _ => true
  | .recoverPending => true
  | .advanceCheckpoint _ _ => true
  | .compact => true
  | .«open» _ => false
  | .stop => false
  | .crash => false

/-- A call of `append` leaves none or all of its frame in the WAL. -/
def LeavesWhole (env : SpoolEnv M) (h : SpoolHistory M) (action : SpoolAction M)
    (h' : SpoolHistory M) : Prop :=
  ∀ admission recordUuid nonce, action = .append admission recordUuid nonce →
    fileLen h'.disk .wal = fileLen h.disk .wal ∨
      fileLen h'.disk .wal =
        fileLen h.disk .wal + frameLen env (storedFrame env admission recordUuid)

/-- A call on the open spool, which may fail. -/
def CallStep (env : SpoolEnv M) (h h' : SpoolHistory M) : Prop :=
  ∃ action : SpoolAction M, action.isCall = true ∧ SpoolStep env h action h'

/-- A call that leaves no part of a frame. -/
def WholeCallStep (env : SpoolEnv M) (h h' : SpoolHistory M) : Prop :=
  ∃ action : SpoolAction M, action.isCall = true ∧ LeavesWhole env h action h' ∧
    SpoolStep env h action h'

/-- The same spool returns the record. -/
def ReturnedBy (env : SpoolEnv M) (spool : RealtimeMessageSpool) (h : SpoolHistory M)
    (id : RealtimeSpoolRecordId) : Prop :=
  ∃ frames, (spool.recoverPending env h.disk).result = .ok frames ∧
    id ∈ frames.map RecoveredRealtimeSpoolFrame.recordId

/-- Every acknowledged record that no new checkpoint covers is returned on the same spool
and after reopening it, and after reopening also if one more `append` is cut off anywhere. -/
structure ReceiptsValid (env : SpoolEnv M) (spool : RealtimeMessageSpool) (h : SpoolHistory M) :
    Prop where
  running : ∀ id ∈ h.receipts, id ∉ h.replaced → ReturnedBy env spool h id
  reopened : h.Recovers env
  cutOff : ∀ admission recordUuid nonce h',
    SpoolStep env h (.append admission recordUuid nonce) h' → h'.Recovers env

/-! ## Without crashes -/

section

variable {spool : RealtimeMessageSpool} {log : CutLog (WalFrame env)} {tail : Bytes}
  {disk : SpoolDisk}

/-- What holds whatever crashes holds where nothing crashes. -/
theorem Represents.of_no_crash {crashes : Prop} (h : Represents crashes env spool log tail disk) :
    Represents False env spool log tail disk := by
  obtain ⟨file, hwal, hholds⟩ := h.wal
  exact ⟨h.generation_ne, h.generationId_eq, ⟨file, hwal, hholds.content, hholds.torn,
    fun hcrash => hcrash.elim, hholds.synced_le, hholds.len_le, hholds.allocated_le⟩, h.checkpoint,
    h.records, h.admissions⟩

theorem Represents.fileLen_wal {crashes : Prop} (h : Represents crashes env spool log tail disk) :
    fileLen disk .wal = WAL_HEADER_LEN + (frameLog spool.generationUuid log.stored).length +
      tail.length := by
  obtain ⟨file, hwal, hholds⟩ := h.wal
  obtain ⟨base, -, -, hbytes⟩ := hholds.content
  rw [fileLen, hwal, Option.elim_some, hbytes, length_walBytes]
  exact (Nat.add_assoc ..).symm

theorem CoversDurable.syncAll (recordIds : List RealtimeSpoolRecordId) :
    CoversDurable log.syncAll recordIds := by
  intro n hn _
  show log.covered.length + n ≤ (log.covered ++ log.pending).length
  rw [List.length_append]
  exact Nat.add_le_add_left hn _

end

namespace Holds

variable {spool : RealtimeMessageSpool} {log : CutLog (WalFrame env)} {h : SpoolHistory M}

/-- Without crashes every frame counts as durable. -/
theorem syncAll (hh : Holds False env h spool log []) : Holds False env h spool log.syncAll [] :=
  ⟨hh.files.syncAll_of_no_crash id, hh.process_eq, hh.accounts.sync _ _⟩

/-- A call that leaves no part of a frame leaves a log without a tail. -/
theorem wholeCall (hh : Holds False env h spool log []) {h' : SpoolHistory M}
    (hstep : WholeCallStep env h h') : ∃ log', Holds False env h' spool log' [] := by
  obtain ⟨action, hcall, hwhole, hstep⟩ := hstep
  cases hstep with
  | appended hopen hnew hok =>
    obtain rfl := hh.process_eq _ hopen
    exact hh.appended hnew hok
  | @appendFailed _ admission recordUuid nonce disk hopen hnew hleft =>
    obtain rfl := hh.process_eq _ hopen
    obtain ⟨log', tail', hh', hnil | ⟨rfl, hlt⟩⟩ := hh.appendFailed hnew hleft
    · exact ⟨log', hnil ▸ hh'⟩
    · -- the length of the file tells that the tail is empty
      have hbef := hh.files.fileLen_wal
      have haft := hh'.files.fileLen_wal
      have hlen := hwhole admission recordUuid nonce rfl
      rw [List.length_nil] at hbef
      have hnil : tail' = [] := List.eq_nil_of_length_eq_zero (by omega)
      exact ⟨log', hnil ▸ hh'⟩
  | recovered hopen hok =>
    obtain rfl := hh.process_eq _ hopen
    exact ⟨log, by rw [hh.files.recoverPending_eq]; exact hh.files, hh.process_eq,
      hh.accounts.attempted, hh.accounts.receipts, hh.accounts.acked⟩
  | recoverFailed hopen hleft =>
    obtain rfl := hh.process_eq _ hopen
    obtain rfl := hh.recover_points hleft
    exact ⟨log, hh.files, hh.process_eq, hh.accounts.attempted, hh.accounts.receipts,
      hh.accounts.acked⟩
  | advanced hopen hok =>
    obtain rfl := hh.process_eq _ hopen
    exact hh.syncAll.advanced (.syncAll _) hok
  | advanceFailed hopen hleft =>
    obtain rfl := hh.process_eq _ hopen
    exact hh.syncAll.advanceFailed (.syncAll _) hleft
  | compacted hopen hok =>
    obtain rfl := hh.process_eq _ hopen
    have hcomp := wp_ok (compact_wp hh.files) hok
    exact hh.compact_points hcomp
  | compactFailed hopen hleft =>
    obtain rfl := hh.process_eq _ hopen
    exact hh.compact_points (wp_leaves (compact_wp hh.files) (.inl hh.files) (fun _ _ he => he) hleft)
  | opened => simp [SpoolAction.isCall] at hcall
  | openFailed => simp [SpoolAction.isCall] at hcall
  | stopped => simp [SpoolAction.isCall] at hcall
  | crashed => simp [SpoolAction.isCall] at hcall

theorem receiptsValid (hh : Holds False env h spool log []) : ReceiptsValid env spool h := by
  refine ⟨fun id hid hnot => ?_, hh.recovers, fun admission recordUuid nonce h' hstep => ?_⟩
  · exact ⟨_, by rw [hh.files.recoverPending_eq], hh.complete.receipts id hid hnot⟩
  · cases hstep with
    | appended hopen hnew hok =>
      obtain rfl := hh.process_eq _ hopen
      obtain ⟨log', hh'⟩ := hh.appended hnew hok
      exact hh'.recovers
    | appendFailed hopen hnew hleft =>
      obtain rfl := hh.process_eq _ hopen
      obtain ⟨log', tail', hh', -⟩ := hh.appendFailed hnew hleft
      exact hh'.recovers

end Holds

/-- On a spool that was opened after a careful history, calls that leave no part of a frame
keep every receipt. -/
theorem receipts_valid {start h : SpoolHistory M} (hstart : CarefulHistory env start)
    (hfailed : start.failed = false) {spool : RealtimeMessageSpool}
    (hopen : start.process = some spool)
    (hrun : Relation.ReflTransGen (WholeCallStep env) start h) : ReceiptsValid env spool h := by
  obtain ⟨log, hh⟩ := hstart.kept.running hopen hfailed
  have hholds : ∃ log', Holds False env h spool log' [] :=
    run_invariant (fun h => ∃ log, Holds False env h spool log [])
      (fun _ _ ⟨_, hh⟩ hstep => hh.wholeCall hstep) hrun
      ⟨log, hh.files.of_no_crash, hh.process_eq, hh.accounts⟩
  obtain ⟨log', hh'⟩ := hholds
  exact hh'.receiptsValid

/-! ## Scripted notes -/

section

variable {h : SpoolHistory Note} {text : String} {n : UInt8}

theorem noted_whole (hopen : h.process = some scriptedSpool)
    (hnew : NewFrame scriptedEnv h (note text) (noteUuid n))
    (hok : (appendNote text n h.disk).result.toOption =
      some ⟨⟨text⟩, scriptedSpool.generationId, noteId n⟩)
    (hlen : fileLen (h.noted text n).disk .wal = fileLen h.disk .wal +
      frameLen scriptedEnv (storedFrame scriptedEnv (note text) (noteUuid n))) :
    WholeCallStep scriptedEnv h (h.noted text n) := by
  refine ⟨_, rfl, ?_, SpoolHistory.noted_step hopen hnew hok⟩
  rintro _ _ _ ⟨⟩
  exact .inr hlen

/-- The call fails before its first write. -/
theorem cutNote_whole (hopen : h.process = some scriptedSpool)
    (hnew : NewFrame scriptedEnv h (note text) (noteUuid n)) :
    WholeCallStep scriptedEnv h (h.cutNote text n 0) := by
  refine ⟨_, rfl, ?_, SpoolHistory.cutNote_step hopen hnew 0⟩
  rintro _ _ _ ⟨⟩
  exact .inl rfl

end

/-- Two notes have been appended; the call for a third one failed between them. -/
def twoNotes : SpoolHistory Note :=
  ((scriptedRunning.noted "first" 2).cutNote "third" 6 0).noted "second" 4

/-- A first `append` has failed with one byte written, and the next one has returned its receipt. -/
def oneByteAppended : SpoolHistory Note := (scriptedRunning.cutNote "first" 2 2).noted "second" 4

theorem twoNotes_evaluates :
    fileLen (scriptedRunning.noted "first" 2).disk .wal = fileLen scriptedRunning.disk .wal +
      frameLen scriptedEnv (storedFrame scriptedEnv (note "first") (noteUuid 2)) ∧
    NewFrame scriptedEnv (scriptedRunning.noted "first" 2) (note "third") (noteUuid 6) ∧
    NewFrame scriptedEnv ((scriptedRunning.noted "first" 2).cutNote "third" 6 0) (note "second")
      (noteUuid 4) ∧
    (appendNote "second" 4 ((scriptedRunning.noted "first" 2).cutNote "third" 6 0).disk).result.toOption =
      some ⟨⟨"second"⟩, scriptedSpool.generationId, noteId 4⟩ ∧
    fileLen twoNotes.disk .wal =
      fileLen ((scriptedRunning.noted "first" 2).cutNote "third" 6 0).disk .wal +
        frameLen scriptedEnv (storedFrame scriptedEnv (note "second") (noteUuid 4)) ∧
    -- behind one byte of a frame
    NewFrame scriptedEnv (scriptedRunning.cutNote "first" 2 2) (note "second") (noteUuid 4) ∧
    (appendNote "second" 4 (scriptedRunning.cutNote "first" 2 2).disk).result.toOption =
      some ⟨⟨"second"⟩, scriptedSpool.generationId, noteId 4⟩ ∧
    (scriptedSpool.recoverPending scriptedEnv oneByteAppended.disk).result.toOption.isNone = true := by
  decide +kernel

theorem firstNote_whole : WholeCallStep scriptedEnv scriptedRunning (scriptedRunning.noted "first" 2) :=
  noted_whole rfl newFrame_first crashedNote_evaluates.1 twoNotes_evaluates.1

theorem receipts_valid_twoNotes : twoNotes.failed = true ∧
    twoNotes.receipts = [noteId 2, noteId 4] ∧
    ReceiptsValid scriptedEnv scriptedSpool twoNotes := by
  obtain ⟨-, hthird, hnew, hsecond, hlen, -⟩ := twoNotes_evaluates
  have hrun := ((Relation.ReflTransGen.single firstNote_whole).tail (cutNote_whole rfl hthird)).tail
    (noted_whole rfl hnew hsecond hlen)
  exact ⟨rfl, rfl, receipts_valid scriptedRunning_careful rfl rfl hrun⟩

/-! ## A receipt behind a part of a frame -/

/-- The receipt is not worth anything. -/
theorem receipt_behind_part :
    ∃ h, Relation.ReflTransGen (CallStep scriptedEnv) scriptedRunning h ∧
      noteId 4 ∈ h.receipts ∧ noteId 4 ∉ h.replaced ∧ ¬ReturnedBy scriptedEnv scriptedSpool h
          (noteId 4) := by
  obtain ⟨-, -, -, -, -, hnew, hsecond, hnone⟩ := twoNotes_evaluates
  have hfail : CallStep scriptedEnv scriptedRunning (scriptedRunning.cutNote "first" 2 2) :=
    ⟨_, rfl, SpoolHistory.cutNote_step rfl newFrame_first 2⟩
  -- the frame of the second note follows the byte
  have happ : CallStep scriptedEnv (scriptedRunning.cutNote "first" 2 2) oneByteAppended :=
    ⟨_, rfl, SpoolHistory.noted_step rfl hnew hsecond⟩
  refine ⟨oneByteAppended, (Relation.ReflTransGen.single hfail).tail happ,
    List.mem_singleton_self _, List.not_mem_nil, ?_⟩
  -- neither frame can be read any more
  rintro ⟨frames, hframes, -⟩
  simp [hframes, Except.toOption] at hnone

end ServerRS.Spool

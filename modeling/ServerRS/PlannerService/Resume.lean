import ServerRS.PlannerService.History

/-!
# Resuming a suspended run

`resume_run` takes the run out of its suspension before it does anything else, and gives it
back to the Owner only by suspending it again. When it fails in between, the run is left under
the lease of the resume, and is planned anew once that lease is over.
-/

namespace ServerRS.PlannerService

open Lib AgentCore ActionStore

section Alone

variable [ResponseFormat]

/-- The database, and what is decided outside the program from now on. -/
structure World where
  db : ActionDb
  ticks : ℕ → Tick

/-- A call, under the next tick. -/
def World.answer (call : Call) (world : World) : call.Answer × World :=
  ((perform (world.ticks 0) call world.db).1,
    ⟨(perform (world.ticks 0) call world.db).2, fun n => world.ticks (n + 1)⟩)

/-- A part of an execution that nothing interferes with. -/
def alone {ε α : Type} (x : Service ε α) : Exec World ε α := Process.execute World.answer x

variable {ε α β : Type} {world world' : World}

theorem alone_bind (x : Service ε α) (f : α → Service ε β) :
    alone (x >>= f) = alone x >>= fun a => alone (f a) :=
  Process.execute_bind World.answer x f

theorem alone_mapError {ε' : Type} (f : ε → ε') (x : Service ε α) :
    alone (x.mapError f) world = ((alone x world).1.mapError f, (alone x world).2) :=
  Process.run_bind World.answer x.run _ world

theorem alone_nowUnixSecs : alone (Service.nowUnixSecs : Service ε Int) world =
    (.ok ((world.ticks 0).now.fdiv microsPerSec), ⟨world.db, fun n => world.ticks (n + 1)⟩) := rfl

/-- What all calls of a part keep, the part keeps. -/
theorem alone_keeps {P : Call → Prop} (Inv : ActionDb → Prop) {x : Service ε α}
    (h : x.run.Along (fun _ _ => True) P fun _ => True) (hinv : Inv world.db)
    (hcall : ∀ tick call db, P call → Inv db → Inv (perform tick call db).2) :
    Inv (alone x world).2.db :=
  (Process.run_keeps (fun world : World => Inv world.db) h hinv
    fun call _ hP hwd => ⟨trivial, hcall _ call _ hP hwd⟩).2

/-! ## The claim -/

/-- Reading the claimed row back writes nothing. -/
theorem alone_claimedRow {token : ActionLeaseToken} {answer : ActionStore.Answer}
    {result : Except ActionStoreError (Option ClaimedActionRun)}
    (h : alone (Service.claimedRow token answer) world = (result, world')) :
    world'.db = world.db ∧ ∀ claimed, result = .ok (some claimed) →
      claimed.leaseToken = token ∧ answer = .affected 1 := by
  unfold Service.claimedRow at h
  by_cases haff : answer = .affected 1
  · rw [if_pos haff, alone_bind] at h
    have hread : (alone (Service.ask (.readClaimed token)) world).2.db = world.db := by
      rcases perform_db (world.ticks 0) (.readClaimed token) world.db with hsame | ⟨_, hcall, -⟩
      · exact hsame
      · cases hcall
    rcases Exec.bind_eq h with ⟨claimed, world₁, hcld, hpure⟩ | ⟨error, hfail, rfl⟩
    · cases hpure
      rw [hcld] at hread
      refine ⟨hread, fun claimed' heq => ⟨?_, haff⟩⟩
      cases heq
      have hans : ((world.ticks 0).store (ActionStore.readClaimed token) world.db).1 = .ok claimed :=
        congrArg Prod.fst hcld
      exact Tick.store_ok (fun claimed => claimed.leaseToken = token) readClaimed_token hans
    · rw [hfail] at hread
      exact ⟨hread, nofun⟩
  · rw [if_neg haff] at h
    cases h
    exact ⟨rfl, nofun⟩

/-- The `UPDATE` of a claim takes effect: its values are in range, a row is as the claim says, and
the store does not refuse it. -/
structure Takes (claim : SuspendedRunClaim) (tick : Tick) (db : ActionDb) : Prop where
  time : (fromTimestamp claim.nowUnixSecs).isSome = true
  lease : claim.leaseSecs.toNat < 2 ^ 63
  row : ∃ row ∈ db.runs, claim.isFor db.directory row = true
  carried : ∀ error, tick.fault ≠ some (.refused error)

section Claim

variable {claim : SuspendedRunClaim} {token : ActionLeaseToken}
  {result : Except ActionStoreError (Option ClaimedActionRun)}

/-- The ways through `claim_suspended_run`: its values are out of range; or its `UPDATE` is sent,
and what the store answers decides whether the claimed row is read back. -/
theorem alone_claim_cases (h : alone (Service.claimSuspendedRun claim token) world = (result, world')) :
    (world'.db = world.db ∧ (∀ claimed, result ≠ .ok (some claimed)) ∧
      ¬ ((fromTimestamp claim.nowUnixSecs).isSome = true ∧ claim.leaseSecs.toNat < 2 ^ 63)) ∨
    ∃ now leaseExpires, (fromTimestamp claim.nowUnixSecs).isSome = true ∧
      claim.leaseSecs.toNat < 2 ^ 63 ∧ world'.db = ((world.ticks 0).store
        (Statement.claimSuspended claim leaseExpires now token).exec world.db).2 ∧
      ∀ claimed, result = .ok (some claimed) → claimed.leaseToken = token ∧
        ((world.ticks 0).store (Statement.claimSuspended claim leaseExpires now token).exec
          world.db).1 = .ok (.affected 1) := by
  unfold Service.claimSuspendedRun at h
  cases htime : fromTimestamp claim.nowUnixSecs with
  | none =>
    rw [htime] at h
    cases h
    exact .inl ⟨rfl, nofun, nofun⟩
  | some now =>
    rw [htime] at h
    dsimp only at h
    rw [alone_bind] at h
    by_cases hls : claim.leaseSecs.toNat < 2 ^ 63
    · have hmicr : alone (Service.ofExcept (Service.leaseMicros claim.leaseSecs)) world =
          (.ok (claim.leaseSecs.toNat * microsPerSec), world) := by
        rw [Service.leaseMicros, if_pos hls]
        rfl
      rw [Exec.bind_apply, hmicr] at h
      dsimp only at h
      rw [alone_bind] at h
      refine .inr ⟨now, now + claim.leaseSecs.toNat * microsPerSec, rfl, hls, ?_⟩
      rcases Exec.bind_eq h with ⟨answer, world₁, hask, hrow⟩ | ⟨error, hask, rfl⟩
      · obtain ⟨hdb, hcld⟩ := alone_claimedRow hrow
        refine ⟨hdb.trans (congrArg (fun r => r.2.db) hask).symm, fun claimed hres => ?_⟩
        obtain ⟨htok, rfl⟩ := hcld claimed hres
        exact ⟨htok, congrArg Prod.fst hask⟩
      · exact ⟨(congrArg (fun r => r.2.db) hask).symm, nofun⟩
    · have hmicr : alone (Service.ofExcept (Service.leaseMicros claim.leaseSecs)) world =
          (.error (.invalidData "lease_secs exceeds i64"), world) := by
        rw [Service.leaseMicros, if_neg hls]
        rfl
      rw [Exec.bind_apply, hmicr] at h
      cases h
      exact .inl ⟨rfl, nofun, fun hboth => hls hboth.2⟩

omit [ResponseFormat] in
theorem claimSuspended_none {db : ActionDb} {leaseExpires now : Timestamp}
    (h : ∀ row ∈ db.runs, claim.isFor db.directory row = false) :
    ActionStore.claimSuspended claim leaseExpires now token db = (.ok 0, db) := by
  have hcnt : db.runs.countP (claim.isFor db.directory) = 0 :=
    List.countP_eq_zero.mpr fun row hrow => by simp [h row hrow]
  have hsame : updateWhere (claim.isFor db.directory) (·.claim claim.workerId leaseExpires now token)
      db.runs = db.runs := updateWhere_of_forall_not h
  unfold ActionStore.claimSuspended updateRuns
  rw [hcnt, hsame]

/-- A claim that does not take effect changes nothing and claims nothing. -/
theorem alone_claim_idle (hidle : ¬ Takes claim (world.ticks 0) world.db)
    (h : alone (Service.claimSuspendedRun claim token) world = (result, world')) :
    world'.db = world.db ∧ ∀ claimed, result ≠ .ok (some claimed) := by
  rcases alone_claim_cases h with
    ⟨hdb, hnone, -⟩ | ⟨now, leaseExpires, htime, hls, hdb, hcld⟩
  · exact ⟨hdb, hnone⟩
  · by_cases hcar : ∀ error, (world.ticks 0).fault ≠ some (.refused error)
    · have hrows : ∀ row ∈ world.db.runs, claim.isFor world.db.directory row = false :=
        fun row hrow => Bool.eq_false_iff.mpr fun hfor =>
          hidle ⟨htime, hls, ⟨row, hrow, hfor⟩, hcar⟩
      have hexec : (Statement.claimSuspended claim leaseExpires now token).exec world.db =
          (.ok (.affected 0), world.db) := map_apply (claimSuspended_none hrows)
      refine ⟨?_, fun claimed hres => ?_⟩
      · rw [hdb, Tick.store_carried hcar, hexec]
      · refine Tick.store_ok (fun a => a ≠ .affected 1) ?_ (hcld claimed hres).2 rfl
        intro a db' hop
        cases hexec.symm.trans hop
        decide
    · push Not at hcar
      obtain ⟨error, hfault⟩ := hcar
      rw [Tick.store_refused hfault] at hdb hcld
      exact ⟨hdb, fun claimed hres => nomatch (hcld claimed hres).2⟩

/-- A claim that takes effect puts the run under its token, whatever it is answered. -/
theorem alone_claim_takes (keyed : world.db.Keyed) (htakes : Takes claim (world.ticks 0) world.db)
    (h : alone (Service.claimSuspendedRun claim token) world = (result, world')) :
    world'.db.Keyed ∧ world'.db.Held claim.runId token ∧
      ∀ claimed, result = .ok (some claimed) → claimed.leaseToken = token := by
  obtain ⟨htime, hls, ⟨row, hrow, hfor⟩, hcar⟩ := htakes
  rcases alone_claim_cases h with ⟨-, -, hrange⟩ | ⟨now, leaseExpires, -, -, hdb, hcld⟩
  · exact absurd ⟨htime, hls⟩ hrange
  · have hop : world'.db =
        ((Statement.claimSuspended claim leaseExpires now token).exec world.db).2 := by
      rw [hdb, Tick.store_carried hcar]
    rw [hop]
    refine ⟨(Statement.step (.claimSuspended claim leaseExpires now token)
      ⟨world.db, keyed⟩).property, ?_, fun claimed hres => (hcld claimed hres).1⟩
    refine ⟨row.claim claim.workerId leaseExpires now token, ?_, ?_⟩
    · exact List.mem_map.mpr ⟨row, hrow, if_pos hfor⟩
    · exact ActionRunRow.isHeld_iff.mpr ⟨(SuspendedRunClaim.isFor_spec hfor).1, rfl, rfl⟩

end Claim

/-! ## Under the lease of the resume -/

/-- The lease that the resume works under. -/
structure Leased (runId : ActionRunId) (token : ActionLeaseToken) (db : ActionDb) : Prop where
  keyed : db.Keyed
  held : db.Held runId token

/-- The calls of a resume until its graph has returned. -/
inductive ResumeCall (runId : ActionRunId) (token : ActionLeaseToken) : Call → Prop where
  | effect {effectId : String} {call : Call} (h : EffectCall runId token effectId call) :
      ResumeCall runId token call
  | audit (detail : AuditDetail) : ResumeCall runId token (.appendAudit runId detail)
  | graphFailed (cause : Option GraphRunError) : ResumeCall runId token (.graphFailed runId token cause)

variable {runId : ActionRunId} {token : ActionLeaseToken}

/-- Until its graph has returned, a resume keeps its lease. -/
theorem ResumeCall.leased {call : Call} (h : ResumeCall runId token call) (tick : Tick)
    {db : ActionDb} (leased : Leased runId token db) : Leased runId token (perform tick call db).2 := by
  rcases perform_db tick call db with hsame | ⟨statement, rfl, hdb⟩
  · rw [hsame]
    exact leased
  · rw [hdb]
    refine ⟨(Statement.step statement ⟨db, leased.keyed⟩).property, ?_⟩
    obtain ⟨row, hrow, held⟩ := leased.held
    have hruns : RunsChange statement db (statement.exec db).2 := exec_runs leased.keyed rfl
    obtain ⟨row', hrow', hchg⟩ := hruns.row_before hrow
    refine ⟨row', hrow', ?_⟩
    rcases h with ⟨⟨⟩⟩ | _ | _
    cases hchg with
    | keep => exact held
    | touch => exact held

end Alone

/-! ## The exits of `resume_run` -/

section Exits

variable [ActionGraph.ActionFormat] [UuidFormat] [GraphErrorFormat] {service : PlannerUseCase}
  {world world' : World} {runId : ActionRunId} {token : ActionLeaseToken}
  {input : SecretaryActionResumeInput} {claimed : ClaimedActionRun} {responseId : String}

theorem resumeGraph_along (service : PlannerUseCase) (checkpointId : CheckpointId)
    (input : SecretaryActionResumeInput) (htok : claimed.leaseToken = token) :
    (service.resumeGraph runId checkpointId input claimed).run.Along (fun _ _ => True)
      (ResumeCall runId token) fun _ => True := by
  unfold PlannerUseCase.resumeGraph
  rw [htok]
  refine along_seq ⟨.audit _, fun _ _ => trivial⟩ fun _ => ?_
  refine along_seq (Process.Along.bind (interpret_along runId token _ fun _ _ h => .effect h)
    fun _ _ => trivial) fun result => ?_
  cases result with
  | ok result => trivial
  | error error => exact ⟨.graphFailed _, fun _ _ => trivial⟩

theorem resumeGraph_leased {checkpointId : CheckpointId}
    {result : Except PlannerUseCaseError (GraphExecutionResult SecretaryAgentState)}
    (htok : claimed.leaseToken = token) (leased : Leased runId token world.db)
    (h : alone (service.resumeGraph runId checkpointId input claimed) world = (result, world')) :
    Leased runId token world'.db := by
  have hkeeps := alone_keeps (Leased runId token)
    (resumeGraph_along service checkpointId input htok) leased fun tick call db hcall leased =>
      hcall.leased tick leased
  rwa [h] at hkeeps

/-- The run is neither suspended nor failed. -/
structure Unsuspended (runId : ActionRunId) (db : ActionDb) : Prop where
  keyed : db.Keyed
  row : ∃ row ∈ db.runs, row.runId = runId ∧ row.status ≠ .suspended ∧ row.status ≠ .failed

variable {result : Except PlannerUseCaseError PlannerRunReport} {db : ActionDb} {row : ActionRunRow}

omit [ActionGraph.ActionFormat] [UuidFormat] [GraphErrorFormat] in
theorem Leased.unsuspended (h : Leased runId token db) : Unsuspended runId db := by
  obtain ⟨row, hrow, held⟩ := h.held
  obtain ⟨hid, -, hstat⟩ := ActionRunRow.isHeld_iff.mp held
  exact ⟨h.keyed, row, hrow, hid, by simp [hstat], by simp [hstat]⟩

/-- The calls of an execution whose graph has completed. -/
inductive CompletingCall (runId : ActionRunId) (token : ActionLeaseToken) : Call → Prop where
  | clock : CompletingCall runId token .clock
  | complete (draft : Option OwnerResponseDraft) (responseId : String) (now : Timestamp) :
      CompletingCall runId token (.statement (.markCompleted runId token draft responseId now))
  | audit (detail : AuditDetail) : CompletingCall runId token (.appendAudit runId detail)

omit [UuidFormat] [GraphErrorFormat] in
theorem CompletingCall.unsuspended {call : Call} (h : CompletingCall runId token call) (tick : Tick)
    (hdb : Unsuspended runId db) : Unsuspended runId (perform tick call db).2 := by
  rcases perform_db tick call db with hsame | ⟨statement, rfl, hexec⟩
  · rw [hsame]
    exact hdb
  · rw [hexec]
    obtain ⟨keyed, row, hrow, hid, hnot⟩ := hdb
    refine ⟨(Statement.step statement ⟨db, keyed⟩).property, ?_⟩
    have hruns : RunsChange statement db (statement.exec db).2 := exec_runs keyed rfl
    obtain ⟨row', hrow', hchg⟩ := hruns.row_before hrow
    refine ⟨row', hrow', ?_⟩
    cases h
    cases hchg with
    | keep => exact ⟨hid, hnot⟩
    | complete => exact ⟨hid, nofun, nofun⟩

omit [UuidFormat] [GraphErrorFormat] in
/-- The audit after the end of a run writes nothing that the store reads. -/
theorem alone_audit (runId : ActionRunId) (detail : AuditDetail) (report : PlannerRunReport)
    (world : World) : (alone (storing (Service.ask (.appendAudit runId detail)) >>= fun _ =>
      (pure report : Service PlannerUseCaseError PlannerRunReport)) world).2.db = world.db := by
  have halong : (storing (Service.ask (.appendAudit runId detail)) >>= fun _ =>
      (pure report : Service PlannerUseCaseError PlannerRunReport)).run.Along (fun _ _ => True)
        (fun call => call = .appendAudit runId detail) fun _ => True :=
    along_seq (along_mapError ⟨rfl, fun _ _ => trivial⟩) fun _ => trivial
  refine alone_keeps (fun db => db = world.db) halong rfl ?_
  rintro tick call db rfl hdb
  rcases perform_db tick (.appendAudit runId detail) db with hsame | ⟨_, hcall, -⟩
  · exact hsame.trans hdb
  · cases hcall

omit [GraphErrorFormat] in
/-- A run whose graph has completed is not suspended any more, whatever the store answers. -/
theorem finishRun_completed {completed : GraphRunResult SecretaryAgentState}
    (hwd : Unsuspended runId world.db)
    (h : alone (finishRun runId token responseId (.completed completed)) world = (result, world')) :
    Unsuspended runId world'.db := by
  have halong : (finishRun runId token responseId (.completed completed)).run.Along
      (fun _ _ => True) (CompletingCall runId token) fun _ => True := by
    unfold finishRun storing
    refine along_seq (along_seq ⟨.clock, fun _ _ => trivial⟩ fun _ => trivial) fun now => ?_
    refine along_seq ⟨.clock, fun _ _ => trivial⟩ fun at_ => ?_
    refine along_seq (along_mapError ⟨.complete _ _ _, fun _ _ => trivial⟩) fun _ => ?_
    exact along_seq (along_mapError ⟨.audit _, fun _ _ => trivial⟩) fun _ => trivial
  have hkeeps := alone_keeps (Unsuspended runId) halong hwd fun tick call db hcall hdb =>
      hcall.unsuspended tick hdb
  rwa [h] at hkeeps

omit [GraphErrorFormat] in
/-- A run whose graph has suspended is suspended again, unless the store refuses it. -/
theorem finishRun_suspended {checkpoint : AgentCheckpoint SecretaryAgentState}
    (h : alone (finishRun runId token responseId (.suspended checkpoint)) world = (result, world')) :
    ∃ now, world'.db = ((world.ticks 1).store (Statement.markSuspended runId token
      (checkpointSummary checkpoint) now).exec world.db).2 := by
  let mark := Statement.markSuspended runId token (checkpointSummary checkpoint) (world.ticks 0).now
  refine ⟨(world.ticks 0).now, ?_⟩
  have hrest : alone (finishRun runId token responseId (.suspended checkpoint)) world =
      (alone (storing (Service.ask (.statement mark)) >>= fun _ => do
        storing (Service.ask (.appendAudit runId (.suspended (checkpointSummary checkpoint))))
        pure { runId := some runId, suspended := true,
               checkpointId := some (checkpointSummary checkpoint).checkpointId,
               proposalId := some (checkpointSummary checkpoint).proposalId }))
        ⟨world.db, fun n => world.ticks (n + 1)⟩ := rfl
  rw [hrest, alone_bind] at h
  rcases Exec.bind_eq h with ⟨answer, world₁, hmark, haudit⟩ | ⟨error, hmark, -⟩
  · have hwd₁ : world₁.db = ((world.ticks 1).store mark.exec world.db).2 :=
      (congrArg (fun r => r.2.db) hmark).symm
    have hkeeps : world'.db = world₁.db :=
      (congrArg (fun r => r.2.db) haudit).symm.trans (alone_audit runId _ _ world₁)
    exact hkeeps.trans hwd₁
  · exact (congrArg (fun r => r.2.db) hmark).symm

/-! ## What is left of the decision -/

/-- The run still waits for the decision on its proposal, or has failed for good. -/
def DecisionKept (db : ActionDb) (row : ActionRunRow) : Prop :=
  ∃ row' ∈ db.runs, row'.runId = row.runId ∧ (row'.status = .failed ∨ row'.status = .suspended ∧
    row'.lastCheckpoint.map (·.proposalId) = row.lastCheckpoint.map (·.proposalId))

/-- What `resume_run` claims, by the time that it reads first. -/
def claimOf (service : PlannerUseCase) (world : World) (runId : ActionRunId)
    (checkpointId : String) (input : SecretaryActionResumeInput) : SuspendedRunClaim :=
  service.resumeClaim runId checkpointId input ((world.ticks 0).now.fdiv microsPerSec)

def TakesRun (service : PlannerUseCase) (world : World) (runId : ActionRunId)
    (checkpointId : String) (input : SecretaryActionResumeInput) : Prop :=
  (UuidFormat.parse checkpointId).toOption.isSome = true ∧
    Takes (claimOf service world runId checkpointId input) (world.ticks 1) world.db

/-- The graph suspends again, on the same proposal, and the store does not refuse to say so. -/
def SuspendsAgain (service : PlannerUseCase) (world : World) (row : ActionRunRow)
    (checkpointId : String) (input : SecretaryActionResumeInput) (token : ActionLeaseToken) : Prop :=
  ∃ uuid claimed world₁ checkpoint world₂, UuidFormat.parse checkpointId = .ok uuid ∧
    alone (Service.claimSuspendedRun (claimOf service world row.runId checkpointId input) token)
      ⟨world.db, fun n => world.ticks (n + 1)⟩ = (.ok (some claimed), world₁) ∧
    alone (service.resumeGraph row.runId ⟨uuid⟩ input claimed) world₁ =
      (.ok (.suspended checkpoint), world₂) ∧
    row.lastCheckpoint.map (·.proposalId) = some checkpoint.suspend.data.proposalId ∧
    ∀ error, (world₂.ticks 1).fault ≠ some (.refused error)

omit [ActionGraph.ActionFormat] [UuidFormat] [GraphErrorFormat] in
theorem Unsuspended.not_kept (h : Unsuspended row.runId db) : ¬ DecisionKept db row := by
  rintro ⟨row', hrow', hid', hkept⟩
  obtain ⟨keyed, other, hoth, hid, hsusp, hfail⟩ := h
  have hsame := eq_of_key_eq keyed.runs hrow' hoth (hid'.trans hid.symm)
  subst hsame
  rcases hkept with hstat | ⟨hstat, -⟩
  · exact hfail hstat
  · exact hsusp hstat

omit [ActionGraph.ActionFormat] [UuidFormat] [GraphErrorFormat] in
/-- A run that is suspended under its lease waits for the decision on the proposal of its new
checkpoint. -/
theorem kept_iff_of_suspended [ResponseFormat] {summary : CheckpointSummary} {now : Timestamp}
    (leased : Leased row.runId token db) :
    DecisionKept ((Statement.markSuspended row.runId token summary now).exec db).2 row ↔
      row.lastCheckpoint.map (·.proposalId) = some summary.proposalId := by
  have hexec : (Statement.markSuspended row.runId token summary now).exec db =
      (.ok .done, db.setHeld row.runId token (·.suspend summary now)) :=
    map_apply (updateHeld_of_held leased.keyed leased.held)
  have keyed := (Statement.step (.markSuspended row.runId token summary now)
    ⟨db, leased.keyed⟩).property
  obtain ⟨held, hheld, hrow⟩ := leased.held
  have hmem : held.suspend summary now ∈
      ((Statement.markSuspended row.runId token summary now).exec db).2.runs := by
    rw [hexec]
    exact List.mem_map.mpr ⟨held, hheld, if_pos hrow⟩
  have hid : (held.suspend summary now).runId = row.runId := (ActionRunRow.isHeld_iff.mp hrow).1
  constructor
  · rintro ⟨row', hrow', hid', hkept⟩
    have hsame := eq_of_key_eq keyed.runs hrow' hmem (hid'.trans hid.symm)
    subst hsame
    rcases hkept with hstat | ⟨-, hprop⟩
    · cases hstat
    · exact hprop.symm
  · intro hprop
    exact ⟨_, hmem, hid, .inr ⟨rfl, hprop.symm⟩⟩

/-- Under the lease of the resume, only a new suspension keeps the decision. -/
theorem leased_resume_keeps_iff {uuid : Uuid} {world₁ : World} (htok : claimed.leaseToken = token)
    (leased : Leased row.runId token world₁.db)
    (h : alone (service.resumeGraph row.runId ⟨uuid⟩ input claimed >>= fun result =>
      finishRun row.runId claimed.leaseToken responseId result) world₁ = (result, world')) :
    DecisionKept world'.db row ↔ ∃ checkpoint world₂,
      alone (service.resumeGraph row.runId ⟨uuid⟩ input claimed) world₁ =
        (.ok (.suspended checkpoint), world₂) ∧
      row.lastCheckpoint.map (·.proposalId) = some checkpoint.suspend.data.proposalId ∧
      ∀ error, (world₂.ticks 1).fault ≠ some (.refused error) := by
  rw [alone_bind, htok] at h
  rcases Exec.bind_eq h with ⟨ended, world₂, hgr, hfinish⟩ | ⟨error, hgr, -⟩
  · have leased₂ := resumeGraph_leased htok leased hgr
    cases ended with
    | completed completed =>
      have hnot := (finishRun_completed leased₂.unsuspended hfinish).not_kept
      refine ⟨fun hkept => absurd hkept hnot, ?_⟩
      rintro ⟨checkpoint, _, hsusp, -⟩
      cases hgr.symm.trans hsusp
    | suspended checkpoint =>
      obtain ⟨now, hdb⟩ := finishRun_suspended hfinish
      by_cases hcar : ∀ error, (world₂.ticks 1).fault ≠ some (.refused error)
      · rw [hdb, Tick.store_carried hcar, kept_iff_of_suspended leased₂]
        constructor
        · intro hprop
          exact ⟨checkpoint, world₂, hgr, hprop, hcar⟩
        · rintro ⟨_, _, hsusp, hprop, -⟩
          cases hgr.symm.trans hsusp
          exact hprop
      · push Not at hcar
        obtain ⟨error, hfault⟩ := hcar
        rw [hdb, Tick.store_refused hfault]
        refine ⟨fun hkept => absurd hkept leased₂.unsuspended.not_kept, ?_⟩
        rintro ⟨_, _, hsusp, -, hcar⟩
        cases hgr.symm.trans hsusp
        exact absurd hfault (hcar error)
  · have leased₂ := resumeGraph_leased htok leased hgr
    refine ⟨fun hkept => absurd hkept leased₂.unsuspended.not_kept, ?_⟩
    rintro ⟨checkpoint, _, hsusp, -⟩
    cases hgr.symm.trans hsusp

/-- A `resume_run` that fails keeps the decision for the Owner if and only if its claim did not
take effect, or the graph suspended the run again on the same proposal and that was stored. -/
theorem failed_resume_keeps_decision_iff (keyed : world.db.Keyed) {row : ActionRunRow}
    (hrow : row ∈ world.db.runs) (hsuspended : row.status = .suspended) {checkpointId : String}
    {error : PlannerUseCaseError}
    (h : alone (service.resumeRun row.runId checkpointId input token responseId) world =
      (.error error, world')) :
    DecisionKept world'.db row ↔ ¬ TakesRun service world row.runId checkpointId input ∨
      SuspendsAgain service world row checkpointId input token := by
  have hunch : world'.db = world.db → DecisionKept world'.db row := fun hdb => by
    rw [hdb]
    exact ⟨row, hrow, rfl, .inr ⟨hsuspended, rfl⟩⟩
  unfold PlannerUseCase.resumeRun at h
  cases hparse : UuidFormat.parse checkpointId with
  | error text =>
    rw [hparse] at h
    cases h
    refine ⟨fun _ => .inl fun htakes => ?_, fun _ => hunch rfl⟩
    rw [TakesRun, hparse] at htakes
    cases htakes.1
  | ok uuid =>
    rw [hparse] at h
    dsimp only at h
    rw [alone_bind, Exec.bind_apply, alone_nowUnixSecs] at h
    dsimp only at h
    rw [alone_bind, Exec.bind_apply, storing, alone_mapError] at h
    have hparsed : (UuidFormat.parse checkpointId).toOption.isSome = true := by
      rw [hparse]
      rfl
    obtain ⟨claimed?, world₁, hcl⟩ : ∃ claimed? world₁,
        alone (Service.claimSuspendedRun (claimOf service world row.runId checkpointId input) token)
          ⟨world.db, fun n => world.ticks (n + 1)⟩ = (claimed?, world₁) := ⟨_, _, rfl⟩
    rw [claimOf] at hcl
    rw [hcl] at h
    dsimp only at h
    by_cases htakes : Takes (claimOf service world row.runId checkpointId input) (world.ticks 1)
        world.db
    · have keyed₀ : World.db ⟨world.db, fun n => world.ticks (n + 1)⟩ |>.Keyed := keyed
      obtain ⟨hkeyed, hheld, htok⟩ := alone_claim_takes keyed₀ htakes hcl
      have leased : Leased row.runId token world₁.db := ⟨hkeyed, hheld⟩
      have hagain : ¬ TakesRun service world row.runId checkpointId input ∨
          SuspendsAgain service world row checkpointId input token ↔
            SuspendsAgain service world row checkpointId input token :=
        or_iff_right fun hnot => hnot ⟨hparsed, htakes⟩
      rw [hagain]
      match claimed?, htok with
      | .error _, _ =>
        cases h
        refine ⟨fun hkept => absurd hkept leased.unsuspended.not_kept, ?_⟩
        rintro ⟨_, claimed, _, _, _, -, hsome, -⟩
        cases hcl.symm.trans hsome
      | .ok none, _ =>
        cases h
        refine ⟨fun hkept => absurd hkept leased.unsuspended.not_kept, ?_⟩
        rintro ⟨_, claimed, _, _, _, -, hsome, -⟩
        cases hcl.symm.trans hsome
      | .ok (some claimed), htok =>
        rw [leased_resume_keeps_iff (htok claimed rfl) leased h]
        constructor
        · rintro ⟨checkpoint, world₂, hgr, hprop, hcar⟩
          exact ⟨uuid, claimed, world₁, checkpoint, world₂, hparse, hcl, hgr, hprop, hcar⟩
        · rintro ⟨uuid', claimed', _, checkpoint, world₂, hparse', hsome, hgr, hprop, hcar⟩
          cases hparse.symm.trans hparse'
          cases hcl.symm.trans hsome
          exact ⟨checkpoint, world₂, hgr, hprop, hcar⟩
    · obtain ⟨hdb, hnone⟩ := alone_claim_idle htakes hcl
      have hwd : world' = world₁ := by
        match claimed?, hnone with
        | .error _, _ =>
          cases h
          rfl
        | .ok none, _ =>
          cases h
          rfl
        | .ok (some claimed), hnone => exact absurd rfl (hnone claimed)
      exact ⟨fun _ => .inl fun htakesRun => htakes htakesRun.2, fun _ =>
        hunch (hwd ▸ hdb)⟩

end Exits

section Scripted

open PlannerService.Scripted ActionGraph.Scripted

instance (db : ActionDb) (row : ActionRunRow) : Decidable (DecisionKept db row) :=
  inferInstanceAs (Decidable (∃ row' ∈ db.runs, _))

/-- The run waits, and nothing fails but the graph. -/
def waitingWorld : World := ⟨dbAfter directory waiting, fun _ => { now := 10000000 }⟩

/-- The approved resume whose graph runs into its deadline. -/
def lateResume : Except PlannerUseCaseError PlannerRunReport × World :=
  alone (lateService.resumeRun runId waitingAt.checkpointId approval (token "lease-2") "resp-1")
    waitingWorld

theorem failed_resume_keeps_decision_iff_late :
    lateResume.1 = .error (.graphRun "resume failed") ∧
      (DecisionKept lateResume.2.db waitingRow ↔
        ¬ TakesRun lateService waitingWorld runId waitingAt.checkpointId approval ∨
          SuspendsAgain lateService waitingWorld waitingRow waitingAt.checkpointId approval
            (token "lease-2")) := by
  have hfail : lateResume.1 = .error (.graphRun "resume failed") := by decide
  have hlate : alone (lateService.resumeRun waitingRow.runId waitingAt.checkpointId approval
      (token "lease-2") "resp-1") waitingWorld =
        (.error (.graphRun "resume failed"), lateResume.2) := Prod.ext hfail rfl
  exact ⟨hfail, failed_resume_keeps_decision_iff dbAfter_keyed waitingRow_mem rfl hlate⟩

/-- The approved proposal is lost: nothing was committed, and once the lease of the resume is over
the worker claims the run to plan it anew. -/
theorem approved_run_is_planned_anew :
    lateResume.1 = .error (.graphRun "resume failed") ∧ lateResume.2.db.receipts.length = 0 ∧
      ¬ DecisionKept lateResume.2.db waitingRow ∧
      (ActionStore.claimPendingRun "worker-1" 60 200000000 (token "lease-3")
        lateResume.2.db).1.toOption.join.map (·.runId) = some runId := by
  decide

end Scripted

end ServerRS.PlannerService

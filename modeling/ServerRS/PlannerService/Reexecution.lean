import ServerRS.PlannerService.History

/-!
# Automatic executions of a run

A run whose execution fails goes back to `pending`, and the next worker claims it again. What
is claimed of this (`RetriesClassified`) holds of a run as long as no execution that a worker
has claimed fails (`retries_classified`). One that fails is always claimed again, whatever its
error, at once, and any number of times (`unknown_commit_executed_again`): the error reaches
`handle_failure` as a text, which counts as retryable, an error that is not retryable releases
the lease, and the attempt is not read from the row.
-/

namespace ServerRS.PlannerService

open Lib AgentCore ActionStore

/-! ## Backoff -/

/-- The delay doubles with each attempt, up to its cap; nothing overflows. -/
theorem toNat_backoffMs (attempt : UInt32) {baseMs maxMs : UInt64} (hbase : baseMs ≤ maxMs) :
    (backoffMs attempt baseMs maxMs).toNat =
      min (baseMs.toNat * 2 ^ min (attempt.toNat - 1) 10) maxMs.toNat := by
  have hle : baseMs.toNat ≤ maxMs.toNat := UInt64.le_iff_toNat_le.mp hbase
  have hmax : maxMs.toNat < 2 ^ 64 := maxMs.toNat_lt
  unfold backoffMs
  split
  · next hzero =>
    subst hzero
    simp [hle]
  · rw [UInt64.toNat_min, UInt64.toNat_ofNat_of_lt']
    · omega
    · exact lt_of_le_of_lt (Nat.min_le_right _ _) (by decide)

/-- The delay grows with the attempts, up to its cap. -/
theorem backoffMs_mono {attempt later : UInt32} (h : attempt ≤ later) {baseMs maxMs : UInt64}
    (hbase : baseMs ≤ maxMs) : backoffMs attempt baseMs maxMs ≤ backoffMs later baseMs maxMs ∧
      backoffMs later baseMs maxMs ≤ maxMs := by
  have hattempt : attempt.toNat ≤ later.toNat := UInt32.le_iff_toNat_le.mp h
  have hpow : 2 ^ min (attempt.toNat - 1) 10 ≤ 2 ^ min (later.toNat - 1) 10 :=
    Nat.pow_le_pow_right (by decide) (by omega)
  rw [UInt64.le_iff_toNat_le, UInt64.le_iff_toNat_le, toNat_backoffMs attempt hbase,
    toNat_backoffMs later hbase]
  exact ⟨min_le_min_right _ (Nat.mul_le_mul_left _ hpow), Nat.min_le_right _ _⟩

/-! ## What a history does to a run -/

section Counts

variable [ResponseFormat]

/-- How many of the statements have the property, where they are carried out. -/
def timesFrom (p : ActionDb → Statement → Bool) : Store → List Statement → ℕ
  | _, [] => 0
  | db, statement :: statements =>
    (if p db.val statement then 1 else 0) + timesFrom p (statement.step db) statements

/-- The statement claims the run from `pending`. -/
def claimsRun (runId : ActionRunId) (db : ActionDb) : Statement → Bool
  | .claimOldest _ _ now _ => db.pick now == some runId
  | _ => false

/-- The statement takes the run back from a worker whose lease is over. -/
def expiresRun (runId : ActionRunId) (db : ActionDb) : Statement → Bool
  | .reclaimExpired now => db.runs.any fun row => row.runId == runId && row.isExpired now
  | _ => false

/-- The statement takes the run back as failed. -/
def failsRun (runId : ActionRunId) (db : ActionDb) : Statement → Bool
  | .markFailed failed token _ _ _ => failed == runId && decide (db.Held runId token)
  | _ => false

/-- The statement is one with which an execution gives its run back. -/
def GivesBack (runId : ActionRunId) : Statement → Prop
  | .markFailed failed _ _ _ _ => failed = runId
  | .releaseLease released _ _ => released = runId
  | _ => False

/-- The run is not there yet, or waits for a worker. -/
def Waits (runId : ActionRunId) (db : ActionDb) : Prop :=
  ∀ row ∈ db.runs, row.runId = runId → row.status = .pending

instance (runId : ActionRunId) (db : ActionDb) : Decidable (Waits runId db) :=
  inferInstanceAs (Decidable (∀ row ∈ db.runs, _ → _))

variable {runId : ActionRunId} {db : Store} {statement : Statement} {statements : List Statement}

/-- A run that does not wait is still not waiting after a statement, unless its lease is over or
its execution gives it back. -/
theorem not_waits_step (hexp : expiresRun runId db.val statement = false)
    (hgives : ¬ GivesBack runId statement) (h : ¬ Waits runId db.val) :
    ¬ Waits runId (statement.step db).val := by
  intro hwaits
  refine h fun row hrow hid => ?_
  obtain ⟨row', hrow', hchg⟩ := (exec_runs db.property rfl :
    RunsChange statement db.val (statement.step db).val).row_before hrow
  have hpend := hwaits row' hrow' (hchg.runId.trans hid)
  cases hchg with
  | keep => exact hpend
  | expire hexpired =>
    have hnone := List.any_eq_false.mp hexp row hrow
    simp [hid, hexpired] at hnone
  | claim => cases hpend
  | resume => cases hpend
  | suspend => cases hpend
  | take held => exact hpend
  | touch held => exact hpend
  | complete => cases hpend
  | fail held => exact absurd ((ActionRunRow.isHeld_iff.mp held).1.symm.trans hid) hgives
  | release held => exact absurd ((ActionRunRow.isHeld_iff.mp held).1.symm.trans hid) hgives

/-- A run that is claimed was waiting, and does not wait any more. -/
theorem waits_claim (h : claimsRun runId db.val statement = true) :
    Waits runId db.val ∧ ¬ Waits runId (statement.step db).val := by
  cases statement with
  | claimOldest workerId leaseExpires now token =>
    have hpick : db.val.pick now = some runId := by simpa [claimsRun] using h
    obtain ⟨picked, hpicked, hid⟩ := Option.map_eq_some_iff.mp hpick
    have hmem := (List.mem_filter.mp (oldest_mem hpicked)).1
    constructor
    · intro row hrow hrun
      have helig := db.property.pick_eligible hrow (hpick.trans (congrArg some hrun.symm))
      simp only [ActionRunRow.isEligible, Bool.and_eq_true, beq_iff_eq] at helig
      exact helig.1.1
    · intro hwaits
      have hcld : picked.claim workerId leaseExpires now token ∈
          ((Statement.claimOldest workerId leaseExpires now token).step db).val.runs :=
        mem_updateWhere.mpr ⟨picked, hmem, if_pos (by simp [hpick, hid])⟩
      cases hwaits _ hcld hid
  | _ => cases h

/-- A run is claimed at most once more than its leases were over, as long as no execution gives
it back. -/
theorem claims_le (hgives : ∀ statement ∈ statements, ¬ GivesBack runId statement) :
    timesFrom (claimsRun runId) db statements ≤
      timesFrom (expiresRun runId) db statements + if Waits runId db.val then 1 else 0 := by
  induction statements generalizing db with
  | nil => exact Nat.zero_le _
  | cons statement statements ih =>
    have hrest : timesFrom (claimsRun runId) (statement.step db) statements ≤
        timesFrom (expiresRun runId) (statement.step db) statements +
          if Waits runId (statement.step db).val then 1 else 0 :=
      ih fun later hlater => hgives later (List.mem_cons_of_mem _ hlater)
    have hone : (if Waits runId (statement.step db).val then 1 else 0) ≤ 1 := by split <;> decide
    rw [timesFrom, timesFrom]
    by_cases hcla : claimsRun runId db.val statement = true
    · obtain ⟨hbef, haft⟩ := waits_claim hcla
      rw [if_neg haft] at hrest
      rw [if_pos hcla, if_pos hbef]
      omega
    · rw [if_neg hcla]
      by_cases hexp : expiresRun runId db.val statement = true
      · rw [if_pos hexp]
        omega
      · rw [if_neg hexp]
        have hstep := not_waits_step (Bool.eq_false_iff.mpr hexp)
          (hgives statement List.mem_cons_self)
        by_cases hwaits : Waits runId db.val
        · rw [if_pos hwaits]
          omega
        · rw [if_neg (hstep hwaits)] at hrest
          rw [if_neg hwaits]
          omega

end Counts

/-! ## Executions that do not fail -/

/-- What is answered says that the execution under `token` has failed: its graph, or one of the
calls with which it ends. -/
def FailsFor (runId : ActionRunId) (token : ActionLeaseToken) : (call : Call) → call.Answer → Prop
  | .graphFailed failed lease _ => fun _ => failed = runId ∧ lease = token
  | .statement (.markSuspended ended lease _ _) => fun answer =>
    ended = runId ∧ lease = token ∧ Except.isOk answer = false
  | .statement (.markCompleted ended lease _ _ _) => fun answer =>
    ended = runId ∧ lease = token ∧ Except.isOk answer = false
  | .appendAudit ended _ => fun answer => ended = runId ∧ Except.isOk answer = false
  | _ => fun _ => False

section Unfailing

variable (worker : ActionLeaseToken → Prop) (runId : ActionRunId)

/-- No execution of the run under a token of a worker fails. -/
def Unfailing (call : Call) (answer : call.Answer) : Prop :=
  Truthful call answer ∧ ∀ token, worker token → ¬ FailsFor runId token call answer

/-- A part of an execution that does not give the run back. -/
abbrev Holds {α : Type} (p : Process Call Call.Answer α) (Q : α → Prop) : Prop :=
  p.Along (Unfailing worker runId)
    (fun call => ∀ statement, call = .statement statement → ¬ GivesBack runId statement) Q

/-- The result of a part of the execution of `claimed` under `token`: where it is an execution of
the run by a worker, it is not an error. -/
def Succeeds {ε α : Type} (claimed : ActionRunId) (token : ActionLeaseToken) (result : Except ε α) :
    Prop :=
  worker token → claimed = runId → ∃ a, result = .ok a

variable {worker} {runId} {claimed : ActionRunId} {token : ActionLeaseToken}

theorem succeeds_seq {ε α β : Type} {x : Service ε α} {f : α → Service ε β}
    (hx : Holds worker runId x.run (Succeeds worker runId claimed token))
    (hf : ∀ a, Holds worker runId (f a).run (Succeeds worker runId claimed token)) :
    Holds worker runId (x >>= f).run (Succeeds worker runId claimed token) := by
  refine Process.Along.bindExcept hx (fun a _ => hf a) fun error herr hwkr hcld => ?_
  obtain ⟨a, ha⟩ := herr hwkr hcld
  cases ha

theorem succeeds_pure {ε α : Type} (a : α) :
    Holds worker runId (pure a : Service ε α).run (Succeeds worker runId claimed token) :=
  fun _ _ => ⟨a, rfl⟩

theorem clock_keeps {ε : Type} : Holds worker runId (Service.clock : Service ε Timestamp).run
    fun _ => True :=
  ⟨fun _ h => (nomatch h), fun _ _ => trivial⟩

theorem clock_succeeds {ε : Type} : Holds worker runId (Service.clock : Service ε Timestamp).run
    (Succeeds worker runId claimed token) :=
  ⟨fun _ h => (nomatch h), fun now _ _ _ => ⟨now, rfl⟩⟩

theorem nowUnixSecs_succeeds {ε : Type} : Holds worker runId (Service.nowUnixSecs : Service ε Int).run
    (Succeeds worker runId claimed token) :=
  succeeds_seq clock_succeeds fun _ => succeeds_pure _

theorem statement_succeeds {statement : Statement} (hgives : ¬ GivesBack runId statement)
    (hfails : claimed = runId → ∀ answer : Except ActionStoreError ActionStore.Answer,
      answer.isOk = false → FailsFor runId token (.statement statement) answer) :
    Holds worker runId (storing (Service.ask (.statement statement))).run
      (Succeeds worker runId claimed token) := by
  refine ⟨?_, fun answer hans hwkr hcld => ?_⟩
  · rintro _ ⟨⟩
    exact hgives
  · match answer with
    | .ok a => exact ⟨a, rfl⟩
    | .error error => exact absurd (hfails hcld (.error error) rfl) (hans.2 token hwkr)

theorem audit_succeeds {detail : AuditDetail} :
    Holds worker runId (storing (Service.ask (.appendAudit claimed detail))).run
      (Succeeds worker runId claimed token) := by
  refine ⟨fun _ h => (nomatch h), fun answer hans hwkr hcld => ?_⟩
  match answer with
  | .ok a => exact ⟨a, rfl⟩
  | .error error =>
    have hfails : FailsFor runId token (.appendAudit claimed detail) (.error error) :=
      ⟨hcld, rfl⟩
    exact absurd hfails (hans.2 token hwkr)

theorem graphFailed_succeeds {α : Type} {cause : Option GraphRunError} {text : String} :
    Holds worker runId (graphFailed claimed token cause text : Service PlannerUseCaseError α).run
      (Succeeds worker runId claimed token) := by
  refine ⟨fun _ h => (nomatch h), fun answer hans hwkr hcld => ?_⟩
  have hfails : FailsFor runId token (.graphFailed claimed token cause) answer := ⟨hcld, rfl⟩
  exact absurd hfails (hans.2 token hwkr)

section Graphs

variable [ActionGraph.ActionFormat] [UuidFormat] {responseId : String}

theorem finishRun_succeeds (result : GraphExecutionResult SecretaryAgentState) :
    Holds worker runId (finishRun claimed token responseId result).run
      (Succeeds worker runId claimed token) := by
  unfold finishRun
  cases result with
  | completed completed =>
    refine succeeds_seq nowUnixSecs_succeeds fun now => ?_
    refine succeeds_seq clock_succeeds fun at_ => ?_
    refine succeeds_seq (statement_succeeds id fun hcld _ herr => ?_) fun _ => ?_
    · exact ⟨hcld, rfl, herr⟩
    · exact succeeds_seq audit_succeeds fun _ => succeeds_pure _
  | suspended checkpoint =>
    refine succeeds_seq clock_succeeds fun at_ => ?_
    refine succeeds_seq (statement_succeeds id fun hcld _ herr => ?_) fun _ => ?_
    · exact ⟨hcld, rfl, herr⟩
    · exact succeeds_seq audit_succeeds fun _ => succeeds_pure _

omit [ActionGraph.ActionFormat] [UuidFormat] in
theorem EffectCall.keeps {effectId : String} {call : Call} (h : EffectCall claimed token effectId call) :
    ∀ statement, call = .statement statement → ¬ GivesBack runId statement := by
  rintro statement rfl
  cases h
  exact id

/-- The graph of an execution, and what is made of an error of it. -/
theorem graphPart_succeeds {ε : Type} {graph : GraphProcess ε} {cause : ε → Option GraphRunError}
    {text : ε → String} :
    Holds worker runId (do
      let result ← ExceptT.lift
        (graph.interpret fun envelope => executeEffect claimed token envelope)
      graphResult claimed token cause text result : Service PlannerUseCaseError _).run
      (Succeeds worker runId claimed token) := by
  have hgr : Holds worker runId
      (graph.interpret fun envelope => executeEffect claimed token envelope) fun _ => True :=
    interpret_along claimed token graph fun _ _ hcall => hcall.keeps
  refine Process.Along.bind (hgr.bind fun result _ => ?_) fun result (hres : ∃ a, result = .ok a) => ?_
  · exact ⟨result, rfl⟩
  · obtain ⟨result, rfl⟩ := hres
    cases result with
    | error error => exact graphFailed_succeeds
    | ok result => exact succeeds_pure _

variable [GraphErrorFormat] {service : PlannerUseCase} {run : ClaimedActionRun}

theorem executeClaimed_succeeds :
    Holds worker runId (service.executeClaimed run responseId).run
      (Succeeds worker runId run.runId run.leaseToken) := by
  unfold PlannerUseCase.executeClaimed PlannerUseCase.runGraph
  refine succeeds_seq ?_ fun result => finishRun_succeeds result
  split
  · exact graphFailed_succeeds
  · exact graphPart_succeeds

omit [ActionGraph.ActionFormat] [UuidFormat] [GraphErrorFormat] in
theorem handleFailure_keeps {error : PlannerUseCaseError} {attempt : UInt32} (h : claimed ≠ runId) :
    Holds worker runId (PlannerUseCase.handleFailure claimed token error attempt).run
      fun _ => True := by
  unfold PlannerUseCase.handleFailure
  split
  · refine along_seq (along_seq clock_keeps fun _ => trivial) fun now => ?_
    refine along_seq clock_keeps fun at_ => ?_
    refine along_seq (along_mapError (along_ask ?_)) fun _ => trivial
    rintro _ ⟨⟩
    exact h
  · refine along_seq clock_keeps fun at_ => ?_
    refine along_seq (along_mapError (along_ask ?_)) fun _ => trivial
    rintro _ ⟨⟩
    exact h

theorem runOnce_keeps {workerId : String} (hwkr : worker token) :
    Holds worker runId (service.runOnce workerId token responseId).run fun _ => True := by
  unfold PlannerUseCase.runOnce
  refine Process.Along.bindExcept (Q := ClaimedUnder token) (storing_claimed ?_) (fun claimed hcld => ?_)
    fun _ _ => trivial
  · refine claimPendingRun_along (fun _ _ h => h.1) ?_ ?_ ?_ ?_
    · exact fun _ h => nomatch h
    · exact fun _ h => nomatch h
    · rintro now _ ⟨⟩
      exact id
    · rintro workerId leaseExpires now _ ⟨⟩
      exact id
  · cases claimed with
    | none => trivial
    | some claimed =>
      have htok := hcld claimed rfl
      refine Process.Along.bindExcept executeClaimed_succeeds.lift (fun report hreport => ?_)
        fun _ _ => trivial
      cases report with
      | ok report => trivial
      | error error =>
        -- an execution of the run itself has not failed
        have hoth : claimed.runId ≠ runId := by
          intro hcld
          obtain ⟨_, hok⟩ := hreport _ rfl (htok ▸ hwkr) hcld
          cases hok
        exact Process.Along.bindExcept (handleFailure_keeps hoth).lift (fun _ _ => trivial)
          fun _ _ => trivial

theorem resumeRun_keeps {checkpointId : String} {input : SecretaryActionResumeInput} :
    Holds worker runId (service.resumeRun claimed checkpointId input token responseId).run
      fun _ => True := by
  unfold PlannerUseCase.resumeRun
  split
  · trivial
  · next uuid _ =>
    refine along_seq (along_seq clock_keeps fun _ => trivial) fun now => ?_
    refine Process.Along.bindExcept (Q := ClaimedUnder token) (storing_claimed ?_) (fun taken _ => ?_)
      fun _ _ => trivial
    · refine claimSuspendedRun_along (fun _ _ h => h.1) ?_ ?_
      · exact fun _ h => nomatch h
      · rintro leaseExpires now _ ⟨⟩
        exact id
    · cases taken with
      | none => trivial
      | some taken =>
        have hresume : Holds worker runId (service.resumeGraph claimed ⟨uuid⟩ input taken).run
            (Succeeds worker runId claimed taken.leaseToken) :=
          succeeds_seq audit_succeeds fun _ => graphPart_succeeds
        exact along_seq (hresume.mono fun _ _ => trivial) fun result =>
          (finishRun_succeeds result).mono fun _ _ => trivial

/-- What is started gives the run back only where an execution of it by a worker fails. -/
theorem program_keeps {program : Program} (h : ∀ service workerId token responseId,
      program = .runOnce service workerId token responseId → worker token) :
    Holds worker runId program.process fun _ => True := by
  cases program with
  | runOnce service workerId token responseId =>
    exact (runOnce_keeps (h _ _ _ _ rfl)).bind fun _ _ => trivial
  | resumeRun service claimed checkpointId input token responseId =>
    exact resumeRun_keeps.bind fun _ _ => trivial
  | ensureActionRun created seed now =>
    refine Process.Along.bind (Q := fun _ => True) ⟨?_, fun _ _ => trivial⟩ fun _ _ => trivial
    rintro _ ⟨⟩
    exact id
  | elsewhere directory =>
    refine Process.Along.bind (Q := fun _ => True) ⟨?_, fun _ _ => trivial⟩ fun _ _ => trivial
    rintro _ ⟨⟩
    exact id

end Graphs

end Unfailing

/-! ## What is claimed of automatic executions -/

/-- The failure of a graph that a call marks: of which run, under which token, at which error. -/
def Call.failure : Call → Option (ActionRunId × ActionLeaseToken × Option GraphRunError)
  | .graphFailed runId token cause => some (runId, token, cause)
  | _ => none

section Claimed

variable [ActionGraph.ActionFormat] [UuidFormat] [GraphErrorFormat]

/-- The run is executed again by itself only after retryable errors, at most `maxAttempts` times, and
with the delay of `backoff_ms`. -/
structure RetriesClassified (retryable : Option GraphRunError → Prop) (maxAttempts : ℕ)
    (directory : Directory) (moves : List Move) (runId : ActionRunId) : Prop where
  /-- Where the run is taken back from an execution that has failed, it has failed with a retryable
  error. -/
  onlyRetryable : ∀ before performed after,
    (poolAfter directory moves).trace = before ++ performed :: after →
      ∀ token, (Pool.replay perform { directory } before).Held runId token →
        Waits runId (Pool.replay perform { directory } (before ++ [performed])) →
          ∀ earlier ∈ before, ∀ cause, earlier.call.failure = some (runId, token, cause) →
            retryable cause
  attempts : timesFrom (claimsRun runId) (Store.new directory) (statementsOf directory moves) ≤
    maxAttempts
  /-- The run that has failed for the `n`-th time is eligible `backoff_ms(n)` later. -/
  delay : ∀ before token error nextEligible now after,
    statementsOf directory moves = before ++ .markFailed runId token error nextEligible now :: after →
      (dbAfter directory before).Held runId token →
        let n := timesFrom (failsRun runId) (Store.new directory) before + 1
        (fromTimestamp nextEligible).getD now - now = 1000 * (backoffMs (.ofNat n) 500 10000).toNat
  grows : ∀ attempt later : UInt32, attempt ≤ later →
    backoffMs attempt 500 10000 ≤ backoffMs later 500 10000 ∧ backoffMs later 500 10000 ≤ 10000

/-- No execution of the run that a worker has claimed fails, its resumes fail with retryable errors
only, and fewer than `maxAttempts` leases of it come to their end. -/
structure WorkersUnfailing (retryable : Option GraphRunError → Prop) (maxAttempts : ℕ)
    (directory : Directory) (moves : List Move) (runId : ActionRunId) : Prop where
  workers : ∀ service workerId token responseId,
    .start (.runOnce service workerId token responseId) ∈ moves →
      ∀ performed ∈ (poolAfter directory moves).trace,
        ¬ FailsFor runId token performed.call performed.answer
  resumes : ∀ performed ∈ (poolAfter directory moves).trace, ∀ token cause,
    performed.call.failure = some (runId, token, cause) → retryable cause
  leases : timesFrom (expiresRun runId) (Store.new directory) (statementsOf directory moves) <
    maxAttempts

variable {retryable : Option GraphRunError → Prop} {maxAttempts : ℕ} {directory : Directory}
  {moves : List Move} {runId : ActionRunId}

/-- For every schedule of workers, resumes, crashes and store faults. -/
theorem retries_classified (h : WorkersUnfailing retryable maxAttempts directory moves runId) :
    RetriesClassified retryable maxAttempts directory moves runId := by
  let worker := fun token => ∃ service workerId responseId,
    Move.start (.runOnce service workerId token responseId) ∈ moves
  have hanss : ∀ performed ∈ (poolAfter directory moves).trace,
      Unfailing worker runId performed.call performed.answer := by
    refine fun performed hperf => ⟨trace_truthful performed hperf, ?_⟩
    rintro token ⟨service, workerId, responseId, hsta⟩
    exact h.workers service workerId token responseId hsta performed hperf
  have hgives : ∀ statement ∈ statementsOf directory moves, ¬ GivesBack runId statement := by
    refine statements_along (fun program hsta => program_keeps ?_) hanss
    rintro service workerId token responseId rfl
    exact ⟨service, workerId, responseId, hsta⟩
  constructor
  · intro before performed after htrace token _ _ earlier hear cause hcause
    refine h.resumes earlier ?_ token cause hcause
    rw [htrace]
    exact List.mem_append_left _ hear
  · have hcla : timesFrom (claimsRun runId) (Store.new directory) _ ≤
        timesFrom (expiresRun runId) (Store.new directory) _ +
          if Waits runId (Store.new directory).val then 1 else 0 := claims_le hgives
    have hone : (if Waits runId (Store.new directory).val then 1 else 0) ≤ 1 := by split <;> decide
    have hleases := h.leases
    omega
  · intro before token error nextEligible now after hspl _
    refine absurd rfl (hgives (.markFailed runId token error nextEligible now) ?_)
    rw [hspl]
    exact List.mem_append_right _ List.mem_cons_self
  · intro attempt later hle
    exact backoffMs_mono hle (by decide)

end Claimed

section Scripted

open PlannerService.Scripted ActionGraph.Scripted

instance (runId : ActionRunId) (token : ActionLeaseToken) :
    (call : Call) → (answer : call.Answer) → Decidable (FailsFor runId token call answer)
  | .graphFailed failed lease _, _ => inferInstanceAs (Decidable (failed = runId ∧ lease = token))
  | .statement (.markSuspended ended lease _ _), answer =>
    inferInstanceAs (Decidable (ended = runId ∧ lease = token ∧ Except.isOk answer = false))
  | .statement (.markCompleted ended lease _ _ _), answer =>
    inferInstanceAs (Decidable (ended = runId ∧ lease = token ∧ Except.isOk answer = false))
  | .appendAudit ended _, answer =>
    inferInstanceAs (Decidable (ended = runId ∧ Except.isOk answer = false))
  | .statement (.ensureActionRun ..), _ | .statement (.reclaimExpired ..), _
  | .statement (.claimOldest ..), _ | .statement (.claimSuspended ..), _
  | .statement (.takeCheckpoint ..), _ | .statement (.applyEffect ..), _
  | .statement (.markFailed ..), _ | .statement (.releaseLease ..), _ | .statement (.elsewhere ..), _
  | .clock, _ | .readClaimed _, _ | .loadEffectReceipt .., _ | .listSuspendedRuns .., _
  | .executeAction _, _ => .isFalse id

/-- The errors of effects as they are classified; every other error is retryable. -/
def Classified : Option GraphRunError → Prop
  | some (.effectFailed _ _ _ error) => error.kind = .transient ∨ error.kind = .timeout
  | _ => True

instance : DecidablePred Classified
  | some (.effectFailed _ _ _ error) => inferInstanceAs (Decidable (error.kind = _ ∨ error.kind = _))
  | none | some .cancelled | some .deadlineExceeded | some (.budgetExceeded ..)
  | some (.missingNode _) | some (.missingTransition _) | some (.nodeFailed ..)
  | some (.missingEffectExecutor _) | some (.postEffectStateUpdateFailed ..)
  | some (.stateUpdateFailed ..) | some (.unexpectedSuspend _) | some (.suspendAtEnd _)
  | some (.unknownRoute ..) | some .missingOutcome => .isTrue trivial

/-- The approved resume fails, and the run is planned anew once its lease is over. -/
def failedResume : List Move :=
  created ++ plannedAt 1 (token "lease-1") 1000000 8 ++
    approvedAt 2 ⟨7⟩ (token "lease-2") 2000000 ++ plannedAt 3 (token "lease-3") 100000000 8

theorem retries_classified_failedResume :
    RetriesClassified Classified 2 directory failedResume runId := by
  refine retries_classified ⟨?_, ?_, by decide +kernel⟩
  · intro service workerId lease responseId hsta
    have hls : lease = token "lease-1" ∨ lease = token "lease-3" := by
      have hstarted : (service = taskService ∧ workerId = "worker-1" ∧ lease = token "lease-1" ∧
          responseId = "resp-1") ∨ service = taskService ∧ workerId = "worker-1" ∧
            lease = token "lease-3" ∧ responseId = "resp-1" := by
        simpa [failedResume, created, plannedAt, approvedAt] using hsta
      exact hstarted.imp (·.2.2.1) (·.2.2.1)
    rcases hls with rfl | rfl <;> decide +kernel
  · intro performed hperf lease cause hfailure
    have hclas : ∀ performed ∈ (poolAfter directory failedResume).trace,
        ∀ failure ∈ performed.call.failure, Classified failure.2.2 := by decide +kernel
    exact hclas performed hperf _ hfailure

def statusEnvelope : EffectEnvelope SecretaryActionEffect :=
  ⟨⟨⟨⟨7⟩⟩, effectStep, ActionGraph.l0ExecuteId, 0⟩, ⟨statusProposal⟩⟩

/-- Every plan is a status query, which is carried out at once. -/
def statusService : PlannerUseCase where
  leaseSecs := 60
  graphs := {
    runCheckpointed := fun _ _ => .call statusEnvelope fun answer =>
      match answer with
      | .ok _ => .done (.error (.graph .missingOutcome))
      | .error error =>
        .done (.error (.graph (.effectFailed ActionGraph.l0ExecuteId statusEnvelope.id [] error)))
    resume := fun _ _ _ => .done (.error (.runFailed .missingStore)) }

/-- The receipt is stored, but the answer of the database gets lost. The run is claimed again in the
same second. -/
def lostAnswer : List Move :=
  created ++ .start (.runOnce statusService "worker-1" (token "lease-1") "resp-1") ::
    List.replicate 7 (.step 1 { now := 1000000 }) ++
    .step 1 { now := 1000000, fault := some (.lost (.database "connection reset")) } ::
    List.replicate 4 (.step 1 { now := 1000000 }) ++
    .start (.runOnce statusService "worker-1" (token "lease-3") "resp-2") ::
    List.replicate 3 (.step 2 { now := 1000000 })

theorem unknown_commit_executed_again :
    (poolAfter directory lostAnswer).trace.filterMap (·.call.failure) =
      [(runId, token "lease-1", some (.effectFailed ActionGraph.l0ExecuteId statusEnvelope.id []
        (toEffectError (.database "connection reset"))))] ∧
    (toEffectError (.database "connection reset")).kind = .unknownCommit ∧
    timesFrom (claimsRun runId) (Store.new directory) (statementsOf directory lostAnswer) = 2 ∧
    ¬ RetriesClassified Classified 2 directory lostAnswer runId := by
  refine ⟨by decide, rfl, by decide, fun h => ?_⟩
  have hlen : 12 < (poolAfter directory lostAnswer).trace.length := by decide
  have hspl : (poolAfter directory lostAnswer).trace =
      (poolAfter directory lostAnswer).trace.take 12 ++ (poolAfter directory lostAnswer).trace[12] ::
        (poolAfter directory lostAnswer).trace.drop 13 := by
    rw [List.getElem_cons_drop, List.take_append_drop]
  have hfail : ∃ earlier ∈ (poolAfter directory lostAnswer).trace.take 12,
      earlier.call.failure = some (runId, token "lease-1",
        some (.effectFailed ActionGraph.l0ExecuteId statusEnvelope.id []
          (toEffectError (.database "connection reset")))) := by decide
  obtain ⟨earlier, hear, hcause⟩ := hfail
  have hwaits : Waits runId (Pool.replay perform { directory }
      ((poolAfter directory lostAnswer).trace.take 12 ++
        [(poolAfter directory lostAnswer).trace[12]])) := by
    clear h hspl hear hcause
    decide +revert
  have hclas := h.onlyRetryable _ _ _ hspl (token "lease-1") (by decide) hwaits
    earlier hear _ hcause
  revert hclas
  decide

end Scripted

end ServerRS.PlannerService

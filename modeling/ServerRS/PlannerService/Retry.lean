import ServerRS.PlannerService.History

/-!
# Effects of a run that is retried

The receipt of an effect is stored under an id that names the graph run which executed the
effect. A resume goes on with the graph run that was suspended; a run that is claimed from
`pending` gets a new one. So the receipts of an action run are those of one graph run as long
as no run is claimed again that has a receipt already (`effects_committed_once`); a run that is
claimed again after its effect was committed commits it a second time
(`retried_run_commits_twice`).
-/

namespace ServerRS.PlannerService

open Lib AgentCore ActionStore

/-! ## Ids of effects -/

def graphRunPart (effectId : String) : String := .ofList (effectId.toList.takeWhile (· ≠ '/'))

section Ids

variable [UuidFormat]

theorem graphRunPart_effectText (id : EffectId) :
    graphRunPart (effectText id) = UuidFormat.text id.runId.uuid := by
  have hnone : ∀ c ∈ (UuidFormat.text id.runId.uuid).toList, decide (c ≠ '/') = true := by
    intro c hc
    rw [decide_eq_true_iff]
    rintro rfl
    exact UuidFormat.slash_notMem_text _ hc
  unfold graphRunPart effectText
  rw [String.append_assoc, String.append_assoc, String.append_assoc, String.append_assoc,
    String.append_assoc, String.toList_append, List.takeWhile_append_of_pos hnone]
  simp

end Ids

/-! ## What an execution does in the name of its graph run

`graphOf` is the graph run of the execution that a token was generated for, `checkpointRun` the
graph run that a checkpoint belongs to. -/

section Owned

variable [UuidFormat] (graphOf : ActionLeaseToken → RunId) (checkpointRun : String → RunId)

/-- The effects and the checkpoints of the statement are those of the graph run of its token. -/
def Owned : Statement → Prop
  | .applyEffect _ _ effectId _ token _ =>
    ∃ id : EffectId, id.runId = graphOf token ∧ effectId = effectText id
  | .markSuspended _ token checkpoint _ => checkpointRun checkpoint.checkpointId = graphOf token
  | .claimSuspended claim _ _ token => graphOf token = checkpointRun claim.checkpointId
  | _ => True

/-- A part of an execution that only sends statements of its own graph run. -/
abbrev SendsOwned {α : Type} (p : Process Call Call.Answer α) (Q : α → Prop) : Prop :=
  p.Along Truthful
    (fun call => ∀ statement, call = .statement statement → Owned graphOf checkpointRun statement) Q

section Calls

variable {graphOf checkpointRun} {runId : ActionRunId} {token : ActionLeaseToken}

theorem EffectCall.owned {id : EffectId} {call : Call} (h : EffectCall runId token (effectText id) call)
    (hid : id.runId = graphOf token) :
    ∀ statement, call = .statement statement → Owned graphOf checkpointRun statement := by
  rintro statement rfl
  cases h
  exact ⟨id, hid, rfl⟩

theorem clock_owned {ε : Type} :
    SendsOwned graphOf checkpointRun (Service.clock : Service ε Timestamp).run fun _ => True :=
  ⟨fun _ h => (nomatch h), fun _ _ => trivial⟩

theorem statement_owned {statement : Statement} (h : Owned graphOf checkpointRun statement) :
    SendsOwned graphOf checkpointRun (Service.ask (.statement statement)).run fun _ => True :=
  along_ask fun other hoth => by
    cases hoth
    exact h

theorem storing_owned {α : Type} {x : Service ActionStoreError α}
    (h : SendsOwned graphOf checkpointRun x.run fun _ => True) :
    SendsOwned graphOf checkpointRun (storing x).run fun _ => True :=
  along_mapError h

theorem audit_owned {detail : AuditDetail} :
    SendsOwned graphOf checkpointRun (storing (Service.ask (.appendAudit runId detail))).run
      fun _ => True :=
  storing_owned (along_ask fun _ h => nomatch h)

theorem handleFailure_owned {error : PlannerUseCaseError} {attempt : UInt32} :
    SendsOwned graphOf checkpointRun
      (PlannerUseCase.handleFailure runId token error attempt).run fun _ => True := by
  unfold PlannerUseCase.handleFailure
  split
  · refine along_seq (along_seq clock_owned fun _ => trivial) fun now => ?_
    refine along_seq clock_owned fun at_ => ?_
    exact along_seq (storing_owned (statement_owned trivial)) fun _ => trivial
  · refine along_seq clock_owned fun at_ => ?_
    exact along_seq (storing_owned (statement_owned trivial)) fun _ => trivial

theorem graphFailed_owned {α : Type} {cause : Option GraphRunError} {text : String} :
    SendsOwned graphOf checkpointRun (graphFailed runId token cause text :
        Service PlannerUseCaseError α).run
      fun result => ∃ error, result = .error error :=
  ⟨fun _ h => (nomatch h), fun _ _ => ⟨_, rfl⟩⟩

end Calls

section Graphs

variable [ActionGraph.ActionFormat]

/-- A graph that has suspended has suspended at a checkpoint of its run. -/
def EndsOwn {ε : Type} (graphRun : RunId) : Except ε (GraphExecutionResult SecretaryAgentState) → Prop
  | .ok (.suspended checkpoint) => checkpointRun (checkpointText checkpoint.id) = graphRun
  | _ => True

/-- A graph that dispatches the effects of one graph run, and suspends at its checkpoints. -/
def OwnGraph {ε : Type} (graphRun : RunId) (graph : GraphProcess ε) : Prop :=
  graph.Along (fun _ _ => True) (fun envelope => envelope.id.runId = graphRun)
    (EndsOwn checkpointRun graphRun)

/-- A program executes the graph run of its token; a resume, the one of its checkpoint. -/
def Program.Sound [GraphErrorFormat] : Program → Prop
  | .runOnce service _ token _ => ∀ claimed state, claimed.leaseToken = token →
    OwnGraph checkpointRun (graphOf token) (service.graphs.runCheckpointed claimed state)
  | .resumeRun service _ checkpointId input token _ => graphOf token = checkpointRun checkpointId ∧
    ∀ claimed uuid, UuidFormat.parse checkpointId = .ok uuid →
      OwnGraph checkpointRun (graphOf token) (service.graphs.resume claimed ⟨uuid⟩ input)
  | .ensureActionRun _ _ _ => True
  | .elsewhere _ => True

variable {graphOf checkpointRun} {runId : ActionRunId} {token : ActionLeaseToken}
  {responseId : String}

theorem graph_owned {ε : Type} {graph : GraphProcess ε}
    (h : OwnGraph checkpointRun (graphOf token) graph) :
    SendsOwned graphOf checkpointRun
      (graph.interpret fun envelope => executeEffect runId token envelope)
      (EndsOwn checkpointRun (graphOf token)) :=
  Process.Along.interpret h fun envelope hid =>
    executeEffect_along runId token envelope fun _ hcall => hcall.owned hid

theorem finishRun_owned {ε : Type} {result : GraphExecutionResult SecretaryAgentState}
    (h : EndsOwn checkpointRun (graphOf token) (.ok result : Except ε _)) :
    SendsOwned graphOf checkpointRun (finishRun runId token responseId result).run fun _ => True := by
  unfold finishRun
  cases result with
  | completed completed =>
    refine along_seq (along_seq clock_owned fun _ => trivial) fun now => ?_
    refine along_seq clock_owned fun at_ => ?_
    refine along_seq (storing_owned (statement_owned trivial)) fun _ => ?_
    exact along_seq audit_owned fun _ => trivial
  | suspended checkpoint =>
    refine along_seq clock_owned fun at_ => ?_
    refine along_seq (storing_owned (statement_owned h)) fun _ => ?_
    exact along_seq audit_owned fun _ => trivial

/-- The graph of an execution, and what is made of an error of it. -/
theorem graphPart_owned {ε : Type} {graph : GraphProcess ε} {cause : ε → Option GraphRunError}
    {text : ε → String} (h : OwnGraph checkpointRun (graphOf token) graph) :
    SendsOwned graphOf checkpointRun (do
      let result ← ExceptT.lift (graph.interpret fun envelope => executeEffect runId token envelope)
      graphResult runId token cause text result : Service PlannerUseCaseError _).run
      (EndsOwn checkpointRun (graphOf token)) := by
  refine Process.Along.bindExcept (graph_owned h).lift (fun result hres => ?_) fun _ _ => trivial
  cases result with
  | error error =>
    refine graphFailed_owned.mono ?_
    rintro _ ⟨_, rfl⟩
    trivial
  | ok result =>
    have hend := hres _ rfl
    cases result with
    | completed completed => trivial
    | suspended checkpoint => exact hend

variable [GraphErrorFormat] {service : PlannerUseCase} {claimed : ClaimedActionRun}

theorem runGraph_owned (htok : claimed.leaseToken = token)
    (h : ∀ state, OwnGraph checkpointRun (graphOf token) (service.graphs.runCheckpointed claimed state)) :
    SendsOwned graphOf checkpointRun (service.runGraph claimed).run
      (EndsOwn checkpointRun (graphOf token)) := by
  unfold PlannerUseCase.runGraph
  rw [htok]
  split
  · refine graphFailed_owned.mono ?_
    rintro _ ⟨_, rfl⟩
    trivial
  · next state _ => exact graphPart_owned (h state)

variable {input : SecretaryActionResumeInput}

theorem resumeGraph_owned {id : CheckpointId} (htok : claimed.leaseToken = token)
    (h : OwnGraph checkpointRun (graphOf token) (service.graphs.resume claimed id input)) :
    SendsOwned graphOf checkpointRun (service.resumeGraph runId id input claimed).run
      (EndsOwn checkpointRun (graphOf token)) := by
  unfold PlannerUseCase.resumeGraph
  rw [htok]
  exact Process.Along.bindExcept audit_owned (fun _ _ => graphPart_owned h) fun _ _ => trivial

theorem runOnce_owned {workerId : String} (h : ∀ claimed state, claimed.leaseToken = token →
      OwnGraph checkpointRun (graphOf token) (service.graphs.runCheckpointed claimed state)) :
    SendsOwned graphOf checkpointRun (service.runOnce workerId token responseId).run
      fun _ => True := by
  unfold PlannerUseCase.runOnce
  refine Process.Along.bindExcept (Q := ClaimedUnder token) (storing_claimed ?_) (fun claimed hcld => ?_)
    fun _ _ => trivial
  · refine claimPendingRun_along (fun _ _ h => h) ?_ ?_ ?_ ?_
    · exact fun _ h => nomatch h
    · exact fun _ h => nomatch h
    · rintro now _ ⟨⟩
      trivial
    · rintro workerId leaseExpires now _ ⟨⟩
      trivial
  · cases claimed with
    | none => trivial
    | some claimed =>
      have htok := hcld claimed rfl
      have hexe : SendsOwned graphOf checkpointRun
          (service.executeClaimed claimed responseId).run fun _ => True := by
        unfold PlannerUseCase.executeClaimed
        rw [htok]
        exact Process.Along.bindExcept (runGraph_owned htok fun state => h claimed state htok)
          (fun result hres => finishRun_owned hres) fun _ _ => trivial
      refine Process.Along.bindExcept hexe.lift (fun report _ => ?_) fun _ _ => trivial
      cases report with
      | ok report => trivial
      | error error =>
        exact Process.Along.bindExcept handleFailure_owned.lift (fun _ _ => trivial)
          fun _ _ => trivial

theorem resumeRun_owned {checkpointId : String} (hrun : graphOf token = checkpointRun checkpointId)
    (h : ∀ claimed uuid, UuidFormat.parse checkpointId = .ok uuid →
      OwnGraph checkpointRun (graphOf token) (service.graphs.resume claimed ⟨uuid⟩ input)) :
    SendsOwned graphOf checkpointRun
      (service.resumeRun runId checkpointId input token responseId).run fun _ => True := by
  unfold PlannerUseCase.resumeRun
  split
  · trivial
  · next uuid huuid =>
    refine along_seq (along_seq clock_owned fun _ => trivial) fun now => ?_
    refine Process.Along.bindExcept (Q := ClaimedUnder token) (storing_claimed ?_)
        (fun claimed hcld => ?_)
      fun _ _ => trivial
    · refine claimSuspendedRun_along (fun _ _ h => h) ?_ ?_
      · exact fun _ h => nomatch h
      · rintro leaseExpires now _ ⟨⟩
        exact hrun
    · cases claimed with
      | none => trivial
      | some claimed =>
        have htok := hcld claimed rfl
        refine Process.Along.bindExcept (resumeGraph_owned htok (h claimed uuid huuid))
          (fun result hres => ?_) fun _ _ => trivial
        rw [htok]
        exact finishRun_owned hres

theorem program_owned {program : Program} (h : program.Sound graphOf checkpointRun) :
    SendsOwned graphOf checkpointRun program.process fun _ => True := by
  cases program with
  | runOnce service workerId token responseId =>
    exact (runOnce_owned h).bind fun _ _ => trivial
  | resumeRun service runId checkpointId input token responseId =>
    exact (resumeRun_owned h.1 h.2).bind fun _ _ => trivial
  | ensureActionRun runId seed now =>
    have hown : Owned graphOf checkpointRun (.ensureActionRun runId seed now) := trivial
    exact (statement_owned hown).bind fun _ _ => trivial
  | elsewhere directory =>
    have hown : Owned graphOf checkpointRun (.elsewhere directory) := trivial
    exact (statement_owned hown).bind fun _ _ => trivial

end Graphs

/-! ## What the store knows of a graph run -/

section Commits

/-- The run has no receipt. -/
def Uncommitted (db : ActionDb) (runId : ActionRunId) : Prop :=
  ∀ receipt ∈ db.receipts, receipt.runId ≠ runId

/-- One graph run has committed the effects of the row's run, and it is the one that the run goes
on with. -/
structure CommittedBy (db : ActionDb) (row : ActionRunRow) (graphRun : RunId) : Prop where
  receipts : ∀ receipt ∈ db.receipts, receipt.runId = row.runId →
    ∃ id : EffectId, id.runId = graphRun ∧ receipt.effectId = effectText id
  running : row.status = .running → ∀ token, row.leaseToken = some token → graphOf token = graphRun
  suspended : row.status = .suspended → ∀ checkpoint, row.lastCheckpoint = some checkpoint →
    checkpointRun checkpoint.checkpointId = graphRun

/-- Every receipt is the receipt of a run, and every run has its receipts of one graph run. -/
structure Attributed (db : ActionDb) : Prop where
  rows : ∀ receipt ∈ db.receipts, ∃ row ∈ db.runs, row.runId = receipt.runId
  each : ∀ row ∈ db.runs, Uncommitted db row.runId ∨
    ∃ graphRun, CommittedBy graphOf checkpointRun db row graphRun

def ClaimsUncommitted (db : ActionDb) : Statement → Prop
  | .claimOldest _ _ now _ => ∀ runId ∈ db.pick now, Uncommitted db runId
  | _ => True

/-- No run is claimed from `pending` that has a receipt. -/
def ClaimsBeforeEffects [ResponseFormat] (directory : Directory) (statements : List Statement) :
    Prop :=
  ∀ before statement after, statements = before ++ statement :: after →
    ClaimsUncommitted (dbAfter directory before) statement

variable {graphOf checkpointRun} {db db' : ActionDb} {statement : Statement}
  {row row' : ActionRunRow} {graphRun : RunId}

/-- A row that is not claimed from `pending` keeps its graph run. -/
theorem CommittedBy.change (h : CommittedBy graphOf checkpointRun db row graphRun)
    {directory : Directory} (hchg : RowChange directory statement row row')
    (hown : Owned graphOf checkpointRun statement)
    (hrcps : ∀ receipt ∈ db'.receipts, receipt.runId = row.runId → receipt ∈ db.receipts)
    (hcl : ∀ workerId leaseExpires now token,
      statement ≠ .claimOldest workerId leaseExpires now token) :
    CommittedBy graphOf checkpointRun db' row' graphRun := by
  have hsame : ∀ receipt ∈ db'.receipts, receipt.runId = row.runId →
      ∃ id : EffectId, id.runId = graphRun ∧ receipt.effectId = effectText id :=
    fun receipt hrcp hrun => h.receipts receipt (hrcps receipt hrcp hrun) hrun
  cases hchg with
  | keep => exact ⟨hsame, h.running, h.suspended⟩
  | expire => exact ⟨hsame, nofun, nofun⟩
  | claim => exact absurd rfl (hcl _ _ _ _)
  | resume hfor =>
    obtain ⟨-, hstat, -, checkpoint, hckpt, hid, -⟩ := SuspendedRunClaim.isFor_spec hfor
    refine ⟨hsame, ?_, nofun⟩
    rintro - _ ⟨⟩
    rw [hown, ← hid]
    exact h.suspended hstat checkpoint hckpt
  | suspend held =>
    obtain ⟨-, htok, hstat⟩ := ActionRunRow.isHeld_iff.mp held
    refine ⟨hsame, nofun, ?_⟩
    rintro - _ ⟨⟩
    rw [hown]
    exact h.running hstat _ htok
  | take held =>
    obtain ⟨-, -, hstat⟩ := ActionRunRow.isHeld_iff.mp held
    exact ⟨hsame, h.running, fun hsusp => nomatch hstat.symm.trans hsusp⟩
  | touch => exact ⟨hsame, h.running, h.suspended⟩
  | complete => exact ⟨hsame, nofun, nofun⟩
  | fail => exact ⟨hsame, nofun, nofun⟩
  | release => exact ⟨hsame, nofun, nofun⟩

variable {token : ActionLeaseToken} {answer : Except ActionStoreError Answer}

/-- A row whose run gets its receipt under the token of the row. -/
theorem CommittedBy.commit {receipt : EffectReceiptRow} {effect : SecretaryActionEffect}
    {effectId resultRef : String} {now : Timestamp} {directory : Directory}
    (h : Uncommitted db row.runId ∨ ∃ graphRun, CommittedBy graphOf checkpointRun db row graphRun)
    (held : row.isHeld receipt.runId token = true)
    (hchg : RowChange directory (.applyEffect receipt.runId effect effectId resultRef token now)
      row row') (hrcps : db'.receipts = db.receipts ++ [receipt])
    (hown : ∃ id : EffectId, id.runId = graphOf token ∧ receipt.effectId = effectText id) :
    CommittedBy graphOf checkpointRun db' row' (graphOf token) := by
  obtain ⟨-, hrowToken, hrng⟩ := ActionRunRow.isHeld_iff.mp held
  have hrcp : ∀ other ∈ db'.receipts, other.runId = row.runId →
      ∃ id : EffectId, id.runId = graphOf token ∧ other.effectId = effectText id := by
    intro other hoth hrun
    rw [hrcps, List.mem_append, List.mem_singleton] at hoth
    rcases hoth with hoth | rfl
    · rcases h with hnone | ⟨graphRun, hcomm⟩
      · exact absurd hrun (hnone other hoth)
      · rw [hcomm.running hrng token hrowToken]
        exact hcomm.receipts other hoth hrun
    · exact hown
  have hsame : ∀ other, row.leaseToken = some other → graphOf other = graphOf token := by
    intro other hoth
    cases hrowToken.symm.trans hoth
    rfl
  cases hchg with
  | keep =>
    exact ⟨hrcp, fun _ => hsame, fun hsusp => nomatch hrng.symm.trans hsusp⟩
  | touch =>
    exact ⟨hrcp, fun _ => hsame, fun hsusp => nomatch hrng.symm.trans hsusp⟩

/-- A run that is claimed from `pending` without a receipt may get another graph run. -/
theorem attributed_claim [ResponseFormat] (h : Attributed graphOf checkpointRun db)
    {workerId : String} {leaseExpires now : Timestamp}
    (hexec : (Statement.claimOldest workerId leaseExpires now token).exec db = (answer, db'))
    (hcl : ClaimsUncommitted db (.claimOldest workerId leaseExpires now token)) :
    Attributed graphOf checkpointRun db' := by
  obtain ⟨affected, hcld, -⟩ := map_eq hexec
  cases hcld
  constructor
  · intro receipt hrcp
    obtain ⟨row, hrow, hid⟩ := h.rows receipt hrcp
    refine ⟨_, mem_updateWhere.mpr ⟨row, hrow, rfl⟩, ?_⟩
    split <;> exact hid
  · intro row' hrow'
    obtain ⟨row, hrow, hset⟩ := mem_updateWhere.mp hrow'
    split at hset
    · next hpick =>
      subst hset
      exact .inl (hcl row.runId (by simpa using hpick))
    · subst hset
      rcases h.each row hrow with hnone | ⟨graphRun, hcomm⟩
      · exact .inl hnone
      · exact .inr ⟨graphRun, hcomm.receipts, hcomm.running, hcomm.suspended⟩

/-- What one statement keeps. -/
theorem attributed_step [ResponseFormat] (keyed : db.Keyed)
    (h : Attributed graphOf checkpointRun db) (hexec : statement.exec db = (answer, db'))
    (hown : Owned graphOf checkpointRun statement) (hcl : ClaimsUncommitted db statement) :
    Attributed graphOf checkpointRun db' := by
  by_cases hstmt : ∃ workerId leaseExpires now token,
      statement = .claimOldest workerId leaseExpires now token
  · obtain ⟨workerId, leaseExpires, now, token, rfl⟩ := hstmt
    exact attributed_claim h hexec hcl
  · push Not at hstmt
    have hruns : RunsChange statement db db' := exec_runs keyed hexec
    have hrcps := exec_receipts keyed hexec
    have hrow : ∀ row ∈ db.runs, ∃ row' ∈ db'.runs, row'.runId = row.runId := by
      intro row hrow
      obtain ⟨row', hrow', hchg⟩ := hruns.row_before hrow
      exact ⟨row', hrow', hchg.runId⟩
    constructor
    · intro receipt hrcp
      have hheld : ∃ row ∈ db.runs, row.runId = receipt.runId := by
        rcases hrcps with hsame |
          ⟨runId, effect, effectId, resultRef, token, now, new, rfl, ⟨row, hmem, held⟩, hadded, hid, -⟩
        · rw [hsame] at hrcp
          exact h.rows receipt hrcp
        · rw [hadded, List.mem_append, List.mem_singleton] at hrcp
          rcases hrcp with hrcp | rfl
          · exact h.rows receipt hrcp
          · exact ⟨row, hmem, (ActionRunRow.isHeld_iff.mp held).1.trans hid.symm⟩
      obtain ⟨row, hmem, hid⟩ := hheld
      obtain ⟨row', hmem', hid'⟩ := hrow row hmem
      exact ⟨row', hmem', hid'.trans hid⟩
    · intro row' hrow'
      obtain ⟨change, new, haft, hchg, hnew⟩ := hruns.runs
      rw [haft, List.mem_append, List.mem_map] at hrow'
      rcases hrow' with ⟨row, hmem, rfl⟩ | hrow'
      · rcases hrcps with hsame |
          ⟨runId, effect, effectId, resultRef, token, now, receipt, rfl, ⟨row₀, hmem₀, held⟩, hadded,
            rfl, rfl⟩
        · rcases h.each row hmem with hnone | ⟨graphRun, hcomm⟩
          · refine .inl ?_
            rw [(hchg row hmem).runId, Uncommitted, hsame]
            exact hnone
          · refine .inr ⟨graphRun, hcomm.change (hchg row hmem) hown ?_ hstmt⟩
            intro receipt hrcp _
            rwa [hsame] at hrcp
        · by_cases hid : row.runId = receipt.runId
          · have hrow₀ : row₀ = row := eq_of_key_eq keyed.runs hmem₀ hmem
              ((ActionRunRow.isHeld_iff.mp held).1.trans hid.symm)
            subst hrow₀
            exact .inr ⟨_, CommittedBy.commit (h.each row₀ hmem) held (hchg row₀ hmem) hadded hown⟩
          · have hold : ∀ other ∈ db'.receipts, other.runId = row.runId → other ∈ db.receipts := by
              intro other hoth hrun
              rw [hadded, List.mem_append, List.mem_singleton] at hoth
              rcases hoth with hoth | rfl
              · exact hoth
              · exact absurd hrun.symm hid
            rcases h.each row hmem with hnone | ⟨graphRun, hcomm⟩
            · refine .inl ?_
              rw [(hchg row hmem).runId]
              exact fun other hoth hrun => hnone other (hold other hoth hrun) hrun
            · exact .inr ⟨graphRun, hcomm.change (hchg row hmem) hown hold hstmt⟩
      · rcases hnew with rfl | ⟨runId, seed, accountId, now, rfl, rfl, hfr⟩
        · cases hrow'
        · -- the run is new, so no receipt can be its
          rw [List.mem_singleton] at hrow'
          subst hrow'
          refine .inl fun receipt hrcp hrun => ?_
          rcases hrcps with hsame | ⟨_, _, _, _, _, _, _, ⟨⟩, -⟩
          rw [hsame] at hrcp
          obtain ⟨row, hmem, hid⟩ := h.rows receipt hrcp
          exact hfr row hmem (hid.trans hrun)

variable [ResponseFormat] {directory : Directory} {statements : List Statement}

omit [UuidFormat] in
theorem ClaimsBeforeEffects.init {last : Statement}
    (h : ClaimsBeforeEffects directory (statements ++ [last])) :
    ClaimsBeforeEffects directory statements := by
  rintro before statement after rfl
  exact h before statement (after ++ [last]) (by simp)

/-- What all statements keep. -/
theorem attributed_after (hown : ∀ statement ∈ statements, Owned graphOf checkpointRun statement)
    (hcla : ClaimsBeforeEffects directory statements) :
    Attributed graphOf checkpointRun (dbAfter directory statements) := by
  induction statements using List.reverseRecOn with
  | nil => exact ⟨fun _ h => absurd h List.not_mem_nil, fun _ h => absurd h List.not_mem_nil⟩
  | append_singleton statements last ih =>
    have hbef := ih (fun statement hmem => hown statement (List.mem_append_left _ hmem))
      hcla.init
    rw [dbAfter_snoc]
    exact attributed_step dbAfter_keyed hbef rfl (hown last (by simp)) (hcla statements last [] rfl)

end Commits

/-! ## Effects are committed once -/

/-- All receipts of the run are those of one graph run, and who applies an effect again that has
a receipt is answered with it or has lost the lease; nothing more is stored. -/
structure EffectsCommittedOnce [ResponseFormat] (db : ActionDb) (runId : ActionRunId) : Prop where
  oneGraphRun : ∀ receipt ∈ db.receipts, ∀ other ∈ db.receipts, receipt.runId = runId →
    other.runId = runId → graphRunPart other.effectId = graphRunPart receipt.effectId
  foundAgain : ∀ receipt ∈ db.receipts, receipt.runId = runId →
    ∀ effect resultRef token now,
      let again :=
        (Statement.applyEffect runId effect receipt.effectId resultRef token now).exec db
      again.2.receipts = db.receipts ∧ (again.1 = .error .leaseLost ∨
        again.1 = .ok (.receipt ⟨receipt.proposal.proposalId, receipt.resultRef, none⟩))

variable {graphOf checkpointRun} {db : ActionDb} {runId : ActionRunId}

omit [UuidFormat] in
theorem found_again [ResponseFormat] (keyed : db.Keyed) {receipt : EffectReceiptRow}
    (hrcp : receipt ∈ db.receipts) (hid : receipt.runId = runId) (effect : SecretaryActionEffect)
    (resultRef : String) (token : ActionLeaseToken) (now : Timestamp) :
    let again := (Statement.applyEffect runId effect receipt.effectId resultRef token now).exec db
    again.2.receipts = db.receipts ∧ (again.1 = .error .leaseLost ∨
      again.1 = .ok (.receipt ⟨receipt.proposal.proposalId, receipt.resultRef, none⟩)) := by
  subst hid
  intro again
  have hagain : (Answer.receipt <$> ActionStore.applyEffect receipt.runId effect receipt.effectId
      resultRef token now) db = (again.1, again.2) := rfl
  obtain ⟨result, hexec, hans⟩ := map_eq hagain
  obtain ⟨hrcps, hlost | hfnd⟩ := applyEffect_stored keyed hrcp hexec
  · subst hlost
    exact ⟨hrcps, .inl hans⟩
  · subst hfnd
    exact ⟨hrcps, .inr hans⟩

theorem Attributed.one_graph_run (h : Attributed graphOf checkpointRun db) :
    ∀ receipt ∈ db.receipts, ∀ other ∈ db.receipts, receipt.runId = runId → other.runId = runId →
      graphRunPart other.effectId = graphRunPart receipt.effectId := by
  intro receipt hrcp other hoth hid hid'
  obtain ⟨row, hrow, hrun⟩ := h.rows receipt hrcp
  rcases h.each row hrow with hnone | ⟨graphRun, hcomm⟩
  · exact absurd hrun.symm (hnone receipt hrcp)
  · obtain ⟨id, hgr, heff⟩ := hcomm.receipts receipt hrcp hrun.symm
    obtain ⟨id', hgr', heff'⟩ := hcomm.receipts other hoth
      (hid'.trans (hid.symm.trans hrun.symm))
    rw [heff, heff', graphRunPart_effectText, graphRunPart_effectText, hgr, hgr']

/-- In every history in which no run is claimed from `pending` once it has a receipt, the effects
of a run are committed by one graph run, and each once. -/
theorem effects_committed_once [ActionGraph.ActionFormat] [GraphErrorFormat] {directory : Directory}
    {moves : List Move}
    (hsound : ∀ program, .start program ∈ moves → program.Sound graphOf checkpointRun)
    (hclaims : ClaimsBeforeEffects directory (statementsOf directory moves)) (runId : ActionRunId) :
    EffectsCommittedOnce (poolAfter directory moves).state runId := by
  rw [store_eq]
  have hown : ∀ statement ∈ statementsOf directory moves, Owned graphOf checkpointRun statement :=
    statements_along (fun program hsta => program_owned (hsound program hsta)) trace_truthful
  constructor
  · exact (attributed_after hown hclaims).one_graph_run
  · intro receipt hrcp hid
    exact found_again dbAfter_keyed hrcp hid

end Owned

section Scripted

open PlannerService.Scripted ActionGraph.Scripted

instance (db : ActionDb) (runId : ActionRunId) : Decidable (Uncommitted db runId) :=
  inferInstanceAs (Decidable (∀ receipt ∈ db.receipts, _))

instance (db : ActionDb) : (statement : Statement) → Decidable (ClaimsUncommitted db statement)
  | .claimOldest _ _ now _ => inferInstanceAs (Decidable (∀ runId ∈ db.pick now, _))
  | .ensureActionRun .. | .reclaimExpired .. | .claimSuspended .. | .markSuspended ..
  | .takeCheckpoint .. | .applyEffect .. | .markCompleted .. | .markFailed .. | .releaseLease ..
  | .elsewhere .. => .isTrue trivial

theorem claimsBeforeEffects_iff {directory : Directory} {statements : List Statement} :
    ClaimsBeforeEffects directory statements ↔ ∀ i : Fin statements.length,
      ClaimsUncommitted (dbAfter directory (statements.take i)) (statements.get i) := by
  constructor
  · intro h i
    refine h _ _ (statements.drop (i + 1)) ?_
    rw [List.get_eq_getElem, List.getElem_cons_drop, List.take_append_drop]
  · rintro h before statement after rfl
    have hat := h ⟨before.length, by simp⟩
    simpa using hat

instance (directory : Directory) (statements : List Statement) :
    Decidable (ClaimsBeforeEffects directory statements) :=
  decidable_of_iff _ claimsBeforeEffects_iff.symm

/-- The first worker is dropped as soon as it has claimed the run. -/
def droppedEarly : List Move :=
  created ++ plannedAt 1 (token "lease-1") 1000000 4 ++ .drop 1 ::
    plannedAt 1 (token "lease-3") 100000000 8 ++ approvedAt 2 ⟨8⟩ (token "lease-4") 110000000

theorem droppedEarly_sound (program : Program) (h : .start program ∈ droppedEarly) :
    program.Sound executedBy suspendedRun := by
  have hstarted : program = .ensureActionRun runId ActionStore.Scripted.seed 0 ∨
      program = .runOnce taskService "worker-1" (token "lease-1") "resp-1" ∨
      program = .runOnce taskService "worker-1" (token "lease-3") "resp-1" ∨
      program = .resumeRun taskService runId (uuidText ⟨8⟩)
        (decision (taskOf ⟨8⟩).proposalId .approve) (token "lease-4") "resp-2" := by
    simpa [droppedEarly, created, plannedAt, approvedAt] using h
  have hplan : ∀ lease, suspendedRun (uuidText (executedBy lease).uuid) = executedBy lease →
      (Program.runOnce taskService "worker-1" lease "resp-1").Sound executedBy suspendedRun := by
    rintro lease hsame claimed state rfl
    exact hsame
  rcases hstarted with rfl | rfl | rfl | rfl
  · trivial
  · exact hplan _ (by decide)
  · exact hplan _ (by decide)
  · have hgr : executedBy (token "lease-4") = suspendedRun (uuidText ⟨8⟩) := by decide +kernel
    refine ⟨hgr, fun claimed uuid hparse => ⟨?_, fun _ _ => trivial⟩⟩
    rw [hgr]
    exact (suspendedRun_ok hparse).symm

theorem effects_committed_once_droppedEarly :
    (poolAfter directory droppedEarly).state.receipts.length = 1 ∧
      EffectsCommittedOnce (poolAfter directory droppedEarly).state runId :=
  ⟨by decide, effects_committed_once droppedEarly_sound (by decide) runId⟩

/-- The Owner has approved the task, and the graph fails once it is carried out. When the lease is
over, the run is planned anew, as a graph run of another name, and carries it out again. -/
def failedLate : List Move :=
  created ++ plannedAt 1 (token "lease-1") 1000000 8 ++
    approvedAt 2 ⟨7⟩ (token "lease-2") 2000000 ++ plannedAt 3 (token "lease-3") 100000000 8 ++
    approvedAt 4 ⟨8⟩ (token "lease-4") 110000000

def taskTitle : SecretaryAction → Option String
  | .createTask title _ _ => some title
  | _ => none

theorem retried_run_commits_twice :
    (poolAfter directory failedLate).state.receipts.map (fun receipt =>
        (receipt.runId, graphRunPart receipt.effectId, taskTitle receipt.proposal.action)) =
      [(runId, uuidText ⟨7⟩, some "买牛奶"), (runId, uuidText ⟨8⟩, some "买牛奶")] ∧
    ¬ EffectsCommittedOnce (poolAfter directory failedLate).state runId := by
  refine ⟨by decide +kernel, fun h => ?_⟩
  have hone := h.oneGraphRun
  revert hone
  decide +kernel

end Scripted

end ServerRS.PlannerService

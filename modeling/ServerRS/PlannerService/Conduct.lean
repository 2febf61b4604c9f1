import ServerRS.PlannerService.Service

/-!
# What an execution calls

For each part of the use case, the calls that it can come to make, whatever it is answered
(`Process.Along`), and for each call what it does to the database (`perform_db`).
-/

namespace ServerRS.PlannerService

open Lib AgentCore ActionStore

/-! ## Calls -/

theorem loadEffectReceipt_snd (runId : ActionRunId) (effectId : String) (db : ActionDb) :
    (ActionStore.loadEffectReceipt runId effectId db).2 = db := rfl

theorem listSuspendedRuns_snd (account : SourceAccountRef) (limit : UInt32) (db : ActionDb) :
    (ActionStore.listSuspendedRuns account limit db).2 = db := by
  unfold ActionStore.listSuspendedRuns
  split <;> rfl

theorem readClaimed_token {token : ActionLeaseToken} {db db' : ActionDb} {claimed : ClaimedActionRun}
    (h : ActionStore.readClaimed token db = (.ok claimed, db')) : claimed.leaseToken = token := by
  unfold ActionStore.readClaimed at h
  rw [Exec.get_bind_apply] at h
  cases hrow : db.runs.find? fun row => row.leaseToken == some token && row.status == .running with
  | none =>
    rw [hrow] at h
    cases h
  | some row =>
    rw [hrow] at h
    dsimp only at h
    cases hacc : db.directory.accounts.find? fun account => account.id == row.accountId with
    | none =>
      rw [hacc] at h
      cases h
    | some account =>
      rw [hacc] at h
      dsimp only at h
      cases hblank : isBlank account.platformAccountId with
      | true =>
        rw [hblank] at h
        cases h
      | false =>
        rw [hblank] at h
        cases h
        rfl

/-- A call to the store is carried out and answered, carried out without an answer, or refused. -/
theorem Tick.store_cases {α : Type} (tick : Tick) (op : Tx α) (db : ActionDb) :
    tick.store op db = op db ∨ (∃ error, tick.fault = some (.lost error) ∧
        tick.store op db = (.error error, (op db).2)) ∨
      ∃ error, tick.fault = some (.refused error) ∧ tick.store op db = (.error error, db) := by
  unfold Tick.store
  cases h : tick.fault with
  | none => exact .inl rfl
  | some fault =>
    cases fault with
    | refused error => exact .inr (.inr ⟨error, rfl, rfl⟩)
    | lost error => exact .inr (.inl ⟨error, rfl, rfl⟩)

theorem Tick.store_snd {α : Type} (tick : Tick) (op : Tx α) (db : ActionDb) :
    (tick.store op db).2 = db ∨ (tick.store op db).2 = (op db).2 := by
  rcases tick.store_cases op db with h | ⟨error, -, h⟩ | ⟨error, -, h⟩
  · exact .inr (by rw [h])
  · exact .inr (by rw [h])
  · exact .inl (by rw [h])

variable {tick : Tick}

/-- What the store does not refuse, it carries out. -/
theorem Tick.store_carried {α : Type} (h : ∀ error, tick.fault ≠ some (.refused error)) (op : Tx α)
    (db : ActionDb) : (tick.store op db).2 = (op db).2 := by
  rcases tick.store_cases op db with hop | ⟨error, -, hop⟩ | ⟨error, hfault, -⟩
  · rw [hop]
  · rw [hop]
  · exact absurd hfault (h error)

theorem Tick.store_refused {α : Type} {error : ActionStoreError}
    (h : tick.fault = some (.refused error)) (op : Tx α) (db : ActionDb) :
    tick.store op db = (.error error, db) := by
  unfold Tick.store
  rw [h]

/-- What the store answers, it answers without a fault. -/
theorem Tick.store_ok {α : Type} {op : Tx α} {db : ActionDb} {a : α} (Q : α → Prop)
    (hop : ∀ {a db'}, op db = (.ok a, db') → Q a) (h : (tick.store op db).1 = .ok a) : Q a := by
  rcases tick.store_cases op db with hop' | ⟨error, -, hlost⟩ | ⟨error, -, href⟩
  · rw [hop'] at h
    exact hop (Prod.ext h rfl)
  · rw [hlost] at h
    cases h
  · rw [href] at h
    cases h

section Perform

variable [ResponseFormat]

/-- A call that is not a statement leaves the database alone. -/
theorem perform_cases (tick : Tick) (call : Call) (db : ActionDb) :
    (∃ statement, call = .statement statement) ∨
      (∀ statement, call ≠ .statement statement) ∧ (perform tick call db).2 = db := by
  have read : ∀ {α : Type} (op : Tx α), (op db).2 = db → (tick.store op db).2 = db := by
    intro α op h
    rcases tick.store_snd op db with hsame | hop
    · exact hsame
    · exact hop.trans h
  cases call with
  | statement statement => exact .inl ⟨statement, rfl⟩
  | clock => exact .inr ⟨fun _ h => (nomatch h), rfl⟩
  | readClaimed token => exact .inr ⟨fun _ h => (nomatch h), read _ (readClaimed_snd token db)⟩
  | loadEffectReceipt runId effectId =>
    exact .inr ⟨fun _ h => (nomatch h), read _ (loadEffectReceipt_snd runId effectId db)⟩
  | listSuspendedRuns account limit =>
    exact .inr ⟨fun _ h => (nomatch h), read _ (listSuspendedRuns_snd account limit db)⟩
  | appendAudit runId detail => exact .inr ⟨fun _ h => (nomatch h), read _ rfl⟩
  | executeAction action => exact .inr ⟨fun _ h => (nomatch h), rfl⟩
  | graphFailed runId token cause => exact .inr ⟨fun _ h => (nomatch h), rfl⟩

/-- A statement is carried out, or has no effect. -/
theorem perform_db (tick : Tick) (call : Call) (db : ActionDb) :
    (perform tick call db).2 = db ∨
      ∃ statement, call = .statement statement ∧ (perform tick call db).2 = (statement.exec db).2 := by
  rcases perform_cases tick call db with ⟨statement, rfl⟩ | ⟨-, hsame⟩
  · rcases tick.store_snd statement.exec db with h | h
    · exact .inl h
    · exact .inr ⟨statement, rfl, h⟩
  · exact .inl hsame

end Perform

/-! ## Effects -/

/-- A call that carries out the effect `effectId` of a run. -/
inductive EffectCall (runId : ActionRunId) (token : ActionLeaseToken) (effectId : String) :
    Call → Prop where
  | clock : EffectCall runId token effectId .clock
  | load : EffectCall runId token effectId (.loadEffectReceipt runId effectId)
  | execute (action : SecretaryAction) : EffectCall runId token effectId (.executeAction action)
  | apply (effect : SecretaryActionEffect) (resultRef : String) (now : Timestamp) :
      EffectCall runId token effectId
        (.statement (.applyEffect runId effect effectId resultRef token now))

section Conduct

variable {A : (call : Call) → call.Answer → Prop} {P : Call → Prop}

theorem along_cast {α β : Type} {p : Process Call Call.Answer α} (h : α = β)
    (hp : p.Along A P fun _ => True) : (h ▸ p : Process Call Call.Answer β).Along A P fun _ => True := by
  subst h
  exact hp

theorem along_ask {ε α : Type} {call : Call} {hans : call.Answer = Except ε α} (h : P call) :
    (Service.ask call hans).run.Along A P fun _ => True :=
  along_cast hans ⟨h, fun _ _ => trivial⟩

theorem along_mapError {ε ε' α : Type} {f : ε → ε'} {x : Service ε α}
    (h : x.run.Along A P fun _ => True) : (x.mapError f).run.Along A P fun _ => True :=
  Process.Along.bind h fun _ _ => trivial

/-- A sequence whose parts make calls with `P` only. -/
theorem along_seq {ε α β : Type} {x : Service ε α} {f : α → Service ε β}
    (h : x.run.Along A P fun _ => True) (hf : ∀ a, (f a).run.Along A P fun _ => True) :
    (x >>= f).run.Along A P fun _ => True :=
  Process.Along.bindExcept h (fun a _ => hf a) fun _ _ => trivial

variable [UuidFormat]

theorem executeEffect_along (runId : ActionRunId) (token : ActionLeaseToken)
    (envelope : EffectEnvelope SecretaryActionEffect)
    (hP : ∀ call, EffectCall runId token (effectText envelope.id) call → P call) :
    (executeEffect runId token envelope).run.Along A P fun _ => True := by
  unfold executeEffect
  refine along_seq (along_mapError ?_) fun stored => ?_
  · unfold storedReceipt
    split
    · trivial
    · exact ⟨hP _ .load, fun _ _ => trivial⟩
  · cases stored with
    | some receipt => trivial
    | none =>
      refine along_seq ⟨hP _ (.execute _), fun _ _ => trivial⟩ fun resultRef => ?_
      refine along_seq (along_mapError ?_) fun receipt => trivial
      unfold applyEffect
      refine along_seq ⟨hP _ .clock, fun _ _ => trivial⟩ fun now => ?_
      refine along_seq ⟨hP _ (.apply _ _ _), fun _ _ => trivial⟩ fun answer => ?_
      unfold answeredReceipt
      split <;> trivial

/-- A graph whose effects are carried out for one run, under one token. -/
theorem interpret_along {ε : Type} [ActionGraph.ActionFormat] (runId : ActionRunId)
    (token : ActionLeaseToken) (graph : GraphProcess ε)
    (hP : ∀ effectId call, EffectCall runId token effectId call → P call) :
    (graph.interpret fun envelope => executeEffect runId token envelope).Along A P
      fun _ => True :=
  graph.along_trivial.interpret fun envelope _ =>
    executeEffect_along runId token envelope fun call h => hP _ call h

end Conduct

/-! ## Executions -/

/-- A call that neither claims a suspended run nor stands for the rest of the program. -/
def Call.Plain : Call → Prop
  | .statement (.claimSuspended _ _ _ _) => False
  | .statement (.elsewhere _) => False
  | _ => True

section Plain

variable {A : (call : Call) → call.Answer → Prop} {P : Call → Prop} {runId : ActionRunId}
  {token : ActionLeaseToken}

theorem claimedRow_plain (hpln : ∀ call : Call, call.Plain → P call) {answer : ActionStore.Answer} :
    (Service.claimedRow token answer).run.Along A P fun _ => True := by
  unfold Service.claimedRow
  split
  · exact along_seq (along_ask (hpln (.readClaimed token) trivial)) fun _ => trivial
  · trivial

theorem nowUnixSecs_plain (hpln : ∀ call : Call, call.Plain → P call) {ε : Type} :
    (Service.nowUnixSecs : Service ε Int).run.Along A P fun _ => True :=
  along_seq ⟨hpln .clock trivial, fun _ _ => trivial⟩ fun _ => trivial

theorem handleFailure_plain (hpln : ∀ call : Call, call.Plain → P call)
    {error : PlannerUseCaseError} {attempt : UInt32} :
    (PlannerUseCase.handleFailure runId token error attempt).run.Along A P fun _ => True := by
  unfold PlannerUseCase.handleFailure
  split
  · refine along_seq (nowUnixSecs_plain hpln) fun now => ?_
    refine along_seq ⟨hpln .clock trivial, fun _ _ => trivial⟩ fun at_ => ?_
    exact along_seq (along_mapError (along_ask (hpln (.statement _) trivial))) fun _ => trivial
  · refine along_seq ⟨hpln .clock trivial, fun _ _ => trivial⟩ fun at_ => ?_
    exact along_seq (along_mapError (along_ask (hpln (.statement _) trivial))) fun _ => trivial

section Graphs

variable [ActionGraph.ActionFormat] [UuidFormat] {responseId : String}

theorem finishRun_plain (hpln : ∀ call : Call, call.Plain → P call)
    (result : GraphExecutionResult SecretaryAgentState) :
    (finishRun runId token responseId result).run.Along A P fun _ => True := by
  unfold finishRun storing
  cases result with
  | completed completed =>
    refine along_seq (nowUnixSecs_plain hpln) fun now => ?_
    refine along_seq ⟨hpln .clock trivial, fun _ _ => trivial⟩ fun at_ => ?_
    refine along_seq (along_mapError (along_ask (hpln (.statement _) trivial))) fun _ => ?_
    exact along_seq (along_mapError (along_ask (hpln (.appendAudit _ _) trivial))) fun _ => trivial
  | suspended checkpoint =>
    refine along_seq ⟨hpln .clock trivial, fun _ _ => trivial⟩ fun at_ => ?_
    refine along_seq (along_mapError (along_ask (hpln (.statement _) trivial))) fun _ => ?_
    exact along_seq (along_mapError (along_ask (hpln (.appendAudit _ _) trivial))) fun _ => trivial

theorem graphPart_plain (hpln : ∀ call : Call, call.Plain → P call) {ε : Type}
    {graph : GraphProcess ε} {cause : ε → Option GraphRunError} {text : ε → String} :
    (do
      let result ← ExceptT.lift (graph.interpret fun envelope => executeEffect runId token envelope)
      graphResult runId token cause text result : Service PlannerUseCaseError _).run.Along A P
      fun _ => True := by
  have hgr : (graph.interpret fun envelope => executeEffect runId token envelope).Along A P
      fun _ => True := interpret_along runId token graph fun _ call hcall => by
    cases hcall <;> exact hpln _ trivial
  refine along_seq (hgr.lift.mono fun _ _ => trivial) fun result => ?_
  cases result with
  | error error => exact ⟨hpln (.graphFailed _ _ _) trivial, fun _ _ => trivial⟩
  | ok result => trivial

variable [GraphErrorFormat] {service : PlannerUseCase}

theorem executeClaimed_plain (hpln : ∀ call : Call, call.Plain → P call)
    {claimed : ClaimedActionRun} :
    (service.executeClaimed claimed responseId).run.Along A P fun _ => True := by
  unfold PlannerUseCase.executeClaimed PlannerUseCase.runGraph
  refine along_seq ?_ fun result => finishRun_plain hpln result
  split
  · exact ⟨hpln (.graphFailed _ _ _) trivial, fun _ _ => trivial⟩
  · exact graphPart_plain hpln

theorem runOnce_plain (hpln : ∀ call : Call, call.Plain → P call) {workerId : String} :
    (service.runOnce workerId token responseId).run.Along A P fun _ => True := by
  unfold PlannerUseCase.runOnce storing
  refine along_seq (along_mapError ?_) fun claimed => ?_
  · unfold Service.claimPendingRun
    refine along_seq ⟨hpln .clock trivial, fun _ _ => trivial⟩ fun now => ?_
    refine along_seq (along_ask (hpln (.statement _) trivial)) fun _ => ?_
    refine along_seq trivial fun lease => ?_
    exact along_seq (along_ask (hpln (.statement _) trivial)) fun _ => claimedRow_plain hpln
  · cases claimed with
    | none => trivial
    | some claimed =>
      refine along_seq ((executeClaimed_plain hpln).lift.mono fun _ _ => trivial) fun report => ?_
      cases report with
      | ok report => trivial
      | error error =>
        exact along_seq ((handleFailure_plain hpln).lift.mono fun _ _ => trivial) fun _ => trivial

/-- A resume makes one call that is not plain: its claim. -/
theorem resumeRun_plain (hpln : ∀ call : Call, call.Plain → P call) {checkpointId : String}
    {input : SecretaryActionResumeInput} (hcl : ∀ now leaseExpires at_,
      P (.statement (.claimSuspended (service.resumeClaim runId checkpointId input now) leaseExpires
        at_ token))) :
    (service.resumeRun runId checkpointId input token responseId).run.Along A P fun _ => True := by
  unfold PlannerUseCase.resumeRun storing
  split
  · trivial
  · refine along_seq (nowUnixSecs_plain hpln) fun now => ?_
    refine along_seq (along_mapError ?_) fun claimed => ?_
    · unfold Service.claimSuspendedRun
      split
      · trivial
      · refine along_seq trivial fun lease => ?_
        exact along_seq (along_ask (hcl _ _ _)) fun _ => claimedRow_plain hpln
    · cases claimed with
      | none => trivial
      | some claimed =>
        refine along_seq ?_ fun result => finishRun_plain hpln result
        unfold PlannerUseCase.resumeGraph
        refine along_seq (along_mapError (along_ask (hpln (.appendAudit _ _) trivial))) fun _ => ?_
        exact graphPart_plain hpln

end Graphs

end Plain

end ServerRS.PlannerService

import ServerRS.ActionStore.LeaseFencing
import ServerRS.OwnerResponse.Delivery

/-!
# What is handed out

Any number of workers complete runs, claim responses and report on them, and the rest of the program
changes bindings, events and what may still be shown, in any order. `claimPendingResponse_ok` says
what a claim hands out.
-/

namespace ServerRS.OwnerResponse

open Lib Lib.Except ActionStore

/-! ## Calls -/

inductive DeliveryCall where
  /-- A statement of the action store; `.elsewhere` among them changes bindings and events. -/
  | action (statement : Statement)
  /-- `reconcile_conversation_visibility_in_txn` on these tables, with the rows that it selects. -/
  | invalidateDerivedState (runs : List ActionRunId) (responses : List String)
      (drafts : List ActionRunId) (now : Timestamp)
  /-- The gateway writes its events. -/
  | elsewhere (events : List CommandEventRow) (rawEvents : List RawEventRow)
  | claimPendingResponse (args : ClaimArgs)
  | markResponseDelivered (responseId : OwnerResponseId) (token : OwnerResponseLeaseToken)
      (platformMessageId : String) (utc : Timestamp)
  | markResponseFailed (responseId : OwnerResponseId) (token : OwnerResponseLeaseToken)
      (errorCode : String) (kind : NotificationFailureKind) (utc : Timestamp)

/-- The run is failed before it shows what it has read. -/
def revokeRun (now : Timestamp) (row : ActionRunRow) : ActionRunRow :=
  { row with
    status := .failed
    leaseToken := none
    leaseExpiresAt := none
    workerId := none
    lastError := some "source_content_restricted"
    updatedAt := now }

def invalidateDraft (draft : OwnerResponseDraft) : OwnerResponseDraft :=
  { draft with invalidated := true }

def invalidateRunDraft (now : Timestamp) (row : ActionRunRow) : ActionRunRow :=
  { row with
    responseDraft := row.responseDraft.map invalidateDraft
    updatedAt := now }

/-- Runs that are under way are failed; of the responses both the column and the draft are marked. -/
def invalidateDerivedState (runs : List ActionRunId) (responses : List String)
    (drafts : List ActionRunId) (now : Timestamp) (db : DeliveryDb) : DeliveryDb :=
  let revoked := updateWhere (fun row => row.runId ∈ runs ∧
    (row.status = .pending ∨ row.status = .running ∨ row.status = .suspended)) (revokeRun now)
      db.action.runs
  let marked := fun (row : ActionResponseRow) => !db.isInvalidated row && row.responseId ∈ responses
  { db with
    action := { db.action with
      runs := updateWhere (fun row => row.runId ∈ drafts) (invalidateRunDraft now) revoked
      responses := updateWhere marked
        (fun row => { row with response := invalidateDraft row.response }) db.action.responses }
    invalidated := db.invalidated ++ (db.action.responses.filter marked).map (·.responseId) }

/-- The tables after a call; an error leaves them as they are. -/
def DeliveryDb.commit (db : DeliveryDb) (result : Except InboundEventStoreError DeliveryDb) :
    DeliveryDb :=
  result.toOption.getD db

section

variable [ResponseFormat]

def DeliveryDb.step (db : DeliveryDb) : DeliveryCall → DeliveryDb
  | .action statement => { db with action := (statement.exec db.action).2 }
  | .invalidateDerivedState runs responses drafts now =>
    OwnerResponse.invalidateDerivedState runs responses drafts now db
  | .elsewhere events rawEvents => { db with events, rawEvents }
  | .claimPendingResponse args => db.commit ((OwnerResponse.claimPendingResponse args db).map Prod.snd)
  | .markResponseDelivered responseId token platformMessageId utc =>
    db.commit (OwnerResponse.markResponseDelivered responseId token platformMessageId utc db)
  | .markResponseFailed responseId token errorCode kind utc =>
    db.commit (OwnerResponse.markResponseFailed responseId token errorCode kind utc db)

def DeliveryDb.start : DeliveryDb := { action := { directory := ⟨[], [], [], []⟩ } }

/-- The tables after the calls, from a database in which nothing has happened. -/
def DeliveryDb.run (calls : List DeliveryCall) : DeliveryDb := calls.foldl DeliveryDb.step .start

theorem DeliveryDb.run_snoc {calls : List DeliveryCall} {call : DeliveryCall} :
    DeliveryDb.run (calls ++ [call]) = (DeliveryDb.run calls).step call := by
  unfold DeliveryDb.run
  rw [List.foldl_append]
  rfl

end

def ClaimArgs.handsOut (args : ClaimArgs) (db : DeliveryDb) : Option ClaimedOwnerResponse :=
  (claimPendingResponse args db).toOption.bind Prod.fst

/-! ## Claims -/

section Claims

variable {db db' : DeliveryDb} {args : ClaimArgs} {row : OwnerResponseClaimRow}
  {claimed : ClaimedOwnerResponse} {token : OwnerResponseLeaseToken} {leaseExpires : Timestamp}

theorem BoundedId.new_ok {field value : String} {id : BoundedId field}
    (h : BoundedId.new field value = .ok id) : id.asStr = value := by
  unfold BoundedId.new at h
  split at h
  · cases h
    rfl
  · cases h

theorem BoundedId.new_asStr {field : String} (id : BoundedId field) :
    BoundedId.new field id.asStr = .ok id := by
  unfold BoundedId.new
  split
  · rfl
  · next error herr =>
    rw [id.valid] at herr
    cases herr

theorem updateOutbox_ok {cond : OutboxRow → Bool} {set : OutboxRow → OutboxRow}
    (h : updateOutbox cond set db = .ok db') :
    db.outbox.countP cond = 1 ∧ db' = { db with outbox := updateWhere cond set db.outbox } := by
  unfold updateOutbox at h
  split at h
  · next hcnt =>
    cases h
    exact ⟨hcnt, rfl⟩
  · cases h

def isClaimOf (responseId : OwnerResponseId) (row : OutboxRow) : Bool :=
  row.responseId = responseId.asStr ∧ row.status = .pending

structure HandedOut (token : OwnerResponseLeaseToken) (leaseExpires : Timestamp)
    (row : OwnerResponseClaimRow) (db : DeliveryDb) (claimed : ClaimedOwnerResponse)
    (db' : DeliveryDb) : Prop where
  valid : row.response.invalidated = false
  responseId : claimed.responseId.asStr = row.responseId
  leaseToken : claimed.leaseToken = token
  draft : claimed.draft = row.response
  replyTo : claimed.replyToPlatformMessageId = row.replyToPlatformMessageId
  target : replyTarget row.rawEvent = .ok claimed.target
  one : db.outbox.countP (isClaimOf claimed.responseId) = 1
  written : db' = { db with
    outbox := updateWhere (isClaimOf claimed.responseId) (·.claim token leaseExpires) db.outbox }

theorem handOut_ok (h : handOut token leaseExpires row db = .ok (claimed, db')) :
    HandedOut token leaseExpires row db claimed db' := by
  unfold handOut at h
  obtain ⟨hval, h⟩ := and_then_eq_ok.mp h
  obtain ⟨responseId, hresponseId, h⟩ := bind_ok h
  obtain ⟨target, htgt, h⟩ := bind_ok h
  obtain ⟨next, hnext, h⟩ := bind_ok h
  obtain ⟨hone, hwr⟩ := updateOutbox_ok hnext
  cases h
  refine ⟨?_, BoundedId.new_ok hresponseId, rfl, rfl, rfl, htgt, hone, hwr⟩
  unfold checkNotInvalidated at hval
  split at hval
  · cases hval
  · next hdraft => exact Bool.eq_false_iff.mpr hdraft

/-- The ways through a claim that succeeds. -/
inductive ClaimSucceeds (args : ClaimArgs) (db : DeliveryDb) :
    Option ClaimedOwnerResponse → DeliveryDb → Prop where
  | idle (hque : args.queue db = []) : ClaimSucceeds args db none (args.prepare db)
  | handed {row : OwnerResponseClaimRow} {rest : List OwnerResponseClaimRow}
      {claimed : ClaimedOwnerResponse} {db' : DeliveryDb} (hque : args.queue db = row :: rest)
      (hhand : HandedOut args.token args.leaseExpires row (args.prepare db) claimed db') :
      ClaimSucceeds args db (some claimed) db'

theorem claimPendingResponse_ok {answer : Option ClaimedOwnerResponse}
    (h : claimPendingResponse args db = .ok (answer, db')) :
    args.isBounded = true ∧ ClaimSucceeds args db answer db' := by
  unfold claimPendingResponse at h
  split at h
  · cases h
  · next hboun =>
    refine ⟨by simpa using hboun, ?_⟩
    split at h
    · next hque =>
      cases h
      exact .idle hque
    · next row rest hque =>
      cases hhand : handOut args.token args.leaseExpires row (args.prepare db) with
      | error error =>
        rw [hhand] at h
        cases h
      | ok handed =>
        rw [hhand] at h
        cases h
        exact .handed hque (handOut_ok hhand)

theorem claim_of_handsOut (h : args.handsOut db = some claimed) :
    ∃ db', claimPendingResponse args db = .ok (some claimed, db') := by
  unfold ClaimArgs.handsOut at h
  cases hcl : claimPendingResponse args db with
  | error error =>
    rw [hcl] at h
    cases h
  | ok result =>
    obtain ⟨answer, db'⟩ := result
    rw [hcl] at h
    exact ⟨db', by rw [show answer = some claimed from h]⟩

theorem handsOut_of_claim (h : claimPendingResponse args db = .ok (some claimed, db')) :
    args.handsOut db = some claimed := by
  unfold ClaimArgs.handsOut
  rw [h]
  rfl

/-- What waits is a response that is due, not invalidated and authorised. -/
theorem mem_queue (h : row ∈ args.queue db) : ∃ response ∈ db.action.responses,
    isDue args.utc (args.prepare db) response = true ∧ db.isInvalidated response = false ∧
      db.isAuthorized args.scope response = true ∧ claimRow args.cutoff db response = some row := by
  unfold ClaimArgs.queue waiting at h
  obtain ⟨response, hresp, hrow⟩ := List.mem_filterMap.mp h
  have hmem := (List.perm_insertionSort _ _).mem_iff.mp hresp
  obtain ⟨hmem, hcond⟩ := List.mem_filter.mp hmem
  rw [Bool.and_eq_true, Bool.and_eq_true, Bool.not_eq_true'] at hcond
  exact ⟨response, hmem, hcond.1.1, hcond.1.2, hcond.2, hrow⟩

theorem claimRow_some {cutoff : Int} {response : ActionResponseRow}
    (h : claimRow cutoff db response = some row) : ∃ event raw,
      db.commandEvent response = some event ∧ cutoff ≤ event.occurredAtUnixSecs ∧
        db.gatewayEvent response = some raw ∧
          row = ⟨response.responseId, response.response, event.platformEventId, raw⟩ := by
  unfold claimRow at h
  obtain ⟨event, hev, h⟩ := Option.bind_eq_some_iff.mp h
  obtain ⟨raw, hraw, h⟩ := Option.bind_eq_some_iff.mp h
  obtain ⟨hev, hrec⟩ := Option.filter_eq_some_iff.mp hev
  cases h
  exact ⟨event, raw, hev, of_decide_eq_true hrec, hraw, rfl⟩

end Claims

/-! ## Who a response is handed out to -/

/-- The response of the claim may be shown to the Owner now: its run is completed, its draft is not
invalidated, the four-part binding is active, and the command lies within the reply window. -/
structure Authorized (args : ClaimArgs) (db : DeliveryDb) (claimed : ClaimedOwnerResponse)
    (response : ActionResponseRow) (run : ActionRunRow) (command : SourceEventRow)
    (event : CommandEventRow) : Prop where
  handed : response ∈ db.action.responses ∧ response.responseId = claimed.responseId.asStr ∧
    response.response = claimed.draft
  valid : response.responseId ∉ db.invalidated ∧ response.response.invalidated = false
  completed : run ∈ db.action.runs ∧ run.runId = response.runId ∧ run.status = .completed
  managed : ∃ account ∈ db.action.directory.accounts, account.id = run.accountId ∧
    account.sourceChannel = args.scope.managedAccount.channel ∧
      account.platformAccountId = args.scope.managedAccount.accountId
  asked : command ∈ db.action.directory.sourceEvents ∧
    command.sourceEventId = run.commandSourceEventId ∧
      command.actorPlatformId = args.scope.ownerActorId
  fromOwner : command.actorKind = .owner ∧ command.messageRole = .ownerCommand ∧
    command.eventType = .message ∧ command.sourceChannel = .qqOpenPlatform
  commandAccount : ∃ account ∈ db.action.directory.accounts, account.id = command.accountId ∧
    account.sourceChannel = args.scope.commandAccount.channel ∧
      account.platformAccountId = args.scope.commandAccount.accountId
  bound : ∃ binding ∈ db.action.directory.ownerBindings, binding.isActive = true ∧
    binding.managedAccountId = run.accountId ∧ binding.commandAccountId = command.accountId ∧
      binding.ownerActorId = args.scope.ownerActorId
  answered : event ∈ db.events ∧ event.sourceEventId = run.commandSourceEventId ∧
    event.platformEventId = claimed.replyToPlatformMessageId
  target : ∃ raw ∈ db.rawEvents, raw.sourceEventId = run.commandSourceEventId ∧
    replyTarget raw = .ok claimed.target
  recent : args.nowUnixSecs - args.maxReplyAgeSecs ≤ event.occurredAtUnixSecs ∧
    args.maxReplyAgeSecs ≤ 300

section Authorization

variable {db : DeliveryDb} {args : ClaimArgs} {claimed : ClaimedOwnerResponse} {run : ActionRunRow}

theorem runOf_some {response : ActionResponseRow} (h : db.runOf response = some run) :
    run ∈ db.action.runs ∧ run.runId = response.runId :=
  ⟨List.mem_of_find?_eq_some h, by simpa using List.find?_some h⟩

theorem isAccount_iff {account : SourceAccountRef} {accountId : ℕ} :
    db.isAccount account accountId = true ↔ ∃ row ∈ db.action.directory.accounts,
      row.id = accountId ∧ row.sourceChannel = account.channel ∧
        row.platformAccountId = account.accountId := by
  simp [DeliveryDb.isAccount]

theorem isBound_iff {command : SourceEventRow} :
    db.isBound run command = true ↔ ∃ binding ∈ db.action.directory.ownerBindings,
      binding.managedAccountId = run.accountId ∧ binding.commandAccountId = command.accountId ∧
        binding.ownerActorId = command.actorPlatformId ∧ binding.isActive = true := by
  simp [DeliveryDb.isBound]

/-- A claim hands out only what the Owner may see now. -/
theorem handsOut_authorized (h : args.handsOut db = some claimed) :
    ∃ response run command event, Authorized args db claimed response run command event := by
  obtain ⟨db', hcl⟩ := claim_of_handsOut h
  obtain ⟨hboun, hsuc⟩ := claimPendingResponse_ok hcl
  cases hsuc with
  | handed hque hhand =>
    obtain ⟨response, hresp, -, hcolumn, hauth, hrow⟩ :=
      mem_queue (by rw [hque]; exact List.mem_cons_self)
    obtain ⟨event, raw, hev, hrec, hraw, rfl⟩ := claimRow_some hrow
    unfold DeliveryDb.isAuthorized at hauth
    obtain ⟨-, hauth⟩ := (Bool.and_eq_true _ _).mp hauth
    obtain ⟨run, hrun, hcon⟩ := (Option.any_eq_true _ _).mp hauth
    simp only [Bool.decide_and, Bool.and_eq_true, decide_eq_true_eq] at hcon
    obtain ⟨hcomp, hmanaged, hcmd⟩ := hcon
    obtain ⟨command, hcmd, howner⟩ := List.any_eq_true.mp hcmd
    unfold DeliveryDb.isOwnerCommand at howner
    simp only [Bool.decide_and, Bool.and_eq_true, decide_eq_true_eq] at howner
    obtain ⟨hsame, hacc, hbound, hchannel, htype, hkind, hrole, hactor⟩ := howner
    obtain ⟨binding, hbinding, hfor, hbot, hsender, hactv⟩ := isBound_iff.mp hbound
    obtain ⟨other, hoth, hfnd⟩ := Option.bind_eq_some_iff.mp hev
    obtain rfl : run = other := Option.some.inj (hrun.symm.trans hoth)
    have hev := List.mem_of_find?_eq_some hfnd
    have hofRun : event.sourceEventId = run.commandSourceEventId := by
      simpa using List.find?_some hfnd
    obtain ⟨hrunMem, hrunOf⟩ := runOf_some hrun
    obtain ⟨answeredRun, hansw, hrawFound⟩ := Option.bind_eq_some_iff.mp hraw
    obtain rfl : run = answeredRun := Option.some.inj (hrun.symm.trans hansw)
    have hrawOf : raw.sourceEventId = run.commandSourceEventId := by
      have hcond := List.find?_some hrawFound
      exact (of_decide_eq_true hcond).1
    have hage : args.maxReplyAgeSecs ≤ 300 := by
      unfold ClaimArgs.isBounded at hboun
      exact (of_decide_eq_true hboun).2.2.2
    exact ⟨response, run, command, event,
      { handed := ⟨hresp, hhand.responseId.symm, hhand.draft.symm⟩
        valid := ⟨by simpa [DeliveryDb.isInvalidated] using hcolumn, hhand.valid⟩
        completed := ⟨hrunMem, hrunOf, hcomp⟩
        managed := isAccount_iff.mp hmanaged
        asked := ⟨hcmd, hsame, hactor⟩
        fromOwner := ⟨hkind, hrole, htype, hchannel⟩
        commandAccount := isAccount_iff.mp hacc
        bound := ⟨binding, hbinding, hactv, hfor, hbot, hsender.trans hactor⟩
        answered := ⟨hev, hofRun, hhand.replyTo.symm⟩
        target := ⟨raw, List.mem_of_find?_eq_some hrawFound, hrawOf, hhand.target⟩
        recent := ⟨hrec, hage⟩ }⟩

end Authorization

end ServerRS.OwnerResponse

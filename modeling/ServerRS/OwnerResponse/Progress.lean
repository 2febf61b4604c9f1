import ServerRS.OwnerResponse.AtMostOnce

/-!
# Delivery at most once, and what holds it up

Whatever is handed out may be shown to the Owner at that moment, and is handed out again only after a
failure that may be retried. But the claim takes the oldest response that waits and fails if it
cannot be turned into a delivery. The failure rolls the claim back, so that the next claim finds the
same response first and the ones behind it are not handed out.

`mark_completed` stores a draft that is invalidated under a column that says it is not; and a group
event need not name its group. Where neither happens no claim is held up.
-/

namespace ServerRS.OwnerResponse

open Lib Lib.Except ActionStore

/-- The row can be turned into a delivery. -/
def canBeDelivered (row : OwnerResponseClaimRow) : Bool :=
  (checkNotInvalidated row.response).isOk && (BoundedId.new "owner response id" row.responseId).isOk &&
    (replyTarget row.rawEvent).isOk

/-- The claim hands out the oldest of the responses that wait and can be delivered. -/
def HandsOutOldest (args : ClaimArgs) (db : DeliveryDb) : Prop :=
  ∀ row, (args.queue db).find? canBeDelivered = some row →
    ∃ claimed, args.handsOut db = some claimed ∧ claimed.responseId.asStr = row.responseId

/-- No response that cannot be delivered waits in front of all that can. -/
def NotHeldUp (args : ClaimArgs) (db : DeliveryDb) : Prop :=
  ∀ row, (args.queue db).find? canBeDelivered = some row → (args.queue db).head? = some row

/-- The inputs are as they should be: a draft that is stored is not invalidated, under an identifier
that is one, and a group event that is answered names its group. -/
def DeliveryCall.IsSound : DeliveryCall → Prop
  | .action (.markCompleted _ _ (some draft) responseId _) =>
    draft.invalidated = false ∧ validateBoundedId "owner response id" responseId = .ok ()
  | .elsewhere _ rawEvents =>
    ∀ raw ∈ rawEvents, raw.eventKind = .groupAtMessage → (replyTarget raw).isOk = true
  | _ => True

/-! ## One claim -/

section Claim

variable {db db' : DeliveryDb} {args : ClaimArgs} {row : OwnerResponseClaimRow}
  {rest : List OwnerResponseClaimRow} {claimed : ClaimedOwnerResponse}

theorem isOk_iff {α : Type} {x : Except InboundEventStoreError α} :
    x.isOk = true ↔ ∃ a, x = .ok a := by
  cases x with
  | error error => simp [Except.isOk, Except.toBool]
  | ok a => simp [Except.isOk, Except.toBool]

theorem HandedOut.canBeDelivered {token : OwnerResponseLeaseToken} {leaseExpires : Timestamp}
    (h : HandedOut token leaseExpires row db claimed db') : canBeDelivered row = true := by
  have hval : checkNotInvalidated row.response = .ok () := by
    unfold checkNotInvalidated
    rw [h.valid]
    rfl
  have hid : BoundedId.new "owner response id" row.responseId = .ok claimed.responseId := by
    rw [← h.responseId]
    exact BoundedId.new_asStr _
  unfold OwnerResponse.canBeDelivered
  rw [hval, hid, h.target]
  rfl

/-- Of a due response there is one row, and it is pending. -/
theorem queue_row (keyed : db.Keyed) (hrow : row ∈ args.queue db) (id : OwnerResponseId)
    (hid : id.asStr = row.responseId) : (args.prepare db).outbox.countP (isClaimOf id) = 1 := by
  obtain ⟨response, -, hdue, -, -, hclaimRow⟩ := mem_queue hrow
  obtain ⟨event, raw, -, -, -, rfl⟩ := claimRow_some hclaimRow
  obtain ⟨outbox, houtbox, hcond⟩ := List.any_eq_true.mp hdue
  obtain ⟨hsame, hpend, -⟩ := of_decide_eq_true hcond
  refine countP_eq_one (prepare_keyed keyed) houtbox ?_ fun other _ hoth => ?_
  · exact decide_eq_true ⟨hsame.trans hid.symm, hpend⟩
  · rw [(of_decide_eq_true hoth).1, hid, hsame]

theorem handsOut_head (keyed : db.Keyed) (hboun : args.isBounded = true)
    (hque : args.queue db = row :: rest) (hcan : canBeDelivered row = true) :
    ∃ claimed, args.handsOut db = some claimed ∧ claimed.responseId.asStr = row.responseId := by
  unfold canBeDelivered at hcan
  rw [Bool.and_eq_true, Bool.and_eq_true] at hcan
  obtain ⟨⟨⟩, hval⟩ := isOk_iff.mp hcan.1.1
  obtain ⟨responseId, hid⟩ := isOk_iff.mp hcan.1.2
  obtain ⟨target, htgt⟩ := isOk_iff.mp hcan.2
  have hone : (args.prepare db).outbox.countP (isClaimOf responseId) = 1 :=
    queue_row keyed (by rw [hque]; exact List.mem_cons_self) responseId (BoundedId.new_ok hid)
  let claimed : ClaimedOwnerResponse :=
    ⟨responseId, args.token, row.response, row.replyToPlatformMessageId, target⟩
  let written : DeliveryDb :=
    { args.prepare db with
      outbox := updateWhere (isClaimOf responseId) (·.claim args.token args.leaseExpires)
        (args.prepare db).outbox }
  have hhand : handOut args.token args.leaseExpires row (args.prepare db) =
      .ok (claimed, written) := by
    unfold handOut
    refine bind_eq_of_ok hval (bind_eq_of_ok hid (bind_eq_of_ok htgt ?_))
    exact bind_eq_of_ok (if_pos hone) rfl
  have hcl : claimPendingResponse args db = .ok (some claimed, written) := by
    unfold claimPendingResponse
    rw [hboun, hque]
    show (handOut args.token args.leaseExpires row (args.prepare db)).map _ = _
    rw [hhand]
    rfl
  exact ⟨claimed, handsOut_of_claim hcl, BoundedId.new_ok hid⟩

/-- Exactly a response that cannot be delivered, in front of those that can, holds them up. -/
theorem handsOutOldest_iff (keyed : db.Keyed) (hboun : args.isBounded = true) :
    HandsOutOldest args db ↔ NotHeldUp args db := by
  constructor
  · intro h row hfind
    obtain ⟨claimed, hhandsOut, -⟩ := h row hfind
    obtain ⟨db', hcl⟩ := claim_of_handsOut hhandsOut
    cases (claimPendingResponse_ok hcl).2 with
    | handed hque hhand =>
      rw [hque, List.find?_cons_of_pos hhand.canBeDelivered] at hfind
      rw [hque, List.head?_cons]
      exact hfind
  · intro h row hfind
    obtain ⟨rest, hque⟩ := List.head?_eq_some_iff.mp (h row hfind)
    exact handsOut_head keyed hboun hque (List.find?_some hfind)

end Claim

/-! ## Sound inputs -/

section Sound

variable {db db' : DeliveryDb} {args : ClaimArgs}

/-- The delivery writes its own table only. -/
structure SameAction (db db' : DeliveryDb) : Prop where
  action : db'.action = db.action
  rawEvents : db'.rawEvents = db.rawEvents
  invalidated : db'.invalidated = db.invalidated

theorem claim_sameAction {answer : Option ClaimedOwnerResponse}
    (h : claimPendingResponse args db = .ok (answer, db')) : SameAction db db' := by
  cases (claimPendingResponse_ok h).2 with
  | idle => exact ⟨rfl, rfl, rfl⟩
  | handed hque hhand =>
    rw [hhand.written]
    exact ⟨rfl, rfl, rfl⟩

theorem commit_sameAction {result : Except InboundEventStoreError DeliveryDb}
    (h : ∀ db', result = .ok db' → SameAction db db') : SameAction db (db.commit result) := by
  cases result with
  | error error => exact ⟨rfl, rfl, rfl⟩
  | ok db' => exact h db' rfl

theorem updateOutbox_sameAction {cond : OutboxRow → Bool} {set : OutboxRow → OutboxRow}
    (h : updateOutbox cond set db = .ok db') : SameAction db db' := by
  obtain ⟨-, rfl⟩ := updateOutbox_ok h
  exact ⟨rfl, rfl, rfl⟩

theorem claim_commit_sameAction :
    SameAction db (db.commit ((claimPendingResponse args db).map Prod.snd)) := by
  refine commit_sameAction fun db' h => ?_
  cases hcl : claimPendingResponse args db with
  | error error =>
    rw [hcl] at h
    cases h
  | ok result =>
    obtain ⟨answer, claimedDb⟩ := result
    rw [hcl] at h
    cases h
    exact claim_sameAction hcl

/-- Every response that is not invalidated can be turned into a delivery. -/
structure Deliverable (db : DeliveryDb) : Prop where
  keyed : db.action.Keyed
  valid : ∀ response ∈ db.action.responses, db.isInvalidated response = false →
    response.response.invalidated = false
  identified : ∀ response ∈ db.action.responses,
    validateBoundedId "owner response id" response.responseId = .ok ()
  grouped : ∀ raw ∈ db.rawEvents, raw.eventKind = .groupAtMessage → (replyTarget raw).isOk = true

theorem Deliverable.same (h : Deliverable db) (hsame : SameAction db db') : Deliverable db' := by
  obtain ⟨hact, hraw, hinv⟩ := hsame
  refine ⟨?_, ?_, ?_, ?_⟩
  · rw [hact]
    exact h.keyed
  · unfold DeliveryDb.isInvalidated
    rw [hact, hinv]
    exact h.valid
  · rw [hact]
    exact h.identified
  · rw [hraw]
    exact h.grouped

/-- The mark on a draft goes with the column of its response. -/
theorem Deliverable.invalidateDerivedState {runs drafts : List ActionRunId} {responses : List String}
    {now : Timestamp} (h : Deliverable db) :
    Deliverable (invalidateDerivedState runs responses drafts now db) := by
  have hresp : ∀ response ∈ (OwnerResponse.invalidateDerivedState runs responses drafts now
      db).action.responses, ∃ before ∈ db.action.responses, response.responseId = before.responseId ∧
        (response.response = before.response ∨ before.responseId ∈ (OwnerResponse.invalidateDerivedState
          runs responses drafts now db).invalidated) := by
    intro response hresp
    obtain ⟨before, hbef, rfl⟩ := mem_updateWhere.mp hresp
    refine ⟨before, hbef, ?_⟩
    split
    · next hmark =>
      refine ⟨rfl, .inr (List.mem_append_right _ ?_)⟩
      exact List.mem_map_of_mem (List.mem_filter.mpr ⟨hbef, hmark⟩)
    · exact ⟨rfl, .inl rfl⟩
  refine ⟨⟨?_, h.keyed.receipts, ?_⟩, ?_, ?_, h.grouped⟩
  · show ((updateWhere _ _ (updateWhere _ _ db.action.runs)).map _).Nodup
    rw [map_updateWhere, map_updateWhere]
    · exact h.keyed.runs
    · exact fun _ => rfl
    · exact fun _ => rfl
  · show ((updateWhere _ _ db.action.responses).map _).Nodup
    rw [map_updateWhere]
    · exact h.keyed.responses
    · exact fun _ => rfl
  · intro response hmem hval
    obtain ⟨before, hbef, hid, hsame | hmark⟩ := hresp response hmem
    · rw [hsame]
      refine h.valid before hbef ?_
      unfold DeliveryDb.isInvalidated at hval ⊢
      rw [hid] at hval
      exact decide_eq_false fun hcol =>
        of_decide_eq_false hval (List.mem_append_left _ hcol)
    · unfold DeliveryDb.isInvalidated at hval
      rw [hid] at hval
      exact absurd hmark (of_decide_eq_false hval)
  · intro response hmem
    obtain ⟨before, hbef, hid, -⟩ := hresp response hmem
    rw [hid]
    exact h.identified before hbef

variable [ResponseFormat] {call : DeliveryCall} {calls : List DeliveryCall}

theorem Deliverable.action {statement : Statement} (h : Deliverable db)
    (hsnd : (DeliveryCall.action statement).IsSound) :
    Deliverable { db with action := (statement.exec db.action).2 } := by
  have hexec : statement.exec db.action = ((statement.exec db.action).1, (statement.exec db.action).2) :=
    rfl
  refine ⟨exec_keyed h.keyed hexec, ?_, ?_, h.grouped⟩
  · intro response hresp hval
    obtain hbef | ⟨token, now, rfl⟩ := exec_responses h.keyed hexec hresp
    · exact h.valid response hbef hval
    · exact hsnd.1
  · intro response hresp
    obtain hbef | ⟨token, now, rfl⟩ := exec_responses h.keyed hexec hresp
    · exact h.identified response hbef
    · exact hsnd.2

theorem step_deliverable (h : Deliverable db) (hsnd : call.IsSound) : Deliverable (db.step call) := by
  cases call with
  | action statement => exact h.action hsnd
  | invalidateDerivedState runs responses drafts now => exact h.invalidateDerivedState
  | elsewhere events rawEvents => exact ⟨h.keyed, h.valid, h.identified, hsnd⟩
  | claimPendingResponse args => exact h.same claim_commit_sameAction
  | markResponseDelivered responseId token platformMessageId utc =>
    exact h.same (commit_sameAction fun _ hdone => updateOutbox_sameAction hdone)
  | markResponseFailed responseId token errorCode kind utc =>
    exact h.same (commit_sameAction fun _ hdone => updateOutbox_sameAction hdone)

theorem run_deliverable (hsnd : ∀ call ∈ calls, call.IsSound) :
    Deliverable (DeliveryDb.run calls) := by
  induction calls using List.reverseRecOn with
  | nil =>
    refine ⟨⟨List.nodup_nil, List.nodup_nil, List.nodup_nil⟩, ?_, ?_, ?_⟩ <;> exact fun _ h => by cases h
  | append_singleton calls call ih =>
    rw [DeliveryDb.run_snoc]
    refine step_deliverable (ih fun earlier hear => ?_) (hsnd call ?_)
    · exact hsnd earlier (List.mem_append_left _ hear)
    · exact List.mem_append_right _ (List.mem_singleton_self call)

omit [ResponseFormat] in
theorem Deliverable.canBeDelivered (h : Deliverable db) {row : OwnerResponseClaimRow}
    (hrow : row ∈ args.queue db) : canBeDelivered row = true := by
  obtain ⟨response, hresp, -, hcol, -, hclaimRow⟩ := mem_queue hrow
  obtain ⟨event, raw, -, -, hraw, rfl⟩ := claimRow_some hclaimRow
  have hval : checkNotInvalidated response.response = .ok () := by
    unfold checkNotInvalidated
    rw [h.valid response hresp hcol]
    rfl
  let id : OwnerResponseId := ⟨response.responseId, h.identified response hresp⟩
  have hid : BoundedId.new "owner response id" response.responseId = .ok id := id.new_asStr
  obtain ⟨run, -, hfnd⟩ := Option.bind_eq_some_iff.mp hraw
  have hmem := List.mem_of_find?_eq_some hfnd
  have hcond := List.find?_some hfnd
  have hkind := (of_decide_eq_true hcond).2
  have htgt : (replyTarget raw).isOk = true := by
    obtain hprivate | hgrp := hkind
    · unfold replyTarget
      rw [hprivate]
      rfl
    · exact h.grouped raw hmem hgrp
  unfold OwnerResponse.canBeDelivered
  rw [hval, hid, htgt]
  rfl

omit [ResponseFormat] in
theorem Deliverable.notHeldUp (h : Deliverable db) : NotHeldUp args db := by
  intro row hfind
  cases hque : args.queue db with
  | nil =>
    rw [hque] at hfind
    cases hfind
  | cons head rest =>
    have hhead : head ∈ args.queue db := by rw [hque]; exact List.mem_cons_self
    have hcan := h.canBeDelivered hhead
    rw [hque, List.find?_cons_of_pos hcan] at hfind
    rw [List.head?_cons]
    exact hfind

end Sound

/-! ## All runs -/

/-- What holds of every run, whatever the inputs are. -/
structure DeliveredAtMostOnce [ResponseFormat] (calls : List DeliveryCall) : Prop where
  /-- What is handed out may be shown to the Owner at that moment. -/
  authorized : ∀ before args after claimed, calls = before ++ .claimPendingResponse args :: after →
    args.handsOut (DeliveryDb.run before) = some claimed →
      ∃ response run command event,
        Authorized args (DeliveryDb.run before) claimed response run command event
  /-- It is handed out again only after a failure that may be retried, under its lease. -/
  again : ∀ before args between args' after claimed claimed',
    calls = before ++ [.claimPendingResponse args] ++ between ++ .claimPendingResponse args' :: after →
    args.handsOut (DeliveryDb.run before) = some claimed →
    args'.handsOut (DeliveryDb.run (before ++ [.claimPendingResponse args] ++ between)) = some claimed' →
    claimed'.responseId = claimed.responseId →
      ∃ early retry late, between = early ++ retry :: late ∧
        IsRetry (DeliveryDb.run (before ++ [.claimPendingResponse args] ++ early)) claimed.responseId
          claimed.leaseToken args.leaseExpires retry
  /-- A row that is delivered, failed or of an unknown fate stays as it is. -/
  final : ∀ before after, calls = before ++ after → ∀ row ∈ (DeliveryDb.run before).outbox,
    row.isFinal = true → row ∈ (DeliveryDb.run calls).outbox
  /-- And it is not handed out. -/
  settled : ∀ before args after claimed, calls = before ++ .claimPendingResponse args :: after →
    args.handsOut (DeliveryDb.run before) = some claimed → ∀ row ∈ (DeliveryDb.run before).outbox,
      row.isFinal = true → row.responseId ≠ claimed.responseId.asStr

/-- The claims of the run hand out the oldest response that can be delivered. -/
def NeverHeldUp [ResponseFormat] (calls : List DeliveryCall) : Prop :=
  ∀ before args after, calls = before ++ .claimPendingResponse args :: after →
    args.isBounded = true → HandsOutOldest args (DeliveryDb.run before)

section Runs

variable [ResponseFormat] (calls : List DeliveryCall)

theorem delivered_at_most_once : DeliveredAtMostOnce calls where
  authorized := fun _ _ _ _ _ h => handsOut_authorized h
  again := fun _ _ _ _ _ _ _ _ h hagain hsame => handed_out_again h hagain hsame
  final := fun _ _ hspl _ hrow hfin => by
    rw [hspl]
    exact final_stays hrow hfin
  settled := fun _ args _ claimed _ h _ hrow hfin hid => by
    have hheld : HeldOrFinal args.token args.leaseExpires _ := .inr hfin
    exact not_handsOut hrow hid hheld h

/-- Delivery is at most once and to the authorised Owner in every run; a claim hands out the oldest
response that can be delivered exactly when none that cannot waits in front of it; and with sound
inputs no claim is held up. -/
theorem owner_responses_delivered :
    DeliveredAtMostOnce calls ∧
      (∀ args, args.isBounded = true →
        (HandsOutOldest args (DeliveryDb.run calls) ↔ NotHeldUp args (DeliveryDb.run calls))) ∧
      ((∀ call ∈ calls, call.IsSound) → NeverHeldUp calls) := by
  refine ⟨delivered_at_most_once calls, fun args hboun => ?_, ?_⟩
  · exact handsOutOldest_iff (run_keyed calls) hboun
  · intro hsnd before args after hspl hboun
    refine (handsOutOldest_iff (run_keyed before) hboun).mpr (Deliverable.notHeldUp ?_)
    refine run_deliverable fun call hcall => hsnd call ?_
    rw [hspl]
    exact List.mem_append_left _ hcall

end Runs

/-! ## A draft that is invalidated -/

namespace Scripted

open ActionStore.Scripted

def secondCommand : SourceEventId := ⟨"evt-cmd-2", by decide⟩

def secondRun : ActionRunId := ⟨"run-2", by decide⟩

def draft (invalidated : Bool) : OwnerResponseDraft := ⟨[.summary "ok"], [], 0, invalidated⟩

/-- Two commands whose runs are completed, the first one perhaps with a draft that is invalidated. -/
def completed (invalidated : Bool) : List DeliveryCall :=
  [.action (.elsewhere { directory with
      sourceEvents := [ownerMessage commandEvent, ownerMessage secondCommand] }),
    .elsewhere [⟨commandEvent, "msg-1", 1700000000⟩, ⟨secondCommand, "msg-2", 1700000001⟩]
      [⟨commandEvent, .c2cMessage, none⟩, ⟨secondCommand, .c2cMessage, none⟩],
    .action (.ensureActionRun runId seed 0),
    .action (.claimOldest "worker-1" 100 1 (token "lease-1")),
    .action (.markCompleted runId (token "lease-1") (some (draft invalidated)) "response-1" 2),
    .action (.ensureActionRun secondRun { seed with commandSourceEventId := secondCommand } 3),
    .action (.claimOldest "worker-1" 100 4 (token "lease-2")),
    .action (.markCompleted secondRun (token "lease-2") (some (draft false)) "response-2" 5)]

def claimArgs : ClaimArgs where
  scope := ⟨account, ⟨.qqOpenPlatform, "app-1"⟩, "owner-openid", rfl, by decide⟩
  nowUnixSecs := 1700000002
  leaseSecs := 60
  maxReplyAgeSecs := 240
  utc := 6
  token := ⟨"delivery-1", by decide⟩

end Scripted

section Scripted

open Scripted ActionStore.Scripted

theorem owner_responses_delivered_scripted :
    NeverHeldUp (completed false ++ [.claimPendingResponse claimArgs]) ∧
      (claimArgs.handsOut (DeliveryDb.run (completed false))).map (·.responseId.asStr) =
        some "response-1" := by
  obtain ⟨-, -, hsound⟩ :=
    owner_responses_delivered (completed false ++ [.claimPendingResponse claimArgs])
  have hid : ∀ id ∈ ["response-1", "response-2"],
      validateBoundedId "owner response id" id = .ok () := by decide
  refine ⟨hsound ?_, by decide⟩
  simp only [completed, List.cons_append, List.nil_append, List.forall_mem_cons,
    DeliveryCall.IsSound]
  simp [draft, hid]

/-- The second response waits and can be delivered, but the claim fails and leaves everything as it
was. -/
theorem invalidated_draft_holds_up :
    ¬ NeverHeldUp (completed true ++ [.claimPendingResponse claimArgs]) ∧
      (DeliveryDb.run (completed true ++ [.claimPendingResponse claimArgs])).outbox =
        (DeliveryDb.run (completed true)).outbox := by
  refine ⟨fun h => ?_, by decide⟩
  have hwaits : ((claimArgs.queue (DeliveryDb.run (completed true))).find? canBeDelivered).map
      OwnerResponseClaimRow.responseId = some "response-2" := by decide +kernel
  have hnone : (claimArgs.handsOut (DeliveryDb.run (completed true))).isNone = true := by decide
  obtain ⟨row, hrow, -⟩ := Option.map_eq_some_iff.mp hwaits
  obtain ⟨claimed, hcld, -⟩ := h (completed true) claimArgs [] rfl (by decide) row hrow
  rw [hcld] at hnone
  cases hnone

end Scripted

end ServerRS.OwnerResponse

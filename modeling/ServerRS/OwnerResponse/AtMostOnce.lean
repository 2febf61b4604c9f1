import ServerRS.OwnerResponse.HandOut

/-!
# What a call does to a row of the outbox

A row leaves `claimed` under the token and within the lease that it was claimed with, or because the
lease is over, and then it is never claimed again: the only way back to `pending` is a report of a
retryable failure. Rows that are delivered, failed or of an unknown fate stay as they are.
-/

namespace ServerRS.OwnerResponse

open Lib ActionStore

/-! ## Row by row -/

/-- What the first three statements of a claim do to a row. -/
inductive Prepared (args : ClaimArgs) (row : OutboxRow) : OutboxRow → Prop where
  | keep : Prepared args row row
  | expireContext (h : row.status = .pending) : Prepared args row row.expireContext
  | expireLease (h : row.status = .claimed) (hover : row.leaseExpiresAt.any (· < args.utc) = true) :
      Prepared args row row.expireLease

/-- What a call does to a row. -/
inductive OutboxChange : DeliveryCall → OutboxRow → OutboxRow → Prop where
  | keep {call : DeliveryCall} {row : OutboxRow} : OutboxChange call row row
  | prepare {args : ClaimArgs} {row row' : OutboxRow} (h : Prepared args row row') :
      OutboxChange (.claimPendingResponse args) row row'
  | claim {args : ClaimArgs} {row : OutboxRow} (h : row.status = .pending) :
      OutboxChange (.claimPendingResponse args) row (row.claim args.token args.leaseExpires)
  | deliver {responseId : OwnerResponseId} {token : OwnerResponseLeaseToken}
      {platformMessageId : String} {utc : Timestamp} {row : OutboxRow}
      (h : isLeased responseId token utc row = true) :
      OutboxChange (.markResponseDelivered responseId token platformMessageId utc) row
        (row.deliver platformMessageId utc)
  | fail {responseId : OwnerResponseId} {token : OwnerResponseLeaseToken} {errorCode : String}
      {kind : NotificationFailureKind} {utc : Timestamp} {row : OutboxRow}
      (h : isLeased responseId token utc row = true) :
      OutboxChange (.markResponseFailed responseId token errorCode kind utc) row
        (row.fail kind errorCode utc)

theorem OutboxChange.responseId {call : DeliveryCall} {row row' : OutboxRow}
    (h : OutboxChange call row row') : row'.responseId = row.responseId := by
  cases h with
  | prepare h => cases h <;> rfl
  | _ => rfl

section

variable {db db' : DeliveryDb} {args : ClaimArgs} {row : OutboxRow}

theorem mem_updateWhere_of_mem {rows : List OutboxRow} (cond : OutboxRow → Bool)
    (set : OutboxRow → OutboxRow) (hrow : row ∈ rows) :
    (if cond row then set row else row) ∈ updateWhere cond set rows :=
  mem_updateWhere.mpr ⟨row, hrow, rfl⟩

/-- The third statement finds nothing to do in a row that the second one has failed. -/
theorem prepare_row (args : ClaimArgs) (hrow : row ∈ db.outbox) :
    ∃ row' ∈ (args.prepare db).outbox, Prepared args row row' := by
  have hmat : row ∈ (materialize args.scope db).outbox := subset_insertIgnore hrow
  have hexpired := mem_updateWhere_of_mem (leftReplyWindow args.scope args.cutoff
    (materialize args.scope db)) (·.expireContext) hmat
  refine ⟨_, mem_updateWhere_of_mem _ _ hexpired, ?_⟩
  by_cases hleft : leftReplyWindow args.scope args.cutoff (materialize args.scope db) row = true
  · rw [if_pos hleft, if_neg]
    · exact .expireContext (of_decide_eq_true hleft).1
    · intro hover
      cases (of_decide_eq_true hover).1
  · rw [if_neg hleft]
    split
    · next hover => exact .expireLease (of_decide_eq_true hover).1 (of_decide_eq_true hover).2.1
    · exact .keep

theorem prepared_claim {row' : OutboxRow} {responseId : OwnerResponseId}
    (h : Prepared args row row') : OutboxChange (.claimPendingResponse args) row
      (if isClaimOf responseId row' then row'.claim args.token args.leaseExpires else row') := by
  split
  · next hcl =>
    have hpend := (of_decide_eq_true hcl).2
    cases h with
    | keep => exact .claim hpend
    | expireContext => cases hpend
    | expireLease => cases hpend
  · exact .prepare h

/-- A row of the outbox is still there after a call, changed in one of these ways. -/
theorem step_row [ResponseFormat] (call : DeliveryCall) (hrow : row ∈ db.outbox) :
    ∃ row' ∈ (db.step call).outbox, OutboxChange call row row' := by
  cases call with
  | action statement => exact ⟨row, hrow, .keep⟩
  | invalidateDerivedState runs responses drafts now => exact ⟨row, hrow, .keep⟩
  | elsewhere events rawEvents => exact ⟨row, hrow, .keep⟩
  | claimPendingResponse args =>
    show ∃ row' ∈ (db.commit ((claimPendingResponse args db).map Prod.snd)).outbox, _
    cases hcl : claimPendingResponse args db with
    | error error => exact ⟨row, hrow, .keep⟩
    | ok result =>
      obtain ⟨answer, db'⟩ := result
      obtain ⟨row', hrow', hprep⟩ := prepare_row args hrow
      show ∃ row' ∈ db'.outbox, _
      cases (claimPendingResponse_ok hcl).2 with
      | idle => exact ⟨row', hrow', .prepare hprep⟩
      | handed hque hhand =>
        rw [hhand.written]
        exact ⟨_, mem_updateWhere_of_mem _ _ hrow', prepared_claim hprep⟩
  | markResponseDelivered responseId token platformMessageId utc =>
    show ∃ row' ∈ (db.commit (markResponseDelivered responseId token platformMessageId utc db)).outbox, _
    cases hdone : markResponseDelivered responseId token platformMessageId utc db with
    | error error => exact ⟨row, hrow, .keep⟩
    | ok db' =>
      obtain ⟨-, rfl⟩ := updateOutbox_ok hdone
      refine ⟨_, mem_updateWhere_of_mem _ _ hrow, ?_⟩
      split
      · next hleas => exact .deliver hleas
      · exact .keep
  | markResponseFailed responseId token errorCode kind utc =>
    show ∃ row' ∈ (db.commit (markResponseFailed responseId token errorCode kind utc db)).outbox, _
    cases hdone : markResponseFailed responseId token errorCode kind utc db with
    | error error => exact ⟨row, hrow, .keep⟩
    | ok db' =>
      obtain ⟨-, rfl⟩ := updateOutbox_ok hdone
      refine ⟨_, mem_updateWhere_of_mem _ _ hrow, ?_⟩
      split
      · next hleas => exact .fail hleas
      · exact .keep

end

/-! ## The primary key -/

section Keyed

variable {db db' : DeliveryDb} {args : ClaimArgs} {row : OutboxRow}

def DeliveryDb.Keyed (db : DeliveryDb) : Prop := (db.outbox.map OutboxRow.responseId).Nodup

variable {cond : OutboxRow → Bool} {set : OutboxRow → OutboxRow}

theorem keyed_updateWhere (keyed : db.Keyed) (hset : ∀ row, (set row).responseId = row.responseId) :
    DeliveryDb.Keyed { db with outbox := updateWhere cond set db.outbox } := by
  unfold DeliveryDb.Keyed
  rw [map_updateWhere hset]
  exact keyed

theorem materialize_keyed {scope : OwnerResponseDeliveryScope} (keyed : db.Keyed) :
    (materialize scope db).Keyed := by
  have hpair : db.outbox.Pairwise fun a b => decide (a.responseId = b.responseId) = false := by
    refine (List.pairwise_map.mp keyed).imp fun hne => ?_
    exact decide_eq_false hne
  have hinsd : (materialize scope db).outbox.Pairwise fun a b =>
      decide (a.responseId = b.responseId) = false :=
    insertIgnore_pairwise (fun a b => decide_eq_decide.mpr eq_comm) hpair
  exact List.pairwise_map.mpr (hinsd.imp fun hne => of_decide_eq_false hne)

theorem prepare_keyed (keyed : db.Keyed) : (args.prepare db).Keyed :=
  keyed_updateWhere (keyed_updateWhere (materialize_keyed keyed) fun _ => rfl) fun _ => rfl

theorem updateOutbox_keyed (keyed : db.Keyed) (hset : ∀ row, (set row).responseId = row.responseId) :
    (db.commit (updateOutbox cond set db)).Keyed := by
  cases hdone : updateOutbox cond set db with
  | error error => exact keyed
  | ok db' =>
    obtain ⟨-, rfl⟩ := updateOutbox_ok hdone
    exact keyed_updateWhere keyed hset

variable [ResponseFormat]

theorem step_keyed (call : DeliveryCall) (keyed : db.Keyed) : (db.step call).Keyed := by
  cases call with
  | action statement => exact keyed
  | invalidateDerivedState runs responses drafts now => exact keyed
  | elsewhere events rawEvents => exact keyed
  | claimPendingResponse args =>
    show (db.commit ((claimPendingResponse args db).map Prod.snd)).Keyed
    cases hcl : claimPendingResponse args db with
    | error error => exact keyed
    | ok result =>
      obtain ⟨answer, db'⟩ := result
      show db'.Keyed
      cases (claimPendingResponse_ok hcl).2 with
      | idle => exact prepare_keyed keyed
      | handed hque hhand =>
        rw [hhand.written]
        exact keyed_updateWhere (prepare_keyed keyed) fun _ => rfl
  | markResponseDelivered responseId token platformMessageId utc =>
    exact updateOutbox_keyed keyed fun _ => rfl
  | markResponseFailed responseId token errorCode kind utc =>
    exact updateOutbox_keyed keyed fun _ => rfl

theorem run_keyed (calls : List DeliveryCall) : (DeliveryDb.run calls).Keyed := by
  induction calls using List.reverseRecOn with
  | nil => exact List.nodup_nil
  | append_singleton calls call ih =>
    rw [DeliveryDb.run_snoc]
    exact step_keyed call ih

end Keyed

/-! ## Final rows -/

/-- Nothing is sent again for such a row. -/
def OutboxRow.isFinal (row : OutboxRow) : Bool :=
  row.status ≠ .pending ∧ row.status ≠ .claimed

theorem Prepared.final {args : ClaimArgs} {row row' : OutboxRow} (h : Prepared args row row')
    (hfin : row.isFinal = true) : row' = row := by
  obtain ⟨hpend, hcld⟩ := of_decide_eq_true hfin
  cases h with
  | keep => rfl
  | expireContext h => exact absurd h hpend
  | expireLease h => exact absurd h hcld

theorem OutboxChange.final {call : DeliveryCall} {row row' : OutboxRow}
    (h : OutboxChange call row row') (hfin : row.isFinal = true) : row' = row := by
  obtain ⟨hpend, hcld⟩ := of_decide_eq_true hfin
  cases h with
  | keep => rfl
  | prepare h => exact h.final hfin
  | claim h => exact absurd h hpend
  | deliver h => exact absurd (of_decide_eq_true h).2.1 hcld
  | fail h => exact absurd (of_decide_eq_true h).2.1 hcld

/-! ## Leases -/

section Leases

variable {db : DeliveryDb} {args : ClaimArgs} {row row' : OutboxRow} {call : DeliveryCall}
  {responseId : OwnerResponseId} {token : OwnerResponseLeaseToken} {leaseExpires : Timestamp}

/-- The row is claimed under this lease, or it is final. -/
def HeldOrFinal (token : OwnerResponseLeaseToken) (leaseExpires : Timestamp) (row : OutboxRow) : Prop :=
  row.status = .claimed ∧ row.leaseToken = some token.asStr ∧
    row.leaseExpiresAt = some leaseExpires ∨ row.isFinal = true

theorem HeldOrFinal.not_pending (h : HeldOrFinal token leaseExpires row) : row.status ≠ .pending := by
  obtain ⟨hcld, -⟩ | hfin := h
  · rw [hcld]
    decide
  · exact (of_decide_eq_true hfin).1

theorem Prepared.heldOrFinal (h : Prepared args row row') (hheld : HeldOrFinal token leaseExpires row) :
    HeldOrFinal token leaseExpires row' := by
  cases h with
  | keep => exact hheld
  | expireContext h => exact absurd h hheld.not_pending
  | expireLease => exact .inr rfl

theorem BoundedId.eq_of_asStr {field : String} {a b : BoundedId field} (h : a.asStr = b.asStr) :
    a = b := by
  cases a
  cases b
  cases h
  rfl

/-- A report under the lease of a row is accepted. -/
theorem markResponseFailed_accepted {errorCode : String} {kind : NotificationFailureKind}
    {utc : Timestamp} (keyed : db.Keyed) (hrow : row ∈ db.outbox)
    (hleas : isLeased responseId token utc row = true) :
    ∃ db', markResponseFailed responseId token errorCode kind utc db = .ok db' := by
  have hone : db.outbox.countP (isLeased responseId token utc) = 1 :=
    countP_eq_one keyed hrow hleas fun other _ hoth =>
      (of_decide_eq_true hoth).1.trans (of_decide_eq_true hleas).1.symm
  unfold markResponseFailed updateOutbox
  rw [if_pos hone]
  exact ⟨_, rfl⟩

/-- The call reports a retryable failure of the response under its lease and in time, and the report
is accepted. -/
def IsRetry (db : DeliveryDb) (responseId : OwnerResponseId) (token : OwnerResponseLeaseToken)
    (leaseExpires : Timestamp) (call : DeliveryCall) : Prop :=
  ∃ errorCode utc db', call = .markResponseFailed responseId token errorCode .retryable utc ∧
    utc ≤ leaseExpires ∧ markResponseFailed responseId token errorCode .retryable utc db = .ok db'

/-- Only a retryable failure takes a row out of its lease without settling it. -/
theorem OutboxChange.heldOrFinal (keyed : db.Keyed) (hrow : row ∈ db.outbox)
    (h : OutboxChange call row row') (hid : row.responseId = responseId.asStr)
    (hheld : HeldOrFinal token leaseExpires row) :
    HeldOrFinal token leaseExpires row' ∨ IsRetry db responseId token leaseExpires call := by
  cases h with
  | keep => exact .inl hheld
  | prepare h => exact .inl (h.heldOrFinal hheld)
  | claim h => exact absurd h hheld.not_pending
  | deliver => exact .inl (.inr rfl)
  | @fail other presented errorCode kind utc row h =>
    obtain ⟨hfor, hcld, htok, hintime⟩ := of_decide_eq_true h
    cases kind with
    | permanent => exact .inl (.inr rfl)
    | unknownCommit => exact .inl (.inr rfl)
    | retryable =>
      obtain ⟨-, hrowToken, hrowLease⟩ | hfin := hheld
      · obtain rfl : other = responseId := BoundedId.eq_of_asStr (hfor.symm.trans hid)
        obtain rfl : presented = token :=
          BoundedId.eq_of_asStr (Option.some.inj (htok.symm.trans hrowToken))
        obtain ⟨db', hacpt⟩ := markResponseFailed_accepted keyed hrow h
        rw [hrowLease] at hintime
        exact .inr ⟨errorCode, utc, db', rfl, of_decide_eq_true hintime, hacpt⟩
      · exact absurd hcld (of_decide_eq_true hfin).2

end Leases

/-! ## Runs -/

section Runs

variable [ResponseFormat] {calls later : List DeliveryCall} {args args' : ClaimArgs}
  {claimed claimed' : ClaimedOwnerResponse} {row : OutboxRow}

theorem final_stays (hrow : row ∈ (DeliveryDb.run calls).outbox) (hfin : row.isFinal = true) :
    row ∈ (DeliveryDb.run (calls ++ later)).outbox := by
  induction later using List.reverseRecOn with
  | nil => rwa [List.append_nil]
  | append_singleton later call ih =>
    rw [← List.append_assoc, DeliveryDb.run_snoc]
    obtain ⟨row', hrow', hchg⟩ := step_row call ih
    rwa [hchg.final hfin] at hrow'

/-- What is handed out is claimed under the token that goes with it. -/
theorem held_after_handsOut (h : args.handsOut (DeliveryDb.run calls) = some claimed) :
    ∃ row ∈ (DeliveryDb.run (calls ++ [.claimPendingResponse args])).outbox,
      row.responseId = claimed.responseId.asStr ∧
        HeldOrFinal claimed.leaseToken args.leaseExpires row := by
  obtain ⟨db', hcl⟩ := claim_of_handsOut h
  rw [DeliveryDb.run_snoc]
  show ∃ row ∈ ((DeliveryDb.run calls).commit ((claimPendingResponse args _).map Prod.snd)).outbox, _
  rw [hcl]
  show ∃ row ∈ db'.outbox, _
  cases (claimPendingResponse_ok hcl).2 with
  | handed hque hhand =>
    -- the one row that the update has matched
    have hpos : 0 < (args.prepare (DeliveryDb.run calls)).outbox.countP
        (isClaimOf claimed.responseId) := by
      rw [hhand.one]
      exact Nat.one_pos
    obtain ⟨row, hrow, hof⟩ := List.countP_pos_iff.mp hpos
    refine ⟨row.claim args.token args.leaseExpires, ?_, (of_decide_eq_true hof).1, .inl ⟨rfl, ?_, rfl⟩⟩
    · rw [hhand.written]
      exact mem_updateWhere.mpr ⟨row, hrow, if_pos hof⟩
    · rw [hhand.leaseToken]
      rfl

/-- A row that is held or settled is not handed out. -/
theorem not_handsOut (hrow : row ∈ (DeliveryDb.run calls).outbox)
    (hid : row.responseId = claimed.responseId.asStr) {token : OwnerResponseLeaseToken}
    {leaseExpires : Timestamp} (hheld : HeldOrFinal token leaseExpires row) :
    args.handsOut (DeliveryDb.run calls) ≠ some claimed := by
  intro h
  obtain ⟨db', hcl⟩ := claim_of_handsOut h
  cases (claimPendingResponse_ok hcl).2 with
  | handed hque hhand =>
    have hpos : 0 < (args.prepare (DeliveryDb.run calls)).outbox.countP
        (isClaimOf claimed.responseId) := by
      rw [hhand.one]
      exact Nat.one_pos
    obtain ⟨pending, hpend, hof⟩ := List.countP_pos_iff.mp hpos
    obtain ⟨row', hrow', hprep⟩ := prepare_row args hrow
    have hsame : row' = pending := by
      refine eq_of_key_eq (prepare_keyed (run_keyed calls)) hrow' hpend ?_
      have hkept := (OutboxChange.prepare hprep).responseId
      rw [hkept, hid, (of_decide_eq_true hof).1]
    have hstill := hprep.heldOrFinal hheld
    rw [hsame] at hstill
    exact hstill.not_pending (of_decide_eq_true hof).2

/-- After a response is handed out its row is held or settled, until the failure is reported that may
be retried. -/
theorem held_until_retry (later : List DeliveryCall)
    (h : args.handsOut (DeliveryDb.run calls) = some claimed) :
    (∃ before call after, later = before ++ call :: after ∧
      IsRetry (DeliveryDb.run (calls ++ [.claimPendingResponse args] ++ before)) claimed.responseId
        claimed.leaseToken args.leaseExpires call) ∨
    ∃ row ∈ (DeliveryDb.run (calls ++ [.claimPendingResponse args] ++ later)).outbox,
      row.responseId = claimed.responseId.asStr ∧
        HeldOrFinal claimed.leaseToken args.leaseExpires row := by
  induction later using List.reverseRecOn with
  | nil =>
    rw [List.append_nil]
    exact .inr (held_after_handsOut h)
  | append_singleton later call ih =>
    obtain ⟨before, earlier, after, rfl, hretry⟩ | ⟨row, hrow, hid, hheld⟩ := ih
    · refine .inl ⟨before, earlier, after ++ [call], ?_, hretry⟩
      rw [List.append_assoc, List.cons_append]
    · obtain ⟨row', hrow', hchg⟩ := step_row call hrow
      obtain hstill | hretry := hchg.heldOrFinal (run_keyed _) hrow hid hheld
      · refine .inr ⟨row', ?_, hchg.responseId.trans hid, hstill⟩
        rw [← List.append_assoc, DeliveryDb.run_snoc]
        exact hrow'
      · exact .inl ⟨later, call, [], rfl, hretry⟩

/-- Between two times that a response is handed out, the first one is reported as a failure that may
be retried, under its lease and before that is over. -/
theorem handed_out_again (h : args.handsOut (DeliveryDb.run calls) = some claimed)
    (hagain : args'.handsOut
      (DeliveryDb.run (calls ++ [.claimPendingResponse args] ++ later)) = some claimed')
    (hsame : claimed'.responseId = claimed.responseId) :
    ∃ before call after, later = before ++ call :: after ∧
      IsRetry (DeliveryDb.run (calls ++ [.claimPendingResponse args] ++ before)) claimed.responseId
        claimed.leaseToken args.leaseExpires call := by
  obtain hretry | ⟨row, hrow, hid, hheld⟩ := held_until_retry later h
  · exact hretry
  · rw [← hsame] at hid
    exact absurd hagain (not_handsOut hrow hid hheld)

end Runs

end ServerRS.OwnerResponse

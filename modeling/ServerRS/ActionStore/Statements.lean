import ServerRS.Lib.Fencing
import ServerRS.ActionStore.Store

/-!
# What a statement can do

Any number of workers send their statements to one database, which carries them out one
after the other. A `Statement` is what a worker commits at once: `claim_pending_run` is two
of them, everything else is one.

`exec_runs` says once what a statement does to the rows, one `RowChange` for each way to
write a row; what holds of all runs follows from it.
-/

namespace ServerRS.ActionStore

open Lib

/-- A statement, with the values that its worker generates for it. -/
inductive Statement where
  | ensureActionRun (runId : ActionRunId) (seed : ActionRunSeed) (now : Timestamp)
  | reclaimExpired (now : Timestamp)
  | claimOldest (workerId : String) (leaseExpires now : Timestamp) (token : ActionLeaseToken)
  | claimSuspended (claim : SuspendedRunClaim) (leaseExpires now : Timestamp)
      (token : ActionLeaseToken)
  | markSuspended (runId : ActionRunId) (token : ActionLeaseToken) (checkpoint : CheckpointSummary)
      (now : Timestamp)
  | takeCheckpoint (runId : ActionRunId) (token : ActionLeaseToken) (now : Timestamp)
  | applyEffect (runId : ActionRunId) (effect : SecretaryActionEffect) (effectId resultRef : String)
      (token : ActionLeaseToken) (now : Timestamp)
  | markCompleted (runId : ActionRunId) (token : ActionLeaseToken)
      (draft : Option OwnerResponseDraft) (responseId : String) (now : Timestamp)
  | markFailed (runId : ActionRunId) (token : ActionLeaseToken) (error : String)
      (nextEligibleAtUnixSecs : Int) (now : Timestamp)
  | releaseLease (runId : ActionRunId) (token : ActionLeaseToken) (now : Timestamp)
  /-- The rest of the program writes the tables that the store only reads. -/
  | elsewhere (directory : Directory)

/-- What a statement answers when it does not fail. -/
inductive Answer where
  | created (created : Bool)
  | affected (rows : Nat)
  | checkpoint (checkpoint : Option CheckpointSummary)
  | receipt (receipt : SecretaryActionReceipt)
  | done
deriving DecidableEq

section Statements

variable [ResponseFormat]

def Statement.exec : Statement → Tx Answer
  | .ensureActionRun runId seed now => .created <$> ActionStore.ensureActionRun runId seed now
  | .reclaimExpired now => .affected <$> ActionStore.reclaimExpired now
  | .claimOldest workerId leaseExpires now token =>
    .affected <$> ActionStore.claimOldest workerId leaseExpires now token
  | .claimSuspended claim leaseExpires now token =>
    .affected <$> ActionStore.claimSuspended claim leaseExpires now token
  | .markSuspended runId token checkpoint now =>
    (fun _ => .done) <$> ActionStore.markSuspended runId token checkpoint now
  | .takeCheckpoint runId token now => .checkpoint <$> ActionStore.takeCheckpoint runId token now
  | .applyEffect runId effect effectId resultRef token now =>
    .receipt <$> ActionStore.applyEffect runId effect effectId resultRef token now
  | .markCompleted runId token draft responseId now =>
    (fun _ => .done) <$> ActionStore.markCompleted runId token draft responseId now
  | .markFailed runId token error nextEligibleAtUnixSecs now =>
    (fun _ => .done) <$> ActionStore.markFailed runId token error nextEligibleAtUnixSecs now
  | .releaseLease runId token now => (fun _ => .done) <$> ActionStore.releaseLease runId token now
  | .elsewhere directory => fun db => (.ok .done, { db with directory })

/-- The token that a statement issues, whether or not it finds a run to claim. -/
def Statement.issues : Statement → Option ActionLeaseToken
  | .claimOldest _ _ _ token => some token
  | .claimSuspended _ _ _ token => some token
  | _ => none

/-- The run and the token that a write is presented with. -/
def Statement.presents : Statement → Option (ActionRunId × ActionLeaseToken)
  | .markSuspended runId token _ _ => some (runId, token)
  | .takeCheckpoint runId token _ => some (runId, token)
  | .applyEffect runId _ _ _ token _ => some (runId, token)
  | .markCompleted runId token _ _ _ => some (runId, token)
  | .markFailed runId token _ _ _ => some (runId, token)
  | .releaseLease runId token _ => some (runId, token)
  | _ => none

end Statements

/-- `token` is the valid token of the run. -/
def ActionDb.Held (db : ActionDb) (runId : ActionRunId) (token : ActionLeaseToken) : Prop :=
  ∃ row ∈ db.runs, row.isHeld runId token = true

instance (db : ActionDb) (runId : ActionRunId) (token : ActionLeaseToken) :
    Decidable (db.Held runId token) :=
  inferInstanceAs (Decidable (∃ row ∈ db.runs, _))

variable {row : ActionRunRow}

theorem ActionRunRow.isHeld_iff {runId : ActionRunId} {token : ActionLeaseToken} :
    row.isHeld runId token = true ↔
      row.runId = runId ∧ row.leaseToken = some token ∧ row.status = .running := by
  simp [isHeld, and_assoc]

/-- The primary keys, and the key on the run of a response. -/
structure ActionDb.Keyed (db : ActionDb) : Prop where
  runs : (db.runs.map (·.runId)).Nodup
  receipts : (db.receipts.map (·.effectId)).Nodup
  responses : (db.responses.map (·.runId)).Nodup

theorem map_apply {db db' : ActionDb} {α β : Type} {f : α → β} {x : Tx α} {r : Except ActionStoreError α}
    (h : x db = (r, db')) : (f <$> x) db = (r.map f, db') := by
  show (x >>= fun a => pure (f a)) db = _
  rw [Exec.bind_apply, h]
  cases r <;> rfl

theorem readClaimed_snd (token : ActionLeaseToken) (db : ActionDb) :
    (readClaimed token db).2 = db := by
  unfold readClaimed
  rw [Exec.get_bind_apply]
  cases db.runs.find? fun row => row.leaseToken == some token && row.status == .running with
  | none => rfl
  | some row =>
    dsimp only
    cases db.directory.accounts.find? fun account => account.id == row.accountId with
    | none => rfl
    | some account =>
      dsimp only
      cases isBlank account.platformAccountId <;> rfl

/-! ## Updates -/

section Updates

variable {runId : ActionRunId} {token : ActionLeaseToken} {set : ActionRunRow → ActionRunRow}
  {db db' : ActionDb}

/-- The database after an update of its runs. -/
def ActionDb.setRuns (db : ActionDb) (cond : ActionRunRow → Bool)
    (set : ActionRunRow → ActionRunRow) : ActionDb :=
  { db with runs := updateWhere cond set db.runs }

/-- The database after the update of a run under its lease. -/
abbrev ActionDb.setHeld (db : ActionDb) (runId : ActionRunId) (token : ActionLeaseToken)
    (set : ActionRunRow → ActionRunRow) : ActionDb :=
  db.setRuns (·.isHeld runId token) set

theorem not_held_of_not (h : ¬ db.Held runId token) :
    ∀ row ∈ db.runs, row.isHeld runId token = false :=
  fun row hrow => Bool.eq_false_iff.mpr fun hheld => h ⟨row, hrow, hheld⟩

theorem updateHeld_of_not_held (h : ¬ db.Held runId token) :
    updateHeld runId token set db = (.error .leaseLost, db) := by
  have hcnt : db.runs.countP (·.isHeld runId token) = 0 :=
    List.countP_eq_zero.mpr fun row hrow => by simp [not_held_of_not h row hrow]
  have hsame : updateWhere (·.isHeld runId token) set db.runs = db.runs :=
    updateWhere_of_forall_not (not_held_of_not h)
  simp only [updateHeld, updateRuns, Exec.bind_apply, hcnt, hsame]
  rfl

theorem updateHeld_of_held (keyed : db.Keyed) (h : db.Held runId token) :
    updateHeld runId token set db = (.ok (), db.setHeld runId token set) := by
  obtain ⟨row, hrow, hheld⟩ := h
  have hcnt : db.runs.countP (·.isHeld runId token) = 1 :=
    countP_eq_one keyed.runs hrow hheld fun other _ hoth => by
      rw [(ActionRunRow.isHeld_iff.mp hoth).1, (ActionRunRow.isHeld_iff.mp hheld).1]
  simp only [updateHeld, updateRuns, Exec.bind_apply, hcnt]
  rfl

end Updates

/-! ## Inversion -/

inductive RowChange (directory : Directory) : Statement → ActionRunRow → ActionRunRow → Prop where
  | keep (statement : Statement) (row : ActionRunRow) : RowChange directory statement row row
  | expire {now : Timestamp} {row : ActionRunRow} (h : row.isExpired now = true) :
      RowChange directory (.reclaimExpired now) row (row.expire now)
  | claim {workerId : String} {leaseExpires now : Timestamp} {token : ActionLeaseToken}
      {row : ActionRunRow} (h : row.isEligible directory now = true) :
      RowChange directory (.claimOldest workerId leaseExpires now token) row
        (row.claim workerId leaseExpires now token)
  | resume {claim : SuspendedRunClaim} {leaseExpires now : Timestamp} {token : ActionLeaseToken}
      {row : ActionRunRow} (h : claim.isFor directory row = true) :
      RowChange directory (.claimSuspended claim leaseExpires now token) row
        (row.claim claim.workerId leaseExpires now token)
  | suspend {runId : ActionRunId} {token : ActionLeaseToken} {checkpoint : CheckpointSummary}
      {now : Timestamp} {row : ActionRunRow} (h : row.isHeld runId token = true) :
      RowChange directory (.markSuspended runId token checkpoint now) row
        (row.suspend checkpoint now)
  | take {runId : ActionRunId} {token : ActionLeaseToken} {now : Timestamp} {row : ActionRunRow}
      (h : row.isHeld runId token = true) :
      RowChange directory (.takeCheckpoint runId token now) row (row.takeCheckpoint now)
  | touch {runId : ActionRunId} {effect : SecretaryActionEffect} {effectId resultRef : String}
      {token : ActionLeaseToken} {now : Timestamp} {row : ActionRunRow}
      (h : row.isHeld runId token = true) :
      RowChange directory (.applyEffect runId effect effectId resultRef token now) row (row.touch now)
  | complete {runId : ActionRunId} {token : ActionLeaseToken} {draft : Option OwnerResponseDraft}
      {responseId : String} {now : Timestamp} {row : ActionRunRow}
      (h : row.isHeld runId token = true) :
      RowChange directory (.markCompleted runId token draft responseId now) row
        (row.complete draft now)
  | fail {runId : ActionRunId} {token : ActionLeaseToken} {error : String}
      {nextEligibleAtUnixSecs : Int} {now : Timestamp} {row : ActionRunRow}
      (h : row.isHeld runId token = true) :
      RowChange directory (.markFailed runId token error nextEligibleAtUnixSecs now) row
        (row.fail error ((fromTimestamp nextEligibleAtUnixSecs).getD now) now)
  | release {runId : ActionRunId} {token : ActionLeaseToken} {now : Timestamp} {row : ActionRunRow}
      (h : row.isHeld runId token = true) :
      RowChange directory (.releaseLease runId token now) row (row.release now)

theorem RowChange.runId {directory : Directory} {statement : Statement} {row' : ActionRunRow}
    (h : RowChange directory statement row row') : row'.runId = row.runId := by
  cases h <;> rfl

/-- What a statement does to the table of runs: it changes its rows, and may add one. -/
structure RunsChange (statement : Statement) (db db' : ActionDb) : Prop where
  runs : ∃ change new, db'.runs = db.runs.map change ++ new ∧
    (∀ row ∈ db.runs, RowChange db.directory statement row (change row)) ∧
    (new = [] ∨ ∃ runId seed accountId now, statement = .ensureActionRun runId seed now ∧
      new = [seed.row runId accountId now] ∧ ∀ row ∈ db.runs, row.runId ≠ runId)

namespace RunsChange

variable {statement : Statement} {db db' : ActionDb}

theorem same (h : db'.runs = db.runs) : RunsChange statement db db' :=
  ⟨id, [], by simp [h], fun row _ => .keep statement row, .inl rfl⟩

theorem update {cond : ActionRunRow → Bool} {set : ActionRunRow → ActionRunRow}
    (h : db'.runs = updateWhere cond set db.runs)
    (hset : ∀ row ∈ db.runs, cond row = true → RowChange db.directory statement row (set row)) :
    RunsChange statement db db' := by
  refine ⟨fun row => if cond row then set row else row, [], by rw [h, List.append_nil]; rfl, ?_,
    .inl rfl⟩
  intro row hrow
  dsimp only
  split
  · next hcond => exact hset row hrow hcond
  · exact .keep statement row

/-- A row of the table afterwards was there before, or is the new one. -/
theorem row_after (h : RunsChange statement db db') {row' : ActionRunRow} (hrow' : row' ∈ db'.runs) :
    (∃ row ∈ db.runs, RowChange db.directory statement row row') ∨
      ∃ runId seed accountId now, statement = .ensureActionRun runId seed now ∧
        row' = seed.row runId accountId now := by
  obtain ⟨change, new, hruns, hchg, hnew⟩ := h.runs
  rw [hruns, List.mem_append, List.mem_map] at hrow'
  rcases hrow' with ⟨row, hrow, rfl⟩ | hrow'
  · exact .inl ⟨row, hrow, hchg row hrow⟩
  · rcases hnew with rfl | ⟨runId, seed, accountId, now, hstmt, rfl, -⟩
    · cases hrow'
    · exact .inr ⟨runId, seed, accountId, now, hstmt, List.mem_singleton.mp hrow'⟩

/-- A row of the table before is still there. -/
theorem row_before (h : RunsChange statement db db') {row : ActionRunRow} (hrow : row ∈ db.runs) :
    ∃ row' ∈ db'.runs, RowChange db.directory statement row row' := by
  obtain ⟨change, new, hruns, hchg, -⟩ := h.runs
  refine ⟨change row, ?_, hchg row hrow⟩
  rw [hruns]
  exact List.mem_append_left _ (List.mem_map_of_mem hrow)

theorem runIds_nodup (h : RunsChange statement db db') (hkey : (db.runs.map (·.runId)).Nodup) :
    (db'.runs.map (·.runId)).Nodup := by
  obtain ⟨change, new, hruns, hchg, hnew⟩ := h.runs
  have hsame : (db.runs.map change).map (·.runId) = db.runs.map (·.runId) := by
    rw [List.map_map]
    exact List.map_congr_left fun row hrow => (hchg row hrow).runId
  rw [hruns, List.map_append, hsame]
  rcases hnew with rfl | ⟨runId, seed, accountId, now, -, rfl, hfr⟩
  · simpa using hkey
  · have hconcat : ((db.runs ++ [seed.row runId accountId now]).map (·.runId)).Nodup :=
      nodup_map_concat hkey hfr
    rwa [List.map_append] at hconcat

end RunsChange

/-! ### The operations one by one -/

section Operations

variable {db db' : ActionDb} {runId : ActionRunId} {token : ActionLeaseToken} {now : Timestamp}
  {row : ActionRunRow} {result : Except ActionStoreError SecretaryActionReceipt}
  {effect : SecretaryActionEffect} {effectId resultRef responseId : String}
  {draft : Option OwnerResponseDraft}

theorem oldest_mem {rows : List ActionRunRow} (h : oldest rows = some row) : row ∈ rows := by
  induction rows generalizing row with
  | nil => cases h
  | cons first rows ih =>
    rw [oldest] at h
    split at h
    · cases h
      exact List.mem_cons_self
    · next other hoth =>
      split at h
      · cases h
        exact List.mem_cons_of_mem _ (ih hoth)
      · cases h
        exact List.mem_cons_self

/-- The run that is picked is one that may be claimed. -/
theorem ActionDb.Keyed.pick_eligible (keyed : db.Keyed) (hrow : row ∈ db.runs)
    (h : db.pick now = some row.runId) : row.isEligible db.directory now = true := by
  obtain ⟨picked, hpicked, hid⟩ := Option.map_eq_some_iff.mp h
  have hmem := List.mem_filter.mp (oldest_mem hpicked)
  rw [← eq_of_key_eq keyed.runs hmem.1 hrow hid]
  exact hmem.2

theorem ensureActionRun_cases {seed : ActionRunSeed} {result : Except ActionStoreError Bool}
    (h : ensureActionRun runId seed now db = (result, db')) :
    db' = db ∨ ∃ accountId, result = .ok true ∧ (∀ row ∈ db.runs, row.runId ≠ runId) ∧
      db' = { db with runs := db.runs ++ [seed.row runId accountId now] } := by
  unfold ensureActionRun at h
  rw [Exec.get_bind_apply] at h
  cases hacc : db.directory.resolveAccountId seed.account with
  | error error =>
    rw [hacc, Exec.error_bind_apply] at h
    cases h
    exact .inl rfl
  | ok accountId =>
    rw [hacc, Exec.ok_bind_apply] at h
    dsimp only at h
    split at h
    · cases h
      exact .inl rfl
    · split at h
      · cases h
        exact .inl rfl
      · rw [Exec.bind_apply, insertRun] at h
        split at h
        · next hinsd =>
          split at hinsd
          · cases hinsd
            rw [Exec.get_bind_apply] at h
            split at h
            · cases h
              exact .inl rfl
            · cases h
              exact .inl rfl
          · next hfr =>
            cases hinsd
            rw [Exec.get_bind_apply] at h
            cases h
            refine .inr ⟨accountId, rfl, fun row hrow hid => hfr ?_, rfl⟩
            exact List.any_eq_true.mpr ⟨row, hrow, by simp [hid, ActionRunSeed.row]⟩
        · next hinsd =>
          split at hinsd <;> cases hinsd

theorem takeCheckpoint_cases {result : Except ActionStoreError (Option CheckpointSummary)}
    (h : takeCheckpoint runId token now db = (result, db')) :
    db' = db ∨ ∃ checkpoint, result = .ok (some checkpoint) ∧
      db' = db.setRuns (fun row => row.isHeld runId token && row.lastCheckpoint.isSome)
        (·.takeCheckpoint now) := by
  cases result with
  | error error => exact .inl (Exec.atomic_error h)
  | ok taken =>
    have htkn := Exec.atomic_eq_ok.mp h
    rw [Exec.get_bind_apply] at htkn
    cases hfnd : (db.runs.find? (·.isHeld runId token)).bind (·.lastCheckpoint) with
    | none =>
      rw [hfnd] at htkn
      cases htkn
      exact .inl rfl
    | some checkpoint =>
      rw [hfnd] at htkn
      obtain ⟨affected, db₁, hupd, hrest⟩ := Exec.bind_eq_ok.mp htkn
      cases hupd
      split at hrest
      · cases hrest
      · cases hrest
        exact .inr ⟨checkpoint, rfl, rfl⟩

theorem takeCheckpoint_of_not_held (h : ¬ db.Held runId token) :
    takeCheckpoint runId token now db = (.ok none, db) := by
  have hnone : db.runs.find? (·.isHeld runId token) = none :=
    List.find?_eq_none.mpr fun row hrow => by simp [not_held_of_not h row hrow]
  unfold takeCheckpoint Exec.atomic
  rw [Exec.get_bind_apply, hnone]
  rfl

/-- The ways through `apply_effect`: the lease is lost; the receipt is new; it is there; or its
key belongs to another run. -/
inductive EffectApplied (runId : ActionRunId) (effect : SecretaryActionEffect)
    (effectId resultRef : String) (token : ActionLeaseToken) (now : Timestamp) (db : ActionDb) :
    Except ActionStoreError SecretaryActionReceipt → ActionDb → Prop where
  | lost (h : ¬ db.Held runId token) :
      EffectApplied runId effect effectId resultRef token now db (.error .leaseLost) db
  | stored (held : db.Held runId token) (hnew : ∀ row ∈ db.receipts, row.effectId ≠ effectId) :
      EffectApplied runId effect effectId resultRef token now db
        (.ok ⟨effect.proposal.proposalId, resultRef, none⟩)
        { db.setHeld runId token (·.touch now) with
          receipts := db.receipts ++
            [⟨effectId, runId, effect.proposal, takeChars resultRef MAX_RESULT_REF_CHARS, now⟩] }
  | found (held : db.Held runId token) {existing : SecretaryActionReceipt}
      (hfnd : db.effectReceipt runId effectId = some existing) :
      EffectApplied runId effect effectId resultRef token now db (.ok existing)
        (db.setHeld runId token (·.touch now))
  | collision (held : db.Held runId token)
      (hoth : ∃ row ∈ db.receipts, row.effectId = effectId)
      (hfnd : db.effectReceipt runId effectId = none) :
      EffectApplied runId effect effectId resultRef token now db
        (.error (.invalidData ("effect_id collision across action runs: " ++ effectId))) db

theorem applyEffect_of_not_held (h : ¬ db.Held runId token) :
    applyEffect runId effect effectId resultRef token now db = (.error .leaseLost, db) :=
  Exec.atomic_eq_error.mpr ⟨rfl, _, Exec.bind_eq_error.mpr (.inl (updateHeld_of_not_held h))⟩

theorem applyEffect_cases (keyed : db.Keyed)
    (h : applyEffect runId effect effectId resultRef token now db = (result, db')) :
    EffectApplied runId effect effectId resultRef token now db result db' := by
  by_cases held : db.Held runId token
  · have hupd : updateHeld runId token (·.touch now) db =
        (.ok (), db.setHeld runId token (·.touch now)) := updateHeld_of_held keyed held
    have hload : loadEffectReceipt runId effectId (db.setHeld runId token (·.touch now)) =
        (.ok (db.effectReceipt runId effectId), db.setHeld runId token (·.touch now)) := rfl
    by_cases hany : db.receipts.any (·.effectId == effectId) = true
    · have hins : insertReceipt ⟨effectId, runId, effect.proposal, resultRef, now⟩
          (db.setHeld runId token (·.touch now)) = (.ok 0, db.setHeld runId token (·.touch now)) :=
        if_pos hany
      cases hfnd : db.effectReceipt runId effectId with
      | some existing =>
        rw [hfnd] at hload
        have happ : applyEffect runId effect effectId resultRef token now db =
            (.ok existing, db.setHeld runId token (·.touch now)) := by
          refine Exec.atomic_eq_ok.mpr (Exec.bind_eq_ok.mpr ⟨(), _, hupd, ?_⟩)
          refine Exec.bind_eq_ok.mpr ⟨0, _, hins, ?_⟩
          exact Exec.bind_eq_ok.mpr ⟨some existing, _, hload, rfl⟩
        cases h.symm.trans happ
        exact .found held hfnd
      | none =>
        rw [hfnd] at hload
        have happ : applyEffect runId effect effectId resultRef token now db = (.error
            (.invalidData ("effect_id collision across action runs: " ++ effectId)), db) := by
          refine Exec.atomic_eq_error.mpr ⟨rfl, db.setHeld runId token (·.touch now), ?_⟩
          refine Exec.bind_eq_error.mpr (.inr ⟨(), _, hupd, ?_⟩)
          refine Exec.bind_eq_error.mpr (.inr ⟨0, _, hins, ?_⟩)
          exact Exec.bind_eq_error.mpr (.inr ⟨none, _, hload, rfl⟩)
        cases h.symm.trans happ
        exact .collision held (by simpa using hany) hfnd
    · have hins : insertReceipt ⟨effectId, runId, effect.proposal, resultRef, now⟩
          (db.setHeld runId token (·.touch now)) = (.ok 1, { db.setHeld runId token (·.touch now) with
            receipts := db.receipts ++ [⟨effectId, runId, effect.proposal,
              takeChars resultRef MAX_RESULT_REF_CHARS, now⟩] }) := if_neg hany
      have happ : applyEffect runId effect effectId resultRef token now db = (.ok _, _) :=
        Exec.atomic_eq_ok.mpr (Exec.bind_eq_ok.mpr ⟨(), _, hupd,
          Exec.bind_eq_ok.mpr ⟨1, _, hins, rfl⟩⟩)
      cases h.symm.trans happ
      refine .stored held fun row hrow hid => hany ?_
      exact List.any_eq_true.mpr ⟨row, hrow, by simp [hid]⟩
  · cases h.symm.trans (applyEffect_of_not_held held)
    exact .lost held

theorem applyEffect_receipt (keyed : db.Keyed) {receipt : SecretaryActionReceipt}
    (h : applyEffect runId effect effectId resultRef token now db = (.ok receipt, db')) :
    ∃ row ∈ db'.receipts, row.runId = runId ∧ row.effectId = effectId := by
  cases applyEffect_cases keyed h with
  | stored => exact ⟨_, List.mem_append_right _ (List.mem_singleton_self _), rfl, rfl⟩
  | found held hfnd =>
    obtain ⟨row, hrow, -⟩ := Option.map_eq_some_iff.mp hfnd
    have hkeys := List.find?_some hrow
    simp only [Bool.and_eq_true, beq_iff_eq] at hkeys
    exact ⟨row, List.mem_of_find?_eq_some hrow, hkeys⟩

/-- Where the receipt of an effect is stored, `apply_effect` answers with it and stores nothing. -/
theorem applyEffect_stored (keyed : db.Keyed) {row : EffectReceiptRow} (hrow : row ∈ db.receipts)
    (h : applyEffect row.runId effect row.effectId resultRef token now db = (result, db')) :
    db'.receipts = db.receipts ∧ (result = .error .leaseLost ∨
      result = .ok ⟨row.proposal.proposalId, row.resultRef, none⟩) := by
  have hfind : db.effectReceipt row.runId row.effectId =
      some ⟨row.proposal.proposalId, row.resultRef, none⟩ := by
    refine Option.map_eq_some_iff.mpr ⟨row, ?_, rfl⟩
    cases hfnd : db.receipts.find? fun r => r.runId == row.runId && r.effectId == row.effectId with
    | none =>
      have hnone := List.find?_eq_none.mp hfnd row hrow
      simp at hnone
    | some other =>
      have hkeys := List.find?_some hfnd
      simp only [Bool.and_eq_true, beq_iff_eq] at hkeys
      rw [eq_of_key_eq keyed.receipts (List.mem_of_find?_eq_some hfnd) hrow hkeys.2]
  cases applyEffect_cases keyed h with
  | lost => exact ⟨rfl, .inl rfl⟩
  | stored held hnew => exact absurd rfl (hnew row hrow)
  | found held hfnd =>
    cases hfind.symm.trans hfnd
    exact ⟨rfl, .inr rfl⟩
  | collision held _ hfnd =>
    cases hfind.symm.trans hfnd

theorem insertResponse_cases {row : ActionResponseRow} {result : Except ActionStoreError Unit}
    (h : insertResponse row db = (result, db')) :
    (∃ text, result = .error (.database text)) ∨
      result = .ok () ∧ (∀ other ∈ db.responses, other.runId ≠ row.runId) ∧
        db' = { db with responses := db.responses ++ [row] } := by
  unfold insertResponse at h
  split at h
  · cases h
    exact .inl ⟨_, rfl⟩
  · next hany =>
    cases h
    refine .inr ⟨rfl, fun other hoth hid => hany ?_, rfl⟩
    exact List.any_eq_true.mpr ⟨other, hoth, by simp [hid]⟩

def responseRows (runId : ActionRunId) (responseId : String) (now : Timestamp) :
    Option (OwnerResponseDraft × ℕ) → List ActionResponseRow
  | none => []
  | some (draft, len) => [⟨responseId, runId, draft, len, now⟩]

theorem checkDraft_some [ResponseFormat] {stored : OwnerResponseDraft × ℕ}
    (h : checkDraft draft = .ok (some stored)) : draft = some stored.1 := by
  unfold checkDraft at h
  split at h
  · cases h
  · split at h
    · cases h
    · split at h
      · cases h
      · cases h
        rfl

/-- What `mark_completed` answers once the lease is lost: the draft is checked first. -/
def lostCompletion [ResponseFormat] (draft : Option OwnerResponseDraft) : ActionStoreError :=
  match checkDraft draft with
  | .error error => error
  | .ok _ => .leaseLost

theorem markCompleted_of_not_held [ResponseFormat] (h : ¬ db.Held runId token) :
    markCompleted runId token draft responseId now db = (.error (lostCompletion draft), db) := by
  unfold markCompleted lostCompletion
  cases checkDraft draft with
  | error error => rfl
  | ok stored =>
    exact Exec.atomic_eq_error.mpr ⟨rfl, _, Exec.bind_eq_error.mpr (.inl (updateHeld_of_not_held h))⟩

/-- The ways through `mark_completed`: the draft is refused; the lease is lost; the run is
completed; or it has a response already. -/
inductive RunCompleted [ResponseFormat] (runId : ActionRunId) (token : ActionLeaseToken)
    (draft : Option OwnerResponseDraft) (responseId : String) (now : Timestamp) (db : ActionDb) :
    Except ActionStoreError Unit → ActionDb → Prop where
  | refused {error : ActionStoreError} (h : checkDraft draft = .error error) :
      RunCompleted runId token draft responseId now db (.error error) db
  | lost (h : ¬ db.Held runId token) :
      RunCompleted runId token draft responseId now db (.error (lostCompletion draft)) db
  | completed {stored : Option (OwnerResponseDraft × ℕ)} (hdraft : checkDraft draft = .ok stored)
      (held : db.Held runId token)
      (hnew : stored ≠ none → ∀ row ∈ db.responses, row.runId ≠ runId) :
      RunCompleted runId token draft responseId now db (.ok ())
        { db.setHeld runId token (·.complete draft now) with
          responses := db.responses ++ responseRows runId responseId now stored }
  | duplicate {text : String} (held : db.Held runId token) :
      RunCompleted runId token draft responseId now db (.error (.database text)) db

theorem markCompleted_cases [ResponseFormat] (keyed : db.Keyed)
    {result : Except ActionStoreError Unit}
    (h : markCompleted runId token draft responseId now db = (result, db')) :
    RunCompleted runId token draft responseId now db result db' := by
  by_cases held : db.Held runId token
  · unfold markCompleted at h
    have hupd : updateHeld runId token (·.complete draft now) db =
        (.ok (), db.setHeld runId token (·.complete draft now)) := updateHeld_of_held keyed held
    cases hdraft : checkDraft draft with
    | error error =>
      rw [hdraft, Exec.error_bind_apply] at h
      cases h
      exact .refused hdraft
    | ok stored =>
      rw [hdraft, Exec.ok_bind_apply] at h
      cases result with
      | error error =>
        obtain ⟨rfl, db₁, hfail⟩ := Exec.atomic_eq_error.mp h
        rcases Exec.bind_eq_error.mp hfail with hlost | ⟨⟨⟩, db₂, -, hins⟩
        · rw [hupd] at hlost
          cases hlost
        · cases stored with
          | none => cases hins
          | some stored =>
            rcases insertResponse_cases hins with ⟨text, hdupl⟩ | ⟨hinsd, -⟩
            · cases hdupl
              exact .duplicate held
            · cases hinsd
      | ok done =>
        obtain ⟨⟨⟩, db₁, hupdated, hins⟩ := Exec.bind_eq_ok.mp (Exec.atomic_eq_ok.mp h)
        cases hupd.symm.trans hupdated
        cases stored with
        | none =>
          cases hins
          have hdone : RunCompleted runId token draft responseId now db (.ok ())
              { db.setHeld runId token (·.complete draft now) with
                responses := db.responses ++ [] } := .completed hdraft held fun hsome => absurd rfl hsome
          rwa [List.append_nil] at hdone
        | some stored =>
          rcases insertResponse_cases hins with ⟨text, hdupl⟩ | ⟨-, hfr, rfl⟩
          · cases hdupl
          · exact .completed hdraft held fun _ => hfr
  · cases h.symm.trans (markCompleted_of_not_held held)
    exact .lost held

end Operations

/-! ### All statements -/

section All

variable {db db' : ActionDb} {statement : Statement} {result : Except ActionStoreError Answer}

/-- A renamed answer. -/
theorem map_eq {α β : Type} {f : α → β} {x : Tx α} {r : Except ActionStoreError β}
    (h : (f <$> x) db = (r, db')) : ∃ r₀, x db = (r₀, db') ∧ r = r₀.map f := by
  rcases Exec.bind_eq (f := fun a => pure (f a)) h with ⟨a, db₁, hx, hpure⟩ | ⟨error, hx, rfl⟩
  · cases hpure
    exact ⟨.ok a, hx, rfl⟩
  · exact ⟨.error error, hx, rfl⟩

variable {runId : ActionRunId} {token : ActionLeaseToken} {set : ActionRunRow → ActionRunRow}
  {answer : Except ActionStoreError Unit}

theorem runsChange_updateHeld (keyed : db.Keyed)
    (hset : ∀ row, row.isHeld runId token = true → RowChange db.directory statement row (set row))
    (h : updateHeld runId token set db = (answer, db')) : RunsChange statement db db' := by
  by_cases held : db.Held runId token
  · cases h.symm.trans (updateHeld_of_held keyed held)
    exact .update rfl fun row _ => hset row
  · cases h.symm.trans (updateHeld_of_not_held held)
    exact .same rfl

variable [ResponseFormat]

theorem exec_runs (keyed : db.Keyed) (h : statement.exec db = (result, db')) :
    RunsChange statement db db' := by
  cases statement with
  | ensureActionRun runId seed now =>
    obtain ⟨created, hens, -⟩ := map_eq h
    rcases ensureActionRun_cases hens with rfl | ⟨accountId, -, hfr, rfl⟩
    · exact .same rfl
    · exact ⟨id, [seed.row runId accountId now], by simp, fun row _ => .keep _ row,
        .inr ⟨runId, seed, accountId, now, rfl, rfl, hfr⟩⟩
  | reclaimExpired now =>
    obtain ⟨affected, hrecl, -⟩ := map_eq h
    cases hrecl
    exact .update rfl fun row _ hexpired => .expire hexpired
  | claimOldest workerId leaseExpires now token =>
    obtain ⟨affected, hcl, -⟩ := map_eq h
    cases hcl
    refine .update rfl fun row hrow hpick => .claim (keyed.pick_eligible hrow ?_)
    simpa using hpick
  | claimSuspended claim leaseExpires now token =>
    obtain ⟨affected, hcl, -⟩ := map_eq h
    cases hcl
    exact .update rfl fun row _ hfor => .resume hfor
  | markSuspended runId token checkpoint now =>
    obtain ⟨answer, hmark, -⟩ := map_eq h
    exact runsChange_updateHeld keyed (fun row held => .suspend held) hmark
  | takeCheckpoint runId token now =>
    obtain ⟨answer, htake, -⟩ := map_eq h
    rcases takeCheckpoint_cases htake with rfl | ⟨checkpoint, -, rfl⟩
    · exact .same rfl
    · refine .update rfl fun row _ hcond => .take ?_
      rw [Bool.and_eq_true] at hcond
      exact hcond.1
  | applyEffect runId effect effectId resultRef token now =>
    obtain ⟨answer, happ, -⟩ := map_eq h
    cases applyEffect_cases keyed happ with
    | lost => exact .same rfl
    | stored => exact .update rfl fun row _ held => .touch held
    | found => exact .update rfl fun row _ held => .touch held
    | collision => exact .same rfl
  | markCompleted runId token draft responseId now =>
    obtain ⟨answer, hmark, -⟩ := map_eq h
    cases markCompleted_cases keyed hmark with
    | refused => exact .same rfl
    | lost => exact .same rfl
    | completed => exact .update rfl fun row _ held => .complete held
    | duplicate => exact .same rfl
  | markFailed runId token error nextEligibleAtUnixSecs now =>
    obtain ⟨answer, hmark, -⟩ := map_eq h
    exact runsChange_updateHeld keyed (fun row held => .fail held) hmark
  | releaseLease runId token now =>
    obtain ⟨answer, hrel, -⟩ := map_eq h
    exact runsChange_updateHeld keyed (fun row held => .release held) hrel
  | elsewhere directory =>
    cases h
    exact .same rfl

/-- What a statement does to the receipts and the responses: it may add one row to one of them,
under a new key. -/
inductive TablesChange (db db' : ActionDb) : Prop where
  | keep (hrcps : db'.receipts = db.receipts) (hresps : db'.responses = db.responses)
  | receipt (row : EffectReceiptRow) (hnew : ∀ other ∈ db.receipts, other.effectId ≠ row.effectId)
      (hrcps : db'.receipts = db.receipts ++ [row]) (hresps : db'.responses = db.responses)
  | response (row : ActionResponseRow) (hnew : ∀ other ∈ db.responses, other.runId ≠ row.runId)
      (hrcps : db'.receipts = db.receipts) (hresps : db'.responses = db.responses ++ [row])

/-- The statement that makes such a change. No operation of the store writes the tables that it
only reads. -/
inductive Statement.Changes (statement : Statement) (db db' : ActionDb) : Prop where
  | keep (hrcps : db'.receipts = db.receipts) (hresps : db'.responses = db.responses)
      (hdir : db'.directory = db.directory)
  | receipt (row : EffectReceiptRow) {effect : SecretaryActionEffect} {resultRef : String}
      {token : ActionLeaseToken} {now : Timestamp}
      (hstmt : statement = .applyEffect row.runId effect row.effectId resultRef token now)
      (held : db.Held row.runId token) (hnew : ∀ other ∈ db.receipts, other.effectId ≠ row.effectId)
      (hrcps : db'.receipts = db.receipts ++ [row]) (hresps : db'.responses = db.responses)
      (hdir : db'.directory = db.directory)
  | response (row : ActionResponseRow) {token : ActionLeaseToken} {now : Timestamp}
      (hstmt : statement = .markCompleted row.runId token (some row.response) row.responseId now)
      (hnew : ∀ other ∈ db.responses, other.runId ≠ row.runId)
      (hrcps : db'.receipts = db.receipts) (hresps : db'.responses = db.responses ++ [row])
      (hdir : db'.directory = db.directory)
  | elsewhere (hstmt : statement = .elsewhere db'.directory) (hrcps : db'.receipts = db.receipts)
      (hresps : db'.responses = db.responses)

omit [ResponseFormat] in
theorem changes_updateHeld (keyed : db.Keyed) (h : updateHeld runId token set db = (answer, db')) :
    statement.Changes db db' := by
  by_cases held : db.Held runId token
  · cases h.symm.trans (updateHeld_of_held keyed held)
    exact .keep rfl rfl rfl
  · cases h.symm.trans (updateHeld_of_not_held held)
    exact .keep rfl rfl rfl

theorem exec_changes (keyed : db.Keyed) (h : statement.exec db = (result, db')) :
    statement.Changes db db' := by
  cases statement with
  | ensureActionRun runId seed now =>
    obtain ⟨created, hens, -⟩ := map_eq h
    rcases ensureActionRun_cases hens with rfl | ⟨accountId, -, -, rfl⟩ <;> exact .keep rfl rfl rfl
  | reclaimExpired now =>
    obtain ⟨affected, hrecl, -⟩ := map_eq h
    cases hrecl
    exact .keep rfl rfl rfl
  | claimOldest workerId leaseExpires now token =>
    obtain ⟨affected, hcl, -⟩ := map_eq h
    cases hcl
    exact .keep rfl rfl rfl
  | claimSuspended claim leaseExpires now token =>
    obtain ⟨affected, hcl, -⟩ := map_eq h
    cases hcl
    exact .keep rfl rfl rfl
  | markSuspended runId token checkpoint now =>
    obtain ⟨answer, hmark, -⟩ := map_eq h
    exact changes_updateHeld keyed hmark
  | takeCheckpoint runId token now =>
    obtain ⟨answer, htake, -⟩ := map_eq h
    rcases takeCheckpoint_cases htake with rfl | ⟨checkpoint, -, rfl⟩ <;> exact .keep rfl rfl rfl
  | applyEffect runId effect effectId resultRef token now =>
    obtain ⟨answer, happ, -⟩ := map_eq h
    cases applyEffect_cases keyed happ with
    | lost => exact .keep rfl rfl rfl
    | stored held hnew => exact .receipt _ rfl held hnew rfl rfl rfl
    | found => exact .keep rfl rfl rfl
    | collision => exact .keep rfl rfl rfl
  | markCompleted runId token draft responseId now =>
    obtain ⟨answer, hmark, -⟩ := map_eq h
    cases markCompleted_cases keyed hmark with
    | refused => exact .keep rfl rfl rfl
    | lost => exact .keep rfl rfl rfl
    | @completed stored hdraft _ hnew =>
      cases stored with
      | none => exact .keep rfl (List.append_nil _) rfl
      | some stored =>
        rw [checkDraft_some hdraft]
        exact .response _ rfl (hnew nofun) rfl rfl rfl
    | duplicate => exact .keep rfl rfl rfl
  | markFailed runId token error nextEligibleAtUnixSecs now =>
    obtain ⟨answer, hmark, -⟩ := map_eq h
    exact changes_updateHeld keyed hmark
  | releaseLease runId token now =>
    obtain ⟨answer, hrel, -⟩ := map_eq h
    exact changes_updateHeld keyed hrel
  | elsewhere directory =>
    cases h
    exact .elsewhere rfl rfl rfl

theorem exec_tables (keyed : db.Keyed) (h : statement.exec db = (result, db')) :
    TablesChange db db' := by
  cases exec_changes keyed h with
  | keep hrcps hresps => exact .keep hrcps hresps
  | receipt row _ _ hnew hrcps hresps => exact .receipt row hnew hrcps hresps
  | response row _ hnew hrcps hresps => exact .response row hnew hrcps hresps
  | elsewhere _ hrcps hresps => exact .keep hrcps hresps

/-- Only `apply_effect` writes receipts, under its lease. -/
theorem exec_receipts (keyed : db.Keyed) (h : statement.exec db = (result, db')) :
    db'.receipts = db.receipts ∨ ∃ runId effect effectId resultRef token now row,
      statement = .applyEffect runId effect effectId resultRef token now ∧ db.Held runId token ∧
        db'.receipts = db.receipts ++ [row] ∧ row.runId = runId ∧ row.effectId = effectId := by
  cases exec_changes keyed h with
  | keep hrcps => exact .inl hrcps
  | receipt row hstmt held _ hrcps =>
    exact .inr ⟨_, _, _, _, _, _, row, hstmt, held, hrcps, rfl, rfl⟩
  | response _ _ _ hrcps => exact .inl hrcps
  | elsewhere _ hrcps => exact .inl hrcps

/-- No operation of the store writes the tables that it only reads. -/
theorem exec_directory (keyed : db.Keyed) (h : statement.exec db = (result, db')) :
    db'.directory = db.directory ∨ statement = .elsewhere db'.directory := by
  cases exec_changes keyed h with
  | keep _ _ hdir => exact .inl hdir
  | receipt _ _ _ _ _ _ hdir => exact .inl hdir
  | response _ _ _ _ _ hdir => exact .inl hdir
  | elsewhere hstmt => exact .inr hstmt

/-- A response is the draft that its run was completed with. -/
theorem exec_responses (keyed : db.Keyed) (h : statement.exec db = (result, db'))
    {response : ActionResponseRow} (hresp : response ∈ db'.responses) :
    response ∈ db.responses ∨ ∃ token now,
      statement = .markCompleted response.runId token (some response.response) response.responseId
        now := by
  cases exec_changes keyed h with
  | keep _ hresps => exact .inl (hresps ▸ hresp)
  | receipt _ _ _ _ _ hresps => exact .inl (hresps ▸ hresp)
  | @response row token now hstmt _ _ hresps =>
    rw [hresps] at hresp
    rcases List.mem_append.mp hresp with hold | hadded
    · exact .inl hold
    · cases List.mem_singleton.mp hadded
      exact .inr ⟨token, now, hstmt⟩
  | elsewhere _ _ hresps => exact .inl (hresps ▸ hresp)

theorem exec_keyed (keyed : db.Keyed) (h : statement.exec db = (result, db')) : db'.Keyed := by
  have hruns := (exec_runs keyed h).runIds_nodup keyed.runs
  cases exec_tables keyed h with
  | keep hrcps hresps =>
    exact ⟨hruns, by rw [hrcps]; exact keyed.receipts, by rw [hresps]; exact keyed.responses⟩
  | receipt row hnew hrcps hresps =>
    refine ⟨hruns, ?_, by rw [hresps]; exact keyed.responses⟩
    rw [hrcps]
    exact nodup_map_concat keyed.receipts hnew
  | response row hnew hrcps hresps =>
    refine ⟨hruns, by rw [hrcps]; exact keyed.receipts, ?_⟩
    rw [hresps]
    exact nodup_map_concat keyed.responses hnew

/-- What a write answers under a token that is not valid. -/
def Statement.staleAnswer : Statement → Except ActionStoreError Answer
  | .takeCheckpoint _ _ _ => .ok (.checkpoint none)
  | .markCompleted _ _ draft _ _ => .error (lostCompletion draft)
  | _ => .error .leaseLost

/-- A write under a token that is not valid changes nothing. -/
theorem exec_stale (hpres : statement.presents = some (runId, token))
    (h : ¬ db.Held runId token) : statement.exec db = (statement.staleAnswer, db) := by
  cases statement with
  | markSuspended =>
    cases hpres
    exact map_apply (updateHeld_of_not_held h)
  | takeCheckpoint =>
    cases hpres
    exact map_apply (takeCheckpoint_of_not_held h)
  | applyEffect =>
    cases hpres
    exact map_apply (applyEffect_of_not_held h)
  | markCompleted =>
    cases hpres
    exact map_apply (markCompleted_of_not_held h)
  | markFailed =>
    cases hpres
    exact map_apply (updateHeld_of_not_held h)
  | releaseLease =>
    cases hpres
    exact map_apply (updateHeld_of_not_held h)
  | _ => cases hpres

end All

/-! ## A scripted store

The account `10001` of an Owner with one binding and two commands. -/

namespace Scripted

scoped instance format : ResponseFormat where
  parseArtifacts := fun _ => none
  parseOptionalArtifact := fun _ => none
  parseArtifact := fun _ => none
  draftLen := fun _ => some 100

def account : SourceAccountRef := ⟨.napCat, "10001"⟩

def commandEvent : SourceEventId := ⟨"evt-cmd", by decide⟩

/-- What `verify_owner_command` accepts as a message of the Owner. -/
def ownerMessage (id : SourceEventId) : SourceEventRow where
  sourceEventId := id
  accountId := 2
  conversationId := 1
  sourceChannel := .qqOpenPlatform
  eventType := .message
  actorPlatformId := "owner-openid"
  actorKind := .owner
  messageRole := .ownerCommand

def directory : Directory where
  accounts := [⟨1, .napCat, "10001", true⟩, ⟨2, .qqOpenPlatform, "app-1", true⟩]
  sourceEvents := [ownerMessage commandEvent]
  conversations := [⟨1, .ownerControl⟩]
  ownerBindings := [⟨1, 2, "owner-openid", true⟩]

def runId : ActionRunId := ⟨"run-1", by decide⟩

def token (id : String) : ActionLeaseToken :=
  if valid : validateActionId "action_lease_token" id = .ok () then ⟨id, valid⟩
  else ⟨"lease", by decide⟩

def seed : ActionRunSeed where
  account := account
  commandSourceEventId := commandEvent
  commandText := "帮我看看"
  conversationId := "owner-1"
  occurredAtUnixSecs := 1700000000
  timezoneOffsetSecs := 28800
  timezone := "Asia/Shanghai"
  recentEvents := []

/-- The run is created, claimed with a lease up to 100, and reclaimed at 101. -/
def reclaimed : List Statement :=
  [.ensureActionRun runId seed 0, .claimOldest "worker-1" 100 1 (token "lease-1"),
    .reclaimExpired 101]

end Scripted

end ServerRS.ActionStore

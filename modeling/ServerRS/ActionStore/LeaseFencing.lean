import Mathlib.Data.List.Induction
import ServerRS.ActionStore.Statements

/-!
# Lease fencing

The store as a machine with fencing tokens: the tokens are those of the leases, and one is
valid while a running row holds it. No operation looks at the expiry of the lease it is
given, so a lease ends only where it is reclaimed or given back.
-/

namespace ServerRS.ActionStore

open Lib

/-! ## What a row keeps -/

variable {statement : Statement} {row row' : ActionRunRow}

theorem RowChange.held {directory : Directory} {runId : ActionRunId} {token : ActionLeaseToken}
    (h : RowChange directory statement row row') (held : row'.isHeld runId token = true) :
    row.isHeld runId token = true ∨ statement.issues = some token := by
  rw [ActionRunRow.isHeld_iff] at held
  obtain ⟨hid, htok, hstat⟩ := held
  cases h with
  | keep => exact .inl (ActionRunRow.isHeld_iff.mpr ⟨hid, htok, hstat⟩)
  | expire => cases hstat
  | claim => exact .inr htok
  | resume => exact .inr htok
  | suspend => cases hstat
  | take => exact .inl (ActionRunRow.isHeld_iff.mpr ⟨hid, htok, hstat⟩)
  | touch => exact .inl (ActionRunRow.isHeld_iff.mpr ⟨hid, htok, hstat⟩)
  | complete => cases hstat
  | fail => cases hstat
  | release => cases hstat

theorem RowChange.completed {directory : Directory} (h : RowChange directory statement row row')
    (hcomp : row.status = .completed) : row' = row := by
  have hnot : ∀ {runId token}, row.isHeld runId token = true → row' = row := fun held => by
    rw [(ActionRunRow.isHeld_iff.mp held).2.2] at hcomp
    cases hcomp
  cases h with
  | keep => rfl
  | expire h => simp [ActionRunRow.isExpired, hcomp] at h
  | claim h => simp [ActionRunRow.isEligible, hcomp] at h
  | resume h => simp [SuspendedRunClaim.isFor, hcomp] at h
  | suspend h => exact hnot h
  | take h => exact hnot h
  | touch h => exact hnot h
  | complete h => exact hnot h
  | fail h => exact hnot h
  | release h => exact hnot h

theorem RowChange.suspended {directory : Directory} (h : RowChange directory statement row row')
    (hsusp : row'.status = .suspended) :
    row' = row ∨ ∃ runId token checkpoint now, statement = .markSuspended runId token checkpoint now ∧
      row.isHeld runId token = true ∧ row' = row.suspend checkpoint now := by
  have hnot : ∀ {runId token}, row.isHeld runId token = true → row.status ≠ .suspended := by
    intro runId token held hstat
    rw [(ActionRunRow.isHeld_iff.mp held).2.2] at hstat
    cases hstat
  cases h with
  | keep => exact .inl rfl
  | suspend held => exact .inr ⟨_, _, _, _, rfl, held, rfl⟩
  | take held => exact absurd hsusp (hnot held)
  | touch held => exact absurd hsusp (hnot held)
  | _ => cases hsusp

theorem SuspendedRunClaim.isFor_spec {directory : Directory} {claim : SuspendedRunClaim}
    (h : claim.isFor directory row = true) : row.runId = claim.runId ∧ row.status = .suspended ∧
      row.commandSourceEventId = claim.commandSourceEventId ∧
      ∃ checkpoint, row.lastCheckpoint = some checkpoint ∧
        checkpoint.checkpointId = claim.checkpointId ∧ checkpoint.proposalId = claim.proposalId := by
  simp only [isFor, Bool.and_eq_true, beq_iff_eq, Option.any_eq_true] at h
  obtain ⟨⟨⟨⟨hid, hstat⟩, hcmd⟩, hckpt⟩, -⟩ := h
  exact ⟨hid, hstat, hcmd, hckpt⟩

theorem held_unique {db : ActionDb} (keyed : db.Keyed) {runId : ActionRunId}
    {token other : ActionLeaseToken} (h : db.Held runId token) (hoth : db.Held runId other) :
    token = other := by
  obtain ⟨row, hrow, held⟩ := h
  obtain ⟨row', hrow', held'⟩ := hoth
  rw [ActionRunRow.isHeld_iff] at held held'
  have hsame := eq_of_key_eq keyed.runs hrow hrow' (held.1.trans held'.1.symm)
  subst hsame
  exact Option.some.inj (held.2.1.symm.trans held'.2.1)

section Store

variable [ResponseFormat]

abbrev Store := { db : ActionDb // db.Keyed }

def Store.new (directory : Directory) : Store :=
  ⟨{ directory }, List.nodup_nil, List.nodup_nil, List.nodup_nil⟩

variable {statement : Statement} {row : ActionRunRow}

/-- A statement makes no token valid but the one that it issues. -/
theorem held_step {db db' : ActionDb} (keyed : db.Keyed) {result : Except ActionStoreError Answer}
    (h : statement.exec db = (result, db')) {runId : ActionRunId} {token : ActionLeaseToken}
    (held : db'.Held runId token) : db.Held runId token ∨ statement.issues = some token := by
  obtain ⟨row', hrow', held⟩ := held
  rcases (exec_runs keyed h).row_after hrow' with ⟨row, hrow, hchg⟩ | ⟨_, seed, _, _, -, rfl⟩
  · exact (hchg.held held).imp (fun held => ⟨row, hrow, held⟩) id
  · cases (ActionRunRow.isHeld_iff.mp held).2.1

def Statement.step (statement : Statement) (db : Store) : Store :=
  ⟨(statement.exec db.val).2, exec_keyed db.property rfl⟩

def leasesOf (runId : ActionRunId) : Fenced Store Statement ActionLeaseToken where
  step := Statement.step
  issues := Statement.issues
  valid db token := db.val.Held runId token
  valid_step := fun {_ db _} h => held_step db.property rfl h

def issuedTokens (statements : List Statement) : List ActionLeaseToken :=
  statements.filterMap Statement.issues

def storeAfter (directory : Directory) (statements : List Statement) : Store :=
  statements.foldl (fun db statement => statement.step db) (Store.new directory)

def dbAfter (directory : Directory) (statements : List Statement) : ActionDb :=
  (storeAfter directory statements).val

variable {directory : Directory} {statements before middle after : List Statement}

theorem dbAfter_snoc :
    dbAfter directory (before ++ [statement]) = (statement.exec (dbAfter directory before)).2 := by
  rw [dbAfter, storeAfter, List.foldl_append]
  rfl

theorem dbAfter_keyed : (dbAfter directory statements).Keyed :=
  (storeAfter directory statements).property

/-- What one more statement does to the rows. -/
theorem dbAfter_runs : RunsChange statement (dbAfter directory before)
    (dbAfter directory (before ++ [statement])) := by
  rw [dbAfter_snoc]
  exact exec_runs dbAfter_keyed rfl

theorem dbAfter_tables : TablesChange (dbAfter directory before)
    (dbAfter directory (before ++ [statement])) := by
  rw [dbAfter_snoc]
  exact exec_tables dbAfter_keyed rfl

theorem dbAfter_directory :
    (dbAfter directory (before ++ [statement])).directory = (dbAfter directory before).directory ∨
      statement = .elsewhere (dbAfter directory (before ++ [statement])).directory := by
  rw [dbAfter_snoc]
  exact exec_directory dbAfter_keyed rfl

/-! ## Tokens that were valid -/

/-- Once a token that was valid for a run is not, it never is again. -/
theorem stale_token (hfr : (issuedTokens (before ++ middle ++ after)).Nodup)
    {runId : ActionRunId} {token : ActionLeaseToken}
    (hval : (dbAfter directory before).Held runId token)
    (hend : ¬ (dbAfter directory (before ++ middle)).Held runId token) :
    ¬ (dbAfter directory (before ++ middle ++ after)).Held runId token := by
  refine (leasesOf runId).stale (s := Store.new directory) ?_ hfr hval hend
  rintro ⟨row, hrow, -⟩
  cases hrow

/-! ## Completed runs -/

/-- The row of a completed run is never written again. -/
theorem completed_stays (hrow : row ∈ (dbAfter directory before).runs)
    (hcomp : row.status = .completed) : row ∈ (dbAfter directory (before ++ after)).runs := by
  induction after using List.reverseRecOn with
  | nil => rwa [List.append_nil]
  | append_singleton after statement ih =>
    have hruns : RunsChange statement (dbAfter directory (before ++ after))
      (dbAfter directory (before ++ after ++ [statement])) := dbAfter_runs
    obtain ⟨row', hrow', hchg⟩ := hruns.row_before ih
    rw [hchg.completed hcomp] at hrow'
    rwa [← List.append_assoc]

/-! ## Receipts -/

theorem receipts_stay {row : EffectReceiptRow} (hrow : row ∈ (dbAfter directory before).receipts) :
    row ∈ (dbAfter directory (before ++ after)).receipts := by
  induction after using List.reverseRecOn with
  | nil => rwa [List.append_nil]
  | append_singleton after statement ih =>
    have htables : TablesChange (dbAfter directory (before ++ after))
      (dbAfter directory (before ++ after ++ [statement])) := dbAfter_tables
    rw [← List.append_assoc]
    cases htables with
    | keep hrcps _ => rwa [hrcps]
    | receipt new _ hrcps _ =>
      rw [hrcps]
      exact List.mem_append_left _ ih
    | response _ _ hrcps _ => rwa [hrcps]

/-! ## Suspended runs -/

/-- `runId` was suspended at `checkpoint` by a statement of `statements`, and has been suspended
ever since. -/
def SuspendedSince (directory : Directory) (statements : List Statement) (row : ActionRunRow)
    (checkpoint : CheckpointSummary) : Prop :=
  ∃ before token now after,
    statements = before ++ .markSuspended row.runId token checkpoint now :: after ∧
      (dbAfter directory before).Held row.runId token ∧
      ∀ first rest, after = first ++ rest →
        row ∈ (dbAfter directory
          (before ++ .markSuspended row.runId token checkpoint now :: first)).runs

theorem suspended_since (hrow : row ∈ (dbAfter directory statements).runs)
    (hsusp : row.status = .suspended) :
    ∃ checkpoint, row.lastCheckpoint = some checkpoint ∧
      SuspendedSince directory statements row checkpoint := by
  induction statements using List.reverseRecOn generalizing row with
  | nil => cases hrow
  | append_singleton statements statement ih =>
    rcases dbAfter_runs.row_after hrow with ⟨old, hold, hchg⟩ | ⟨_, seed, _, _, -, rfl⟩
    · rcases hchg.suspended hsusp with
        rfl | ⟨runId, token, checkpoint, now, rfl, held, rfl⟩
      · obtain ⟨checkpoint, hckpt, before, token, now, after, rfl, hval, hsince⟩ :=
          ih hold hsusp
        refine ⟨checkpoint, hckpt, before, token, now, after ++ [statement], by simp, hval, ?_⟩
        intro first rest hspl
        rcases List.eq_nil_or_concat rest with rfl | ⟨rest, last, rfl⟩
        · rw [List.append_nil] at hspl
          subst hspl
          simpa using hrow
        · rw [List.concat_eq_append, ← List.append_assoc] at hspl
          exact hsince first rest (List.append_inj_left' hspl rfl)
      · have hid : runId = old.runId := (ActionRunRow.isHeld_iff.mp held).1.symm
        subst hid
        refine ⟨checkpoint, rfl, statements, token, now, [], rfl, ⟨old, hold, held⟩, ?_⟩
        intro first rest hspl
        rw [(List.append_eq_nil_iff.mp hspl.symm).1]
        exact hrow
    · cases hsusp

/-- A run that is suspended now has been suspended throughout the statements that came later, or was
suspended by one of them. -/
theorem suspended_throughout {sent later : List Statement}
    (hrow : row ∈ (dbAfter directory (sent ++ later)).runs) (hsusp : row.status = .suspended) :
    ∃ checkpoint, row.lastCheckpoint = some checkpoint ∧
      ((∀ first rest, later = first ++ rest → row ∈ (dbAfter directory (sent ++ first)).runs) ∨
        ∃ first token now rest,
          later = first ++ .markSuspended row.runId token checkpoint now :: rest ∧
            (dbAfter directory (sent ++ first)).Held row.runId token) := by
  obtain ⟨checkpoint, hckpt, before, token, now, after, hspl, hval, hsince⟩ :=
    suspended_since hrow hsusp
  refine ⟨checkpoint, hckpt, ?_⟩
  rcases List.append_eq_append_iff.mp hspl with ⟨first, rfl, hlater⟩ | ⟨middle, rfl, hmark⟩
  · exact .inr ⟨first, token, now, after, hlater, hval⟩
  · cases middle with
    | nil =>
      refine .inr ⟨[], token, now, after, hmark.symm, ?_⟩
      simpa using hval
    | cons mark middle =>
      obtain ⟨rfl, rfl⟩ := List.cons.inj hmark
      refine .inl fun first rest hlater => ?_
      have haft : middle ++ later = middle ++ first ++ rest := by rw [hlater, List.append_assoc]
      have hfst := hsince (middle ++ first) rest haft
      simpa using hfst

/-! ## Fencing -/

/-- What the leases guarantee after the statements of any number of workers. -/
structure LeasesFence (directory : Directory) (statements : List Statement) : Prop where
  /-- A run has one valid token at most. -/
  oneToken : ∀ runId token other, (dbAfter directory statements).Held runId token →
    (dbAfter directory statements).Held runId other → token = other
  /-- A write under a token that was valid for the run and is not any more is refused and
  changes nothing. -/
  oldToken : ∀ before middle after, statements = before ++ middle ++ after →
    ∀ runId token, (dbAfter directory before).Held runId token →
      ¬ (dbAfter directory (before ++ middle)).Held runId token →
        ∀ write : Statement, write.presents = some (runId, token) →
          write.exec (dbAfter directory statements) =
            (write.staleAnswer, dbAfter directory statements)
  /-- The row of a completed run is never written again. -/
  completedStays : ∀ before after, statements = before ++ after →
    ∀ row ∈ (dbAfter directory before).runs, row.status = .completed →
      row ∈ (dbAfter directory statements).runs
  oneResponse : ∀ runId, (dbAfter directory statements).responses.countP (·.runId == runId) ≤ 1
  /-- Where an effect was applied, a receipt of it is stored, and whoever applies it again is
  answered with that receipt or has lost the lease; nothing more is stored. -/
  firstReceipt : ∀ before after runId effect effectId resultRef token now receipt,
    statements = before ++ .applyEffect runId effect effectId resultRef token now :: after →
      ((Statement.applyEffect runId effect effectId resultRef token now).exec
        (dbAfter directory before)).1 = .ok (.receipt receipt) →
        ∃ row ∈ (dbAfter directory (before ++
            [.applyEffect runId effect effectId resultRef token now])).receipts,
          row.runId = runId ∧ row.effectId = effectId ∧
            ∀ effect' resultRef' token' now',
              let again := (Statement.applyEffect runId effect' effectId resultRef' token' now').exec
                (dbAfter directory statements)
              again.2.receipts = (dbAfter directory statements).receipts ∧
                (again.1 = .error .leaseLost ∨
                  again.1 = .ok (.receipt ⟨row.proposal.proposalId, row.resultRef, none⟩))
  /-- A suspended run that is claimed has been suspended at the checkpoint and the proposal of the
  claim ever since, for its command. -/
  resumedAsSuspended : ∀ before claim leaseExpires now token after,
    statements = before ++ .claimSuspended claim leaseExpires now token :: after →
      ((Statement.claimSuspended claim leaseExpires now token).exec (dbAfter directory before)).1 =
          .ok (.affected 1) →
        ∃ row checkpoint, row.runId = claim.runId ∧
          row.commandSourceEventId = claim.commandSourceEventId ∧
          checkpoint.checkpointId = claim.checkpointId ∧ checkpoint.proposalId = claim.proposalId ∧
          SuspendedSince directory before row checkpoint

theorem resumed_as_suspended {claim : SuspendedRunClaim} {leaseExpires now : Timestamp}
    {token : ActionLeaseToken} (h : ((Statement.claimSuspended claim leaseExpires now token).exec
      (dbAfter directory before)).1 = .ok (.affected 1)) :
    ∃ row checkpoint, row.runId = claim.runId ∧
      row.commandSourceEventId = claim.commandSourceEventId ∧
      checkpoint.checkpointId = claim.checkpointId ∧ checkpoint.proposalId = claim.proposalId ∧
      SuspendedSince directory before row checkpoint := by
  have hcnt : (dbAfter directory before).runs.countP
      (claim.isFor (dbAfter directory before).directory) = 1 := Answer.affected.inj (Except.ok.inj h)
  obtain ⟨row, hrow, hfor⟩ := List.countP_pos_iff.mp (hcnt ▸ Nat.one_pos)
  obtain ⟨hid, hsusp, hcmd, checkpoint, hlast, hckpt, hprop⟩ :=
    SuspendedRunClaim.isFor_spec hfor
  obtain ⟨stored, hstd, hsince⟩ := suspended_since hrow hsusp
  cases hlast.symm.trans hstd
  exact ⟨row, checkpoint, hid, hcmd, hckpt, hprop, hsince⟩

theorem first_receipt {runId : ActionRunId} {effect : SecretaryActionEffect}
    {effectId resultRef : String} {token : ActionLeaseToken} {now : Timestamp}
    {receipt : SecretaryActionReceipt}
    (h : ((Statement.applyEffect runId effect effectId resultRef token now).exec
      (dbAfter directory before)).1 = .ok (.receipt receipt)) :
    ∃ row ∈ (dbAfter directory (before ++
        [.applyEffect runId effect effectId resultRef token now])).receipts,
      row.runId = runId ∧ row.effectId = effectId := by
  rw [dbAfter_snoc]
  obtain ⟨answer, happ, hans⟩ := map_eq (r := ((Statement.applyEffect runId effect effectId
    resultRef token now).exec (dbAfter directory before)).1) rfl
  have hok : answer.map Answer.receipt = .ok (.receipt receipt) := hans.symm.trans h
  cases answer with
  | error error => cases hok
  | ok receipt => exact applyEffect_receipt dbAfter_keyed happ

/-- Lease fencing: whatever statements any number of workers send, and in whatever order they
are carried out, as long as no lease token is issued twice. -/
theorem lease_fencing (hfresh : (issuedTokens statements).Nodup) :
    LeasesFence directory statements where
  oneToken := fun _ _ _ h hother => held_unique dbAfter_keyed h hother
  oldToken := by
    rintro before middle after rfl runId token hval hend write hpres
    exact exec_stale hpres (stale_token hfresh hval hend)
  completedStays := by
    rintro before after rfl row hrow hcomp
    exact completed_stays hrow hcomp
  oneResponse := fun runId => countP_key_le_one dbAfter_keyed.responses runId
  firstReceipt := by
    intro before after runId effect effectId resultRef token now receipt hspl hans
    obtain ⟨row, hrow, rfl, rfl⟩ := first_receipt hans
    refine ⟨row, hrow, rfl, rfl, fun effect' resultRef' token' now' => ?_⟩
    have hstd : row ∈ (dbAfter directory statements).receipts := by
      rw [hspl, List.append_cons]
      exact receipts_stay hrow
    obtain ⟨answer, happ, hagain⟩ := map_eq (r := ((Statement.applyEffect row.runId effect'
      row.effectId resultRef' token' now').exec (dbAfter directory statements)).1) rfl
    obtain ⟨hrcps, rfl | rfl⟩ := applyEffect_stored dbAfter_keyed hstd happ
    · exact ⟨hrcps, .inl hagain⟩
    · exact ⟨hrcps, .inr hagain⟩
  resumedAsSuspended := fun _ _ _ _ _ _ _ h => resumed_as_suspended h

end Store

section Scripted

open Scripted

theorem lease_fencing_reclaimed :
    (issuedTokens reclaimed).Nodup ∧ LeasesFence directory reclaimed :=
  ⟨by decide, lease_fencing (by decide)⟩

/-- `take_checkpoint` does not tell a lost lease from a run without a checkpoint. -/
theorem lost_lease_takes_nothing :
    (issuedTokens reclaimed).Nodup ∧
      (dbAfter directory (reclaimed.take 2)).Held runId (token "lease-1") ∧
      ¬ (dbAfter directory reclaimed).Held runId (token "lease-1") ∧
      ((Statement.takeCheckpoint runId (token "lease-1") 102).exec (dbAfter directory reclaimed)).1 =
        .ok (.checkpoint none) := by
  decide

end Scripted

end ServerRS.ActionStore

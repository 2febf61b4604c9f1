import ServerRS.Continuity.Standing

/-!
# No loss is absorbed

A claim keeps a gap waiting, and so does the end of a run that is to be tried again; every other end
settles what the gap stands for, if the run has read it. So every loss stands in every run whose calls
meet the condition (`losses_stand`). A signal on a gap that has been suspended does not.
-/

namespace ServerRS.Continuity

open Lib Lib.Except Backfill

/-! ## Backfill workers -/

section Workers

variable {db : ContinuityDb} {gap : GapRow} {gapId : String} {now : DateTime}

theorem awaits_backfilling (h : gap.status = .backfilling) : awaits gap db = true := by
  unfold awaits
  rw [h]
  rfl

variable {db' : ContinuityDb} {call : BackfillCall} {outcome : RunOutcome}

theorem awaits_of_schedule (hsched : db'.backfill.schedule = db.backfill.schedule)
    (h : awaits gap db = true) : awaits gap db' = true := by
  unfold awaits isSuspended at h ⊢
  rw [hsched]
  exact h

/-- A gap as a move leaves it. -/
theorem mem_moveGap_of_mem (gapId : String) (source target : IngestionGapStatus) (now : DateTime)
    (hgap : gap ∈ db.gaps) :
    ∃ gap' ∈ moveGap gapId source target now db.gaps, gap'.gapId = gap.gapId ∧
      gap'.connectionEpochId = gap.connectionEpochId ∧
        ((gap.gapId = gapId ∧ gap'.status = target) ∨
          (gap' = gap ∧ ¬ (gap.gapId = gapId ∧ gap.status = source))) := by
  refine ⟨_, mem_moveGap.mpr ⟨gap, hgap, rfl⟩, ?_⟩
  split
  · next hmoved => exact ⟨rfl, rfl, .inl ⟨hmoved.1, rfl⟩⟩
  · next hstays => exact ⟨rfl, rfl, .inr ⟨rfl, hstays⟩⟩

theorem map_epoch_moveGap {source target : IngestionGapStatus} {gaps : List GapRow} :
    (moveGap gapId source target now gaps).map GapRow.connectionEpochId =
      gaps.map GapRow.connectionEpochId :=
  map_updateWhere fun _ => rfl

/-- A row of the schedule after a policy is applied is an old one of another gap, or the new one. -/
theorem mem_apply {policy : ReclaimPolicy} {schedule : List ReclaimScheduleRow}
    {row : ReclaimScheduleRow} (h : row ∈ policy.apply gapId now schedule) :
    (row ∈ schedule ∧ row.gapId ≠ gapId) ∨ (row.gapId = gapId ∧
      ((∃ secs, policy = .backoff secs ∧ row.nextEligibleAt = some (now + seconds secs)) ∨
        (policy = .suspended ∧ row.nextEligibleAt = some SUSPENDED_UNTIL))) := by
  have hsch : ∀ at', row ∈ scheduleReclaim gapId at' schedule →
      (row ∈ schedule ∧ row.gapId ≠ gapId) ∨ (row.gapId = gapId ∧ row.nextEligibleAt = some at') := by
    intro at' hrow
    unfold scheduleReclaim at hrow
    split at hrow
    · obtain ⟨old, hold, rfl⟩ := mem_updateWhere.mp hrow
      split
      · next hsame => exact .inr ⟨of_decide_eq_true hsame, rfl⟩
      · next hoth => exact .inl ⟨hold, of_decide_eq_false (Bool.eq_false_iff.mpr hoth)⟩
    · next hnone =>
      obtain hold | hnew := List.mem_append.mp hrow
      · refine .inl ⟨hold, fun hsame => hnone ?_⟩
        exact List.any_eq_true.mpr ⟨row, hold, decide_eq_true hsame⟩
      · obtain rfl := List.mem_singleton.mp hnew
        exact .inr ⟨rfl, rfl⟩
  cases policy with
  | terminal =>
    obtain ⟨hold, hoth⟩ := List.mem_filter.mp h
    exact .inl ⟨hold, of_decide_eq_true hoth⟩
  | backoff secs =>
    exact (hsch _ h).imp_right fun ⟨hsame, hat⟩ => ⟨hsame, .inl ⟨secs, rfl, hat⟩⟩
  | suspended =>
    exact (hsch _ h).imp_right fun ⟨hsame, hat⟩ => ⟨hsame, .inr ⟨rfl, hat⟩⟩

/-- What the workers change of the gaps and the schedule. -/
inductive WorkerMove (db : BackfillDb) : BackfillCall → BackfillDb → Prop where
  | still {call : BackfillCall} {db' : BackfillDb} (gaps : db'.gaps = db.gaps)
      (schedule : db'.schedule = db.schedule) : WorkerMove db call db'
  | claimed {call : BackfillCall} {db' : BackfillDb} {gapId : String} {now : DateTime}
      (gaps : db'.gaps = moveGap gapId .uncertain .backfilling now db.gaps)
      (schedule : db'.schedule = db.schedule) : WorkerMove db call db'
  | finalized {outcome : RunOutcome} {leaseToken : String} {now : DateTime} {db' : BackfillDb}
      (ends : isFinalizing outcome leaseToken now db = true)
      (running : ∃ run ∈ db.runs, run.gapId = outcome.gapId ∧ run.status = .backfilling)
      (gaps : db'.gaps = moveGap outcome.gapId .backfilling outcome.gapTargetStatus now db.gaps)
      (schedule : db'.schedule = outcome.reclaimPolicy.apply outcome.gapId now db.schedule) :
      WorkerMove db (.finalizeRun outcome leaseToken now) db'

theorem worker_move (hof : ∀ outside, call ≠ .elsewhere outside) (db : BackfillDb) :
    WorkerMove db call (Backfill.step db call) := by
  cases call with
  | claimNextGap leaseSecs new now =>
    cases h : claimNextGap leaseSecs new now db with
    | error error =>
      simp only [Backfill.step, committed, h]
      exact .still rfl rfl
    | ok result =>
      simp only [Backfill.step, committed, h]
      obtain ⟨-, hdb⟩ | ⟨gap, -, -, -, -, hdb⟩ := claimNextGap_ok h
      · rw [hdb]
        exact .still rfl rfl
      · rw [hdb]
        exact .claimed rfl rfl
  | reclaimExpired leaseSecs limit newToken now =>
    cases h : reclaimExpired leaseSecs limit newToken now db with
    | error error =>
      simp only [Backfill.step, committed, h]
      exact .still rfl rfl
    | ok result =>
      simp only [Backfill.step, committed, h]
      have hrest := (reclaimExpired_ok h).rest
      rw [hrest]
      exact .still rfl rfl
  | recordScopeProgress leaseSecs runId leaseToken progress now =>
    cases h : Store.recordScopeProgress leaseSecs runId leaseToken progress now db with
    | error error =>
      simp only [Backfill.step, committed, h]
      exact .still rfl rfl
    | ok result =>
      simp only [Backfill.step, committed, h]
      obtain ⟨run, -, -, -, -, conversationId, runs, hdb, -⟩ := recordScopeProgress_ok h
      rw [hdb]
      exact .still rfl rfl
  | finalizeRun outcome leaseToken now =>
    cases h : finalizeRun outcome leaseToken now db with
    | error error =>
      simp only [Backfill.step, committed, h]
      exact .still rfl rfl
    | ok result =>
      simp only [Backfill.step, committed, h]
      obtain ⟨run, hrun, hid, hgap, -, ⟨-, hdb, -⟩ | ⟨hrng, hdb⟩⟩ := finalizeRun_ok h
      · rw [hdb]
        exact .still rfl rfl
      · have hends : isFinalizing outcome leaseToken now db = true := by
          unfold isFinalizing
          rw [h, Bool.and_eq_true]
          refine ⟨rfl, List.any_eq_true.mpr ⟨run, hrun, ?_⟩⟩
          rw [Bool.and_eq_true]
          exact ⟨decide_eq_true hid, decide_eq_true hrng⟩
        rw [hdb]
        exact .finalized hends ⟨run, hrun, hgap, hrng⟩ rfl rfl
  | elsewhere outside => exact absurd rfl (hof outside)

/-- The end of a run that is not tried again, or that gives its gap up. -/
def EndsFor (gap : GapRow) (db : BackfillDb) (call : BackfillCall) : Prop :=
  ∃ outcome leaseToken now, call = .finalizeRun outcome leaseToken now ∧
    isFinalizing outcome leaseToken now db = true ∧ outcome.gapId = gap.gapId ∧
      (outcome.completeness = .unrecoverable ∨ endsRetries outcome = true)

/-- A run that is tried again in 30 seconds could not be proved. -/
theorem unprovable_of_retried (h : outcome.reclaimPolicy = .backoff 30) :
    outcome.gapTargetStatus = .uncertain := by
  unfold RunOutcome.reclaimPolicy at h
  rw [outcome.target_eq]
  split at h
  · cases h
  · cases hcomp : outcome.completeness with
    | unprovable => rfl
    | _ =>
      rw [hcomp] at h
      cases h

theorem not_suspended_of_retried (hpolicy : outcome.reclaimPolicy = .backoff 30)
    (hclock : now + seconds 30 < SUSPENDED_UNTIL)
    (hsched : db.backfill.schedule = outcome.reclaimPolicy.apply gapId now schedule) :
    isSuspended gapId db = false := by
  unfold isSuspended
  rw [hsched, hpolicy, List.any_eq_false]
  intro row hrow hsusp
  rw [Bool.and_eq_true, decide_eq_true_eq] at hsusp
  obtain ⟨-, hoth⟩ | ⟨-, ⟨secs, hsecs, hat⟩ | ⟨hnever, -⟩⟩ := mem_apply hrow
  · exact hoth hsusp.1
  · obtain rfl := ReclaimPolicy.backoff.inj hsecs
    rw [hat] at hsusp
    exact absurd (of_decide_eq_true hsusp.2) (Int.not_le.mpr hclock)
  · cases hnever

/-- A gap that another is finalised beside awaits a run as before. -/
theorem awaits_other (hoth : gap.gapId ≠ outcome.gapId) (hsched : db'.backfill.schedule =
      outcome.reclaimPolicy.apply outcome.gapId now db.backfill.schedule) (h : awaits gap db = true) :
    awaits gap db' = true := by
  have hsusp : isSuspended gap.gapId db' = true → isSuspended gap.gapId db = true := by
    intro hsusp
    obtain ⟨row, hrow, hcond⟩ := List.any_eq_true.mp hsusp
    rw [hsched] at hrow
    obtain ⟨hold, -⟩ | ⟨hsame, -⟩ := mem_apply hrow
    · exact List.any_eq_true.mpr ⟨row, hold, hcond⟩
    · rw [Bool.and_eq_true, decide_eq_true_eq] at hcond
      exact absurd (hcond.1.symm.trans hsame) hoth
  unfold awaits at h ⊢
  rw [Bool.or_eq_true, Bool.and_eq_true] at h ⊢
  refine h.imp_right fun ⟨hunc, hfree⟩ => ⟨hunc, ?_⟩
  rw [Bool.not_eq_true', Bool.eq_false_iff] at hfree ⊢
  exact fun h' => hfree (hsusp h')

/-- A gap stays where it is, and goes on awaiting a run unless a run ends for it. -/
theorem worker_gap (hcoh : Coherent db) {db' : BackfillDb}
    (hclock : ∀ outcome leaseToken now, call = .finalizeRun outcome leaseToken now →
      now + seconds 30 < SUSPENDED_UNTIL) (hmove : WorkerMove db.backfill call db')
    (hgap : gap ∈ db.gaps) :
    ∃ gap' ∈ db'.gaps, gap'.gapId = gap.gapId ∧ gap'.connectionEpochId = gap.connectionEpochId ∧
      (awaits gap db = true → awaits gap' { db with backfill := db' } = true ∨
        EndsFor gap db.backfill call) := by
  cases hmove with
  | still hgaps hsched =>
    refine ⟨gap, ?_, rfl, rfl, fun hawa => .inl (awaits_of_schedule hsched hawa)⟩
    rw [hgaps]
    exact hgap
  | @claimed _ _ gapId now hgaps hsched =>
    rw [hgaps]
    obtain ⟨gap', hgap', hid, hof, hmoved⟩ :=
      mem_moveGap_of_mem gapId .uncertain .backfilling now hgap
    refine ⟨gap', hgap', hid, hof, fun hawa => .inl ?_⟩
    obtain ⟨-, htgt⟩ | ⟨rfl, -⟩ := hmoved
    · exact awaits_backfilling htgt
    · exact awaits_of_schedule hsched hawa
  | @finalized outcome leaseToken now _ hends hrng hgaps hsched =>
    rw [hgaps]
    obtain ⟨gap', hgap', hid, hof, hmoved⟩ :=
      mem_moveGap_of_mem outcome.gapId .backfilling outcome.gapTargetStatus now hgap
    refine ⟨gap', hgap', hid, hof, fun hawa => ?_⟩
    obtain ⟨hsame, htgt⟩ | ⟨rfl, hstays⟩ := hmoved
    · by_cases hretr : outcome.reclaimPolicy = .backoff 30
      · refine .inl ?_
        have hfree : isSuspended gap'.gapId { db with backfill := db' } = false := by
          rw [hid, hsame]
          exact not_suspended_of_retried hretr (hclock outcome leaseToken now rfl) hsched
        unfold awaits
        rw [htgt, unprovable_of_retried hretr, hfree]
        rfl
      · exact .inr ⟨outcome, leaseToken, now, rfl, hends, hsame.symm, .inr (decide_eq_true hretr)⟩
    · refine .inl (awaits_other (fun hsame => hstays ⟨hsame, ?_⟩) hsched hawa)
      -- The gap of the run is being backfilled, so that it would have moved.
      obtain ⟨run, hrun, hrunGap, hrng⟩ := hrng
      obtain ⟨moved, hmoved, hmovedId, hbackfilling⟩ := hcoh.inv.started run hrun hrng
      have hone : moved = gap' :=
        eq_of_key_eq hcoh.inv.gapIds hmoved hgap ((hmovedId.trans hrunGap).trans hsame.symm)
      rwa [← hone]

theorem Coherent.worker (hcoh : Coherent db) (hof : ∀ outside, call ≠ .elsewhere outside) :
    Coherent { db with backfill := Backfill.step db.backfill call } := by
  have hmove := worker_move hof db.backfill
  have hinv := (step_moves db.backfill call).inv hcoh.inv
  generalize Backfill.step db.backfill call = db' at hmove hinv ⊢
  refine ⟨hinv, ?_, ?_⟩
  · show (db'.gaps.map GapRow.connectionEpochId).Nodup
    have hepochs : db'.gaps.map GapRow.connectionEpochId = db.gaps.map GapRow.connectionEpochId := by
      cases hmove with
      | still hgaps _ => exact congrArg _ hgaps
      | claimed hgaps _ => rw [hgaps, map_epoch_moveGap]; rfl
      | finalized _ _ hgaps _ => rw [hgaps, map_epoch_moveGap]; rfl
    rw [hepochs]
    exact hcoh.epochs
  · show ∀ row ∈ db'.schedule, ∃ gap ∈ db'.gaps, gap.gapId = row.gapId
    intro row hrow
    have hids : db'.gaps.map GapRow.gapId = db.gaps.map GapRow.gapId := by
      cases hmove with
      | still hgaps _ => exact congrArg _ hgaps
      | claimed hgaps _ => rw [hgaps, map_gapId_moveGap]; rfl
      | finalized _ _ hgaps _ => rw [hgaps, map_gapId_moveGap]; rfl
    have hsch : ∃ gap ∈ db.gaps, gap.gapId = row.gapId := by
      cases hmove with
      | still _ hsched => exact hcoh.scheduled row (hsched ▸ hrow)
      | claimed _ hsched => exact hcoh.scheduled row (hsched ▸ hrow)
      | finalized _ hrng _ hsched =>
        rw [hsched] at hrow
        obtain ⟨hold, -⟩ | ⟨hsame, -⟩ := mem_apply hrow
        · exact hcoh.scheduled row hold
        · obtain ⟨run, hrun, hrunGap, hrng⟩ := hrng
          obtain ⟨gap, hgap, hid, -⟩ := hcoh.inv.started run hrun hrng
          exact ⟨gap, hgap, (hid.trans hrunGap).trans hsame.symm⟩
    obtain ⟨gap, hgap, hid⟩ := hsch
    have hmem : row.gapId ∈ db'.gaps.map GapRow.gapId := by
      rw [hids, ← hid]
      exact List.mem_map_of_mem hgap
    exact List.mem_map.mp hmem

end Workers

/-! ## Runs -/

section Runs

variable {world : Ledger} {call : ContinuityCall} {n : ℕ} {loss : Loss}

theorem mem_onGap {gap : GapRow} (hn : world.losses[n]? = some loss) (hgap : gap ∈ world.db.gaps)
    (hof : gap.connectionEpochId = loss.epochId) : n ∈ world.onGap gap.gapId := by
  unfold Ledger.onGap
  refine List.mem_filter.mpr ⟨List.mem_range.mpr (List.getElem?_eq_some_iff.mp hn).1, ?_⟩
  rw [hn]
  refine List.any_eq_true.mpr ⟨gap, hgap, ?_⟩
  rw [Bool.and_eq_true]
  exact ⟨decide_eq_true rfl, decide_eq_true hof⟩

/-- A run that ends for a gap settles the losses of the gap. -/
theorem EndsFor.settles {worker : BackfillCall} {ofWorker : ∀ outside, worker ≠ .elsewhere outside}
    {gap : GapRow} (hmeets : Meets world (.worker worker ofWorker))
    (h : EndsFor gap world.db.backfill worker) (hmem : n ∈ world.onGap gap.gapId) :
    n ∈ world.settles (.worker worker ofWorker) := by
  obtain ⟨outcome, leaseToken, now, rfl, hends, hid, hcause⟩ := h
  simp only [Ledger.settles, if_pos hends]
  rw [← hid] at hmem
  refine List.mem_filter.mpr ⟨hmem, ?_⟩
  rw [Bool.or_eq_true, Bool.and_eq_true, decide_eq_true_eq, decide_eq_true_eq]
  by_cases hlost : outcome.completeness = .unrecoverable
  · exact .inl hlost
  · have hret : endsRetries outcome = true := hcause.resolve_left hlost
    obtain ⟨hver, htkn⟩ :=
      hmeets.read outcome leaseToken now ofWorker rfl hends hlost hret
    exact .inr ⟨hver, htkn n hmem⟩

/-- What stands for a loss does so after a step that meets the condition. -/
theorem Standing.step (hcoh : Coherent world.db) (hdrawn : Drawn world.db call)
    (hmeets : Meets world call) (hn : world.losses[n]? = some loss) (h : Standing world n loss) :
    Standing (world.step call) n loss := by
  obtain ⟨gap, hgap, hof, hbds, hway⟩ := h
  by_cases hcall : ∃ worker ofWorker, call = .worker worker ofWorker
  · obtain ⟨worker, ofWorker, rfl⟩ := hcall
    have hclock : ∀ outcome leaseToken now, worker = .finalizeRun outcome leaseToken now →
        now + seconds 30 < SUSPENDED_UNTIL := by
      rintro outcome leaseToken now rfl
      exact hdrawn.clock outcome leaseToken now ofWorker rfl
    obtain ⟨gap', hgap', hid, hof', hawa⟩ :=
      worker_gap hcoh hclock (worker_move ofWorker world.db.backfill) hgap
    refine ⟨gap', hgap', hof'.trans hof, ?_, ?_⟩
    · intro conversation hconv
      rw [hid]
      exact hbds conversation hconv
    · obtain hset | hwait := hway
      · exact .inl (List.mem_append_left _ hset)
      · obtain hstill | hends := hawa hwait
        · exact .inr hstill
        · exact .inl (List.mem_append_right _ (hends.settles hmeets (mem_onGap hn hgap hof)))
  · have hext : Extends world.db (world.db.step call) :=
      step_extends fun worker ofWorker h => hcall ⟨worker, ofWorker, h⟩
    obtain ⟨gap', hgap', hsame, hof'⟩ := hext.gap hgap
    refine ⟨gap', hgap', hof'.trans hof, ?_, ?_⟩
    · intro conversation hconv
      rw [(Prod.mk.inj hsame).1]
      exact hext.hasBoundary (hbds conversation hconv)
    · exact hway.imp (fun hset => List.mem_append_left _ hset)
        fun hwait => hext.awaits hsame hwait

theorem Coherent.step (hcoh : Coherent world.db) : Coherent (world.step call).db := by
  by_cases hcall : ∃ worker ofWorker, call = .worker worker ofWorker
  · obtain ⟨worker, ofWorker, rfl⟩ := hcall
    exact hcoh.worker ofWorker
  · have hext : Extends world.db (world.db.step call) :=
      step_extends fun worker ofWorker h => hcall ⟨worker, ofWorker, h⟩
    exact hext.coherent hcoh

theorem allStanding_step (hcoh : Coherent world.db) (hdrawn : Drawn world.db call)
    (hmeets : Meets world call) (h : AllStanding world) : AllStanding (world.step call) := by
  intro n loss hn
  have hlos : (world.losses ++ recordedLosses world.left world.db call)[n]? = some loss := hn
  by_cases hold : n < world.losses.length
  · rw [List.getElem?_append_left hold] at hlos
    exact (h n loss hlos).step hcoh hdrawn hmeets hlos
  · rw [List.getElem?_append_right (Nat.le_of_not_lt hold)] at hlos
    obtain ⟨gap, hgap, hof, hbds, hawa⟩ :=
      recorded_awaited hcoh hdrawn hmeets (List.mem_of_getElem? hlos)
    exact ⟨gap, hgap, hof, hbds, .inr hawa⟩

theorem coherent_start : Coherent Ledger.start.db where
  inv := inv_start
  epochs := List.nodup_nil
  scheduled := fun _ h => by cases h

theorem coherent_run (calls : List ContinuityCall) : Coherent (Ledger.run calls).db := by
  induction calls using List.reverseRecOn with
  | nil => exact coherent_start
  | append_singleton calls call ih =>
    rw [Ledger.run_snoc]
    exact ih.step

/-- The calls meet the condition, each in the state in which it is made. -/
def AllMeet (calls : List ContinuityCall) : Prop :=
  ∀ done call later, calls = done ++ call :: later →
    Drawn (Ledger.run done).db call ∧ Meets (Ledger.run done) call

variable {calls : List ContinuityCall}

theorem AllMeet.init (h : AllMeet (calls ++ [call])) : AllMeet calls :=
  fun done next later hspl => h done next (later ++ [call]) (by rw [hspl, List.append_assoc]; rfl)

theorem AllMeet.nil : AllMeet [] :=
  fun done _ _ h => absurd h.symm (List.append_ne_nil_of_right_ne_nil done (List.cons_ne_nil _ _))

theorem AllMeet.snoc (h : AllMeet calls) (hdrawn : Drawn (Ledger.run calls).db call)
    (hmeets : Meets (Ledger.run calls) call) : AllMeet (calls ++ [call]) := by
  intro done next later hspl
  rcases List.eq_nil_or_concat later with rfl | ⟨later, last, rfl⟩
  · obtain ⟨rfl, hlast⟩ := List.append_inj' hspl rfl
    obtain rfl := List.head_eq_of_cons_eq hlast
    exact ⟨hdrawn, hmeets⟩
  · have hcalls : calls ++ [call] = (done ++ next :: later) ++ [last] := by
      rw [hspl, List.concat_eq_append, List.append_assoc, List.cons_append]
    exact h done next later (List.append_inj' hcalls rfl).1

/-- A call that records nothing and ends no run. -/
theorem meets_of_silent (hsilent : recordedLosses world.left world.db call = [])
    (hcall : ∀ outcome leaseToken now ofWorker,
      call ≠ .worker (.finalizeRun outcome leaseToken now) ofWorker) : Meets world call where
  ready := fun loss hloss => by
    rw [hsilent] at hloss
    cases hloss
  recovered := fun _ _ _ _ loss hloss => by
    rw [hsilent] at hloss
    cases hloss
  read := fun outcome leaseToken now ofWorker h => absurd h (hcall outcome leaseToken now ofWorker)

/-- No loss is absorbed in a run whose calls meet the condition. -/
theorem losses_stand (calls : List ContinuityCall) (hmeets : AllMeet calls) :
    AllStanding (Ledger.run calls) := by
  induction calls using List.reverseRecOn with
  | nil =>
    intro n loss hn
    cases hn
  | append_singleton calls call ih =>
    rw [Ledger.run_snoc]
    obtain ⟨hdrawn, hcall⟩ := hmeets calls call [] rfl
    exact allStanding_step (coherent_run calls) hdrawn hcall (ih hmeets.init)

end Runs

namespace Scripted

def account : SourceAccountRef := ⟨.napCat, "10001"⟩

def group : ConversationRef := ⟨.group, "g"⟩

/-- The account is connected, and a message that is not stored refers to the group. -/
def signalled : List ContinuityCall :=
  [.beginConnection account 1 "epoch",
    .markConnectionConnected "epoch" 0,
    .markConnectionUncertain "epoch" .nonMessageReference (some group) "gap" 1 1]

def claimed : List ContinuityCall :=
  signalled ++ [.worker (.claimNextGap 60 ⟨"run-1", "token-1"⟩ 2) fun _ h => by cases h]

/-- The group is read as far as is known. -/
def groupComplete : RunOutcome where
  completeness := .knownScopesComplete
  evidence := ⟨[], false, false⟩
  gapTargetStatus := .uncertain
  runId := "run-1"
  gapId := "gap"
  gapReason := some .nonMessageReference
  target_eq := rfl

def suspended : List ContinuityCall :=
  claimed ++ [.worker (.finalizeRun groupComplete "token-1" 3) fun _ h => by cases h]

def disconnected : List ContinuityCall :=
  suspended ++ [.finishConnection "epoch" .remoteClosed "gap-2" 4]

theorem signalled_meets : AllMeet signalled := by
  have hbeg : AllMeet [.beginConnection account 1 "epoch"] :=
    AllMeet.nil.snoc ⟨fun _ h => (by cases h), fun _ _ _ _ h => (by cases h)⟩
      (meets_of_silent (by decide) fun _ _ _ _ h => by cases h)
  have hcon : AllMeet [.beginConnection account 1 "epoch", .markConnectionConnected "epoch" 0] :=
    hbeg.snoc ⟨fun _ h => (by cases h), fun _ _ _ _ h => (by cases h)⟩
      (meets_of_silent rfl fun _ _ _ _ h => by cases h)
  have hnone : (Ledger.run
      [.beginConnection account 1 "epoch", .markConnectionConnected "epoch" 0]).db.gaps = [] := by
    decide
  refine hcon.snoc ⟨fun _ _ gap hgap => ?_, fun _ _ _ _ h => (by cases h)⟩
    ⟨fun _ _ gap hgap => ?_, fun _ _ _ h => (by cases h), fun _ _ _ _ h => (by cases h)⟩
  · rw [hnone] at hgap
    cases hgap
  · rw [hnone] at hgap
    cases hgap

theorem suspended_meets : AllMeet suspended := by
  have hcld : AllMeet claimed :=
    signalled_meets.snoc ⟨fun _ h => (by cases h), fun _ _ _ _ h => (by cases h)⟩
      (meets_of_silent rfl fun _ _ _ _ h => by cases h)
  refine hcld.snoc ⟨fun _ h => (by cases h), ?_⟩
    ⟨fun _ h => (by cases h), fun _ _ _ h => (by cases h), ?_⟩
  · intro outcome leaseToken now ofWorker h
    cases h
    decide
  · intro outcome leaseToken now ofWorker h hends hlost hret
    cases h
    exact ⟨rfl, by decide⟩

end Scripted

open Scripted in
theorem losses_stand_scripted : AllStanding (Ledger.run suspended) :=
  losses_stand suspended suspended_meets

open Scripted in
/-- The connection is lost after the gap of its signal has been suspended, and nothing stands for what
comes while it is away. -/
theorem loss_on_suspended_gap : ¬ AllStanding (Ledger.run disconnected) := by
  intro h
  have hloss : (Ledger.run disconnected).losses[1]? = some ⟨"epoch", true, []⟩ := by decide
  have huns : 1 ∉ (Ledger.run disconnected).settled := by decide
  have hasleep : ∀ gap ∈ (Ledger.run disconnected).db.gaps,
      awaits gap (Ledger.run disconnected).db = false := by decide
  obtain ⟨gap, hgap, -, -, hset | hawa⟩ := h 1 _ hloss
  · exact huns hset
  · rw [hasleep gap hgap] at hawa
    cases hawa

end ServerRS.Continuity

import ServerRS.Backfill.Fencing

/-!
# Backfill runs are fenced by their leases

A gap has a running run exactly while it is being backfilled, the token that a run had before it was
taken over is refused for good, and what a run has read is written by the holder of its token only.
To finalise a run once more is a success while its gap has the status that it was left with: once
the gap has been claimed again, the repetition is refused.
-/

namespace ServerRS.Backfill

open Lib Lib.Except

section

variable {db db' : BackfillDb} {call : BackfillCall} {issued : List (String × String)}
  {runId leaseToken : String} {now : DateTime} {outcome : RunOutcome}

/-! ## Tokens -/

theorem Moves.held (h : Moves db call issued db') (hheld : holdsLease runId leaseToken db' = true) :
    holdsLease runId leaseToken db = true ∨ (runId, leaseToken) ∈ issued := by
  cases h with
  | idle => exact .inl hheld
  | claimed =>
    obtain ⟨lease, hls, heq⟩ := List.any_eq_true.mp hheld
    rcases List.mem_append.mp hls with hls | hls
    · exact .inl (List.any_eq_true.mpr ⟨lease, hls, heq⟩)
    · obtain rfl := List.mem_singleton.mp hls
      rw [Bool.and_eq_true, decide_eq_true_eq, decide_eq_true_eq] at heq
      exact .inr (List.mem_singleton.mpr (Prod.ext heq.1.symm heq.2.symm))
  | reclaimed hren => exact hren.held runId leaseToken hheld
  | recorded => exact .inl hheld
  | finalized => exact .inl hheld
  | elsewhere => exact .inl hheld

variable {calls : List BackfillCall} {gap : GapRow}

theorem isPrefix_issued (world : Leasing) :
    world.issued <+: (calls.foldl Leasing.step world).issued := by
  induction calls generalizing world with
  | nil => exact List.prefix_rfl
  | cons call calls ih =>
    have hnext : world.issued <+: (world.step call).issued := List.prefix_append _ _
    exact hnext.trans (ih _)

/-- A lease that is held later was held before or has been handed out since. -/
theorem held_foldl {world : Leasing}
    (hheld : holdsLease runId leaseToken (calls.foldl Leasing.step world).db = true) :
    holdsLease runId leaseToken world.db = true ∨
      ∃ added, (calls.foldl Leasing.step world).issued = world.issued ++ added ∧
        (runId, leaseToken) ∈ added := by
  induction calls generalizing world with
  | nil => exact .inl hheld
  | cons call calls ih =>
    have hnext : (world.step call).issued = world.issued ++ issues world.db call := rfl
    obtain hmiddle | ⟨added, hadded, hmem⟩ := ih hheld
    · obtain hbef | hissued := (step_moves world.db call).held hmiddle
      · exact .inl hbef
      · have hrest : (world.step call).issued <+: (calls.foldl Leasing.step (world.step call)).issued :=
          isPrefix_issued _
        obtain ⟨rest, hrest⟩ := hrest
        refine .inr ⟨issues world.db call ++ rest, ?_, List.mem_append_left _ hissued⟩
        rw [← List.append_assoc, ← hnext]
        exact hrest.symm
    · refine .inr ⟨issues world.db call ++ added, ?_, List.mem_append_right _ hmem⟩
      rw [← List.append_assoc, ← hnext]
      exact hadded

theorem issued_of_held (hheld : holdsLease runId leaseToken (Leasing.run calls).db = true) :
    (runId, leaseToken) ∈ (Leasing.run calls).issued := by
  obtain hsta | ⟨added, hadded, hmem⟩ := held_foldl hheld
  · cases hsta
  · show (runId, leaseToken) ∈ (calls.foldl Leasing.step .start).issued
    rw [hadded]
    exact List.mem_append_right _ hmem

/-- A token that has been replaced is not honoured again, when no lease is handed out twice. -/
theorem replaced_for_good {middle later : List BackfillCall}
    (hfr : (Leasing.run (calls ++ middle ++ later)).issued.Nodup)
    (hheld : holdsLease runId leaseToken (Leasing.run calls).db = true)
    (hrepl : holdsLease runId leaseToken (Leasing.run (calls ++ middle)).db = false) :
    holdsLease runId leaseToken (Leasing.run (calls ++ middle ++ later)).db = false := by
  rw [Bool.eq_false_iff]
  intro hagain
  rw [Leasing.run_append] at hagain hfr
  obtain hback | ⟨added, hadded, hmem⟩ := held_foldl hagain
  · rw [hrepl] at hback
    cases hback
  · have hear : (runId, leaseToken) ∈ (Leasing.run (calls ++ middle)).issued := by
      rw [Leasing.run_append]
      exact (isPrefix_issued _).subset (issued_of_held hheld)
    rw [hadded] at hfr
    exact (List.nodup_append.mp hfr).2.2 _ hear _ hmem rfl

theorem recordScopeProgress_lost {leaseSecs : ℕ} {progress : ScopeProgress}
    (h : holdsLease runId leaseToken db = false) :
    Store.recordScopeProgress leaseSecs runId leaseToken progress now db = .error .leaseLost := by
  unfold Store.recordScopeProgress lockActiveLease
  rw [lockOwnedRun_error h]
  rfl

theorem finalizeRun_lost (h : holdsLease outcome.runId leaseToken db = false) :
    finalizeRun outcome leaseToken now db = .error .leaseLost := by
  unfold finalizeRun
  rw [lockOwnedRun_error h]
  rfl

/-! ## Progress -/

def scopesOf (runId : String) (db : BackfillDb) : List ScopeRow :=
  db.scopes.filter fun scope => scope.backfillRunId = runId

/-- The call writes what the run has read, under the token that the run has. -/
def BackfillCall.Writes (runId : String) (db : BackfillDb) : BackfillCall → Prop
  | .recordScopeProgress _ other leaseToken _ _ =>
    other = runId ∧ holdsLease runId leaseToken db = true
  | .finalizeRun outcome leaseToken _ =>
    outcome.runId = runId ∧ holdsLease runId leaseToken db = true
  | _ => False

theorem scopesOf_upsert {row : ScopeRow} {scopes : List ScopeRow} (hne : row.backfillRunId ≠ runId) :
    (upsertScope row scopes).filter (fun scope => scope.backfillRunId = runId) =
      scopes.filter fun scope => scope.backfillRunId = runId := by
  unfold upsertScope
  split
  · refine filter_updateWhere_eq (fun _ _ => decide_eq_false hne) fun other _ hsame => ?_
    rw [ScopeRow.sameKey, Bool.and_eq_true, decide_eq_true_eq] at hsame
    exact decide_eq_false (hsame.1 ▸ hne)
  · rw [List.filter_append, List.filter_cons_of_neg (by simpa using hne)]
    simp

/-- Nobody but the holder of its token changes what a run has read. -/
theorem Moves.progress (h : Moves db call issued db') (hwrit : ¬ call.Writes runId db)
    {run : RunRow} (hrun : run ∈ db.runs) (hid : run.backfillRunId = runId) :
    scopesOf runId db' = scopesOf runId db ∧
      ∃ run' ∈ db'.runs, run'.backfillRunId = runId ∧ run'.counters = run.counters := by
  have hunl : ∀ {runs : List RunRow}, runs.map RunRow.unleased = db.runs.map RunRow.unleased →
      ∃ run' ∈ runs, run'.backfillRunId = runId ∧ run'.counters = run.counters := by
    intro runs hruns
    obtain ⟨run', hrun', hsame⟩ := exists_unleased hruns hrun
    obtain ⟨hid', -, -, -, hcoun⟩ := unleased_standing hsame
    exact ⟨run', hrun', hid'.trans hid, hcoun⟩
  cases h with
  | idle => exact ⟨rfl, run, hrun, hid, rfl⟩
  | claimed => exact ⟨rfl, run, List.mem_append_left _ hrun, hid, rfl⟩
  | reclaimed hren =>
    refine ⟨?_, hunl hren.runs⟩
    rw [hren.rest]
    rfl
  | recorded _ _ _ hheld hsame =>
    refine ⟨scopesOf_upsert fun hoth => hwrit ?_, hunl hsame⟩
    obtain rfl : _ = runId := hoth
    exact ⟨rfl, hheld⟩
  | finalized _ _ _ _ hheld =>
    refine ⟨rfl, run, mem_updateWhere.mpr ⟨run, hrun, if_neg ?_⟩, hid, rfl⟩
    rw [decide_eq_true_eq]
    intro hoth
    obtain rfl := hoth.symm.trans hid
    exact hwrit ⟨rfl, hheld⟩
  | elsewhere => exact ⟨rfl, run, hrun, hid, rfl⟩

/-- A run that has just been claimed has read nothing. -/
theorem Moves.fresh (h : Moves db call issued db') (hinv : Inv db) {run : RunRow}
    (hrun : run ∈ db'.runs) :
    (∃ old ∈ db.runs, old.backfillRunId = run.backfillRunId) ∨
      (run.counters = ⟨0, 0, 0, 0⟩ ∧ scopesOf run.backfillRunId db' = []) := by
  have hunl : ∀ {runs : List RunRow}, runs.map RunRow.unleased = db.runs.map RunRow.unleased →
      run ∈ runs → ∃ old ∈ db.runs, old.backfillRunId = run.backfillRunId := by
    intro runs hruns hmem
    obtain ⟨old, hold, hsame⟩ := exists_unleased hruns.symm hmem
    exact ⟨old, hold, (unleased_standing hsame).1⟩
  cases h with
  | idle => exact .inl ⟨run, hrun, rfl⟩
  | claimed _ _ hfr =>
    rcases List.mem_append.mp hrun with hrun | hrun
    · exact .inl ⟨run, hrun, rfl⟩
    · obtain rfl := List.mem_singleton.mp hrun
      refine .inr ⟨rfl, List.filter_eq_nil_iff.mpr fun scope hsc heq => ?_⟩
      obtain ⟨owner, howner, hof⟩ := hinv.owned scope hsc
      exact hfr owner howner (hof.trans (of_decide_eq_true heq))
  | reclaimed hren => exact .inl (hunl hren.runs hrun)
  | recorded _ _ _ _ hsame => exact .inl (hunl hsame hrun)
  | finalized =>
    obtain ⟨old, hold, rfl⟩ := mem_updateWhere.mp hrun
    refine .inl ⟨old, hold, ?_⟩
    split
    · rfl
    · rfl
  | elsewhere => exact .inl ⟨run, hrun, rfl⟩

/-- The row has what the progress says. -/
def ScopeRow.Holds (row : ScopeRow) (progress : ScopeProgress) : Prop :=
  row.status = progress.status ∧ row.lastAnchor = progress.lastCursor.map BackfillCursor.anchor ∧
    row.counters = progress.counters ∧ row.reachedBoundary = progress.reachedBoundary ∧
    row.anomalies = progress.anomalies

/-- Progress that is recorded is the row of its scope, and the rows of other scopes stay. -/
theorem recordScopeProgress_row {leaseSecs : ℕ} {progress : ScopeProgress}
    (h : Store.recordScopeProgress leaseSecs runId leaseToken progress now db = .ok ((), db')) :
    (∃ row ∈ scopesOf runId db', row.scopeKey = scopeKeyOf progress.conversation) ∧
      (∀ row ∈ scopesOf runId db', row.scopeKey = scopeKeyOf progress.conversation →
        row.Holds progress) ∧
      ∀ row, row.scopeKey ≠ scopeKeyOf progress.conversation →
        (row ∈ scopesOf runId db' ↔ row ∈ scopesOf runId db) := by
  obtain ⟨run, -, -, -, -, conversationId, runs, rfl, -⟩ := recordScopeProgress_ok h
  unfold scopesOf upsertScope
  dsimp only
  split
  next hfnd =>
    obtain ⟨old, hold, hsame⟩ := List.any_eq_true.mp hfnd
    simp only [List.mem_filter, mem_updateWhere]
    refine ⟨⟨_, ⟨⟨old, hold, if_pos hsame⟩, decide_eq_true rfl⟩, rfl⟩, ?_, ?_⟩
    · rintro row ⟨⟨old, -, rfl⟩, hof⟩ hkey
      split
      · exact ⟨rfl, rfl, rfl, rfl, rfl⟩
      next hoth =>
        rw [if_neg hoth] at hkey hof
        refine absurd ?_ hoth
        rw [ScopeRow.sameKey, Bool.and_eq_true]
        exact ⟨hof, decide_eq_true hkey⟩
    · intro row hkey
      refine and_congr_left fun _ => ⟨?_, fun hrow => ⟨row, hrow, if_neg ?_⟩⟩
      · rintro ⟨old, hold, rfl⟩
        split at hkey
        · exact absurd rfl hkey
        next hoth => rwa [if_neg hoth]
      · rw [ScopeRow.sameKey, Bool.and_eq_true, decide_eq_true_eq, decide_eq_true_eq]
        exact fun hboth => hkey hboth.2
  next hnone =>
    simp only [List.filter_append, List.mem_append, List.mem_filter, List.mem_singleton]
    refine ⟨⟨_, .inr ⟨rfl, decide_eq_true rfl⟩, rfl⟩, ?_, ?_⟩
    · rintro row (⟨hrow, hof⟩ | ⟨rfl, -⟩) hkey
      · refine absurd (List.any_eq_true.mpr ⟨row, hrow, ?_⟩) hnone
        rw [ScopeRow.sameKey, Bool.and_eq_true]
        exact ⟨hof, decide_eq_true hkey⟩
      · exact ⟨rfl, rfl, rfl, rfl, rfl⟩
    · intro row hkey
      refine ⟨?_, .inl⟩
      rintro (hrow | ⟨rfl, -⟩)
      · exact hrow
      · exact absurd rfl hkey

/-- The holder of a running run gives it the counters of its evidence. -/
theorem finalizeRun_counters (h : finalizeRun outcome leaseToken now db = .ok ((), db'))
    (hinv : Inv db) {run : RunRow} (hrun : run ∈ db.runs) (hid : run.backfillRunId = outcome.runId)
    (hrng : run.status = .backfilling) :
    ∃ run' ∈ db'.runs, run'.backfillRunId = outcome.runId ∧
      run'.counters = outcome.evidence.counters := by
  obtain ⟨owned, hown, hidOwned, -, -, ⟨hend, -⟩ | ⟨-, rfl⟩⟩ := finalizeRun_ok h
  · obtain rfl := eq_of_key_eq hinv.runIds hown hrun (hidOwned.trans hid.symm)
    exact absurd hrng hend
  · exact ⟨_, mem_updateWhere.mpr ⟨run, hrun, if_pos (decide_eq_true hid)⟩, hid, rfl⟩

/-! ## Gaps -/

theorem transition_moveGap {gapId : String} {source target : IngestionGapStatus}
    {gaps : List GapRow} (hgap : gap ∈ gaps) (hlegal : validateGapTransition source target = .ok ()) :
    ∃ gap' ∈ moveGap gapId source target now gaps, gap'.gapId = gap.gapId ∧
      (gap'.status = gap.status ∨ validateGapTransition gap.status gap'.status = .ok ()) := by
  refine ⟨_, mem_moveGap.mpr ⟨gap, hgap, rfl⟩, ?_⟩
  split
  next hmoved =>
    refine ⟨rfl, .inr ?_⟩
    rw [hmoved.2]
    exact hlegal
  · exact ⟨rfl, .inl rfl⟩

theorem RunOutcome.target_legal (outcome : RunOutcome) :
    validateGapTransition .backfilling outcome.gapTargetStatus = .ok () := by
  rw [outcome.target_eq]
  cases outcome.completeness <;> rfl

theorem findGap_some {gapId : String} (h : findGap gapId db = some gap) :
    gap ∈ db.gaps ∧ gap.gapId = gapId := by
  have hfnd := List.find?_some h
  exact ⟨List.mem_of_find?_eq_some h, by simpa using hfnd⟩

theorem Inv.findGap (h : Inv db) (hgap : gap ∈ db.gaps) : findGap gap.gapId db = some gap := by
  cases hfnd : Backfill.findGap gap.gapId db with
  | none => exact absurd (decide_eq_true rfl) (List.find?_eq_none.mp hfnd gap hgap)
  | some found =>
    obtain ⟨hmem, hid⟩ := findGap_some hfnd
    rw [eq_of_key_eq h.gapIds hmem hgap hid]

/-- Gaps stay, and move along the transitions of the domain only. -/
theorem Moves.transition (h : Moves db call issued db') (hgap : gap ∈ db.gaps) :
    ∃ gap' ∈ db'.gaps, gap'.gapId = gap.gapId ∧
      (gap'.status = gap.status ∨ validateGapTransition gap.status gap'.status = .ok ()) := by
  cases h with
  | idle => exact ⟨gap, hgap, rfl, .inl rfl⟩
  | claimed => exact transition_moveGap hgap rfl
  | reclaimed hren =>
    rw [hren.rest]
    exact ⟨gap, hgap, rfl, .inl rfl⟩
  | recorded => exact ⟨gap, hgap, rfl, .inl rfl⟩
  | finalized =>
    exact transition_moveGap hgap (RunOutcome.target_legal _)
  | elsewhere hadm =>
    obtain ⟨gap', hgap', hsame⟩ := List.mem_map.mp (hadm.kept gap hgap)
    obtain ⟨hid, hstat⟩ := Prod.mk.inj hsame
    exact ⟨gap', hgap', hid, .inl hstat⟩

def isRunning (gapId : String) (run : RunRow) : Bool :=
  run.gapId = gapId && run.status = .backfilling

theorem Inv.countP_running (h : Inv db) (hgap : gap ∈ db.gaps) :
    db.runs.countP (isRunning gap.gapId) = if gap.status = .backfilling then 1 else 0 := by
  split
  next hbac =>
    obtain ⟨run, hrun, hof, hrng⟩ := h.covered gap hgap hbac
    refine countP_eq_one h.runIds hrun ?_ fun other hoth hruns => ?_
    · rw [isRunning, Bool.and_eq_true, decide_eq_true_eq, decide_eq_true_eq]
      exact ⟨hof, hrng⟩
    · rw [isRunning, Bool.and_eq_true, decide_eq_true_eq, decide_eq_true_eq] at hruns
      rw [h.sole other hoth run hrun hruns.2 hrng (hruns.1.trans hof.symm)]
  next hidle =>
    refine List.countP_eq_zero.mpr fun run hrun hruns => hidle ?_
    rw [isRunning, Bool.and_eq_true, decide_eq_true_eq, decide_eq_true_eq] at hruns
    obtain ⟨other, hoth, hid, hbac⟩ := h.started run hrun hruns.2
    obtain rfl := eq_of_key_eq h.gapIds hoth hgap (hid.trans hruns.1)
    exact hbac

/-! ## Repetitions -/

/-- The run has ended as the outcome says, under the token. -/
structure Ended (outcome : RunOutcome) (leaseToken : String) (db : BackfillDb) : Prop where
  run : ∃ run ∈ db.runs, run.backfillRunId = outcome.runId ∧ run.gapId = outcome.gapId ∧
    run.status ≠ .backfilling ∧ run.completeness = outcome.completeness
  held : holdsLease outcome.runId leaseToken db = true
  gap : ∃ gap ∈ db.gaps, gap.gapId = outcome.gapId

theorem finalizeRun_ended (hinv : Inv db)
    (h : finalizeRun outcome leaseToken now db = .ok ((), db')) : Ended outcome leaseToken db' := by
  obtain ⟨run, hrun, hid, hgap, hheld, ⟨hend, rfl, hcomp, gap, hfind, -⟩ |
    ⟨hrng, rfl⟩⟩ := finalizeRun_ok h
  · exact ⟨⟨run, hrun, hid, hgap, hend, hcomp⟩, hheld,
      gap, findGap_some hfind⟩
  · refine ⟨⟨_, mem_updateWhere.mpr ⟨run, hrun, if_pos (decide_eq_true hid)⟩, hid, hgap, ?_, rfl⟩,
      hheld, ?_⟩
    · show RunStatus.ofCompleteness outcome.completeness ≠ .backfilling
      cases outcome.completeness <;> decide
    · obtain ⟨gap, hmem, hof, -⟩ := hinv.started run hrun hrng
      refine ⟨_, mem_moveGap.mpr ⟨gap, hmem, rfl⟩, ?_⟩
      split <;> exact hof.trans hgap

theorem Moves.ended (h : Moves db call issued db') (hinv : Inv db)
    (hend : Ended outcome leaseToken db) : Ended outcome leaseToken db' := by
  obtain ⟨⟨run, hrun, hid, hgap, hstat, hcomp⟩, hheld, gap, hmem, hof⟩ := hend
  have hgaps : ∃ gap ∈ db'.gaps, gap.gapId = outcome.gapId := by
    obtain ⟨gap', hmem', hid', -⟩ := h.transition hmem
    exact ⟨gap', hmem', hid'.trans hof⟩
  have hunl : ∀ {runs : List RunRow}, runs.map RunRow.unleased = db.runs.map RunRow.unleased →
      ∃ run ∈ runs, run.backfillRunId = outcome.runId ∧ run.gapId = outcome.gapId ∧
        run.status ≠ .backfilling ∧ run.completeness = outcome.completeness := by
    intro runs hruns
    obtain ⟨run', hrun', hsame⟩ := exists_unleased hruns hrun
    obtain ⟨hid', hgap', hstat', hcomp', -⟩ := unleased_standing hsame
    exact ⟨run', hrun', hid'.trans hid, hgap'.trans hgap, hstat' ▸ hstat,
      hcomp'.trans hcomp⟩
  have hsole : ∀ other ∈ db.runs, other.backfillRunId = outcome.runId →
      other.status ≠ .backfilling := by
    intro other hoth hidOther
    obtain rfl := eq_of_key_eq hinv.runIds hoth hrun (hidOther.trans hid.symm)
    exact hstat
  cases h with
  | idle => exact ⟨⟨run, hrun, hid, hgap, hstat, hcomp⟩, hheld, hgaps⟩
  | claimed =>
    refine ⟨⟨run, List.mem_append_left _ hrun, hid, hgap, hstat, hcomp⟩, ?_, hgaps⟩
    obtain ⟨lease, hls, heq⟩ := List.any_eq_true.mp hheld
    exact List.any_eq_true.mpr ⟨lease, List.mem_append_left _ hls, heq⟩
  | reclaimed hren =>
    exact ⟨hunl hren.runs, hren.ended _ _ hheld hsole, hgaps⟩
  | recorded _ _ _ _ hsame => exact ⟨hunl hsame, hheld, hgaps⟩
  | finalized hoth hidOther _ hrng =>
    refine ⟨⟨run, mem_updateWhere.mpr ⟨run, hrun, if_neg ?_⟩, hid, hgap, hstat, hcomp⟩,
      hheld, hgaps⟩
    rw [decide_eq_true_eq]
    intro hsame
    obtain rfl := eq_of_key_eq hinv.runIds hoth hrun (hidOther.trans hsame.symm)
    exact hstat hrng
  | elsewhere => exact ⟨⟨run, hrun, hid, hgap, hstat, hcomp⟩, hheld, hgaps⟩

theorem ended_foldl {world : Leasing} (hinv : Inv world.db)
    (hend : Ended outcome leaseToken world.db) :
    Ended outcome leaseToken (calls.foldl Leasing.step world).db := by
  induction calls generalizing world with
  | nil => exact hend
  | cons call calls ih =>
    have hmoves := step_moves world.db call
    exact ih (hmoves.inv hinv) (hmoves.ended hinv hend)

/-- A repetition changes nothing, and succeeds while the gap is where the outcome left it. -/
theorem Ended.again (h : Ended outcome leaseToken db) (hinv : Inv db) :
    finalizeRun outcome leaseToken now db = .ok ((), db) ↔
      ∃ gap ∈ db.gaps, gap.gapId = outcome.gapId ∧ gap.status = outcome.gapTargetStatus := by
  obtain ⟨⟨run, hrun, hid, hgap, hstat, hcomp⟩, hheld, gap, hmem, hof⟩ := h
  have hlock : lockOwnedRun outcome.runId leaseToken db = .ok run := by
    unfold lockOwnedRun
    split
    next found hfind =>
      have hfnd := List.find?_some hfind
      rw [Bool.and_eq_true, decide_eq_true_eq] at hfnd
      rw [eq_of_key_eq hinv.runIds (List.mem_of_find?_eq_some hfind) hrun (hfnd.1.trans hid.symm)]
    next hfind =>
      have hnone := List.find?_eq_none.mp hfind run hrun
      rw [hid, hheld] at hnone
      simp at hnone
  have hfind : findGap outcome.gapId db = some gap := hof ▸ hinv.findGap hmem
  have hagain : finalizeRun outcome leaseToken now db = finalizeAgain outcome run db := by
    unfold finalizeRun
    rw [hlock]
    show (if run.gapId ≠ outcome.gapId then _ else _) = _
    rw [if_neg (not_not.mpr hgap), if_pos hstat]
  rw [hagain]
  unfold finalizeAgain
  rw [hfind]
  dsimp only
  constructor
  · intro hok
    split at hok
    next hsame => exact ⟨gap, hmem, hof, hsame.1⟩
    · cases hok
  · rintro ⟨other, hoth, hidOther, htgt⟩
    obtain rfl := eq_of_key_eq hinv.gapIds hoth hmem (hidOther.trans hof.symm)
    rw [if_pos ⟨htgt, hcomp⟩]

theorem Ended.unchanged (h : Ended outcome leaseToken db) (hinv : Inv db)
    (hok : finalizeRun outcome leaseToken now db = .ok ((), db')) : db' = db := by
  obtain ⟨run, hrun, hid, -, hstat, -⟩ := h.run
  obtain ⟨owned, hown, hidOwned, -, -, ⟨-, hsame, -⟩ | ⟨hrng, -⟩⟩ := finalizeRun_ok hok
  · exact hsame
  · obtain rfl := eq_of_key_eq hinv.runIds hown hrun (hidOwned.trans hid.symm)
    exact absurd hrng hstat

/-! ## The leases fence the runs -/

/-- A gap has one run that runs while it is being backfilled, and none otherwise. -/
def OneRun (db : BackfillDb) : Prop :=
  ∀ gap ∈ db.gaps, db.runs.countP (isRunning gap.gapId) = if gap.status = .backfilling then 1 else 0

/-- What the tables say that a run has read is what the holders of its token have written. -/
structure HoldersWrite (db : BackfillDb) : Prop where
  kept : ∀ call : BackfillCall, ∀ run ∈ db.runs, ¬ call.Writes run.backfillRunId db →
    scopesOf run.backfillRunId (step db call) = scopesOf run.backfillRunId db ∧
      ∃ run' ∈ (step db call).runs,
        run'.backfillRunId = run.backfillRunId ∧ run'.counters = run.counters
  fresh : ∀ call : BackfillCall, ∀ run ∈ (step db call).runs,
    (∃ old ∈ db.runs, old.backfillRunId = run.backfillRunId) ∨
      (run.counters = ⟨0, 0, 0, 0⟩ ∧ scopesOf run.backfillRunId (step db call) = [])
  recorded : ∀ leaseSecs runId leaseToken progress now db',
    Store.recordScopeProgress leaseSecs runId leaseToken progress now db = .ok ((), db') →
      (∃ row ∈ scopesOf runId db', row.scopeKey = scopeKeyOf progress.conversation) ∧
      (∀ row ∈ scopesOf runId db', row.scopeKey = scopeKeyOf progress.conversation →
        row.Holds progress) ∧
      ∀ row, row.scopeKey ≠ scopeKeyOf progress.conversation →
        (row ∈ scopesOf runId db' ↔ row ∈ scopesOf runId db)
  finalized : ∀ outcome leaseToken now db',
    finalizeRun outcome leaseToken now db = .ok ((), db') →
      ∀ run ∈ db.runs, run.backfillRunId = outcome.runId → run.status = .backfilling →
        ∃ run' ∈ db'.runs, run'.backfillRunId = outcome.runId ∧
          run'.counters = outcome.evidence.counters

theorem Inv.holdersWrite (h : Inv db) : HoldersWrite db where
  kept := fun call _ hrun hwrit => (step_moves db call).progress hwrit hrun rfl
  fresh := fun call _ hrun => (step_moves db call).fresh h hrun
  recorded := fun _ _ _ _ _ _ hok => recordScopeProgress_row hok
  finalized := fun _ _ _ _ hok _ hrun hid hrng => finalizeRun_counters hok h hrun hid hrng

end

/-- Whatever the workers do, in any order and at any times: gaps and runs agree, only the holder of
its token writes what a run has read, gaps move along the transitions of the domain, and a token
that has been replaced is refused. A run that has been finalised can be finalised once more, which
changes nothing, exactly while its gap has the status that the outcome gives it. -/
theorem backfill_runs_are_fenced (calls : List BackfillCall) :
    OneRun (Leasing.run calls).db ∧ HoldersWrite (Leasing.run calls).db ∧
    (∀ call : BackfillCall, ∀ gap ∈ (Leasing.run calls).db.gaps,
      ∃ gap' ∈ (step (Leasing.run calls).db call).gaps, gap'.gapId = gap.gapId ∧
        (gap'.status = gap.status ∨ validateGapTransition gap.status gap'.status = .ok ())) ∧
    (∀ middle later runId leaseToken,
      (Leasing.run (calls ++ middle ++ later)).issued.Nodup →
      holdsLease runId leaseToken (Leasing.run calls).db = true →
      holdsLease runId leaseToken (Leasing.run (calls ++ middle)).db = false →
        (∀ leaseSecs progress now, Store.recordScopeProgress leaseSecs runId leaseToken progress now
          (Leasing.run (calls ++ middle ++ later)).db = .error .leaseLost) ∧
        ∀ outcome now, outcome.runId = runId →
          finalizeRun outcome leaseToken now (Leasing.run (calls ++ middle ++ later)).db =
            .error .leaseLost) ∧
    ∀ outcome leaseToken now db',
      finalizeRun outcome leaseToken now (Leasing.run calls).db = .ok ((), db') →
      ∀ later now',
        (finalizeRun outcome leaseToken now'
            (Leasing.run (calls ++ [.finalizeRun outcome leaseToken now] ++ later)).db =
          .ok ((), (Leasing.run (calls ++ [.finalizeRun outcome leaseToken now] ++ later)).db) ↔
          ∃ gap ∈ (Leasing.run (calls ++ [.finalizeRun outcome leaseToken now] ++ later)).db.gaps,
            gap.gapId = outcome.gapId ∧ gap.status = outcome.gapTargetStatus) ∧
        ∀ again, finalizeRun outcome leaseToken now'
            (Leasing.run (calls ++ [.finalizeRun outcome leaseToken now] ++ later)).db =
          .ok ((), again) →
            again = (Leasing.run (calls ++ [.finalizeRun outcome leaseToken now] ++ later)).db := by
  have hinv : Inv (Leasing.run calls).db := inv_run
  refine ⟨fun gap hgap => hinv.countP_running hgap, hinv.holdersWrite,
    fun call gap hgap => (step_moves _ call).transition hgap, ?_, ?_⟩
  · intro middle later runId leaseToken hfr hheld hrepl
    have hlost := replaced_for_good hfr hheld hrepl
    refine ⟨fun _ _ _ => recordScopeProgress_lost hlost, ?_⟩
    rintro outcome now rfl
    exact finalizeRun_lost hlost
  · intro outcome leaseToken now db' hok later now'
    have haft : (Leasing.run (calls ++ [.finalizeRun outcome leaseToken now])).db = db' := by
      rw [Leasing.run_snoc]
      show committed _ (finalizeRun outcome leaseToken now (Leasing.run calls).db) = db'
      rw [hok]
      rfl
    have hend : Ended outcome leaseToken
        (Leasing.run (calls ++ [.finalizeRun outcome leaseToken now] ++ later)).db := by
      rw [Leasing.run_append]
      refine ended_foldl inv_run ?_
      rw [haft]
      exact finalizeRun_ended hinv hok
    exact ⟨hend.again inv_run, fun again hagain => hend.unchanged inv_run hagain⟩

namespace Scripted

/-- One account with one gap, whose window is over. -/
def offline : BackfillDb where
  accounts := [⟨1, ⟨.napCat, "10001"⟩⟩]
  conversations := [⟨1, 1, ⟨.group, "g"⟩⟩]
  gaps := [⟨"gap", 1, "epoch", some 0, .uncertain, 0⟩]
  signalScopes := []
  schedule := []
  runs := []
  leases := []
  scopes := []

/-- The evidence of a run that has read nothing. -/
def unprovableRun : RunOutcome where
  completeness := .unprovable
  evidence := ⟨[], false, false⟩
  gapTargetStatus := .uncertain
  runId := "run-1"
  gapId := "gap"
  gapReason := some .historyUnprovable
  target_eq := rfl

def claimedOnce : List BackfillCall :=
  [.elsewhere offline, .claimNextGap 60 ⟨"run-1", "token-1"⟩ 1]

/-- The lease of the run is over, and another worker takes the run over. -/
def takenOver : List BackfillCall := [.reclaimExpired 60 10 (fun _ => "token-2") (seconds 100)]

/-- The gap is claimed again, half a minute after its run was finalised. -/
def claimedAgain : List BackfillCall := [.claimNextGap 60 ⟨"run-2", "token-3"⟩ (seconds 40)]

end Scripted

open Scripted in
theorem backfill_runs_are_fenced_scripted :
    finalizeRun unprovableRun "token-1" (seconds 101) (Leasing.run (claimedOnce ++ takenOver)).db =
        .error .leaseLost ∧
      finalizeRun unprovableRun "token-1" 3
          (Leasing.run (claimedOnce ++ [.finalizeRun unprovableRun "token-1" 2])).db =
        .ok ((), (Leasing.run (claimedOnce ++ [.finalizeRun unprovableRun "token-1" 2])).db) := by
  have hfin : (finalizeRun unprovableRun "token-1" 2 (Leasing.run claimedOnce).db).isOk =
      true := by decide
  refine ⟨?_, ?_⟩
  · exact ((backfill_runs_are_fenced claimedOnce).2.2.2.1 takenOver [] "run-1" "token-1"
      (by decide) (by decide) (by decide)).2 unprovableRun _ rfl
  · cases hok : finalizeRun unprovableRun "token-1" 2 (Leasing.run claimedOnce).db with
    | error error => rw [hok] at hfin; cases hfin
    | ok result =>
      refine ((backfill_runs_are_fenced claimedOnce).2.2.2.2 unprovableRun "token-1" 2 _ hok [] 3).1.mpr
        ⟨⟨"gap", 1, "epoch", some 0, .uncertain, 2⟩, by decide, rfl, rfl⟩

open Scripted in
/-- A run is finalised, its gap is claimed again, and the repetition is refused. -/
theorem finalizeRun_refused_after_next_claim :
    (finalizeRun unprovableRun "token-1" 2 (Leasing.run claimedOnce).db).isOk = true ∧
      finalizeRun unprovableRun "token-1" (seconds 41)
          (Leasing.run (claimedOnce ++ [.finalizeRun unprovableRun "token-1" 2] ++ claimedAgain)).db =
        .error (.invalidData
          "backfill run run-1 is already unprovable/unprovable but gap gap is backfilling") := by
  decide

end ServerRS.Backfill

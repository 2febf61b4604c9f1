import ServerRS.Backfill.Store
import ServerRS.Lib.Except

/-!
# The leases of backfill runs

Any number of workers claim gaps, take runs over whose lease is over, record progress and finalise
runs, in any order and at any times, while connections add gaps and end their windows. What links
the tables is `Inv`: a gap is being backfilled exactly when one run of it is.
-/

namespace ServerRS.Backfill

open Lib Lib.Except

/-! ## Calls -/

/-- One call of a worker, with the clock that it reads and the identifiers that it draws, or a
change that the rest of the program makes. -/
inductive BackfillCall where
  | claimNextGap (leaseSecs : ℕ) (new : NewRun) (now : DateTime)
  | reclaimExpired (leaseSecs limit : ℕ) (newToken : String → String) (now : DateTime)
  | recordScopeProgress (leaseSecs : ℕ) (runId leaseToken : String) (progress : ScopeProgress)
      (now : DateTime)
  | finalizeRun (outcome : RunOutcome) (leaseToken : String) (now : DateTime)
  | elsewhere (outside : BackfillDb)

def committed {α : Type} (db : BackfillDb) :
    Except InboundEventStoreError (α × BackfillDb) → BackfillDb
  | .ok (_, db') => db'
  | .error _ => db

def GapRow.standing (gap : GapRow) : String × IngestionGapStatus := (gap.gapId, gap.status)

/-- Gaps stay where they are, and new ones are uncertain. -/
structure Admits (db outside : BackfillDb) : Prop where
  kept : ∀ gap ∈ db.gaps, gap.standing ∈ outside.gaps.map GapRow.standing
  added : ∀ gap ∈ outside.gaps,
    gap.standing ∈ db.gaps.map GapRow.standing ∨ gap.status = .uncertain
  ids : (outside.gaps.map GapRow.gapId).Nodup

instance (db outside : BackfillDb) : Decidable (Admits db outside) :=
  decidable_of_iff ((∀ gap ∈ db.gaps, gap.standing ∈ outside.gaps.map GapRow.standing) ∧
      (∀ gap ∈ outside.gaps,
        gap.standing ∈ db.gaps.map GapRow.standing ∨ gap.status = .uncertain) ∧
      (outside.gaps.map GapRow.gapId).Nodup)
    ⟨fun h => ⟨h.1, h.2.1, h.2.2⟩, fun h => ⟨h.kept, h.added, h.ids⟩⟩

/-- The rest of the program writes any table but those of the runs. -/
def elsewhere (outside db : BackfillDb) : BackfillDb :=
  if Admits db outside then
    { outside with
      runs := db.runs
      leases := db.leases
      scopes := db.scopes }
  else db

def step (db : BackfillDb) : BackfillCall → BackfillDb
  | .claimNextGap leaseSecs new now => committed db (claimNextGap leaseSecs new now db)
  | .reclaimExpired leaseSecs limit newToken now =>
    committed db (reclaimExpired leaseSecs limit newToken now db)
  | .recordScopeProgress leaseSecs runId leaseToken progress now =>
    committed db (Store.recordScopeProgress leaseSecs runId leaseToken progress now db)
  | .finalizeRun outcome leaseToken now => committed db (finalizeRun outcome leaseToken now db)
  | .elsewhere outside => elsewhere outside db

def ClaimedGap.lease (claim : ClaimedGap) : String × String := (claim.runId, claim.leaseToken)

/-- The leases that a call hands out. -/
def issues (db : BackfillDb) : BackfillCall → List (String × String)
  | .claimNextGap leaseSecs new now =>
    ((claimNextGap leaseSecs new now db).toOption.bind Prod.fst).toList.map ClaimedGap.lease
  | .reclaimExpired leaseSecs limit newToken now =>
    (((reclaimExpired leaseSecs limit newToken now db).toOption.map Prod.fst).getD []).map
      ClaimedGap.lease
  | _ => []

/-- The tables, and every lease that has been handed out so far. -/
structure Leasing where
  db : BackfillDb
  issued : List (String × String)

/-- The migration leaves the tables empty. -/
def Leasing.start : Leasing := ⟨⟨[], [], [], [], [], [], [], []⟩, []⟩

def Leasing.step (world : Leasing) (call : BackfillCall) : Leasing :=
  ⟨Backfill.step world.db call, world.issued ++ issues world.db call⟩

def Leasing.run (calls : List BackfillCall) : Leasing := calls.foldl Leasing.step .start

variable {calls : List BackfillCall}

theorem Leasing.run_append {later : List BackfillCall} :
    Leasing.run (calls ++ later) = later.foldl Leasing.step (Leasing.run calls) :=
  List.foldl_append

theorem Leasing.run_snoc {call : BackfillCall} :
    Leasing.run (calls ++ [call]) = (Leasing.run calls).step call :=
  List.foldl_append

section

variable {db db' : BackfillDb} {leaseSecs limit : ℕ} {new : NewRun} {now : DateTime}
  {runId leaseToken : String} {newToken : String → String} {progress : ScopeProgress}
  {outcome : RunOutcome} {claimed : Option ClaimedGap} {claims claims' : List ClaimedGap}

/-! ## One spec for each call -/

theorem firstClaimable_some {found : GapRow × SourceAccountRef}
    (h : firstClaimable now db = some found) :
    found.1 ∈ db.gaps ∧ found.1.status = .uncertain := by
  have hmem := List.mem_of_mem_head? h
  rw [List.mem_insertionSort, List.mem_filterMap] at hmem
  obtain ⟨gap, hgap, hfnd⟩ := hmem
  obtain ⟨account, -, rfl⟩ := Option.map_eq_some_iff.mp hfnd
  obtain ⟨hmem, hcla⟩ := List.mem_filter.mp hgap
  simp only [isClaimable, Bool.and_eq_true, decide_eq_true_eq] at hcla
  exact ⟨hmem, hcla.1.1⟩

/-- Nothing is claimable, or an uncertain gap gets a new run. -/
theorem claimNextGap_ok (h : claimNextGap leaseSecs new now db = .ok (claimed, db')) :
    (claimed = none ∧ db' = db) ∨
    ∃ gap ∈ db.gaps, gap.status = .uncertain ∧
      (∃ account, claimed = some
        ⟨new.runId, new.leaseToken, gap.gapId, account, gap.connectionEpochId, false⟩) ∧
      (∀ run ∈ db.runs, run.backfillRunId ≠ new.runId) ∧
      db' = { db with
        gaps := moveGap gap.gapId .uncertain .backfilling now db.gaps
        runs := db.runs ++ [claimedRun leaseSecs new now gap]
        leases := db.leases ++ [⟨new.runId, new.leaseToken⟩] } := by
  unfold claimNextGap at h
  split at h
  · obtain ⟨rfl, rfl⟩ := Prod.mk.inj (Except.ok.inj h)
    exact .inl ⟨rfl, rfl⟩
  next gap account hfst =>
    obtain ⟨_, -, h⟩ := bind_ok h
    obtain ⟨_, -, h⟩ := bind_ok h
    split at h
    · cases h
    next hfr =>
      obtain ⟨rfl, rfl⟩ := Prod.mk.inj (Except.ok.inj h)
      obtain ⟨hmem, hunc⟩ := firstClaimable_some hfst
      refine .inr ⟨gap, hmem, hunc, ⟨account, rfl⟩, fun run hrun heq => hfr ?_, rfl⟩
      rw [Bool.or_eq_true]
      exact .inl (List.any_eq_true.mpr ⟨run, hrun, decide_eq_true heq⟩)

/-- What a run is, its lease aside. -/
def RunRow.unleased (run : RunRow) : RunRow := { run with leaseExpiresAt := none, updatedAt := 0 }

/-- Leases are renewed, and nothing else happens to the runs. -/
structure Renewed (issued : List (String × String)) (db db' : BackfillDb) : Prop where
  rest : db' = { db with
    runs := db'.runs
    leases := db'.leases }
  runs : db'.runs.map RunRow.unleased = db.runs.map RunRow.unleased
  held : ∀ runId leaseToken, holdsLease runId leaseToken db' = true →
    holdsLease runId leaseToken db = true ∨ (runId, leaseToken) ∈ issued
  ended : ∀ runId leaseToken, holdsLease runId leaseToken db = true →
    (∀ run ∈ db.runs, run.backfillRunId = runId → run.status ≠ .backfilling) →
      holdsLease runId leaseToken db' = true

theorem Renewed.refl (db : BackfillDb) : Renewed [] db db :=
  ⟨rfl, rfl, fun _ _ h => .inl h, fun _ _ h _ => h⟩

variable {runs : List RunRow} {run : RunRow} {issued : List (String × String)}
  {leases : List LeaseRow} {source target : IngestionGapStatus} {gaps : List GapRow}
  {scopes : List ScopeRow}

/-- A row of the runs, before or after its lease is renewed. -/
theorem exists_unleased {runs' : List RunRow}
    (h : runs'.map RunRow.unleased = runs.map RunRow.unleased) (hrun : run ∈ runs) :
    ∃ run' ∈ runs', run'.unleased = run.unleased := by
  have hmem : run.unleased ∈ runs'.map RunRow.unleased := h ▸ List.mem_map_of_mem hrun
  exact List.mem_map.mp hmem

theorem unleased_standing {run' : RunRow} (h : run'.unleased = run.unleased) :
    run'.backfillRunId = run.backfillRunId ∧ run'.gapId = run.gapId ∧ run'.status = run.status ∧
      run'.completeness = run.completeness ∧ run'.counters = run.counters := by
  simp only [RunRow.unleased, RunRow.mk.injEq] at h
  obtain ⟨hid, hgap, -, -, hstat, -, hcomp, -, hcoun, -⟩ := h
  exact ⟨hid, hgap, hstat, hcomp, hcoun⟩

theorem Renewed.trans {issued' : List (String × String)} {db₁ : BackfillDb}
    (h : Renewed issued db db₁) (h' : Renewed issued' db₁ db') :
    Renewed (issued ++ issued') db db' where
  rest := by
    rw [h'.rest, h.rest]
  runs := h'.runs.trans h.runs
  held := by
    intro runId leaseToken hheld
    obtain hmiddle | hiss := h'.held runId leaseToken hheld
    · obtain hbef | hiss := h.held runId leaseToken hmiddle
      · exact .inl hbef
      · exact .inr (List.mem_append_left _ hiss)
    · exact .inr (List.mem_append_right _ hiss)
  ended := by
    intro runId leaseToken hheld hend
    refine h'.ended runId leaseToken (h.ended runId leaseToken hheld hend) ?_
    intro run hrun hid
    obtain ⟨before, hbef, hsame⟩ := exists_unleased h.runs.symm hrun
    obtain ⟨hids, -, hstat, -⟩ := unleased_standing hsame
    rw [← hstat]
    exact hend before hbef (hids.trans hid)

theorem map_unleased_updateWhere {cond : RunRow → Bool} {expires updated : DateTime} :
    (updateWhere cond
      (fun run => { run with leaseExpiresAt := some expires, updatedAt := updated }) runs).map
        RunRow.unleased = runs.map RunRow.unleased :=
  map_updateWhere fun _ => rfl

theorem holdsLease_upsert {run token : String} (h : (upsertLease run token leases).any
      (fun lease => lease.backfillRunId = runId && lease.leaseToken = leaseToken) = true) :
    (leases.any fun lease => lease.backfillRunId = runId && lease.leaseToken = leaseToken) = true ∨
      (runId, leaseToken) = (run, token) := by
  obtain ⟨lease, hls, heq⟩ := List.any_eq_true.mp h
  rw [Bool.and_eq_true, decide_eq_true_eq, decide_eq_true_eq] at heq
  obtain ⟨rfl, rfl⟩ := heq
  unfold upsertLease at hls
  split at hls
  · obtain ⟨old, hold, rfl⟩ := mem_updateWhere.mp hls
    split
    next hid => exact .inr (Prod.ext (of_decide_eq_true hid) rfl)
    · exact .inl (List.any_eq_true.mpr ⟨old, hold, by simp⟩)
  · rcases List.mem_append.mp hls with hls | hls
    · exact .inl (List.any_eq_true.mpr ⟨lease, hls, by simp⟩)
    · rw [List.mem_singleton.mp hls]
      exact .inr rfl

theorem holdsLease_upsert_other {run token : String} (hne : runId ≠ run)
    (h : (leases.any fun lease =>
      lease.backfillRunId = runId && lease.leaseToken = leaseToken) = true) :
    (upsertLease run token leases).any
      (fun lease => lease.backfillRunId = runId && lease.leaseToken = leaseToken) = true := by
  obtain ⟨lease, hls, heq⟩ := List.any_eq_true.mp h
  rw [Bool.and_eq_true, decide_eq_true_eq, decide_eq_true_eq] at heq
  refine List.any_eq_true.mpr ⟨lease, ?_, by simp [heq]⟩
  unfold upsertLease
  split
  · refine mem_updateWhere.mpr ⟨lease, hls, if_neg ?_⟩
    rw [decide_eq_true_eq, heq.1]
    exact hne
  · exact List.mem_append_left _ hls

theorem renewLease_ok {expired : RunRow × SourceAccountRef}
    (h : renewLease leaseSecs newToken now (claims, db) expired = .ok (claims', db')) :
    ∃ added, claims' = claims ++ added ∧ Renewed (added.map ClaimedGap.lease) db db' := by
  obtain ⟨run, account⟩ := expired
  obtain ⟨_, -, h⟩ := bind_ok h
  obtain ⟨_, -, h⟩ := bind_ok h
  obtain ⟨_, -, h⟩ := bind_ok h
  dsimp only at h
  split at h
  · obtain ⟨rfl, rfl⟩ := Prod.mk.inj (Except.ok.inj h)
    exact ⟨[], (List.append_nil _).symm, .refl _⟩
  next hfnd =>
    obtain ⟨rfl, rfl⟩ := Prod.mk.inj (Except.ok.inj h)
    refine ⟨_, rfl, rfl, map_unleased_updateWhere, ?_, ?_⟩
    · intro runId leaseToken hheld
      obtain hbef | hnew := holdsLease_upsert hheld
      · exact .inl hbef
      · exact .inr (List.mem_singleton.mpr hnew)
    · intro runId leaseToken hheld hend
      refine holdsLease_upsert_other ?_ hheld
      rintro rfl
      obtain ⟨row, hrow, hrenew⟩ := List.countP_pos_iff.mp (Nat.pos_of_ne_zero hfnd)
      simp only [RunRow.isExpired, Bool.and_eq_true, decide_eq_true_eq] at hrenew
      exact hend row hrow hrenew.1 hrenew.2.1

theorem reclaimExpired_ok (h : reclaimExpired leaseSecs limit newToken now db = .ok (claims, db')) :
    Renewed (claims.map ClaimedGap.lease) db db' := by
  unfold reclaimExpired at h
  split at h
  · obtain ⟨rfl, rfl⟩ := Prod.mk.inj (Except.ok.inj h)
    exact .refl _
  · have hkeeps : Renewed ((claims, db').1.map ClaimedGap.lease) db (claims, db').2 := by
      refine foldlM_keeps (P := fun b => Renewed (b.1.map ClaimedGap.lease) db b.2) ?_ ?_ h
      · intro expired _ b b' hb hstep
        obtain ⟨added, hadded, hren⟩ := renewLease_ok hstep
        rw [hadded, List.map_append]
        exact hb.trans hren
      · exact .refl _
    exact hkeeps

theorem lockOwnedRun_ok (h : lockOwnedRun runId leaseToken db = .ok run) :
    run ∈ db.runs ∧ run.backfillRunId = runId ∧ holdsLease runId leaseToken db = true := by
  unfold lockOwnedRun at h
  split at h
  next found hfind =>
    obtain rfl := Except.ok.inj h
    have hfnd := List.find?_some hfind
    rw [Bool.and_eq_true, decide_eq_true_eq] at hfnd
    exact ⟨List.mem_of_find?_eq_some hfind, hfnd.1, hfnd.2⟩
  · cases h

theorem lockOwnedRun_error (h : holdsLease runId leaseToken db = false) :
    lockOwnedRun runId leaseToken db = .error .leaseLost := by
  have hnone : (db.runs.find? fun run =>
      run.backfillRunId = runId && holdsLease runId leaseToken db) = none :=
    List.find?_eq_none.mpr fun run _ => by simp [h]
  unfold lockOwnedRun
  rw [hnone]

/-- The holder of a running run stores a row. -/
theorem recordScopeProgress_ok
    (h : Store.recordScopeProgress leaseSecs runId leaseToken progress now db = .ok ((), db')) :
    ∃ run ∈ db.runs, run.backfillRunId = runId ∧ run.status = .backfilling ∧
      holdsLease runId leaseToken db = true ∧
      ∃ conversationId runs, db' = { db with
        runs
        scopes := upsertScope (scopeRow runId run.accountId conversationId progress) db.scopes } ∧
        runs.map RunRow.unleased = db.runs.map RunRow.unleased := by
  obtain ⟨accountId, hlock, h⟩ := bind_ok h
  obtain ⟨run, hrun, hlock⟩ := bind_ok hlock
  obtain ⟨hmem, hid, hheld⟩ := lockOwnedRun_ok hrun
  split at hlock
  · cases hlock
  next hstat =>
    obtain rfl := Except.ok.inj hlock
    dsimp only at h
    split at h
    · cases h
    · obtain ⟨conversationId, -, h⟩ := bind_ok h
      obtain ⟨-, rfl⟩ := Prod.mk.inj (Except.ok.inj h)
      exact ⟨run, hmem, hid, not_not.mp hstat, hheld, conversationId, _, rfl,
        map_unleased_updateWhere⟩

/-- The run has ended already, or the holder ends it with the gap. -/
theorem finalizeRun_ok (h : finalizeRun outcome leaseToken now db = .ok ((), db')) :
    ∃ run ∈ db.runs, run.backfillRunId = outcome.runId ∧ run.gapId = outcome.gapId ∧
      holdsLease outcome.runId leaseToken db = true ∧
      ((run.status ≠ .backfilling ∧ db' = db ∧ run.completeness = outcome.completeness ∧
          ∃ gap, findGap outcome.gapId db = some gap ∧ gap.status = outcome.gapTargetStatus) ∨
        (run.status = .backfilling ∧ db' = { db with
          gaps := moveGap outcome.gapId .backfilling outcome.gapTargetStatus now db.gaps
          runs := updateWhere (fun run => run.backfillRunId = outcome.runId) (outcome.complete now)
            db.runs
          schedule := outcome.reclaimPolicy.apply outcome.gapId now db.schedule })) := by
  obtain ⟨run, hrun, h⟩ := bind_ok h
  obtain ⟨hmem, hid, hheld⟩ := lockOwnedRun_ok hrun
  split at h
  · cases h
  next hgap =>
    refine ⟨run, hmem, hid, not_not.mp hgap, hheld, ?_⟩
    split at h
    next hend =>
      unfold finalizeAgain at h
      split at h
      · cases h
      next gap hfind =>
        split at h
        next hsame =>
          obtain ⟨-, rfl⟩ := Prod.mk.inj (Except.ok.inj h)
          exact .inl ⟨hend, rfl, hsame.2, gap, hfind, hsame.1⟩
        · cases h
    next hrng =>
      obtain ⟨_, -, h⟩ := bind_ok h
      obtain ⟨-, rfl⟩ := Prod.mk.inj (Except.ok.inj h)
      exact .inr ⟨not_not.mp hrng, rfl⟩

/-! ## The invariant -/

/-- A gap is being backfilled exactly when one run of it is. -/
structure Inv (db : BackfillDb) : Prop where
  gapIds : (db.gaps.map GapRow.gapId).Nodup
  runIds : (db.runs.map RunRow.backfillRunId).Nodup
  started : ∀ run ∈ db.runs, run.status = .backfilling →
    ∃ gap ∈ db.gaps, gap.gapId = run.gapId ∧ gap.status = .backfilling
  covered : ∀ gap ∈ db.gaps, gap.status = .backfilling →
    ∃ run ∈ db.runs, run.gapId = gap.gapId ∧ run.status = .backfilling
  sole : ∀ run ∈ db.runs, ∀ other ∈ db.runs, run.status = .backfilling →
    other.status = .backfilling → run.gapId = other.gapId → run = other
  owned : ∀ scope ∈ db.scopes, ∃ run ∈ db.runs, run.backfillRunId = scope.backfillRunId

theorem inv_start : Inv Leasing.start.db where
  gapIds := List.nodup_nil
  runIds := List.nodup_nil
  started := fun _ h => absurd h List.not_mem_nil
  covered := fun _ h => absurd h List.not_mem_nil
  sole := fun _ h => absurd h List.not_mem_nil
  owned := fun _ h => absurd h List.not_mem_nil

theorem mem_moveGap {gapId : String} {gap : GapRow} : gap ∈ moveGap gapId source target now gaps ↔
      ∃ old ∈ gaps, (if old.gapId = gapId ∧ old.status = source then
        { old with status := target, updatedAt := now } else old) = gap := by
  unfold moveGap
  rw [mem_updateWhere]
  simp only [Bool.and_eq_true, decide_eq_true_eq]

theorem map_gapId_moveGap {gapId : String} :
    (moveGap gapId source target now gaps).map GapRow.gapId = gaps.map GapRow.gapId :=
  map_updateWhere fun _ => rfl

/-- Renewed leases change nothing that the invariant is about. -/
theorem Inv.unleased (h : Inv db) (hruns : runs.map RunRow.unleased = db.runs.map RunRow.unleased)
    (hscs : ∀ scope ∈ scopes, (∃ old ∈ db.scopes, old.backfillRunId = scope.backfillRunId) ∨
      ∃ run ∈ db.runs, run.backfillRunId = scope.backfillRunId) :
    Inv { db with runs, leases, scopes } := by
  have hids : runs.map RunRow.backfillRunId = db.runs.map RunRow.backfillRunId := by
    have hmap := congrArg (List.map RunRow.backfillRunId) hruns
    rwa [List.map_map, List.map_map] at hmap
  have hrunIds : (runs.map RunRow.backfillRunId).Nodup := hids ▸ h.runIds
  have hback : ∀ run ∈ runs, ∃ old ∈ db.runs, old.backfillRunId = run.backfillRunId ∧
      old.gapId = run.gapId ∧ old.status = run.status := by
    intro run hrun
    obtain ⟨old, hold, hsame⟩ := exists_unleased hruns.symm hrun
    obtain ⟨hid, hgap, hstat, -⟩ := unleased_standing hsame
    exact ⟨old, hold, hid, hgap, hstat⟩
  exact {
    gapIds := h.gapIds
    runIds := hrunIds
    started := by
      intro run hrun hrng
      obtain ⟨old, hold, -, hgap, hstat⟩ := hback run hrun
      rw [← hgap]
      exact h.started old hold (hstat.trans hrng)
    covered := by
      intro gap hgap hbac
      obtain ⟨run, hrun, hof, hrng⟩ := h.covered gap hgap hbac
      obtain ⟨new, hnew, hsame⟩ := exists_unleased hruns hrun
      obtain ⟨-, hgapId, hstat, -⟩ := unleased_standing hsame
      exact ⟨new, hnew, hgapId.trans hof, hstat.trans hrng⟩
    sole := by
      intro run hrun other hoth hrng hrng' hgaps
      obtain ⟨old, hold, hid, hgap, hstat⟩ := hback run hrun
      obtain ⟨old', hold', hid', hgap', hstat'⟩ := hback other hoth
      have hone := h.sole old hold old' hold' (hstat.trans hrng) (hstat'.trans hrng')
        (hgap.trans (hgaps.trans hgap'.symm))
      exact eq_of_key_eq hrunIds hrun hoth (hid.symm.trans ((congrArg _ hone).trans hid'))
    owned := by
      intro scope hsc
      have hrun : ∃ run ∈ db.runs, run.backfillRunId = scope.backfillRunId := by
        obtain ⟨old, hold, hid⟩ | hrun := hscs scope hsc
        · obtain ⟨run, hrun, hof⟩ := h.owned old hold
          exact ⟨run, hrun, hof.trans hid⟩
        · exact hrun
      obtain ⟨run, hrun, hof⟩ := hrun
      obtain ⟨new, hnew, hsame⟩ := exists_unleased hruns hrun
      exact ⟨new, hnew, (unleased_standing hsame).1.trans hof⟩ }

theorem Inv.renewed (h : Inv db) (hren : Renewed issued db db') : Inv db' := by
  rw [hren.rest]
  exact h.unleased hren.runs fun scope hsc => .inl ⟨scope, hsc, rfl⟩

theorem Inv.claim (h : Inv db) {gap : GapRow} (hgap : gap ∈ db.gaps)
    (hunc : gap.status = .uncertain) (hfr : ∀ run ∈ db.runs, run.backfillRunId ≠ new.runId) :
    Inv { db with
      gaps := moveGap gap.gapId .uncertain .backfilling now db.gaps
      runs := db.runs ++ [claimedRun leaseSecs new now gap]
      leases := db.leases ++ [⟨new.runId, new.leaseToken⟩] } := by
  -- The gap was uncertain, so that no run of it is running.
  have hidle : ∀ run ∈ db.runs, run.status = .backfilling → run.gapId ≠ gap.gapId := by
    intro run hrun hrng hof
    obtain ⟨other, hoth, hid, hstat⟩ := h.started run hrun hrng
    obtain rfl := eq_of_key_eq h.gapIds hoth hgap (hid.trans hof)
    rw [hunc] at hstat
    cases hstat
  have hgapIds : ((moveGap gap.gapId .uncertain .backfilling now db.gaps).map
      GapRow.gapId).Nodup := by
    rw [map_gapId_moveGap]
    exact h.gapIds
  exact {
    gapIds := hgapIds
    runIds := nodup_map_concat h.runIds hfr
    started := by
      intro run hrun hrng
      rcases List.mem_append.mp hrun with hrun | hrun
      · obtain ⟨other, hoth, hid, hstat⟩ := h.started run hrun hrng
        refine ⟨other, mem_moveGap.mpr ⟨other, hoth, if_neg ?_⟩, hid, hstat⟩
        rintro ⟨-, hsrc⟩
        rw [hstat] at hsrc
        cases hsrc
      · obtain rfl := List.mem_singleton.mp hrun
        refine ⟨{ gap with status := .backfilling, updatedAt := now },
          mem_moveGap.mpr ⟨gap, hgap, if_pos ⟨rfl, hunc⟩⟩, rfl, rfl⟩
    covered := by
      intro moved hmoved hbac
      obtain ⟨old, hold, rfl⟩ := mem_moveGap.mp hmoved
      split at hbac
      next hcld =>
        rw [if_pos hcld]
        exact ⟨_, List.mem_concat_self, hcld.1.symm, rfl⟩
      next hcld =>
        rw [if_neg hcld]
        obtain ⟨run, hrun, hof, hrng⟩ := h.covered old hold hbac
        exact ⟨run, List.mem_append_left _ hrun, hof, hrng⟩
    sole := by
      intro run hrun other hoth hrng hrng' hgaps
      rcases List.mem_append.mp hrun with hrun | hrun
      · rcases List.mem_append.mp hoth with hoth | hoth
        · exact h.sole run hrun other hoth hrng hrng' hgaps
        · obtain rfl := List.mem_singleton.mp hoth
          exact absurd hgaps (hidle run hrun hrng)
      · obtain rfl := List.mem_singleton.mp hrun
        rcases List.mem_append.mp hoth with hoth | hoth
        · exact absurd hgaps.symm (hidle other hoth hrng')
        · exact (List.mem_singleton.mp hoth).symm
    owned := by
      intro scope hsc
      obtain ⟨run, hrun, hof⟩ := h.owned scope hsc
      exact ⟨run, List.mem_append_left _ hrun, hof⟩ }

theorem RunOutcome.target_ne (outcome : RunOutcome) : outcome.gapTargetStatus ≠ .backfilling := by
  rw [outcome.target_eq]
  cases outcome.completeness <;> decide

theorem Inv.finalize (h : Inv db) (hrun : run ∈ db.runs) (hid : run.backfillRunId = outcome.runId)
    (hgap : run.gapId = outcome.gapId) (hrng : run.status = .backfilling)
    {schedule : List ReclaimScheduleRow} :
    Inv { db with
      gaps := moveGap outcome.gapId .backfilling outcome.gapTargetStatus now db.gaps
      runs := updateWhere (fun run => run.backfillRunId = outcome.runId) (outcome.complete now)
        db.runs
      schedule } := by
  have hgapIds : ((moveGap outcome.gapId .backfilling outcome.gapTargetStatus now db.gaps).map
      GapRow.gapId).Nodup := by
    rw [map_gapId_moveGap]
    exact h.gapIds
  have hrunIds : ((updateWhere (fun run => run.backfillRunId = outcome.runId) (outcome.complete now)
      db.runs).map RunRow.backfillRunId).Nodup := by
    have hkey : ∀ run, (outcome.complete now run).backfillRunId = run.backfillRunId := fun _ => rfl
    rw [map_updateWhere hkey]
    exact h.runIds
  -- Whatever still runs is another run, and it is one of another gap.
  have hstill : ∀ other ∈ updateWhere (fun run => run.backfillRunId = outcome.runId)
      (outcome.complete now) db.runs, other.status = .backfilling →
        other ∈ db.runs ∧ other.backfillRunId ≠ outcome.runId ∧ other.gapId ≠ outcome.gapId := by
    intro other hoth hrng'
    obtain ⟨old, hold, rfl⟩ := mem_updateWhere.mp hoth
    split at hrng'
    · refine absurd hrng' ?_
      show RunStatus.ofCompleteness outcome.completeness ≠ .backfilling
      cases outcome.completeness <;> decide
    next hne =>
      rw [if_neg hne]
      rw [decide_eq_true_eq] at hne
      refine ⟨hold, hne, fun hof => hne ?_⟩
      rw [h.sole old hold run hrun hrng' hrng (hof.trans hgap.symm), hid]
  exact {
    gapIds := hgapIds
    runIds := hrunIds
    started := by
      intro other hoth hrng'
      obtain ⟨hold, -, hof⟩ := hstill other hoth hrng'
      obtain ⟨gap, hmem, hgapId, hstat⟩ := h.started other hold hrng'
      exact ⟨gap, mem_moveGap.mpr ⟨gap, hmem, if_neg fun hboth => hof (hgapId.symm.trans hboth.1)⟩,
        hgapId, hstat⟩
    covered := by
      intro moved hmoved hbac
      obtain ⟨old, hold, rfl⟩ := mem_moveGap.mp hmoved
      split at hbac
      · exact absurd hbac outcome.target_ne
      next hoth =>
        rw [if_neg hoth]
        obtain ⟨covering, hcov, hof, hrng'⟩ := h.covered old hold hbac
        refine ⟨covering, mem_updateWhere.mpr ⟨covering, hcov, if_neg ?_⟩, hof, hrng'⟩
        rw [decide_eq_true_eq]
        intro hsame
        obtain rfl := eq_of_key_eq h.runIds hcov hrun (hsame.trans hid.symm)
        exact hoth ⟨hof.symm.trans hgap, hbac⟩
    sole := by
      intro first hfst second hsec hrng₁ hrng₂ hgaps
      exact h.sole first (hstill first hfst hrng₁).1 second (hstill second hsec hrng₂).1
        hrng₁ hrng₂ hgaps
    owned := by
      intro scope hsc
      obtain ⟨owner, howner, hof⟩ := h.owned scope hsc
      refine ⟨_, mem_updateWhere.mpr ⟨owner, howner, rfl⟩, ?_⟩
      split
      · exact hof
      · exact hof }

theorem Inv.elsewhere (h : Inv db) {outside : BackfillDb} (hadm : Admits db outside) :
    Inv { outside with
      runs := db.runs
      leases := db.leases
      scopes := db.scopes } where
  gapIds := hadm.ids
  runIds := h.runIds
  started := by
    intro run hrun hrng
    obtain ⟨gap, hgap, hid, hstat⟩ := h.started run hrun hrng
    obtain ⟨new, hnew, hsame⟩ := List.mem_map.mp (hadm.kept gap hgap)
    obtain ⟨hnewId, hnewStatus⟩ := Prod.mk.inj hsame
    exact ⟨new, hnew, hnewId.trans hid, hnewStatus.trans hstat⟩
  covered := by
    intro gap hgap hbac
    obtain hold | hunc := hadm.added gap hgap
    · obtain ⟨old, hold, hsame⟩ := List.mem_map.mp hold
      obtain ⟨hid, hstat⟩ := Prod.mk.inj hsame
      rw [← hid]
      exact h.covered old hold (hstat.trans hbac)
    · rw [hunc] at hbac
      cases hbac
  sole := h.sole
  owned := h.owned

/-! ## What a call does -/

/-- What a call makes of the tables, and the leases that it hands out. -/
inductive Moves (db : BackfillDb) : BackfillCall → List (String × String) → BackfillDb → Prop
  | idle {call : BackfillCall} : Moves db call [] db
  | claimed {leaseSecs : ℕ} {new : NewRun} {now : DateTime} {gap : GapRow} (mem : gap ∈ db.gaps)
      (uncertain : gap.status = .uncertain)
      (fresh : ∀ run ∈ db.runs, run.backfillRunId ≠ new.runId) :
      Moves db (.claimNextGap leaseSecs new now) [(new.runId, new.leaseToken)]
        { db with
          gaps := moveGap gap.gapId .uncertain .backfilling now db.gaps
          runs := db.runs ++ [claimedRun leaseSecs new now gap]
          leases := db.leases ++ [⟨new.runId, new.leaseToken⟩] }
  | reclaimed {leaseSecs limit : ℕ} {newToken : String → String} {now : DateTime}
      {issued : List (String × String)} {db' : BackfillDb} (renewed : Renewed issued db db') :
      Moves db (.reclaimExpired leaseSecs limit newToken now) issued db'
  | recorded {leaseSecs : ℕ} {runId leaseToken : String} {progress : ScopeProgress} {now : DateTime}
      {run : RunRow} {conversationId : ℕ} {runs : List RunRow} (mem : run ∈ db.runs)
      (id : run.backfillRunId = runId) (running : run.status = .backfilling)
      (held : holdsLease runId leaseToken db = true)
      (same : runs.map RunRow.unleased = db.runs.map RunRow.unleased) :
      Moves db (.recordScopeProgress leaseSecs runId leaseToken progress now) []
        { db with
          runs
          scopes := upsertScope (scopeRow runId run.accountId conversationId progress) db.scopes }
  | finalized {outcome : RunOutcome} {leaseToken : String} {now : DateTime} {run : RunRow}
      (mem : run ∈ db.runs) (id : run.backfillRunId = outcome.runId)
      (gap : run.gapId = outcome.gapId) (running : run.status = .backfilling)
      (held : holdsLease outcome.runId leaseToken db = true) :
      Moves db (.finalizeRun outcome leaseToken now) []
        { db with
          gaps := moveGap outcome.gapId .backfilling outcome.gapTargetStatus now db.gaps
          runs := updateWhere (fun run => run.backfillRunId = outcome.runId) (outcome.complete now)
            db.runs
          schedule := outcome.reclaimPolicy.apply outcome.gapId now db.schedule }
  | elsewhere {outside : BackfillDb} (admits : Admits db outside) :
      Moves db (.elsewhere outside) []
        { outside with
          runs := db.runs
          leases := db.leases
          scopes := db.scopes }

theorem step_moves (db : BackfillDb) (call : BackfillCall) :
    Moves db call (issues db call) (step db call) := by
  cases call with
  | claimNextGap leaseSecs new now =>
    cases h : claimNextGap leaseSecs new now db with
    | error error =>
      simp only [issues, step, committed, h]
      exact .idle
    | ok result =>
      obtain ⟨claimed, db'⟩ := result
      simp only [issues, step, committed, h]
      obtain ⟨rfl, rfl⟩ | ⟨gap, hgap, hunc, ⟨account, rfl⟩, hfr, rfl⟩ := claimNextGap_ok h
      · exact .idle
      · exact .claimed hgap hunc hfr
  | reclaimExpired leaseSecs limit newToken now =>
    cases h : reclaimExpired leaseSecs limit newToken now db with
    | error error =>
      simp only [issues, step, committed, h]
      exact .idle
    | ok result =>
      obtain ⟨claims, db'⟩ := result
      simp only [issues, step, committed, h]
      exact .reclaimed (reclaimExpired_ok h)
  | recordScopeProgress leaseSecs runId leaseToken progress now =>
    cases h : Store.recordScopeProgress leaseSecs runId leaseToken progress now db with
    | error error =>
      simp only [issues, step, committed, h]
      exact .idle
    | ok result =>
      simp only [issues, step, committed, h]
      obtain ⟨run, hrun, hid, hrng, hheld, conversationId, runs, hdb, hsame⟩ :=
        recordScopeProgress_ok h
      rw [hdb]
      exact .recorded hrun hid hrng hheld hsame
  | finalizeRun outcome leaseToken now =>
    cases h : finalizeRun outcome leaseToken now db with
    | error error =>
      simp only [issues, step, committed, h]
      exact .idle
    | ok result =>
      simp only [issues, step, committed, h]
      obtain ⟨run, hrun, hid, hgap, hheld, ⟨-, hdb, -⟩ | ⟨hrng, hdb⟩⟩ := finalizeRun_ok h
      · rw [hdb]
        exact .idle
      · rw [hdb]
        exact .finalized hrun hid hgap hrng hheld
  | elsewhere outside =>
    show Moves db _ [] (elsewhere outside db)
    unfold elsewhere
    split
    next hadm => exact .elsewhere hadm
    · exact .idle

theorem mem_upsertScope {row scope : ScopeRow} (h : scope ∈ upsertScope row scopes) :
    (∃ old ∈ scopes, old.backfillRunId = scope.backfillRunId) ∨
      scope.backfillRunId = row.backfillRunId := by
  unfold upsertScope at h
  split at h
  · obtain ⟨old, hold, rfl⟩ := mem_updateWhere.mp h
    split
    · exact .inr rfl
    · exact .inl ⟨old, hold, rfl⟩
  · rcases List.mem_append.mp h with hold | hnew
    · exact .inl ⟨scope, hold, rfl⟩
    · exact .inr (congrArg _ (List.mem_singleton.mp hnew))

theorem Moves.inv {call : BackfillCall} (h : Moves db call issued db') (hinv : Inv db) :
    Inv db' := by
  cases h with
  | idle => exact hinv
  | claimed hgap hunc hfr => exact hinv.claim hgap hunc hfr
  | reclaimed hren => exact hinv.renewed hren
  | recorded hrun hid hrng hheld hsame =>
    refine hinv.unleased hsame fun scope hsc => ?_
    obtain hold | hnew := mem_upsertScope hsc
    · exact .inl hold
    · exact .inr ⟨_, hrun, hid.trans hnew.symm⟩
  | finalized hrun hid hgap hrng hheld => exact hinv.finalize hrun hid hgap hrng
  | elsewhere hadm => exact hinv.elsewhere hadm

theorem inv_run {calls : List BackfillCall} : Inv (Leasing.run calls).db := by
  induction calls using List.reverseRecOn with
  | nil => exact inv_start
  | append_singleton calls call ih =>
    rw [Leasing.run_snoc]
    exact (step_moves _ _).inv ih

end

end ServerRS.Backfill

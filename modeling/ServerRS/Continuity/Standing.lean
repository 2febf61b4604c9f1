import ServerRS.Continuity.Losses

/-!
# What stands for a loss

Connections only add gaps and end their windows (`Extends`), so that what stood for a loss still does.
The backfill workers move gaps: a claim keeps them waiting for a run, and the end of a run settles what
the run has read.
-/

namespace ServerRS.Continuity

open Lib Lib.Except Backfill

/-! ## Connections -/

/-- Gaps keep their standing, one may be added, and boundaries are added. -/
structure Extends (db db' : ContinuityDb) : Prop where
  runs : db'.backfill.runs = db.backfill.runs
  leases : db'.backfill.leases = db.backfill.leases
  scopes : db'.backfill.scopes = db.backfill.scopes
  schedule : db'.backfill.schedule = db.backfill.schedule
  gaps : ∃ change, ∃ new : Option GapRow, db'.gaps = db.gaps.map change ++ new.toList ∧
    (∀ gap, (change gap).standing = gap.standing ∧
      (change gap).connectionEpochId = gap.connectionEpochId) ∧
    ∀ gap ∈ new, gap.status = .uncertain ∧ ∀ other ∈ db.gaps,
      other.gapId ≠ gap.gapId ∧ other.connectionEpochId ≠ gap.connectionEpochId
  boundaries : db.boundaries ⊆ db'.boundaries

section Connections

variable {db db' db'' : ContinuityDb} {accountId : ℕ} {epochId gapId : String} {now : DateTime}

theorem Extends.same (hback : db'.backfill.gaps = db.backfill.gaps)
    (hruns : db'.backfill.runs = db.backfill.runs) (hleas : db'.backfill.leases = db.backfill.leases)
    (hscs : db'.backfill.scopes = db.backfill.scopes)
    (hsched : db'.backfill.schedule = db.backfill.schedule)
    (hbds : db.boundaries ⊆ db'.boundaries) : Extends db db' where
  runs := hruns
  leases := hleas
  scopes := hscs
  schedule := hsched
  gaps := by
    refine ⟨id, none, ?_, fun _ => ⟨rfl, rfl⟩, fun _ h => by cases h⟩
    show db'.backfill.gaps = _
    rw [hback, List.map_id, Option.toList_none, List.append_nil]
    rfl
  boundaries := hbds

theorem Extends.refl (db : ContinuityDb) : Extends db db :=
  .same rfl rfl rfl rfl rfl fun _ h => h

/-- More is written to the tables that the gaps do not depend on. -/
theorem Extends.trans_same (h : Extends db db') (hgaps : db''.gaps = db'.gaps)
    (hruns : db''.backfill.runs = db'.backfill.runs)
    (hleas : db''.backfill.leases = db'.backfill.leases)
    (hscs : db''.backfill.scopes = db'.backfill.scopes)
    (hsched : db''.backfill.schedule = db'.backfill.schedule)
    (hbds : db'.boundaries ⊆ db''.boundaries) : Extends db db'' where
  runs := hruns.trans h.runs
  leases := hleas.trans h.leases
  scopes := hscs.trans h.scopes
  schedule := hsched.trans h.schedule
  gaps := by
    rw [hgaps]
    exact h.gaps
  boundaries := fun _ hrow => hbds (h.boundaries hrow)

theorem Extends.admits (h : Extends db db') (inv : Inv db.backfill) :
    Admits db.backfill db'.backfill := by
  obtain ⟨change, new, hgaps, hchg, hnew⟩ := h.gaps
  have hgaps : db'.backfill.gaps = db.backfill.gaps.map change ++ new.toList := hgaps
  have hstand : (db.backfill.gaps.map change).map GapRow.standing =
      db.backfill.gaps.map GapRow.standing := by
    rw [List.map_map]
    exact List.map_congr_left fun gap _ => (hchg gap).1
  have hids : (db.backfill.gaps.map change).map GapRow.gapId = db.backfill.gaps.map GapRow.gapId := by
    rw [List.map_map]
    exact List.map_congr_left fun gap _ => (Prod.mk.inj (hchg gap).1).1
  refine ⟨?_, ?_, ?_⟩
  · intro gap hgap
    rw [hgaps, List.map_append, hstand]
    exact List.mem_append_left _ (List.mem_map_of_mem hgap)
  · intro gap hgap
    rw [hgaps] at hgap
    obtain hold | hadded := List.mem_append.mp hgap
    · refine .inl ?_
      rw [← hstand]
      exact List.mem_map_of_mem hold
    · exact .inr (hnew gap (Option.mem_toList.mp hadded)).1
  · rw [hgaps, List.map_append, hids]
    cases new with
    | none =>
      rw [Option.toList_none, List.map_nil, List.append_nil]
      exact inv.gapIds
    | some gap =>
      have hconc := nodup_map_concat inv.gapIds fun other hoth => ((hnew gap rfl).2 other hoth).1
      rwa [List.map_append] at hconc

theorem Extends.inv (h : Extends db db') (inv : Inv db.backfill) : Inv db'.backfill := by
  have hinv := inv.elsewhere (h.admits inv)
  rw [← h.runs, ← h.leases, ← h.scopes] at hinv
  exact hinv

theorem Extends.gap (h : Extends db db') {gap : GapRow} (hgap : gap ∈ db.gaps) :
    ∃ gap' ∈ db'.gaps, gap'.standing = gap.standing ∧
      gap'.connectionEpochId = gap.connectionEpochId := by
  obtain ⟨change, new, hgaps, hchg, -⟩ := h.gaps
  refine ⟨change gap, ?_, hchg gap⟩
  rw [hgaps]
  exact List.mem_append_left _ (List.mem_map_of_mem hgap)

theorem Extends.hasBoundary (h : Extends db db') {conversation : ℕ}
    (hbd : hasBoundary gapId conversation db = true) :
    hasBoundary gapId conversation db' = true := by
  obtain ⟨row, hrow, hcond⟩ := List.any_eq_true.mp hbd
  exact List.any_eq_true.mpr ⟨row, h.boundaries hrow, hcond⟩

theorem Extends.awaits (h : Extends db db') {gap gap' : GapRow} (hsame : gap'.standing = gap.standing)
    (hawa : awaits gap db = true) : awaits gap' db' = true := by
  obtain ⟨hid, hstat⟩ := Prod.mk.inj hsame
  unfold Continuity.awaits isSuspended at hawa ⊢
  rw [hid, hstat, h.schedule]
  exact hawa

end Connections

/-! ## The gap of an epoch -/

section Gaps

variable {db db' : ContinuityDb} {accountId : ℕ} {epochId gapId : String} {now : DateTime}
  {found : Option String}

theorem insertGapIfAbsent_cases (accountId : ℕ) (epochId gapId : String) (now : DateTime)
    (db : ContinuityDb) :
    (insertGapIfAbsent accountId epochId gapId now db = (false, db) ∧
      ∃ gap ∈ db.gaps, gap.gapId = gapId ∨ gap.connectionEpochId = epochId) ∨
    (insertGapIfAbsent accountId epochId gapId now db =
      (true, { db with backfill := { db.backfill with
        gaps := db.gaps ++ [newGap accountId epochId gapId now] } }) ∧
      ∀ gap ∈ db.gaps, gap.gapId ≠ gapId ∧ gap.connectionEpochId ≠ epochId) := by
  unfold insertGapIfAbsent
  dsimp only
  split
  · next hany =>
    obtain ⟨gap, hgap, hsame⟩ := List.any_eq_true.mp hany
    refine .inl ⟨rfl, gap, hgap, ?_⟩
    rw [sameGapKey, Bool.or_eq_true] at hsame
    exact hsame.imp (fun h => (of_decide_eq_true h).symm) fun h => (of_decide_eq_true h).symm
  · next hany =>
    refine .inr ⟨rfl, fun gap hgap => ⟨fun h => hany ?_, fun h => hany ?_⟩⟩
    · exact List.any_eq_true.mpr ⟨gap, hgap, by simp [sameGapKey, newGap, h]⟩
    · exact List.any_eq_true.mpr ⟨gap, hgap, by simp [sameGapKey, newGap, h]⟩

theorem gapForEpoch_ok (h : db.gapForEpoch epochId = .ok found) :
    (found = none ∧ ∀ gap ∈ db.gaps, gap.connectionEpochId ≠ epochId) ∨
      ∃ gap ∈ db.gaps, gap.connectionEpochId = epochId ∧ found = some gap.gapId := by
  unfold ContinuityDb.gapForEpoch at h
  split at h
  · next hnone =>
    cases h
    refine .inl ⟨rfl, fun gap hgap hep => ?_⟩
    exact List.find?_eq_none.mp hnone gap hgap (decide_eq_true hep)
  · next gap hfind =>
    cases hid : requireIdentity "ingestion_gap_id" gap.gapId with
    | error error =>
      rw [hid] at h
      cases h
    | ok _ =>
      rw [hid] at h
      cases h
      have hcond := List.find?_some hfind
      exact .inr ⟨gap, List.mem_of_find?_eq_some hfind, of_decide_eq_true hcond, rfl⟩

/-- What `ensureGap` leaves: the gap that was there, or a new one with its boundaries. -/
inductive EnsuredGap (accountId : ℕ) (epochId gapId : String) (now : DateTime) (db : ContinuityDb) :
    Option String → ContinuityDb → Prop where
  | present {gap : GapRow} (mem : gap ∈ db.gaps) (epoch : gap.connectionEpochId = epochId) :
      EnsuredGap accountId epochId gapId now db (some gap.gapId) db
  | created (fresh : ∀ gap ∈ db.gaps, gap.gapId ≠ gapId ∧ gap.connectionEpochId ≠ epochId) :
      EnsuredGap accountId epochId gapId now db (some gapId)
        { db with
          backfill := { db.backfill with gaps := db.gaps ++ [newGap accountId epochId gapId now] }
          boundaries := insertIgnore BoundaryRow.conflicts db.boundaries
            (cursorBoundaries gapId accountId db) }
  | taken (same : ∃ gap ∈ db.gaps, gap.gapId = gapId) :
      EnsuredGap accountId epochId gapId now db none db

theorem ensureGap_ok (h : ensureGap accountId epochId gapId now db = .ok (found, db')) :
    EnsuredGap accountId epochId gapId now db found db' := by
  unfold ensureGap at h
  obtain ⟨hins, other, hoth, hsame⟩ | ⟨hins, hfr⟩ :=
    insertGapIfAbsent_cases accountId epochId gapId now db
  · rw [hins] at h
    obtain ⟨gap, hgap, h⟩ := bind_ok h
    obtain ⟨rfl, hnone⟩ | ⟨present, hpres, hep, rfl⟩ := gapForEpoch_ok hgap
    · cases h
      exact .taken ⟨other, hoth, hsame.resolve_right (hnone other hoth)⟩
    · cases h
      exact .present hpres hep
  · rw [hins] at h
    obtain ⟨gap, hgap, h⟩ := bind_ok h
    obtain ⟨-, hnone⟩ | ⟨present, hpres, hep, rfl⟩ := gapForEpoch_ok hgap
    · exact absurd rfl (hnone _ List.mem_concat_self)
    · obtain hold | hnew := List.mem_append.mp hpres
      · exact absurd hep (hfr present hold).2
      · obtain rfl := List.mem_singleton.mp hnew
        cases h
        exact .created hfr

theorem EnsuredGap.extends (h : EnsuredGap accountId epochId gapId now db found db') :
    Extends db db' := by
  cases h with
  | present => exact .refl db
  | taken => exact .refl db
  | created hfr =>
    exact {
      runs := rfl
      leases := rfl
      scopes := rfl
      schedule := rfl
      gaps := by
        refine ⟨id, some (newGap accountId epochId gapId now), ?_, fun _ => ⟨rfl, rfl⟩, ?_⟩
        · rw [List.map_id]
          rfl
        · intro gap hgap
          obtain rfl := Option.some.inj hgap
          exact ⟨rfl, hfr⟩
      boundaries := subset_insertIgnore }

end Gaps

/-! ## Tables that agree -/

/-- The keys of the tables, and what links them. -/
structure Coherent (db : ContinuityDb) : Prop where
  inv : Inv db.backfill
  epochs : (db.gaps.map GapRow.connectionEpochId).Nodup
  scheduled : ∀ row ∈ db.backfill.schedule, ∃ gap ∈ db.gaps, gap.gapId = row.gapId

theorem Extends.coherent {db db' : ContinuityDb} (h : Extends db db') (hcoh : Coherent db) :
    Coherent db' where
  inv := h.inv hcoh.inv
  epochs := by
    obtain ⟨change, new, hgaps, hchg, hnew⟩ := h.gaps
    have hsame : (db.gaps.map change).map GapRow.connectionEpochId =
        db.gaps.map GapRow.connectionEpochId := by
      rw [List.map_map]
      exact List.map_congr_left fun gap _ => (hchg gap).2
    rw [hgaps, List.map_append, hsame]
    cases new with
    | none =>
      rw [Option.toList_none, List.map_nil, List.append_nil]
      exact hcoh.epochs
    | some gap =>
      have hconc := nodup_map_concat hcoh.epochs
        fun other hoth => ((hnew gap rfl).2 other hoth).2
      rwa [List.map_append] at hconc
  scheduled := by
    rw [h.schedule]
    intro row hrow
    obtain ⟨gap, hgap, hid⟩ := hcoh.scheduled row hrow
    obtain ⟨gap', hgap', hsame, -⟩ := h.gap hgap
    exact ⟨gap', hgap', (Prod.mk.inj hsame).1.trans hid⟩

/-! ## The calls of a connection -/

section Calls

variable {db db' : ContinuityDb} {epochId gapId : String} {now : DateTime}

theorem extends_updateEpoch {set : EpochRow → EpochRow} : Extends db (updateEpoch epochId set db) :=
  .same rfl rfl rfl rfl rfl fun _ h => h

theorem commit_extends {α : Type} {result : Except InboundEventStoreError (α × ContinuityDb)}
    (h : ∀ a db', result = .ok (a, db') → Extends db db') : Extends db (db.commit result) := by
  cases result with
  | error error => exact .refl db
  | ok result => exact h result.1 result.2 rfl

variable {account : SourceAccountRef} {newAccountId : ℕ} {epochs : List EpochRow}
  {found : Option String} {gap : String} {claimed : Bool}

theorem extends_ensureAccountRef : Extends db (ensureAccountRef account newAccountId db).2 := by
  unfold ensureAccountRef
  split
  · exact .refl db
  · exact .same rfl rfl rfl rfl rfl fun _ h => h

theorem beginConnection_extends
    (h : beginConnection account newAccountId epochId db = .ok ((), db')) : Extends db db' := by
  unfold beginConnection at h
  dsimp only at h
  split at h
  · cases h
  · cases h
    exact extends_ensureAccountRef.trans_same rfl rfl rfl rfl rfl fun _ h => h

theorem markConnectionConnected_extends
    (h : markConnectionConnected epochId now db = .ok ((), db')) : Extends db db' := by
  unfold markConnectionConnected at h
  obtain ⟨epoch, -, h⟩ := bind_ok h
  split at h
  · cases h
  · cases h
    exact {
      runs := rfl
      leases := rfl
      scopes := rfl
      schedule := rfl
      gaps := by
        refine ⟨fun gap => if gap.accountId = epoch.accountId && gap.gapEndedAt.isNone then
          { gap with gapEndedAt := some now, updatedAt := now } else gap, none, ?_, ?_, ?_⟩
        · rw [Option.toList_none, List.append_nil]
          rfl
        · intro gap
          dsimp only
          split <;> exact ⟨rfl, rfl⟩
        · exact fun _ h => by cases h
      boundaries := fun _ h => h }

/-- The epochs change, and nothing that a gap depends on. -/
theorem extends_epochs : Extends db { db with epochs } :=
  .same rfl rfl rfl rfl rfl fun _ h => h

/-- An epoch that was open ends, and if it was connected its gap is ensured. -/
theorem finishConnection_ok {reason : ConnectionEndReason}
    (h : finishConnection epochId reason gapId now db = .ok (found, db')) :
    ∃ epoch, db.findEpoch epochId = .ok epoch ∧ ((epoch.endedAt.isSome = true ∧ db' = db) ∨
      ∃ epochs, epoch.endedAt.isSome = false ∧
        ((epoch.connectedAt = none ∧ db' = { db with epochs }) ∨ epoch.connectedAt.isSome = true ∧
          EnsuredGap epoch.accountId epochId gapId now { db with epochs } found db')) := by
  unfold finishConnection at h
  obtain ⟨epoch, hep, h⟩ := bind_ok h
  refine ⟨epoch, hep, ?_⟩
  split at h
  · next hend =>
    obtain ⟨gap, -, h⟩ := bind_ok h
    cases h
    exact .inl ⟨hend, rfl⟩
  · next hopen =>
    dsimp only at h
    split at h
    · next hnever =>
      cases h
      exact .inr ⟨_, Bool.eq_false_iff.mpr hopen, .inl ⟨Option.isNone_iff_eq_none.mp hnever, rfl⟩⟩
    · next hcon =>
      rw [Option.isNone_iff_eq_none, ← ne_eq, Option.ne_none_iff_isSome] at hcon
      exact .inr ⟨_, Bool.eq_false_iff.mpr hopen, .inr ⟨hcon, ensureGap_ok h⟩⟩

theorem requireGap_ok (h : requireGap found = .ok gap) : found = some gap := by
  cases found with
  | none => cases h
  | some present =>
    cases h
    rfl

theorem verifyClaim_ok {epoch : EpochRow} (h : verifyClaim epochId claimed db = .ok epoch) :
    epoch.connectionEpochId = epochId := by
  unfold verifyClaim at h
  split at h
  · next found hfind =>
    split at h
    · cases h
      have hcond := List.find?_some hfind
      rw [Bool.and_eq_true] at hcond
      exact of_decide_eq_true hcond.1
    · cases h
  · cases h

theorem finalizeRecovered_ok
    (h : finalizeRecoveredConnectedEpoch epochId claimed gapId now db = .ok (gap, db')) :
    ∃ epoch, verifyClaim epochId claimed db = .ok epoch ∧ ∃ epochs,
      EnsuredGap epoch.accountId epochId gapId now { db with epochs } (some gap) db' := by
  unfold finalizeRecoveredConnectedEpoch at h
  obtain ⟨epoch, hep, h⟩ := bind_ok h
  refine ⟨epoch, hep, ?_⟩
  split at h
  · cases h
  · obtain ⟨⟨found, ensured⟩, hens, h⟩ := bind_ok h
    obtain ⟨present, hpres, h⟩ := bind_ok h
    cases h
    rw [← requireGap_ok hpres]
    exact ⟨_, ensureGap_ok hens⟩

theorem finishLegacyConnecting_extends
    (h : finishLegacyConnectingWithoutFrames epochId claimed now db = .ok ((), db')) :
    Extends db db' := by
  unfold finishLegacyConnectingWithoutFrames at h
  obtain ⟨epoch, -, h⟩ := bind_ok h
  split at h
  · cases h
  · cases h
    exact extends_updateEpoch

theorem connectedEpoch_ok {epoch : EpochRow} (h : connectedEpoch epochId db = .ok epoch) :
    epoch.connectionEpochId = epochId := by
  unfold connectedEpoch at h
  split at h
  · next found hfind =>
    cases h
    have hcond := List.find?_some hfind
    rw [Bool.and_eq_true] at hcond
    exact of_decide_eq_true hcond.1
  · cases h

/-- The gap of the epoch is ensured; for a conversation its scope is recorded. -/
theorem markConnectionUncertain_ok {reason : IngestionGapReason}
    {conversation : Option ConversationRef} {newConversationId : ℕ}
    (h : markConnectionUncertain epochId reason conversation gapId newConversationId now db =
      .ok (gap, db')) :
    ∃ epoch ensured, connectedEpoch epochId db = .ok epoch ∧
      EnsuredGap epoch.accountId epochId gapId now db (some gap) ensured ∧
        ((conversation = none ∧ db' = ensured) ∨ ∃ signal, conversation = some signal ∧
          db' = recordSignal gap epoch.accountId
            (ensureConversationRef epoch.accountId signal newConversationId ensured).1 signal
            (ensureConversationRef epoch.accountId signal newConversationId ensured).2) := by
  unfold markConnectionUncertain at h
  obtain ⟨-, h⟩ := and_then_eq_ok.mp h
  obtain ⟨epoch, hep, h⟩ := bind_ok h
  obtain ⟨⟨found, ensured⟩, hens, h⟩ := bind_ok h
  obtain ⟨present, hpres, h⟩ := bind_ok h
  have hgap := ensureGap_ok hens
  rw [requireGap_ok hpres] at hgap
  cases conversation with
  | none =>
    cases h
    exact ⟨epoch, _, hep, hgap, .inl ⟨rfl, rfl⟩⟩
  | some signal =>
    obtain ⟨hsame, hdb⟩ := Prod.mk.inj (Except.ok.inj h)
    rw [hsame] at hgap hdb
    exact ⟨epoch, ensured, hep, hgap, .inr ⟨signal, rfl, hdb.symm⟩⟩

/-- The scope of a signal is recorded beside the gaps. -/
theorem extends_signal (db : ContinuityDb) (gapId : String) (accountId newConversationId : ℕ)
    (conversation : ConversationRef) :
    Extends db (recordSignal gapId accountId
      (ensureConversationRef accountId conversation newConversationId db).1 conversation
      (ensureConversationRef accountId conversation newConversationId db).2) ∧
    (recordSignal gapId accountId
      (ensureConversationRef accountId conversation newConversationId db).1 conversation
      (ensureConversationRef accountId conversation newConversationId db).2).gaps = db.gaps := by
  unfold ensureConversationRef
  split
  · exact ⟨.same rfl rfl rfl rfl rfl subset_insertIgnore, rfl⟩
  · exact ⟨.same rfl rfl rfl rfl rfl subset_insertIgnore, rfl⟩

theorem Extends.trans_gaps (h : Extends db db') {db'' : ContinuityDb} (h' : Extends db' db'')
    (hgaps : db''.gaps = db'.gaps) : Extends db db'' :=
  h.trans_same hgaps h'.runs h'.leases h'.scopes h'.schedule h'.boundaries

theorem EnsuredGap.extends_epochs {accountId : ℕ}
    (h : EnsuredGap accountId epochId gapId now { db with epochs } found db') : Extends db db' := by
  obtain ⟨hruns, hleas, hscs, hsched, hgaps, hbds⟩ := h.extends
  exact ⟨hruns, hleas, hscs, hsched, hgaps, hbds⟩

/-- Every call but those of the backfill workers extends the gaps. -/
theorem step_extends {call : ContinuityCall} (hcall : ∀ worker ofWorker, call ≠ .worker worker ofWorker) :
    Extends db (db.step call) := by
  cases call with
  | beginConnection account newAccountId epochId =>
    exact commit_extends fun _ _ h => beginConnection_extends h
  | markConnectionConnected epochId now =>
    exact commit_extends fun _ _ h => markConnectionConnected_extends h
  | finishConnection epochId reason gapId now =>
    refine commit_extends fun found db' h => ?_
    obtain ⟨epoch, -, ⟨-, rfl⟩ | ⟨epochs, -, ⟨-, rfl⟩ | ⟨-, hens⟩⟩⟩ := finishConnection_ok h
    · exact .refl _
    · exact extends_epochs
    · exact hens.extends_epochs
  | markConnectionUncertain epochId reason conversation gapId newConversationId now =>
    refine commit_extends fun gap db' h => ?_
    obtain ⟨epoch, ensured, -, hens, ⟨-, rfl⟩ | ⟨signal, -, rfl⟩⟩ := markConnectionUncertain_ok h
    · exact hens.extends
    · exact hens.extends.trans_gaps (extends_signal ..).1 (extends_signal ..).2
  | finalizeRecoveredConnectedEpoch epochId claimed gapId now =>
    refine commit_extends fun gap db' h => ?_
    obtain ⟨epoch, -, epochs, hens⟩ := finalizeRecovered_ok h
    exact hens.extends_epochs
  | finishLegacyConnectingWithoutFrames epochId claimed now =>
    exact commit_extends fun _ _ h => finishLegacyConnecting_extends h
  | worker call ofWorker => exact absurd rfl (hcall call ofWorker)
  | ingest accounts conversations cursors =>
    exact .same rfl rfl rfl rfl rfl fun _ h => h

end Calls

/-! ## What is recorded has a gap -/

/-- A gap with the boundaries of the loss awaits a run. -/
def Awaited (db : ContinuityDb) (loss : Loss) : Prop :=
  ∃ gap ∈ db.gaps, gap.connectionEpochId = loss.epochId ∧
    (∀ conversation ∈ loss.conversations, hasBoundary gap.gapId conversation db = true) ∧
      awaits gap db = true

section Recorded

variable {db db' : ContinuityDb} {accountId : ℕ} {epochId gapId : String} {now : DateTime}
  {epochs : List EpochRow} {found : Option String}

/-- Nothing suspends a gap that has just been inserted. -/
theorem awaits_newGap (hcoh : Coherent db) (hfr : ∀ other ∈ db.gaps, other.gapId ≠ gapId)
    (hsched : db'.backfill.schedule = db.backfill.schedule) :
    awaits (newGap accountId epochId gapId now) db' = true := by
  have hfree : isSuspended gapId db' = false := by
    unfold isSuspended
    rw [hsched, List.any_eq_false]
    intro row hrow hsusp
    rw [Bool.and_eq_true] at hsusp
    obtain ⟨other, hoth, hid⟩ := hcoh.scheduled row hrow
    exact hfr other hoth (hid.trans (of_decide_eq_true hsusp.1))
  unfold awaits
  show (false || (true && !isSuspended gapId db')) = true
  rw [hfree]
  rfl

theorem BoundaryRow.conflicts_self (row : BoundaryRow) : row.conflicts row = true := by
  simp [BoundaryRow.conflicts]

variable {boundaries : List BoundaryRow} {conversation : ConversationRef}

/-- A boundary that is inserted is there, or another of the same conversation. -/
theorem hasBoundary_of_inserted {row : BoundaryRow} {new : List BoundaryRow} (hrow : row ∈ new)
    (hbds : db.boundaries = insertIgnore BoundaryRow.conflicts boundaries new) :
    hasBoundary row.gapId row.conversationId db = true := by
  have hany : (insertIgnore BoundaryRow.conflicts boundaries new).any row.conflicts = true :=
    any_insertIgnore BoundaryRow.conflicts_self hrow
  obtain ⟨kept, hkept, hsame⟩ := List.any_eq_true.mp hany
  unfold BoundaryRow.conflicts at hsame
  rw [Bool.and_eq_true] at hsame
  unfold hasBoundary
  rw [hbds]
  refine List.any_eq_true.mpr ⟨kept, hkept, ?_⟩
  rw [Bool.and_eq_true]
  exact ⟨decide_eq_true (of_decide_eq_true hsame.1).symm,
    decide_eq_true (of_decide_eq_true hsame.2).symm⟩

theorem hasBoundary_recordSignal {conversationId : ℕ} :
    hasBoundary gapId conversationId (recordSignal gapId accountId conversationId conversation db) =
      true := by
  have hrow : (⟨gapId, accountId, conversationId, conversation, NO_PRIOR_CURSOR_BOUNDARY, 0⟩ :
      BoundaryRow) ∈ [(⟨gapId, accountId, conversationId, conversation, NO_PRIOR_CURSOR_BOUNDARY, 0⟩ :
        BoundaryRow)] := List.mem_singleton_self _
  exact hasBoundary_of_inserted hrow rfl

theorem hasBoundary_of_snapshot {conversation : ℕ}
    (hconv : conversation ∈ cursorConversations accountId db) (hbds : db'.boundaries =
      insertIgnore BoundaryRow.conflicts boundaries (cursorBoundaries gapId accountId db)) :
    hasBoundary gapId conversation db' = true := by
  obtain ⟨row, hrow, rfl⟩ := List.mem_map.mp hconv
  obtain ⟨cursor, hcurs, hmapped⟩ := List.mem_filterMap.mp hrow
  obtain ⟨known, hkn, rfl⟩ := Option.map_eq_some_iff.mp hmapped
  have hnew : (⟨gapId, cursor.accountId, cursor.conversationId, known.conversation,
      cursor.lastPlatformEventId, cursor.lastOccurredAtUnixSecs⟩ : BoundaryRow) ∈
        cursorBoundaries gapId accountId db :=
    List.mem_filterMap.mpr ⟨cursor, hcurs, by rw [hkn]; rfl⟩
  exact hasBoundary_of_inserted hnew hbds

/-- The gap that is ensured awaits a run, and has the boundaries of the account if it is new. -/
theorem EnsuredGap.awaited (hcoh : Coherent db) (hfr : ∀ other ∈ db.gaps, other.gapId ≠ gapId)
    (hrdy : ∀ other ∈ db.gaps, other.connectionEpochId = epochId → awaits other db = true)
    (h : EnsuredGap accountId epochId gapId now { db with epochs } found db') :
    ∃ row ∈ db'.gaps, row.connectionEpochId = epochId ∧ found = some row.gapId ∧
      awaits row db' = true ∧ (row ∈ db.gaps ∨ ∀ conversation ∈ cursorConversations accountId db,
        hasBoundary row.gapId conversation db' = true) := by
  cases h with
  | present hmem hep => exact ⟨_, hmem, hep, rfl, hrdy _ hmem hep, .inl hmem⟩
  | created hnew =>
    refine ⟨newGap accountId epochId gapId now, List.mem_concat_self, rfl, rfl,
      awaits_newGap hcoh hfr rfl, .inr fun conversation hconv => ?_⟩
    exact hasBoundary_of_snapshot hconv rfl
  | taken same =>
    obtain ⟨other, hoth, hid⟩ := same
    exact absurd hid (hfr other hoth)

theorem EnsuredGap.awaited_account (hcoh : Coherent db)
    (hfr : ∀ other ∈ db.gaps, other.gapId ≠ gapId) {epoch : EpochRow}
    (hep : epoch.connectionEpochId = epochId)
    (hrdy : ∀ other ∈ db.gaps, other.connectionEpochId = (accountLoss epoch db).epochId →
      awaits other db = true ∧ ((accountLoss epoch db).accountWide = true →
        ∀ conversation ∈ (accountLoss epoch db).conversations,
          hasBoundary other.gapId conversation db = true))
    (h : EnsuredGap epoch.accountId epochId gapId now { db with epochs } found db') :
    Awaited db' (accountLoss epoch db) := by
  subst hep
  obtain ⟨row, hrow, hof, -, hawa, hold⟩ :=
    h.awaited hcoh hfr fun other hoth hof => (hrdy other hoth hof).1
  refine ⟨row, hrow, hof, ?_, hawa⟩
  obtain hmem | hnew := hold
  · intro conversation hconv
    exact h.extends_epochs.hasBoundary ((hrdy row hmem hof).2 rfl conversation hconv)
  · exact hnew

theorem EnsuredGap.conversations (h : EnsuredGap accountId epochId gapId now db found db') :
    db'.backfill.conversations = db.backfill.conversations := by
  cases h <;> rfl

theorem ensureConversationRef_fst {newConversationId : ℕ}
    (h : db'.backfill.conversations = db.backfill.conversations) :
    (ensureConversationRef accountId conversation newConversationId db').1 =
      (ensureConversationRef accountId conversation newConversationId db).1 := by
  unfold ensureConversationRef
  rw [h]
  split <;> rfl

theorem findEpoch_ok {epoch : EpochRow} (h : db.findEpoch epochId = .ok epoch) :
    epoch.connectionEpochId = epochId := by
  unfold ContinuityDb.findEpoch at h
  split at h
  · next found hfind =>
    cases h
    have hcond := List.find?_some hfind
    exact of_decide_eq_true hcond
  · cases h

theorem commit_of_ok {α : Type} {result : Except InboundEventStoreError (α × ContinuityDb)} {a : α}
    (h : result = .ok (a, db')) : db.commit result = db' := by
  rw [h]
  rfl

variable {world : Ledger} {call : ContinuityCall} {loss : Loss}

/-- What a call records has a gap behind it that awaits a run. -/
theorem recorded_awaited (hcoh : Coherent world.db) (hdrawn : Drawn world.db call)
    (hmeets : Meets world call) (hloss : loss ∈ recordedLosses world.left world.db call) :
    Awaited (world.db.step call) loss := by
  have hrdy := hmeets.ready loss hloss
  cases call with
  | beginConnection account newAccountId epochId =>
    obtain ⟨gap, hgap, hof⟩ := hmeets.recovered account newAccountId epochId rfl loss hloss
    have hext : Extends world.db (world.db.step (.beginConnection account newAccountId epochId)) :=
      step_extends fun _ _ h => by cases h
    obtain ⟨gap', hgap', hsame, hof'⟩ := hext.gap hgap
    obtain ⟨hawa, hbds⟩ := hrdy gap hgap hof
    have hwide : loss.accountWide = true := by
      simp only [recordedLosses] at hloss
      split at hloss
      · obtain ⟨epoch, -, rfl⟩ := List.mem_map.mp hloss
        rfl
      · cases hloss
    refine ⟨gap', hgap', hof'.trans hof, fun conversation hconv => ?_,
      hext.awaits hsame hawa⟩
    rw [(Prod.mk.inj hsame).1]
    exact hext.hasBoundary (hbds hwide conversation hconv)
  | finishConnection epochId reason gapId now =>
    simp only [recordedLosses] at hloss
    split at hloss
    · cases hloss
    · next epoch hep =>
      split at hloss
      · next hcond =>
        obtain rfl := List.mem_singleton.mp hloss
        rw [Bool.and_eq_true, Bool.and_eq_true] at hcond
        obtain ⟨⟨found, db'⟩, hok⟩ := Except.eq_ok_of_isOk hcond.2
        show Awaited (world.db.commit _) _
        rw [commit_of_ok hok]
        obtain ⟨epoch', hep', hways⟩ := finishConnection_ok hok
        obtain rfl := Except.ok.inj (hep.symm.trans hep')
        obtain ⟨hend, -⟩ | ⟨epochs, -, ⟨hnever, -⟩ | ⟨-, hens⟩⟩ := hways
        · rw [← Option.not_isNone, hcond.1.1] at hend
          cases hend
        · rw [hnever] at hcond
          cases hcond.1.2
        · exact hens.awaited_account hcoh (hdrawn.fresh gapId rfl) (findEpoch_ok hep) hrdy
      · cases hloss
  | markConnectionUncertain epochId reason conversation gapId newConversationId now =>
    simp only [recordedLosses] at hloss
    split at hloss
    · cases hloss
    · next epoch hep =>
      split at hloss
      · next hcond =>
        obtain ⟨⟨gap, db'⟩, hok⟩ := Except.eq_ok_of_isOk hcond
        show Awaited (world.db.commit _) _
        rw [commit_of_ok hok]
        obtain ⟨epoch', ensured, hep', hens, hways⟩ := markConnectionUncertain_ok hok
        obtain rfl := Except.ok.inj (hep.symm.trans hep')
        have hfr := hdrawn.fresh gapId rfl
        have hhere : EnsuredGap epoch.accountId epochId gapId now
            { world.db with epochs := world.db.epochs } (some gap) ensured := hens
        obtain ⟨rfl, rfl⟩ | ⟨signal, rfl, rfl⟩ := hways
        · obtain rfl := List.mem_singleton.mp hloss
          exact hhere.awaited_account hcoh hfr (connectedEpoch_ok hep) hrdy
        · obtain rfl := List.mem_singleton.mp hloss
          have hof := connectedEpoch_ok hep
          obtain ⟨row, hrow, hrowEpoch, hfnd, hawa, -⟩ :=
            hhere.awaited hcoh hfr
              fun other hoth hoth' => (hrdy other hoth (hoth'.trans hof.symm)).1
          obtain rfl := Option.some.inj hfnd
          obtain ⟨hext, hgaps⟩ :=
            extends_signal ensured row.gapId epoch.accountId newConversationId signal
          refine ⟨row, hgaps ▸ hrow, hrowEpoch.trans hof.symm, ?_, hext.awaits rfl hawa⟩
          intro conversation hconv
          obtain rfl := List.mem_singleton.mp hconv
          rw [← ensureConversationRef_fst hens.conversations]
          exact hasBoundary_recordSignal
      · cases hloss
  | finalizeRecoveredConnectedEpoch epochId claimed gapId now =>
    simp only [recordedLosses] at hloss
    split at hloss
    · cases hloss
    · next epoch hep =>
      split at hloss
      · next hcond =>
        obtain rfl := List.mem_singleton.mp hloss
        obtain ⟨⟨gap, db'⟩, hok⟩ := Except.eq_ok_of_isOk hcond
        show Awaited (world.db.commit _) _
        rw [commit_of_ok hok]
        obtain ⟨epoch', hep', epochs, hens⟩ := finalizeRecovered_ok hok
        obtain rfl := Except.ok.inj (hep.symm.trans hep')
        exact hens.awaited_account hcoh (hdrawn.fresh gapId rfl) (verifyClaim_ok hep) hrdy
      · cases hloss
  | _ => cases hloss

end Recorded

end ServerRS.Continuity

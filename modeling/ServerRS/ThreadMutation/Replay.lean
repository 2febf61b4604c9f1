import ServerRS.ThreadMutation.Execution

/-!
# Replaying an approved thread mutation

`CanApply` says when an execution of an approved action goes through. One that does leaves the
proposal applied, and `authorize_resume` refuses an applied proposal: the branch of `apply_effect`
that answers a replay is never reached (`execution_refused`). A replay is answered as the effect
promises exactly where nothing is applied at all (`replays_iff`).
-/

namespace ServerRS.ThreadMutation

open Lib

/-! ## When an execution goes through -/

/-- The proposal is new, or waits for this approval, or has it. -/
def Ready (approved : ApprovedAction) (accountId : ℕ) (impact : ThreadMutationImpact)
    (db : MutationDb) : Prop :=
  ∀ row, db.proposalOf approved.proposalId = some row →
    Identifies row accountId impact ∧ row.effectId = none ∧
      (row.proposalStatus = .awaitingApproval ∨ row.proposalStatus = .approved ∧
        row.decision = some .approve ∧
          row.commandSourceEventId = some approved.commandSourceEventId)

structure Executable (approved : ApprovedAction) (db : MutationDb) (impact : ThreadMutationImpact)
    (accountId : ℕ) : Prop where
  built : ∃ request, impactRequest approved = .ok request ∧ buildImpact request db = .ok impact
  checked : checkProposal impact db = .ok accountId
  commanded : db.commands approved.commandSourceEventId accountId = true
  ready : Ready approved accountId impact db
  effectId : EffectIdFree approved.effectId db
  vacant : Vacant impact db

def CanApply (approved : ApprovedAction) (db : MutationDb) : Prop :=
  ∃ impact accountId, Executable approved db impact accountId

/-- What `persist_proposal` and `authorize_resume` may do: the proposal is added, or one that waits is
decided. -/
structure Grown (proposalId : String) (db after : MutationDb) : Prop where
  rest : ∃ proposals, after = { db with proposals }
  kept : ∀ row ∈ db.proposals, ∃ row' ∈ after.proposals, row'.effectId = row.effectId
  added : ∀ row' ∈ after.proposals, row'.effectId = none ∨
    ∃ row ∈ db.proposals, row.effectId = row'.effectId
  row : ∀ row, db.proposalOf proposalId = some row → ∃ row',
    after.proposalOf proposalId = some row' ∧ row'.accountId = row.accountId ∧
      row'.mutationKind = row.mutationKind ∧ row'.impact = row.impact ∧
        row'.effectId = row.effectId ∧ (row' = row ∨ row.proposalStatus = .awaitingApproval)

section

variable {approved : ApprovedAction} {db middle after : MutationDb} {proposalId : String}
  {impact : ThreadMutationImpact}

theorem Grown.refl (proposalId : String) (db : MutationDb) : Grown proposalId db db where
  rest := ⟨db.proposals, rfl⟩
  kept row hrow := ⟨row, hrow, rfl⟩
  added row hrow := .inr ⟨row, hrow, rfl⟩
  row row hrow := ⟨row, hrow, rfl, rfl, rfl, rfl, .inl rfl⟩

theorem Grown.trans (h : Grown proposalId db middle) (h' : Grown proposalId middle after) :
    Grown proposalId db after := by
  constructor
  case rest =>
    obtain ⟨proposals, rfl⟩ := h.rest
    obtain ⟨proposals', rfl⟩ := h'.rest
    exact ⟨proposals', rfl⟩
  case kept =>
    intro row hrow
    obtain ⟨row', hrow', hsame⟩ := h.kept row hrow
    obtain ⟨last, hlast, hsame'⟩ := h'.kept row' hrow'
    exact ⟨last, hlast, hsame'.trans hsame⟩
  case added =>
    intro last hlast
    obtain hnone | ⟨row', hrow', hsame'⟩ := h'.added last hlast
    · exact .inl hnone
    · obtain hnone | ⟨row, hrow, hsame⟩ := h.added row' hrow'
      · exact .inl (hsame'.symm.trans hnone)
      · exact .inr ⟨row, hrow, hsame.trans hsame'⟩
  case row =>
    intro row hrow
    obtain ⟨row', hrow', hacc, hkind, himp, heff, hchg⟩ := h.row row hrow
    obtain ⟨last, hlast, hacc', hkind', himp', heff', hchg'⟩ := h'.row row' hrow'
    refine ⟨last, hlast, hacc'.trans hacc, hkind'.trans hkind, himp'.trans himp,
      heff'.trans heff, ?_⟩
    rcases hchg with rfl | hawa
    · exact hchg'
    · exact .inr hawa

theorem persistProposal_grown (h : persistProposal impact db = .ok ((), after)) :
    Grown impact.proposalId db after := by
  obtain ⟨accountId, -, ⟨hnone, rfl⟩ | ⟨row, -, -, rfl⟩⟩ := persistProposal_ok.mp h
  · constructor
    case rest => exact ⟨_, rfl⟩
    case kept => exact fun row hrow => ⟨row, List.mem_append_left _ hrow, rfl⟩
    case added =>
      intro row hrow
      rcases List.mem_append.mp hrow with hold | hnew
      · exact .inr ⟨row, hold, rfl⟩
      · rw [List.mem_singleton.mp hnew]
        exact .inl rfl
    case row =>
      intro row hrow
      rw [hnone] at hrow
      cases hrow
  · exact Grown.refl _ _

variable {status : ThreadMutationProposalStatus} {command : SourceEventId}

theorem authorizeResume_grown
    (h : authorizeResume proposalId .approve command db = .ok (status, after)) :
    Grown proposalId db after := by
  obtain ⟨row, hrow, -, -, ⟨-, -, -, rfl⟩ | ⟨hawa, rfl⟩⟩ := authorizeResume_ok.mp h
  · exact Grown.refl _ _
  · have heff : ∀ row : ProposalRow, (if isAwaiting proposalId row then approvedBy command row
        else row).effectId = row.effectId := by
      intro row
      split <;> rfl
    constructor
    case rest => exact ⟨_, rfl⟩
    case kept => exact fun row hrow => ⟨_, mem_updateWhere.mpr ⟨row, hrow, rfl⟩, heff row⟩
    case added =>
      intro row' hrow'
      obtain ⟨row, hrow, rfl⟩ := mem_updateWhere.mp hrow'
      exact .inr ⟨row, hrow, (heff row).symm⟩
    case row =>
      intro row' hrow'
      cases hrow.symm.trans hrow'
      refine ⟨approvedBy command row, ?_, rfl, rfl, rfl, rfl, .inr hawa⟩
      refine proposalOf_updateWhere (fun _ => rfl) hrow ?_
      simp [isAwaiting, hawa, (proposalOf_some hrow).2]

/-- The row of the proposal after it was approved. -/
theorem authorizeResume_row
    (h : authorizeResume proposalId .approve command db = .ok (status, after)) :
    ∃ row', after.proposalOf proposalId = some row' ∧ row'.proposalStatus = .approved := by
  obtain ⟨row, hrow, -, -, ⟨hstat, -, -, rfl⟩ | ⟨hawa, rfl⟩⟩ := authorizeResume_ok.mp h
  · exact ⟨row, hrow, hstat⟩
  · refine ⟨approvedBy command row, proposalOf_updateWhere (fun _ => rfl) hrow ?_, rfl⟩
    simp [isAwaiting, hawa, (proposalOf_some hrow).2]

/-- What an execution that goes no further leaves does not help a later one. -/
theorem canApply_of_grown (h : Grown approved.proposalId db after) (haft : CanApply approved after) :
    CanApply approved db := by
  obtain ⟨impact, accountId, hexec⟩ := haft
  refine ⟨impact, accountId, ?_⟩
  have heffs := h.kept
  have hrows := h.row
  obtain ⟨proposals, rfl⟩ := h.rest
  constructor
  case built => exact hexec.built
  case checked => exact hexec.checked
  case commanded => exact hexec.commanded
  case ready =>
    intro row hrow
    obtain ⟨row', hrow', hacc, hkind, himp, heff, hchg⟩ := hrows row hrow
    obtain ⟨hiden, hnone, hdec⟩ := hexec.ready row' hrow'
    rw [Identifies, hacc, hkind, himp] at hiden
    rw [heff] at hnone
    refine ⟨hiden, hnone, ?_⟩
    rcases hchg with rfl | hawa
    · exact hdec
    · exact .inl hawa
  case effectId =>
    refine ⟨hexec.effectId.1, fun row hrow hsame => ?_⟩
    obtain ⟨row', hrow', heff⟩ := heffs row hrow
    exact hexec.effectId.2 row' hrow' (heff.trans hsame)
  case vacant => exact hexec.vacant

end

/-! ## One execution -/

section

variable {approved : ApprovedAction} {db after : MutationDb}
  {receipt : ThreadMutationEffectReceipt} {error : ThreadMutationUseCaseError}

theorem commit_ok {α : Type} {transaction : Transaction α} {a : α} :
    commit transaction db = (.ok a, after) ↔ transaction db = .ok (a, after) := by
  unfold commit
  cases transaction db with
  | error error => simp
  | ok done => simp [Prod.ext_iff]

theorem commit_error {α : Type} {transaction : Transaction α}
    (h : commit transaction db = (.error error, after)) : after = db := by
  unfold commit at h
  split at h
  · cases h
  · cases h
    rfl

theorem build_ok {request : ThreadMutationImpactRequest} {impact : ThreadMutationImpact} :
    commit (fun db => (buildImpact request db).map fun impact => (impact, db)) db =
        (.ok impact, after) ↔ buildImpact request db = .ok impact ∧ db = after := by
  rw [commit_ok]
  cases buildImpact request db with
  | error error => simp [Except.map]
  | ok built => simp [Except.map]

/-- An execution that fails leaves a proposal at most. -/
theorem execution_error (h : applyApprovedAction approved db = (.error error, after)) :
    Grown approved.proposalId db after := by
  unfold applyApprovedAction at h
  obtain hstop | ⟨request, before, hmade, hrest1⟩ := Exec.bind_eq_error.mp h
  · obtain ⟨-, rfl⟩ := Exec.ofExcept_eq.mp hstop
    exact Grown.refl _ _
  obtain ⟨hreq, rfl⟩ := Exec.ofExcept_eq.mp hmade
  obtain hstop | ⟨impact, before, hread, hrest2⟩ := Exec.bind_eq_error.mp hrest1
  · rw [commit_error hstop]
    exact Grown.refl _ _
  obtain ⟨hbuild, rfl⟩ := build_ok.mp hread
  obtain hstop | ⟨⟨⟩, before, hval, hrest3⟩ := Exec.bind_eq_error.mp hrest2
  · obtain ⟨-, rfl⟩ := Exec.ofExcept_eq.mp hstop
    exact Grown.refl _ _
  obtain ⟨-, rfl⟩ := Exec.ofExcept_eq.mp hval
  obtain hstop | ⟨⟨⟩, persisted, hpers, hrest4⟩ := Exec.bind_eq_error.mp hrest3
  · rw [commit_error hstop]
    exact Grown.refl _ _
  have hid := (buildImpact_ok hbuild).2.trans (impactRequest_proposalId hreq)
  have hper := persistProposal_grown (commit_ok.mp hpers)
  rw [hid] at hper
  obtain hstop | ⟨status, authorized, hauth, hrest5⟩ := Exec.bind_eq_error.mp hrest4
  · rw [commit_error hstop]
    exact hper
  have haut := hper.trans (authorizeResume_grown (commit_ok.mp hauth))
  obtain hstop | ⟨⟨⟩, before, hstat, hrest6⟩ := Exec.bind_eq_error.mp hrest5
  · obtain ⟨-, rfl⟩ := Exec.ofExcept_eq.mp hstop
    exact haut
  obtain ⟨-, rfl⟩ := Exec.ofExcept_eq.mp hstat
  rw [commit_error hrest6]
  exact haut

/-- What an execution that goes through has found, and what it leaves. -/
theorem execution_ok (h : applyApprovedAction approved db = (.ok receipt, after)) :
    CanApply approved db ∧ receipt.changed = true ∧ ∃ row,
      after.proposalOf approved.proposalId = some row ∧ row.proposalStatus = .applied := by
  unfold applyApprovedAction at h
  obtain ⟨request, before, hmade, hrest1⟩ := Exec.bind_eq_ok.mp h
  obtain ⟨hreq, rfl⟩ := Exec.ofExcept_eq.mp hmade
  obtain ⟨impact, before, hread, hrest2⟩ := Exec.bind_eq_ok.mp hrest1
  obtain ⟨hbuild, rfl⟩ := build_ok.mp hread
  obtain ⟨⟨⟩, before, hval, hrest3⟩ := Exec.bind_eq_ok.mp hrest2
  obtain ⟨-, rfl⟩ := Exec.ofExcept_eq.mp hval
  obtain ⟨⟨⟩, persisted, hpers, hrest4⟩ := Exec.bind_eq_ok.mp hrest3
  obtain ⟨status, authorized, hauth, hrest5⟩ := Exec.bind_eq_ok.mp hrest4
  obtain ⟨⟨⟩, before, hstat, hrest6⟩ := Exec.bind_eq_ok.mp hrest5
  obtain ⟨-, rfl⟩ := Exec.ofExcept_eq.mp hstat
  have hid := (buildImpact_ok hbuild).2.trans (impactRequest_proposalId hreq)
  rw [commit_ok] at hpers hauth
  have hgrown := persistProposal_grown hpers
  rw [hid] at hgrown
  have hgrown' := hgrown.trans (authorizeResume_grown hauth)
  obtain ⟨accountId, stored, hchk, hstd, hiden, horig⟩ :=
    persistProposal_row hpers
  rw [hid] at hstd horig
  obtain ⟨row, hrow, hcmd, -, hdecis⟩ := authorizeResume_ok.mp hauth
  obtain rfl := Option.some.inj (hstd.symm.trans hrow)
  obtain ⟨last, hlast, happr⟩ := authorizeResume_row hauth
  obtain ⟨heff, hnone, hkind, ⟨claimed, overlaid, hove⟩, hchanged, happd⟩ :=
    applyEffect_result hlast happr (commit_ok.mp hrest6)
  obtain ⟨last', hlast', hacc', hkind', himp', heff', -⟩ :=
    (authorizeResume_grown hauth).row stored hstd
  cases hlast.symm.trans hlast'
  refine ⟨⟨impact, accountId, ?_⟩, hchanged, happd⟩
  have hkept := hgrown'.kept
  have hcommands : persisted.commands approved.commandSourceEventId =
      db.commands approved.commandSourceEventId := by
    obtain ⟨proposals, rfl⟩ := hgrown.rest
    rfl
  constructor
  case built => exact ⟨request, hreq, hbuild⟩
  case checked => exact hchk
  case commanded =>
    rw [← hcommands, ← hiden.1]
    exact hcmd
  case ready =>
    intro first hfst
    obtain horig | ⟨habsent, -⟩ := horig
    · cases horig.symm.trans hfst
      refine ⟨hiden, heff'.symm.trans hnone, ?_⟩
      obtain ⟨hstat, hdec, hcom, -⟩ | ⟨hawa, -⟩ := hdecis
      · exact .inr ⟨hstat, hdec, hcom⟩
      · exact .inl hawa
    · cases habsent.symm.trans hfst
  case effectId =>
    refine ⟨heff.1, fun other hoth hsame => ?_⟩
    obtain ⟨other', hoth', hsame'⟩ := hkept other hoth
    exact heff.2 other' hoth' (hsame'.trans hsame)
  case vacant =>
    have himp : last.impact = impact := himp'.trans hiden.2.2
    rw [himp] at hove
    obtain ⟨proposals, rfl⟩ := hgrown'.rest
    exact (@applyOverlay_ok { db with proposals := claimed } _ _ hchk).mp ⟨overlaid, hove⟩

theorem execution_total (h : CanApply approved db) :
    ∃ receipt after, applyApprovedAction approved db = (.ok receipt, after) := by
  obtain ⟨impact, accountId, hexec⟩ := h
  obtain ⟨request, hreq, hbuild⟩ := hexec.built
  obtain ⟨hval, hid⟩ := buildImpact_ok hbuild
  rw [impactRequest_proposalId hreq] at hid
  obtain ⟨persisted, hpers⟩ : ∃ persisted, persistProposal impact db = .ok ((), persisted) := by
    cases hrow : db.proposalOf approved.proposalId with
    | none =>
      refine ⟨_, persistProposal_ok.mpr ⟨accountId, hexec.checked, .inl ⟨?_, rfl⟩⟩⟩
      rw [hid, hrow]
    | some row =>
      refine ⟨db, persistProposal_ok.mpr ⟨accountId, hexec.checked, .inr ⟨row, ?_,
        (hexec.ready row hrow).1, rfl⟩⟩⟩
      rw [hid, hrow]
  have hgrown := persistProposal_grown hpers
  obtain ⟨accountId', stored, hchk, hstd, hiden, horig⟩ :=
    persistProposal_row hpers
  obtain rfl := Except.ok.inj (hexec.checked.symm.trans hchk)
  rw [hid] at hgrown hstd horig
  have hcom : persisted.commands approved.commandSourceEventId stored.accountId = true := by
    rw [hiden.1]
    obtain ⟨proposals, rfl⟩ := hgrown.rest
    exact hexec.commanded
  have hdec : stored.effectId = none ∧ (stored.proposalStatus = .awaitingApproval ∨
      stored.proposalStatus = .approved ∧ stored.decision = some .approve ∧
        stored.commandSourceEventId = some approved.commandSourceEventId) := by
    obtain hold | ⟨-, rfl⟩ := horig
    · exact (hexec.ready stored hold).2
    · exact ⟨rfl, .inl rfl⟩
  obtain ⟨authorized, hauth⟩ : ∃ authorized, authorizeResume approved.proposalId .approve
      approved.commandSourceEventId persisted = .ok (.approved, authorized) := by
    obtain hawa | ⟨hstat, hdecis, hcmd⟩ := hdec.2
    · exact ⟨_, authorizeResume_ok.mpr ⟨stored, hstd, hcom, rfl, .inr ⟨hawa, rfl⟩⟩⟩
    · exact ⟨persisted, authorizeResume_ok.mpr ⟨stored, hstd, hcom, rfl,
        .inl ⟨hstat, hdecis, hcmd, rfl⟩⟩⟩
  obtain ⟨last, hlast, hstat⟩ := authorizeResume_row hauth
  obtain ⟨last', hlast', -, hkind, himp, heff, -⟩ :=
    (authorizeResume_grown hauth).row stored hstd
  obtain rfl := Option.some.inj (hlast.symm.trans hlast')
  have hgrown' := hgrown.trans (authorizeResume_grown hauth)
  rw [hiden.2.2] at himp
  have hfree : EffectIdFree approved.effectId authorized := by
    refine ⟨hexec.effectId.1, fun row hrow hsame => ?_⟩
    obtain hnone | ⟨first, hfst, hsame'⟩ := hgrown'.added row hrow
    · cases hnone.symm.trans hsame
    · exact hexec.effectId.2 first hfst (hsame'.trans hsame)
  have hover : ∀ claimed, ∃ overlaid,
      applyOverlay last.impact { authorized with proposals := claimed } = .ok overlaid := by
    intro claimed
    obtain ⟨proposals, rfl⟩ := hgrown'.rest
    rw [himp]
    exact (@applyOverlay_ok { db with proposals := claimed } _ _ hexec.checked).mpr
      hexec.vacant
  obtain ⟨receipt, after, happ⟩ := applyEffect_total hlast hstat hfree
    (heff.trans hdec.1) (hkind.trans hiden.2.1) (by rw [himp]; exact hval) hover
  refine ⟨receipt, after, Exec.bind_eq_ok.mpr ⟨request, db, Exec.ofExcept_eq.mpr ⟨hreq, rfl⟩, ?_⟩⟩
  refine Exec.bind_eq_ok.mpr ⟨impact, db, build_ok.mpr ⟨hbuild, rfl⟩, ?_⟩
  refine Exec.bind_eq_ok.mpr ⟨(), db, Exec.ofExcept_eq.mpr ⟨Except.mapError_eq_ok.mpr hval, rfl⟩, ?_⟩
  refine Exec.bind_eq_ok.mpr ⟨(), persisted, commit_ok.mpr hpers, ?_⟩
  refine Exec.bind_eq_ok.mpr ⟨.approved, authorized, commit_ok.mpr hauth, ?_⟩
  exact Exec.bind_eq_ok.mpr ⟨(), authorized, rfl, commit_ok.mpr happ⟩

def MutationDb.overlay (db : MutationDb) :
    List EventThreadRow × List MergeAliasRow × List SplitOverrideRow :=
  (db.threads, db.mergeAliases, db.splitOverrides)

def IsApplied (proposalId : String) (db : MutationDb) : Prop :=
  ∃ row, db.proposalOf proposalId = some row ∧ row.proposalStatus = .applied

/-- `authorize_resume` refuses an applied proposal. -/
theorem not_canApply_of_applied (h : IsApplied approved.proposalId db) : ¬CanApply approved db := by
  rintro ⟨impact, accountId, hexec⟩
  obtain ⟨row, hrow, happd⟩ := h
  obtain ⟨-, -, hstat | ⟨hstat, -⟩⟩ := hexec.ready row hrow
  · cases happd.symm.trans hstat
  · cases happd.symm.trans hstat

/-- An execution that cannot go through fails, and so will the next. -/
theorem execution_refused (h : ¬CanApply approved db) : ∃ error after,
    applyApprovedAction approved db = (.error error, after) ∧ ¬CanApply approved after ∧
      after.overlay = db.overlay := by
  cases hrun : applyApprovedAction approved db with
  | mk outcome after =>
    cases outcome with
    | ok receipt => exact absurd (execution_ok hrun).1 h
    | error error =>
      have hgrown := execution_error hrun
      refine ⟨error, after, rfl, mt (canApply_of_grown hgrown) h, ?_⟩
      obtain ⟨proposals, rfl⟩ := hgrown.rest
      rfl

end

/-! ## Replays -/

/-- The tables after `n` executions. -/
def executed (approved : ApprovedAction) (db : MutationDb) : ℕ → MutationDb
  | 0 => db
  | n + 1 => (applyApprovedAction approved (executed approved db n)).2

/-- The answer of execution `n`, counted from zero. -/
def answer (approved : ApprovedAction) (db : MutationDb) (n : ℕ) :
    Except ThreadMutationUseCaseError ThreadMutationEffectReceipt :=
  (applyApprovedAction approved (executed approved db n)).1

/-- What the effect promises of `n + 1` executions. -/
structure Replays (approved : ApprovedAction) (db : MutationDb) (n : ℕ) : Prop where
  overlay : (executed approved db (n + 1)).overlay = (executed approved db 1).overlay
  first : ∀ (i : ℕ) (receipt : ThreadMutationEffectReceipt), i ≤ n →
    answer approved db i = .ok receipt →
      (∀ j < i, ∃ error, answer approved db j = .error error) → receipt.changed = true
  later : ∀ (i j : ℕ) (receipt : ThreadMutationEffectReceipt), i < j → j ≤ n →
    answer approved db i = .ok receipt → ∃ receipt',
      answer approved db j = .ok receipt' ∧ receipt'.changed = false

section

variable {approved : ApprovedAction} {db : MutationDb}

theorem executed_refused (h : ¬CanApply approved db) (n : ℕ) :
    ¬CanApply approved (executed approved db n) ∧
      (executed approved db n).overlay = db.overlay ∧
        ∃ error, answer approved db n = .error error := by
  induction n with
  | zero =>
    obtain ⟨error, after, hrun, -⟩ := execution_refused h
    refine ⟨h, rfl, error, ?_⟩
    rw [answer, executed, hrun]
  | succ n ih =>
    obtain ⟨hstuck, hover, -⟩ := ih
    obtain ⟨error, after, hrun, haft, hsame⟩ := execution_refused hstuck
    have hnext : executed approved db (n + 1) = after := by rw [executed, hrun]
    obtain ⟨error', after', hrun', -⟩ := execution_refused haft
    refine ⟨by rwa [hnext], by rw [hnext, hsame, hover], error', ?_⟩
    rw [answer, hnext, hrun']

/-- After the execution that goes through, the proposal is applied. -/
theorem executed_applied (h : CanApply approved db) :
    (∃ receipt, answer approved db 0 = .ok receipt) ∧
      IsApplied approved.proposalId (executed approved db 1) := by
  obtain ⟨receipt, after, hrun⟩ := execution_total h
  have hnext : executed approved db 1 = after := by rw [executed, executed, hrun]
  rw [hnext]
  refine ⟨⟨receipt, ?_⟩, (execution_ok hrun).2.2⟩
  rw [answer, executed, hrun]

theorem executed_shift (n : ℕ) : executed approved db (n + 1) =
    executed approved (executed approved db 1) n := by
  induction n with
  | zero => rfl
  | succ n ih =>
    show (applyApprovedAction approved (executed approved db (n + 1))).2 = _
    rw [ih]
    rfl

/-- No replay changes the overlay. -/
theorem executed_overlay (n : ℕ) :
    (executed approved db (n + 1)).overlay = (executed approved db 1).overlay := by
  by_cases h : CanApply approved db
  · rw [executed_shift]
    exact (executed_refused (not_canApply_of_applied (executed_applied h).2) n).2.1
  · rw [(executed_refused h (n + 1)).2.1, (executed_refused h 1).2.1]

end

/-- A replay is answered as the effect promises where there is none, or where nothing is applied. -/
theorem replays_iff (approved : ApprovedAction) (db : MutationDb) (n : ℕ) :
    Replays approved db n ↔ n = 0 ∨ ¬CanApply approved db := by
  constructor
  · intro h
    by_contra hboth
    rw [not_or, not_not] at hboth
    obtain ⟨hn, happ⟩ := hboth
    obtain ⟨⟨receipt, hfst⟩, happd⟩ := executed_applied happ
    obtain ⟨receipt', hsec, -⟩ := h.later 0 1 receipt Nat.zero_lt_one
      (Nat.one_le_iff_ne_zero.mpr hn) hfst
    -- the second execution finds the proposal applied
    obtain ⟨error, after, hrun, -⟩ := execution_refused (not_canApply_of_applied happd)
    rw [answer, hrun] at hsec
    cases hsec
  · intro h
    constructor
    case overlay => exact executed_overlay n
    case first =>
      intro i receipt _ hok _
      exact (execution_ok (Prod.ext hok rfl)).2.1
    case later =>
      intro i j receipt hij hj hok
      obtain rfl | hstuck := h
      · exact absurd hj (by omega)
      · obtain ⟨error, herr⟩ := (executed_refused hstuck i).2.2
        cases hok.symm.trans herr

/-! ## A merge that is executed twice -/

namespace MergedTwice

def eventA : SourceEventId := ⟨"event-a", by decide⟩

def eventB : SourceEventId := ⟨"event-b", by decide⟩

def command : SourceEventId := ⟨"owner-command", by decide⟩

def approved : ApprovedAction where
  account := ⟨.napCat, "10001"⟩
  proposalId := "00000000-0000-0000-0000-000000000099"
  action := .mergeThreads [⟨"thread-a"⟩, ⟨"thread-b"⟩] "one matter in two threads"
  commandSourceEventId := command
  effectId := "effect-1"

def eventOf (sourceEventId : SourceEventId) (occurredAt : Int) : SourceEventRow where
  sourceEventId
  accountId := 1
  conversationId := 7
  occurredAtUnixSecs := occurredAt
  actorPlatformId := "20002"
  actorKind := .external
  messageRole := .externalObservation

def threadRow (threadId : EventThreadId) (event : SourceEventId) (openedAt : Int) :
    EventThreadRow where
  threadId
  accountId := 1
  status := .«open»
  rootEventId := event
  latestEventId := event
  openedAtUnixSecs := openedAt
  latestOccurredAtUnixSecs := openedAt

def db : MutationDb where
  accounts := [⟨1, ⟨.napCat, "10001"⟩⟩, ⟨2, ⟨.qqOpenPlatform, "30003"⟩⟩]
  threads := [threadRow ⟨"thread-a"⟩ eventA 100, threadRow ⟨"thread-b"⟩ eventB 200]
  events := [eventOf eventA 100, eventOf eventB 200, {
    sourceEventId := command
    accountId := 2
    conversationId := 8
    occurredAtUnixSecs := 300
    actorPlatformId := "10001"
    actorKind := .owner
    messageRole := .ownerCommand }]
  threadEvents := [⟨eventA, ⟨"thread-a"⟩⟩, ⟨eventB, ⟨"thread-b"⟩⟩]
  ownerBindings := [⟨1, 2, "10001", true⟩]
  proposals := []
  mergeAliases := []
  splitOverrides := []
  linkHints := []
  linkCandidates := []
  invalidations := []
  semanticState := []

/-- The first execution merges the threads, the second is refused. -/
theorem second_execution_refused : ¬Replays approved db 1 := by
  have hfst : answer approved db 0 =
      .ok ⟨approved.proposalId, approved.effectId, .applied, true⟩ := by decide
  have hsec : answer approved db 1 = .error (.store (.invalidData
      "thread mutation proposal has already consumed a different decision")) := by decide
  intro h
  obtain ⟨receipt, hreplay, -⟩ := h.later 0 1 _ Nat.zero_lt_one le_rfl hfst
  cases hreplay.symm.trans hsec

end MergedTwice

end ServerRS.ThreadMutation

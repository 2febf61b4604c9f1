import ServerRS.Lib.Folds
import ServerRS.ThreadMutation.Store

/-!
# Executing an approved thread mutation

Models `ThreadMutationUseCase::apply_approved_action` of
`personal-secretary/src/application/thread_mutation_service.rs`: the impact is built again, the
proposal persisted, the decision authorized and the effect applied, each in a transaction of its own.
-/

namespace ServerRS.ThreadMutation

open Lib

inductive ThreadMutationUseCaseError where
  | domain (error : ThreadMutationError)
  | store (error : InboundEventStoreError)
deriving DecidableEq

/-- The arguments of `apply_approved_action`. -/
structure ApprovedAction where
  account : SourceAccountRef
  proposalId : String
  action : SecretaryAction
  commandSourceEventId : SourceEventId
  effectId : String

def rejectAction {α : Type} (text : String) : Except ThreadMutationUseCaseError α :=
  .error (.domain (.invalidImpact text))

def actionRequest (approved : ApprovedAction) :
    Except ThreadMutationUseCaseError ThreadMutationImpactRequest :=
  match approved.action with
  | .mergeThreads threadIds reason => .ok {
      proposalId := approved.proposalId
      kind := .merge
      account := approved.account
      threadIds
      selectedSourceEventIds := []
      reason }
  | .splitThread threadId sourceEventIds reason => .ok {
      proposalId := approved.proposalId
      kind := .split
      account := approved.account
      threadIds := [threadId]
      selectedSourceEventIds := sourceEventIds
      reason }
  | _ => rejectAction "action is not a thread mutation"

def impactRequest (approved : ApprovedAction) :
    Except ThreadMutationUseCaseError ThreadMutationImpactRequest :=
  if isBlank approved.proposalId then rejectAction "proposal_id must not be empty"
  else actionRequest approved

/-- Run a transaction. -/
def commit {α : Type} (transaction : Transaction α) :
    Exec MutationDb ThreadMutationUseCaseError α := fun db =>
  match transaction db with
  | .ok (a, after) => (.ok a, after)
  | .error error => (.error (.store error), db)

def applyApprovedAction (approved : ApprovedAction) :
    Exec MutationDb ThreadMutationUseCaseError ThreadMutationEffectReceipt := do
  let request ← Exec.ofExcept (impactRequest approved)
  let impact ← commit fun db => (buildImpact request db).map fun impact => (impact, db)
  Exec.ofExcept ((validateThreadMutationImpact impact).mapError .domain)
  commit (persistProposal impact)
  let status ← commit (authorizeResume approved.proposalId .approve approved.commandSourceEventId)
  Exec.ofExcept (if status ≠ .approved then .error (.store (.invalidData
    "thread mutation approval did not converge to approved")) else .ok ())
  commit (applyEffect approved.proposalId impact.kind approved.effectId)

/-! ## The checks -/

theorem requireData_ok {condition : Prop} [Decidable condition] {text : String} :
    requireData condition text = .ok () ↔ condition := by
  unfold requireData
  split
  · next h => exact ⟨fun _ => h, fun _ => rfl⟩
  · next h => exact ⟨fun hok => (by cases hok), fun hcon => absurd hcon h⟩

theorem storeChecks_ok {α : Type} {checked : Except ThreadMutationError α} {a : α} :
    storeChecks checked = .ok a ↔ checked = .ok a := Except.mapError_eq_ok

theorem requireImpact_ok {condition : Prop} [Decidable condition] {text : String} :
    requireImpact condition text = .ok () ↔ condition := by
  unfold requireImpact
  split
  · next h => exact ⟨fun _ => h, fun _ => rfl⟩
  · next h => exact ⟨fun hok => (by cases hok), fun hcon => absurd hcon h⟩

theorem insertUnique_ok {α : Type} {conflicts : α → α → Bool} {rows rows' : List α} {row : α} :
    insertUnique conflicts rows row = .ok rows' ↔
      (∀ other ∈ rows, conflicts row other = false) ∧ rows' = rows ++ [row] := by
  unfold insertUnique databaseFailed
  split
  · next h =>
    constructor
    · exact fun hok => (by cases hok)
    · rintro ⟨hfree, -⟩
      rw [List.any_eq_true] at h
      obtain ⟨other, hoth, hconfl⟩ := h
      rw [hfree other hoth] at hconfl
      cases hconfl
  · next h =>
    rw [Bool.not_eq_true, List.any_eq_false] at h
    constructor
    · intro hok
      cases hok
      exact ⟨fun other hoth => by simpa using h other hoth, rfl⟩
    · rintro ⟨-, rfl⟩
      rfl

theorem updateOne_ok {cond : ProposalRow → Bool} {set : ProposalRow → ProposalRow}
    {rows rows' : List ProposalRow} : updateOne cond set rows = .ok rows' ↔
      (∃ row ∈ rows, cond row = true) ∧ rows' = updateWhere cond set rows := by
  unfold updateOne
  split
  · next h =>
    rw [List.any_eq_true] at h
    constructor
    · intro hok
      cases hok
      exact ⟨h, rfl⟩
    · rintro ⟨-, rfl⟩
      rfl
  · next h =>
    rw [List.any_eq_true] at h
    exact ⟨fun hok => (by cases hok), fun hok => absurd hok.1 h⟩

/-- What a valid impact says about its threads. -/
theorem valid_threads {impact : ThreadMutationImpact}
    (h : validateThreadMutationImpact impact = .ok ()) : impact.threadIds.Nodup ∧
      impact.affectedSourceEventIds.Nodup ∧ impact.affectedSourceEventIds ≠ [] ∧
        (impact.kind = .split → ∃ source, impact.threadIds = [source]) := by
  obtain ⟨⟨⟩, hcnt, h⟩ := Except.bind_ok h
  obtain ⟨⟨⟩, -, h⟩ := Except.bind_ok h
  obtain ⟨⟨⟩, hsome, h⟩ := Except.bind_ok h
  obtain ⟨⟨⟩, -, h⟩ := Except.bind_ok h
  obtain ⟨⟨⟩, -, hnd⟩ := Except.bind_ok h
  refine ⟨(requireImpact_ok.mp hnd).1, (requireImpact_ok.mp hnd).2,
    (requireImpact_ok.mp hsome).1, fun hkind => ?_⟩
  rw [checkThreadCount, hkind] at hcnt
  exact List.length_eq_one_iff.mp (requireImpact_ok.mp hcnt)

variable {request : ThreadMutationImpactRequest}

theorem buildImpact_ok {db : MutationDb} {impact : ThreadMutationImpact}
    (h : buildImpact request db = .ok impact) :
    validateThreadMutationImpact impact = .ok () ∧ impact.proposalId = request.proposalId := by
  obtain ⟨⟨⟩, -, h⟩ := Except.bind_ok h
  obtain ⟨accountId, -, h⟩ := Except.bind_ok h
  obtain ⟨⟨⟩, -, h⟩ := Except.bind_ok h
  obtain ⟨events, -, h⟩ := Except.bind_ok h
  obtain ⟨⟨⟩, -, h⟩ := Except.bind_ok h
  obtain ⟨⟨⟩, -, h⟩ := Except.bind_ok h
  obtain ⟨⟨⟩, hval, h⟩ := Except.bind_ok h
  cases h
  exact ⟨storeChecks_ok.mp hval, rfl⟩

theorem impactRequest_proposalId {approved : ApprovedAction}
    (h : impactRequest approved = .ok request) : request.proposalId = approved.proposalId := by
  unfold impactRequest rejectAction at h
  split at h
  · cases h
  unfold actionRequest rejectAction at h
  split at h
  · cases h
    rfl
  · cases h
    rfl
  · cases h

/-! ## The transactions -/

section

variable {db after : MutationDb} {impact : ThreadMutationImpact} {proposalId : String}
  {command : SourceEventId} {row : ProposalRow}

theorem proposalOf_some (h : db.proposalOf proposalId = some row) :
    row ∈ db.proposals ∧ row.proposalId = proposalId :=
  ⟨List.mem_of_find?_eq_some h,
    of_decide_eq_true (List.find?_some (p := fun row : ProposalRow => row.proposalId = proposalId) h)⟩

/-- The stored row is of this impact. -/
def Identifies (row : ProposalRow) (accountId : ℕ) (impact : ThreadMutationImpact) : Prop :=
  row.accountId = accountId ∧ row.mutationKind = impact.kind ∧ row.impact = impact

instance (accountId : ℕ) : Decidable (Identifies row accountId impact) :=
  inferInstanceAs (Decidable (_ ∧ _ ∧ _))

def newProposal (accountId : ℕ) (impact : ThreadMutationImpact) : ProposalRow where
  proposalId := impact.proposalId
  accountId := accountId
  mutationKind := impact.kind
  proposalStatus := .awaitingApproval
  impact := impact
  decision := none
  commandSourceEventId := none
  effectId := none

theorem persistProposal_ok : persistProposal impact db = .ok ((), after) ↔
    ∃ accountId, checkProposal impact db = .ok accountId ∧
      (db.proposalOf impact.proposalId = none ∧
          after = { db with proposals := db.proposals ++ [newProposal accountId impact] } ∨
        ∃ row, db.proposalOf impact.proposalId = some row ∧ Identifies row accountId impact ∧
          after = db) := by
  unfold persistProposal
  constructor
  · intro h
    obtain ⟨accountId, hchk, h⟩ := Except.bind_ok h
    refine ⟨accountId, hchk, ?_⟩
    split at h
    · next hnone =>
      cases h
      exact .inl ⟨hnone, rfl⟩
    · next row hrow =>
      obtain ⟨⟨⟩, hsame, h⟩ := Except.bind_ok h
      cases h
      exact .inr ⟨row, hrow, requireData_ok.mp hsame, rfl⟩
  · rintro ⟨accountId, hchk, h⟩
    refine Except.bind_eq_of_ok hchk ?_
    obtain ⟨hnone, rfl⟩ | ⟨row, hrow, hsame, rfl⟩ := h
    · rw [hnone]
      rfl
    · rw [hrow]
      exact Except.bind_eq_of_ok (a := ()) (requireData_ok.mpr hsame) rfl

/-- The row of the proposal after it was persisted. -/
theorem persistProposal_row (h : persistProposal impact db = .ok ((), after)) :
    ∃ accountId row, checkProposal impact db = .ok accountId ∧
      after.proposalOf impact.proposalId = some row ∧ Identifies row accountId impact ∧
        (db.proposalOf impact.proposalId = some row ∨
          db.proposalOf impact.proposalId = none ∧ row = newProposal accountId impact) := by
  obtain ⟨accountId, hchk, ⟨hnone, rfl⟩ | ⟨row, hrow, hsame, rfl⟩⟩ := persistProposal_ok.mp h
  · refine ⟨accountId, newProposal accountId impact, hchk, ?_, ⟨rfl, rfl, rfl⟩, .inr ⟨hnone, rfl⟩⟩
    unfold MutationDb.proposalOf at hnone ⊢
    rw [List.find?_append, hnone, Option.none_or, List.find?_singleton, if_pos]
    exact decide_eq_true rfl
  · exact ⟨accountId, row, hchk, hrow, hsame, .inl hrow⟩

def approvedBy (command : SourceEventId) (row : ProposalRow) : ProposalRow :=
  { row with
    proposalStatus := .approved
    decision := some .approve
    commandSourceEventId := some command }

def isAwaiting (proposalId : String) (row : ProposalRow) : Bool :=
  row.proposalId = proposalId && row.proposalStatus = .awaitingApproval

theorem authorizeResume_ok {status : ThreadMutationProposalStatus} :
    authorizeResume proposalId .approve command db = .ok (status, after) ↔
      ∃ row, db.proposalOf proposalId = some row ∧ db.commands command row.accountId = true ∧
        status = .approved ∧
          (row.proposalStatus = .approved ∧ row.decision = some .approve ∧
              row.commandSourceEventId = some command ∧ after = db ∨
            row.proposalStatus = .awaitingApproval ∧ after = { db with
              proposals := updateWhere (isAwaiting proposalId) (approvedBy command) db.proposals }) := by
  unfold authorizeResume
  cases hrow : db.proposalOf proposalId with
  | none =>
    constructor
    · exact fun h => (by cases h)
    · rintro ⟨row, h, -⟩
      cases h
  | some row =>
    by_cases hcmd : db.commands command row.accountId = true
    · rw [Option.filter_some, if_pos hcmd]
      dsimp only
      constructor
      · intro h
        refine ⟨row, rfl, hcmd, ?_⟩
        split at h
        · next hsame =>
          cases h
          exact ⟨hsame.1, .inl ⟨hsame.1, hsame.2.1, hsame.2.2, rfl⟩⟩
        split at h
        · cases h
        next hawa =>
        obtain ⟨proposals, hupd, h⟩ := Except.bind_ok h
        cases h
        rw [(updateOne_ok.mp hupd).2]
        exact ⟨rfl, .inr ⟨not_not.mp hawa, rfl⟩⟩
      · rintro ⟨row', h, -, rfl, ⟨hstat, hdec, hcommandId, rfl⟩ | ⟨hawa, rfl⟩⟩
        · cases h
          rw [if_pos ⟨hstat, hdec, hcommandId⟩, hstat]
        · cases h
          have hnew : ¬(row.proposalStatus = ThreadMutationDecision.approve.desired ∧
              row.decision = some .approve ∧ row.commandSourceEventId = some command) := by
            rintro ⟨hstat, -⟩
            cases hawa.symm.trans hstat
          rw [if_neg hnew, if_neg (not_not.mpr hawa)]
          obtain ⟨hmem, hid⟩ := proposalOf_some hrow
          refine Except.bind_eq_of_ok (updateOne_ok.mpr ⟨⟨row, hmem, ?_⟩, rfl⟩) rfl
          simp [hawa, hid]
    · rw [Option.filter_some, if_neg hcmd]
      constructor
      · exact fun h => (by cases h)
      · rintro ⟨row', h, hcmd', -⟩
        cases h
        exact absurd hcmd' hcmd

end

/-! ## The overlay -/

section

variable {db after : MutationDb} {impact : ThreadMutationImpact}

/-- There is room for an alias of the thread. -/
def AliasFree (canonical merged : EventThreadId) (row : MergeAliasRow) : Prop :=
  row.mergedThreadId ≠ merged ∧
    (row.active = true → row.mergedThreadId ≠ canonical ∧ row.canonicalThreadId ≠ merged)

/-- There is room for the overlay of the impact. -/
def Vacant (impact : ThreadMutationImpact) (db : MutationDb) : Prop :=
  match impact.kind with
  | .merge => ∀ canonical merged, impact.threadIds = canonical :: merged →
      ∀ threadId ∈ merged, ∀ row ∈ db.mergeAliases, AliasFree canonical threadId row
  | .split => (∀ row ∈ db.mergeAliases, row.active = true → row.mergedThreadId ∉ impact.threadIds) ∧
      (∀ thread ∈ db.threads, thread.threadId ≠ ⟨impact.proposalId⟩) ∧
        ∀ row ∈ db.splitOverrides, row.sourceEventId ∉ impact.affectedSourceEventIds

theorem mergeThread_ok {canonical : EventThreadId} {proposalId : String}
    (aliases aliases' : List MergeAliasRow) (merged : EventThreadId) :
    mergeThread canonical proposalId aliases merged = .ok aliases' ↔
      (∀ row ∈ aliases, AliasFree canonical merged row) ∧
        aliases' = aliases ++ [⟨merged, canonical, proposalId, true⟩] := by
  have hconf : ∀ row : MergeAliasRow, AliasFree canonical merged row ↔
      mergeConflicts canonical merged row = false ∧ row.mergedThreadId ≠ merged := by
    intro row
    unfold AliasFree mergeConflicts
    cases row.active
    · simp
    · simp only [Bool.true_and, Bool.or_eq_false_iff, decide_eq_false_iff_not, true_implies]
      tauto
  unfold mergeThread
  constructor
  · intro h
    obtain ⟨⟨⟩, hnone, h⟩ := Except.bind_ok h
    obtain ⟨hfree, rfl⟩ := insertUnique_ok.mp h
    have hnone := List.any_eq_false.mp (requireData_ok.mp hnone)
    refine ⟨fun row hrow => (hconf row).mpr ⟨by simpa using hnone row hrow, ?_⟩, rfl⟩
    exact fun hsame => of_decide_eq_false (hfree row hrow) hsame.symm
  · rintro ⟨hfree, rfl⟩
    refine Except.bind_eq_of_ok (a := ()) (requireData_ok.mpr ?_)
      (insertUnique_ok.mpr ⟨fun row hrow => ?_, rfl⟩)
    · refine List.any_eq_false.mpr fun row hrow => ?_
      simpa using ((hconf row).mp (hfree row hrow)).1
    · exact decide_eq_false fun hsame => ((hconf row).mp (hfree row hrow)).2 hsame.symm

theorem applyMerge_ok (hkind : impact.kind = .merge)
    (hval : validateThreadMutationImpact impact = .ok ()) :
    (∃ after, applyMerge impact db = .ok after) ↔ Vacant impact db := by
  have hnd := (valid_threads hval).1
  unfold applyMerge Vacant
  rw [hkind]
  dsimp only
  cases hthrs : impact.threadIds with
  | nil => simp
  | cons canonical merged =>
    rw [hthrs, List.nodup_cons] at hnd
    have hfold := @foldlM_append _ _ _ _ (AliasFree canonical) _ merged db.mergeAliases
      (@mergeThread_ok canonical impact.proposalId)
    have hpair : merged.Pairwise fun a b =>
        AliasFree canonical b ⟨a, canonical, impact.proposalId, true⟩ := by
      refine List.Pairwise.imp_of_mem ?_ hnd.2
      intro a b ha hb hne
      refine ⟨hne, fun _ => ⟨?_, ?_⟩⟩
      · show a ≠ canonical
        rintro rfl
        exact hnd.1 ha
      · show canonical ≠ b
        rintro rfl
        exact hnd.1 hb
    constructor
    · rintro ⟨after, h⟩
      obtain ⟨aliases, hali, -⟩ := Except.bind_ok h
      rintro canonical' merged' hsame
      cases hsame
      exact (hfold.mp ⟨aliases, hali⟩).1
    · intro hvacant
      obtain ⟨aliases, hali⟩ := hfold.mpr ⟨hvacant canonical merged rfl, hpair⟩
      exact ⟨_, Except.bind_eq_of_ok hali rfl⟩

variable {eventId : SourceEventId} {event : SourceEventRow} {accountId : ℕ}

theorem splitMember_ok {sourceThread : EventThreadId} :
    splitMember sourceThread db eventId = .ok event ↔
      db.membership eventId = some (event, sourceThread) := by
  unfold splitMember
  split
  · next hnone =>
    rw [hnone]
    exact ⟨fun h => (by cases h), fun h => (by cases h)⟩
  next found threadId hfnd =>
  rw [hfnd]
  split
  · next hoth =>
    constructor
    · exact fun h => (by cases h)
    · intro h
      cases h
      exact absurd rfl hoth
  · next hsame =>
    cases not_not.mp hsame
    constructor
    · intro h
      cases h
      rfl
    · intro h
      cases h
      rfl

theorem membership_id {threadId : EventThreadId}
    (h : db.membership eventId = some (event, threadId)) : event.sourceEventId = eventId := by
  unfold MutationDb.membership at h
  rw [Option.bind_eq_bind, Option.bind_eq_some_iff] at h
  obtain ⟨found, hfnd, h⟩ := h
  rw [Option.bind_eq_bind, Option.bind_eq_some_iff] at h
  obtain ⟨member, -, h⟩ := h
  cases h
  exact of_decide_eq_true (List.find?_some (p := fun row : SourceEventRow =>
    row.sourceEventId = eventId) hfnd)

/-- The events of a split that was checked are still in its thread. -/
theorem checkProposal_members {source : EventThreadId} (h : checkProposal impact db = .ok accountId)
    (hthrs : impact.threadIds = [source]) :
    ∀ eventId ∈ impact.affectedSourceEventIds, ∃ event,
      db.membership eventId = some (event, source) := by
  obtain ⟨⟨⟩, -, h⟩ := Except.bind_ok h
  obtain ⟨found, -, h⟩ := Except.bind_ok h
  obtain ⟨⟨⟩, -, h⟩ := Except.bind_ok h
  obtain ⟨conversations, hconv, -⟩ := Except.bind_ok h
  intro eventId heventId
  obtain ⟨conversation, -, hok⟩ := Except.mapM_ok_mem hconv heventId
  unfold affectedConversation at hok
  split at hok
  · cases hok
  next event threadId hfnd =>
  split at hok
  · cases hok
  next hinside =>
  rw [not_or, not_not, not_not, hthrs, List.mem_singleton] at hinside
  rw [← hinside.2]
  exact ⟨event, hfnd⟩

theorem checkProposal_valid (h : checkProposal impact db = .ok accountId) :
    validateThreadMutationImpact impact = .ok () := by
  obtain ⟨⟨⟩, hval, -⟩ := Except.bind_ok h
  exact storeChecks_ok.mp hval

theorem overrideEvents_ok {overrides : List SplitOverrideRow} {events : List SourceEventRow}
    {source effective : EventThreadId} {proposalId : String}
    (hnd : (events.map SourceEventRow.sourceEventId).Nodup) :
    (∃ after, events.foldlM (fun overrides event =>
        insertUnique (fun new row => new.sourceEventId = row.sourceEventId) overrides
          ⟨event.sourceEventId, source, effective, proposalId, true⟩) overrides = .ok after) ↔
      ∀ row ∈ overrides, row.sourceEventId ∉ events.map SourceEventRow.sourceEventId := by
  have hins : ∀ (rows rows' : List SplitOverrideRow) (event : SourceEventRow),
      insertUnique (fun new row => new.sourceEventId = row.sourceEventId) rows
          ⟨event.sourceEventId, source, effective, proposalId, true⟩ = .ok rows' ↔
        (∀ row ∈ rows, event.sourceEventId ≠ row.sourceEventId) ∧
          rows' = rows ++ [⟨event.sourceEventId, source, effective, proposalId, true⟩] := by
    intro rows rows' event
    rw [insertUnique_ok]
    simp only [decide_eq_false_iff_not, ne_eq]
  rw [foldlM_append hins]
  constructor
  · rintro ⟨hfree, -⟩ row hrow hmem
    obtain ⟨event, hev, hsame⟩ := List.mem_map.mp hmem
    exact hfree event hev row hrow hsame
  · intro hfree
    refine ⟨fun event hev row hrow hsame => hfree row hrow ?_, ?_⟩
    · rw [← hsame]
      exact List.mem_map_of_mem hev
    · exact (List.pairwise_map.mp hnd).imp Ne.symm

theorem splitOff_ok {source : EventThreadId} {proposalId : String} {events : List SourceEventRow}
    (hsome : events ≠ []) (hnd : (events.map SourceEventRow.sourceEventId).Nodup) :
    (∃ after, splitOff source proposalId events db = .ok after) ↔
      (∀ thread ∈ db.threads, thread.threadId ≠ ⟨proposalId⟩) ∧
        ∀ row ∈ db.splitOverrides, row.sourceEventId ∉ events.map SourceEventRow.sourceEventId := by
  rw [← @overrideEvents_ok db.splitOverrides events source ⟨proposalId⟩ proposalId hnd]
  obtain ⟨first, rest, rfl⟩ := List.exists_cons_of_ne_nil hsome
  unfold splitOff
  rw [List.head?_cons, List.getLast?_eq_some_getLast (List.cons_ne_nil first rest)]
  dsimp only
  constructor
  · rintro ⟨after, h⟩
    obtain ⟨threads, hins, h⟩ := Except.bind_ok h
    obtain ⟨overrides, hfold, -⟩ := Except.bind_ok h
    refine ⟨fun thread hthr hsame => ?_, overrides, hfold⟩
    exact of_decide_eq_false ((insertUnique_ok.mp hins).1 thread hthr) hsame.symm
  · rintro ⟨hthr, overrides, hfold⟩
    refine ⟨_, Except.bind_eq_of_ok (insertUnique_ok.mpr ⟨fun thread hmem => ?_, rfl⟩)
      (Except.bind_eq_of_ok hfold rfl)⟩
    exact decide_eq_false fun hsame => hthr thread hmem hsame.symm

theorem applySplit_ok (hkind : impact.kind = .split)
    (hchec : checkProposal impact db = .ok accountId) :
    (∃ after, applySplit impact db = .ok after) ↔ Vacant impact db := by
  obtain ⟨-, hnd, hsome, hsrc⟩ := valid_threads (checkProposal_valid hchec)
  obtain ⟨source, hthrs⟩ := hsrc hkind
  have hmembers : ∀ eventId ∈ impact.affectedSourceEventIds, ∃ event,
      splitMember source db eventId = .ok event := by
    intro eventId heventId
    obtain ⟨event, hev⟩ := checkProposal_members hchec hthrs eventId heventId
    exact ⟨event, splitMember_ok.mpr hev⟩
  obtain ⟨rows, hrows⟩ := Except.mapM_total hmembers
  have hids : rows.map SourceEventRow.sourceEventId = impact.affectedSourceEventIds := by
    have hkey : rows.map SourceEventRow.sourceEventId = impact.affectedSourceEventIds.map id :=
      Except.map_of_mapM_ok (fun eventId event h => membership_id (splitMember_ok.mp h)) hrows
    rw [hkey, List.map_id]
  have hsort := (List.perm_insertionSort (fun a b : SourceEventRow =>
    a.byConversation ≤ b.byConversation) rows).map SourceEventRow.sourceEventId
  rw [hids] at hsort
  have hoff := @splitOff_ok db source impact.proposalId (rows.insertionSort fun a b =>
    a.byConversation ≤ b.byConversation) (fun hnil => hsome (by
      rw [hnil] at hsort
      exact hsort.symm.eq_nil)) (hsort.nodup_iff.mpr hnd)
  simp only [hsort.mem_iff] at hoff
  have hali : ((db.mergeAliases.any fun row => row.active && row.mergedThreadId = source) =
      false) ↔ ∀ row ∈ db.mergeAliases, row.active = true → row.mergedThreadId ∉ [source] := by
    rw [List.any_eq_false]
    simp
  unfold applySplit Vacant
  rw [hkind, hthrs]
  dsimp only
  rw [← hali, ← hoff]
  constructor
  · rintro ⟨after, h⟩
    obtain ⟨⟨⟩, hnone, h⟩ := Except.bind_ok h
    obtain ⟨rows', hrows', h⟩ := Except.bind_ok h
    cases hrows.symm.trans hrows'
    exact ⟨requireData_ok.mp hnone, after, h⟩
  · rintro ⟨hnone, after, h⟩
    exact ⟨after, Except.bind_eq_of_ok (a := ()) (requireData_ok.mpr hnone)
      (Except.bind_eq_of_ok hrows h)⟩

theorem applyOverlay_ok (hchec : checkProposal impact db = .ok accountId) :
    (∃ after, applyOverlay impact db = .ok after) ↔ Vacant impact db := by
  unfold applyOverlay
  cases hkind : impact.kind with
  | merge => exact applyMerge_ok hkind (checkProposal_valid hchec)
  | split => exact applySplit_ok hkind hchec

theorem applyOverlay_proposals (h : applyOverlay impact db = .ok after) :
    after.proposals = db.proposals := by
  unfold applyOverlay at h
  split at h
  · unfold applyMerge at h
    split at h
    · cases h
      rfl
    · obtain ⟨aliases, -, h⟩ := Except.bind_ok h
      cases h
      rfl
  · unfold applySplit at h
    split at h
    · cases h
      rfl
    · obtain ⟨⟨⟩, -, h⟩ := Except.bind_ok h
      obtain ⟨rows, -, h⟩ := Except.bind_ok h
      unfold splitOff at h
      split at h
      · obtain ⟨threads, -, h⟩ := Except.bind_ok h
        obtain ⟨overrides, -, h⟩ := Except.bind_ok h
        cases h
        rfl
      · cases h
        rfl

theorem refreshLinkHints_proposals :
    (refreshLinkHintsAndCandidates impact db).proposals = db.proposals := by
  unfold refreshLinkHintsAndCandidates
  induction impact.affectedSourceEventIds generalizing db with
  | nil => rfl
  | cons eventId rest ih =>
    rw [List.foldl_cons, ih]

end

/-! ## The effect -/

section

variable {db after : MutationDb} {proposalId effectId : String} {kind : ThreadMutationKind}
  {row : ProposalRow} {receipt : ThreadMutationEffectReceipt}

/-- The effect id is well formed and no proposal has it. -/
def EffectIdFree (effectId : String) (db : MutationDb) : Prop :=
  (isBlank effectId = false ∧ effectId.utf8ByteSize ≤ 255) ∧
    ∀ row ∈ db.proposals, row.effectId ≠ some effectId

theorem proposalOf_updateWhere {cond : ProposalRow → Bool} {set : ProposalRow → ProposalRow}
    {proposals : List ProposalRow} (hset : ∀ row, (set row).proposalId = row.proposalId)
    (hrow : proposals.find? (fun row => row.proposalId = proposalId) = some row)
    (hcond : cond row = true) :
    (updateWhere cond set proposals).find? (fun row => row.proposalId = proposalId) =
      some (set row) := by
  rw [find?_updateWhere fun row => by rw [hset], hrow, Option.map_some, if_pos hcond]

theorem recorded_proposals (impact : ThreadMutationImpact) :
    (recordSemanticInvalidations .mutationApplied impact
      (refreshLinkHintsAndCandidates impact db)).proposals = db.proposals :=
  refreshLinkHints_proposals

def isUnclaimed (proposalId : String) (row : ProposalRow) : Bool :=
  row.proposalId = proposalId && row.proposalStatus = .approved && row.effectId = none

def claimedBy (effectId : String) (row : ProposalRow) : ProposalRow :=
  { row with proposalStatus := .applying, effectId := some effectId }

def isClaimedBy (proposalId effectId : String) (row : ProposalRow) : Bool :=
  row.proposalId = proposalId && row.proposalStatus = .applying && row.effectId = some effectId

def finished (row : ProposalRow) : ProposalRow := { row with proposalStatus := .applied }

/-- The effect on an approved proposal, in steps. -/
theorem applyEffect_approved (hrow : db.proposalOf proposalId = some row)
    (hstat : row.proposalStatus = .approved) : applyEffect proposalId kind effectId db = (do
      requireData (isBlank effectId = false ∧ effectId.utf8ByteSize ≤ 255)
        "invalid thread mutation effect id"
      requireData (row.proposalStatus = .approved ∧ row.effectId = none)
        "thread mutation effect is not eligible for execution"
      requireData (row.mutationKind = kind) "effect kind does not match proposal"
      storeChecks (validateThreadMutationImpact row.impact)
      if db.proposals.any fun other => other.effectId = some effectId then databaseFailed
      else do
        let claimed ← updateOne (isUnclaimed proposalId) (claimedBy effectId) db.proposals
        let overlaid ← applyOverlay row.impact { db with proposals := claimed }
        let recorded := recordSemanticInvalidations .mutationApplied row.impact
          (refreshLinkHintsAndCandidates row.impact overlaid)
        let proposals ← updateOne (isClaimedBy proposalId effectId) finished recorded.proposals
        return (⟨proposalId, effectId, .applied, true⟩, { recorded with proposals })) := by
  unfold applyEffect
  rw [hrow]
  have hnew : ¬(row.proposalStatus = .applied ∧ row.effectId = some effectId) := by
    rintro ⟨happd, -⟩
    cases hstat.symm.trans happd
  dsimp only
  rw [if_neg hnew]
  rfl

theorem applyEffect_result (hrow : db.proposalOf proposalId = some row)
    (hstat : row.proposalStatus = .approved)
    (h : applyEffect proposalId kind effectId db = .ok (receipt, after)) :
    EffectIdFree effectId db ∧ row.effectId = none ∧ row.mutationKind = kind ∧
      (∃ claimed overlaid,
        applyOverlay row.impact { db with proposals := claimed } = .ok overlaid) ∧
      receipt.changed = true ∧
      ∃ row', after.proposalOf proposalId = some row' ∧ row'.proposalStatus = .applied := by
  rw [applyEffect_approved hrow hstat] at h
  obtain ⟨⟨⟩, heff, h⟩ := Except.bind_ok h
  obtain ⟨⟨⟩, helig, h⟩ := Except.bind_ok h
  obtain ⟨⟨⟩, hkind, h⟩ := Except.bind_ok h
  obtain ⟨⟨⟩, -, h⟩ := Except.bind_ok h
  split at h
  · cases h
  next huniq =>
  obtain ⟨claimed, hcld, h⟩ := Except.bind_ok h
  obtain ⟨overlaid, hover, h⟩ := Except.bind_ok h
  obtain ⟨proposals, hprop, h⟩ := Except.bind_ok h
  cases h
  have hnone := (requireData_ok.mp helig).2
  have hid := (proposalOf_some hrow).2
  refine ⟨⟨requireData_ok.mp heff, fun other hoth hsame => huniq ?_⟩, hnone,
    requireData_ok.mp hkind, ⟨claimed, overlaid, hover⟩, rfl, finished (claimedBy effectId row),
    ?_, rfl⟩
  · exact List.any_eq_true.mpr ⟨other, hoth, decide_eq_true hsame⟩
  · have hrecd := (recorded_proposals row.impact).trans (applyOverlay_proposals hover)
    rw [MutationDb.proposalOf, (updateOne_ok.mp hprop).2, hrecd,
      (updateOne_ok.mp hcld).2]
    refine proposalOf_updateWhere (fun _ => rfl) (proposalOf_updateWhere (fun _ => rfl) hrow ?_) ?_
    · simp [isUnclaimed, hid, hstat, hnone]
    · simp [isClaimedBy, claimedBy, hid]

theorem applyEffect_total (hrow : db.proposalOf proposalId = some row)
    (hstat : row.proposalStatus = .approved) (heff : EffectIdFree effectId db)
    (hnone : row.effectId = none) (hkind : row.mutationKind = kind)
    (hval : validateThreadMutationImpact row.impact = .ok ()) (hoverlay : ∀ claimed, ∃ overlaid,
      applyOverlay row.impact { db with proposals := claimed } = .ok overlaid) :
    ∃ receipt after, applyEffect proposalId kind effectId db = .ok (receipt, after) := by
  obtain ⟨hmem, hid⟩ := proposalOf_some hrow
  have huncl : isUnclaimed proposalId row = true := by
    simp [isUnclaimed, hid, hstat, hnone]
  have huniq : ¬(db.proposals.any fun other => other.effectId = some effectId) = true := by
    rw [List.any_eq_true]
    rintro ⟨other, hoth, hsame⟩
    exact heff.2 other hoth (of_decide_eq_true hsame)
  obtain ⟨overlaid, hover⟩ :=
    hoverlay (updateWhere (isUnclaimed proposalId) (claimedBy effectId) db.proposals)
  have hcld : ∃ row' ∈ overlaid.proposals, isClaimedBy proposalId effectId row' = true := by
    rw [applyOverlay_proposals hover]
    refine ⟨claimedBy effectId row, mem_updateWhere.mpr ⟨row, hmem, if_pos huncl⟩, ?_⟩
    simp [isClaimedBy, claimedBy, hid]
  rw [← recorded_proposals row.impact] at hcld
  rw [applyEffect_approved hrow hstat, requireData_ok.mpr heff.1,
    requireData_ok.mpr ⟨hstat, hnone⟩, requireData_ok.mpr hkind, storeChecks_ok.mpr hval,
    if_neg huniq, updateOne_ok.mpr ⟨⟨row, hmem, huncl⟩, rfl⟩]
  simp only [Except.ok_bind]
  exact ⟨_, _, Except.bind_eq_of_ok hover
    (Except.bind_eq_of_ok (updateOne_ok.mpr ⟨hcld, rfl⟩) rfl)⟩

end

end ServerRS.ThreadMutation

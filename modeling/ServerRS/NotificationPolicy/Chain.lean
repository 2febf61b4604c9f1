import ServerRS.ActionStore.Statements
import ServerRS.NotificationPolicy.WriteSpec

/-!
# The chain of revisions of each policy

The transactions on the policies are the four writes of the store and what the rest of the program
commits between them (`elsewhere`). In every state that a run reaches, `Chained` holds: the
revisions of a family are linked, the last one is the head, and no identifier occurs twice. A
transaction either leaves the policies alone or is `Written`, so that the generation of a family
and the epoch of an account count the changes of the heads.
-/

namespace ServerRS.NotificationPolicy

open Lib Lib.Except
open ActionStore (EffectReceiptRow Timestamp)

/-! ## Runs -/

inductive Transaction where
  | createOrReplace (request : NotificationPolicyWriteRequest) (new : NewIds)
  | disable (request : NotificationPolicyDisableRequest) (new : NewIds)
  | recordFeedback (request : NotificationFeedbackRequest) (new : NewIds)
  | applyEffect (request : NotificationPolicyEffectRequest) (new : NewIds) (now : Timestamp)
  | elsewhere (outside : PolicyDb)

/-- What a transaction leaves behind. One that fails is rolled back. -/
def committed {α : Type} (db : PolicyDb) : Except NotificationPolicyStoreError (α × PolicyDb) → PolicyDb
  | .ok (_, db') => db'
  | .error _ => db

def accountKeys (db : PolicyDb) : List (Nat × MessageSource × String) :=
  db.actions.directory.accounts.map fun row => (row.id, row.sourceChannel, row.platformAccountId)

/-- The keys of the accounts. -/
structure WellKeyed (db : PolicyDb) : Prop where
  ids : ((accountKeys db).map Prod.fst).Nodup
  refs : ((accountKeys db).map Prod.snd).Nodup

instance (db : PolicyDb) : Decidable (WellKeyed db) :=
  decidable_of_iff (((accountKeys db).map Prod.fst).Nodup ∧ ((accountKeys db).map Prod.snd).Nodup)
    ⟨fun h => ⟨h.1, h.2⟩, fun h => ⟨h.1, h.2⟩⟩

/-- The rest of the program writes any other table. Accounts keep their keys, receipts of other
effects are added, and none is ever changed. -/
def elsewhere (outside db : PolicyDb) : PolicyDb :=
  if WellKeyed outside ∧ ∀ key ∈ accountKeys db, key ∈ accountKeys outside then
    { outside with
      actions := { outside.actions with
        receipts := insertIgnore (fun a b => a.effectId = b.effectId) db.actions.receipts
          outside.actions.receipts }
      families := db.families
      revisions := db.revisions
      feedback := db.feedback
      policyEpoch := db.policyEpoch }
  else db

def step (env : PolicyEnv) (db : PolicyDb) : Transaction → PolicyDb
  | .createOrReplace request new => committed db (createOrReplace request new db)
  | .disable request new => committed db (disable request new db)
  | .recordFeedback request new =>
    committed db ((recordFeedback env request new db).map fun db' => ((), db'))
  | .applyEffect request new now => committed db (applyEffect env request new now db)
  | .elsewhere outside => elsewhere outside db

/-- The tables as the migration creates them, next to what the rest of the program has stored. -/
def migrated (outside : PolicyDb) : PolicyDb :=
  { outside with
    families := []
    revisions := []
    feedback := [] }

def run (env : PolicyEnv) (outside : PolicyDb) (txs : List Transaction) : PolicyDb :=
  txs.foldl (step env) (migrated outside)

section

variable {env : PolicyEnv} {outside db db' : PolicyDb} {tx : Transaction} {txs : List Transaction}

theorem run_snoc : run env outside (txs ++ [tx]) = step env (run env outside txs) tx := by
  unfold run
  rw [List.foldl_append]
  rfl

/-- A transaction writes one revision for one account, or leaves the policies alone. -/
theorem step_mayWrite (env : PolicyEnv) (db : PolicyDb) (tx : Transaction) :
    ∃ accountId, MayWrite accountId db (step env db tx) := by
  cases tx with
  | createOrReplace request new =>
    cases h : createOrReplace request new db with
    | error error => exact ⟨0, .inl (by simp only [step, h, committed]; exact .refl _)⟩
    | ok result =>
      obtain ⟨accountId, hwrt, -⟩ := createOrReplace_ok h
      exact ⟨accountId, by simpa only [step, h, committed] using hwrt⟩
  | disable request new =>
    cases h : disable request new db with
    | error error => exact ⟨0, .inl (by simp only [step, h, committed]; exact .refl _)⟩
    | ok result =>
      simp only [step, h, committed]
      obtain hsame | ⟨accountId, family, revision, hwr, -⟩ := disable_ok h
      · exact ⟨0, .inl (hsame ▸ .refl _)⟩
      · exact ⟨accountId, .inr ⟨family, revision, hwr⟩⟩
  | recordFeedback request new =>
    cases h : recordFeedback env request new db with
    | error error => exact ⟨0, .inl (by simp only [step, h, Except.map, committed]; exact .refl _)⟩
    | ok db' =>
      obtain ⟨accountId, hwrt, -⟩ := recordFeedback_ok h
      exact ⟨accountId, by simpa only [step, h, Except.map, committed] using hwrt⟩
  | applyEffect request new now =>
    cases h : applyEffect env request new now db with
    | error error => exact ⟨0, .inl (by simp only [step, h, committed]; exact .refl _)⟩
    | ok result =>
      simp only [step, h, committed]
      obtain ⟨-, hsame⟩ | ⟨accountId, db₁, db₂, resultRef, -, -, hls, -, hact, -, hdb⟩ :=
        applyEffect_ok h
      · exact ⟨0, .inl (hsame ▸ .refl _)⟩
      · refine ⟨accountId, ?_⟩
        have hbef := (verifyActionLease_same hls).1
        have haft : SamePolicies db₂ result.2 := hdb ▸ ⟨rfl, rfl, rfl⟩
        obtain hsame | ⟨family, revision, hwr⟩ := (applyPolicyEffectAction_ok hact).1
        · exact .inl (hbef.trans (hsame.trans haft))
        · exact .inr ⟨family, revision, hwr.of_same hbef haft⟩
  | elsewhere outside =>
    refine ⟨0, .inl ?_⟩
    simp only [step, elsewhere]
    split
    · exact ⟨rfl, rfl, rfl⟩
    · exact .refl _

/-- A write of a policy leaves the rest of the program alone. -/
theorem step_around (env : PolicyEnv) (db : PolicyDb)
    (hwrt : ∀ outside, tx ≠ .elsewhere outside) : Around db (step env db tx) := by
  cases tx with
  | createOrReplace request new =>
    show Around db (committed db (createOrReplace request new db))
    cases h : createOrReplace request new db with
    | error error => exact .refl _
    | ok result =>
      obtain ⟨accountId, -, hconf⟩ := createOrReplace_ok h
      exact hconf.around
  | disable request new =>
    show Around db (committed db (disable request new db))
    cases h : disable request new db with
    | error error => exact .refl _
    | ok result =>
      obtain hsame | ⟨accountId, family, revision, -, -, -, -, hconf⟩ := disable_ok h
      · exact hsame ▸ .refl _
      · exact hconf.around
  | recordFeedback request new =>
    cases h : recordFeedback env request new db with
    | error error => simp only [step, h, Except.map, committed]; exact .refl _
    | ok db' =>
      obtain ⟨accountId, -, hconf⟩ := recordFeedback_ok h
      simp only [step, h, Except.map, committed]
      exact hconf.around
  | applyEffect request new now =>
    show Around db (committed db (applyEffect env request new now db))
    cases h : applyEffect env request new now db with
    | error error => exact .refl _
    | ok result =>
      obtain ⟨-, hsame⟩ | ⟨accountId, db₁, db₂, resultRef, -, -, hls, -, hact, -, hdb⟩ :=
        applyEffect_ok h
      · exact hsame ▸ .refl _
      · have haft : Around db₂ result.2 := hdb ▸ ⟨rfl, List.prefix_rfl, rfl, rfl, rfl, rfl, rfl⟩
        exact (verifyActionLease_same hls).2.2.trans
          ((applyPolicyEffectAction_ok hact).2.around.trans haft)
  | elsewhere outside => exact absurd rfl (hwrt outside)

theorem step_feedback : db.feedback <+: (step env db tx).feedback := by
  by_cases hwrt : ∀ outside, tx ≠ .elsewhere outside
  · exact (step_around env db hwrt).feedback
  · obtain ⟨outside, htx⟩ := not_forall.mp hwrt
    rw [not_not.mp htx]
    simp only [step, elsewhere]
    split <;> exact List.prefix_rfl

theorem foldl_feedback : db.feedback <+: (txs.foldl (step env) db).feedback := by
  induction txs generalizing db with
  | nil => exact List.prefix_rfl
  | cons tx txs ih => exact step_feedback.trans ih

end

/-! ## The chain -/

section

variable {families : List FamilyRow} {revisions : List RevisionRow} {family : FamilyRow}
  {revision : RevisionRow} {accountId : Nat} {db db' : PolicyDb}

def revisionsOf (familyId : PolicyFamilyId) (revisions : List RevisionRow) : List RevisionRow :=
  revisions.filter fun revision => revision.policyFamilyId = familyId

/-- The revisions of the family, as far as they have been written. -/
def FamilyRow.LinkedBy (family : FamilyRow) (revisions : List RevisionRow) : Prop :=
  Linked RevisionRow.revisionNumber RevisionRow.policyRevisionId RevisionRow.supersedesRevisionId
    (revisionsOf family.policyFamilyId revisions) family.currentRevisionId family.generation

structure Chained (families : List FamilyRow) (revisions : List RevisionRow) : Prop where
  keys : (families.map FamilyRow.policyFamilyId).Nodup
  scopes : families.Pairwise fun a b =>
    b.isScope a.accountId a.canonicalScopeKey a.policyKind = false
  ids : (revisions.map RevisionRow.policyRevisionId).Nodup
  owned : ∀ revision ∈ revisions, ∃ family ∈ families,
    family.policyFamilyId = revision.policyFamilyId
  linked : ∀ family ∈ families, family.LinkedBy revisions
  shaped : ∀ revision ∈ revisions, revision.validate = .ok ()

theorem Chained.nil : Chained [] [] where
  keys := List.nodup_nil
  scopes := List.Pairwise.nil
  ids := List.nodup_nil
  owned := fun _ h => absurd h List.not_mem_nil
  linked := fun _ h => absurd h List.not_mem_nil
  shaped := fun _ h => absurd h List.not_mem_nil

theorem FamilyRow.isScope_congr {a b : FamilyRow} (hacc : a.accountId = b.accountId)
    (hsc : a.canonicalScopeKey = b.canonicalScopeKey) (hkind : a.policyKind = b.policyKind)
    (key : String) (kind : NotificationPolicyKind) :
    a.isScope accountId key kind = b.isScope accountId key kind := by
  unfold FamilyRow.isScope
  rw [hacc, hsc, hkind]

/-- A family that has just been created has no revisions. -/
theorem Chained.provides (h : Chained families revisions) {new : List FamilyRow}
    (hprov : Provides accountId family families new) : Chained new revisions := by
  obtain rfl | ⟨rfl, hgen, hhead, hid, hsc⟩ := hprov.created
  · exact h
  have hnone : revisionsOf family.policyFamilyId revisions = [] := by
    refine List.filter_eq_nil_iff.mpr fun revision hrevis heq => ?_
    obtain ⟨owner, howner, howns⟩ := h.owned revision hrevis
    exact hid owner howner (howns.trans (of_decide_eq_true heq))
  exact {
    keys := nodup_map_concat h.keys hid
    scopes := by
      refine List.pairwise_append.mpr ⟨h.scopes, List.pairwise_singleton _ _, ?_⟩
      intro other hoth last hlast
      rw [List.mem_singleton.mp hlast, Bool.eq_false_iff]
      intro htrue
      refine Bool.eq_false_iff.mp (hsc other hoth) ?_
      simp only [FamilyRow.isScope, Bool.and_eq_true, decide_eq_true_eq] at htrue ⊢
      exact ⟨⟨htrue.1.1.symm, sameText_comm _ _ ▸ htrue.1.2⟩, htrue.2.symm⟩
    ids := h.ids
    owned := fun revision hrevis =>
      let ⟨owner, howner, howns⟩ := h.owned revision hrevis
      ⟨owner, List.mem_append_left _ howner, howns⟩
    linked := by
      intro other hoth
      rcases List.mem_append.mp hoth with hoth | hoth
      · exact h.linked other hoth
      · rw [List.mem_singleton.mp hoth, FamilyRow.LinkedBy, hnone, hhead, hgen]
        exact .nil
    shaped := h.shaped }

theorem mem_switched (hkeys : (families.map FamilyRow.policyFamilyId).Nodup)
    (hmem : family ∈ families) {revisionId : PolicyRevisionId} {row : FamilyRow} :
    row ∈ switched family revisionId families ↔
      row = family.switch revisionId ∨
        row ∈ families ∧ row.policyFamilyId ≠ family.policyFamilyId := by
  unfold switched
  rw [mem_updateWhere]
  constructor
  · rintro ⟨old, hold, rfl⟩
    by_cases hid : old.policyFamilyId = family.policyFamilyId
    · obtain rfl := eq_of_key_eq hkeys hold hmem hid
      left
      rw [if_pos (by simp [FamilyRow.isAt])]
    · right
      rw [if_neg (by simp [FamilyRow.isAt, hid])]
      exact ⟨hold, hid⟩
  · rintro (rfl | ⟨hrow, hid⟩)
    · exact ⟨family, hmem, if_pos (by simp [FamilyRow.isAt])⟩
    · exact ⟨row, hrow, if_neg (by simp [FamilyRow.isAt, hid])⟩

theorem Extends.fresh_id (h : Extends family revisions revision) :
    ∀ other ∈ revisions, other.policyRevisionId ≠ revision.policyRevisionId := by
  intro other hoth heq
  have hno := List.any_eq_false.mp h.fresh other hoth
  simp [RevisionRow.conflicts, heq] at hno

theorem Chained.switch (h : Chained families revisions) (hmem : family ∈ families)
    (hext : Extends family revisions revision) :
    Chained (switched family revision.policyRevisionId families) (revisions ++ [revision]) where
  keys := by
    unfold switched
    rw [map_updateWhere (fun _ => rfl : ∀ row, (FamilyRow.switch _ row).policyFamilyId = _)]
    exact h.keys
  scopes := by
    unfold switched updateWhere
    rw [List.pairwise_map]
    refine h.scopes.imp fun {a b} hne => ?_
    rw [← hne]
    have hswit : ∀ row : FamilyRow,
        (if row.isAt family.policyFamilyId family.generation then
          row.switch revision.policyRevisionId else row).accountId = row.accountId ∧
        (if row.isAt family.policyFamilyId family.generation then
          row.switch revision.policyRevisionId else row).canonicalScopeKey =
            row.canonicalScopeKey ∧
        (if row.isAt family.policyFamilyId family.generation then
          row.switch revision.policyRevisionId else row).policyKind = row.policyKind := by
      intro row
      split <;> exact ⟨rfl, rfl, rfl⟩
    rw [(hswit a).1, (hswit a).2.1, (hswit a).2.2]
    exact FamilyRow.isScope_congr (hswit b).1 (hswit b).2.1 (hswit b).2.2 _ _
  ids := nodup_map_concat h.ids hext.fresh_id
  owned := by
    have hold : ∀ family' ∈ families, ∃ row ∈ switched family revision.policyRevisionId families,
        row.policyFamilyId = family'.policyFamilyId := by
      intro family' hfamily'
      by_cases hid : family'.policyFamilyId = family.policyFamilyId
      · exact ⟨_, (mem_switched h.keys hmem).mpr (.inl rfl), hid.symm⟩
      · exact ⟨_, (mem_switched h.keys hmem).mpr (.inr ⟨hfamily', hid⟩), rfl⟩
    intro row hrow
    rcases List.mem_append.mp hrow with hrow | hrow
    · obtain ⟨owner, howner, howns⟩ := h.owned row hrow
      obtain ⟨row', hrow', hid⟩ := hold owner howner
      exact ⟨row', hrow', hid.trans howns⟩
    · obtain ⟨row', hrow', hid⟩ := hold family hmem
      rw [List.mem_singleton.mp hrow, hext.ofFamily]
      exact ⟨row', hrow', hid⟩
  linked := by
    intro row hrow
    obtain rfl | ⟨hrow, hid⟩ := (mem_switched h.keys hmem).mp hrow
    · have hrev : revisionsOf family.policyFamilyId (revisions ++ [revision]) =
          revisionsOf family.policyFamilyId revisions ++ [revision] := by
        simp [revisionsOf, hext.ofFamily]
      unfold FamilyRow.LinkedBy FamilyRow.switch
      rw [hrev]
      exact (h.linked family hmem).concat hext.number hext.supersedes
    · have hrev : revisionsOf row.policyFamilyId (revisions ++ [revision]) =
          revisionsOf row.policyFamilyId revisions := by
        simp [revisionsOf, hext.ofFamily, Ne.symm hid]
      unfold FamilyRow.LinkedBy
      rw [hrev]
      exact h.linked row hrow
  shaped := by
    intro row hrow
    rcases List.mem_append.mp hrow with hrow | hrow
    · exact h.shaped row hrow
    · rw [List.mem_singleton.mp hrow]
      exact hext.shape

theorem Chained.written (h : Chained db.families db.revisions)
    (hwr : Written accountId family revision db db') : Chained db'.families db'.revisions := by
  obtain ⟨families, hprov, hfam⟩ := hwr.families
  rw [hfam, hwr.revisions]
  exact (h.provides hprov).switch hprov.mem hwr.extend

end

/-! ## The heads -/

section

variable {env : PolicyEnv} {outside db db' : PolicyDb} {tx : Transaction} {txs : List Transaction}
  {family : FamilyRow} {revision : RevisionRow} {accountId : Nat}

def heads (accountId : Nat) (db : PolicyDb) : List (PolicyFamilyId × Option PolicyRevisionId) :=
  (db.families.filter fun family => family.accountId = accountId).map fun family =>
    (family.policyFamilyId, family.currentRevisionId)

/-- What holds between transactions: no family is without a head. -/
structure Invariant (db : PolicyDb) : Prop where
  chained : Chained db.families db.revisions
  headed : ∀ family ∈ db.families, family.currentRevisionId ≠ none

variable {families : List FamilyRow} {familyId : PolicyFamilyId}

/-- A row of the family before the write is the family that is written to. -/
theorem Written.family_before (h : Chained db.families db.revisions)
    (hwr : Written accountId family revision db db') {row : FamilyRow}
    (hrow : row ∈ db.families) (hid : row.policyFamilyId = family.policyFamilyId) :
    row = family := by
  obtain ⟨families, hprov, -⟩ := hwr.families
  obtain rfl | ⟨-, -, -, hnew, -⟩ := hprov.created
  · exact eq_of_key_eq h.keys hrow hprov.mem hid
  · exact absurd hid (hnew row hrow)

theorem Written.mem_families (h : Chained db.families db.revisions)
    (hwr : Written accountId family revision db db') {row : FamilyRow} :
    row ∈ db'.families ↔ row = family.switch revision.policyRevisionId ∨
      row ∈ db.families ∧ row.policyFamilyId ≠ family.policyFamilyId := by
  obtain ⟨families, hprov, hfam⟩ := hwr.families
  rw [hfam, mem_switched (h.provides hprov).keys hprov.mem]
  obtain rfl | ⟨rfl, -⟩ := hprov.created
  · rfl
  · refine or_congr_right ⟨fun ⟨hrow, hid⟩ => ?_, fun ⟨hrow, hid⟩ =>
      ⟨List.mem_append_left _ hrow, hid⟩⟩
    rcases List.mem_append.mp hrow with hrow | hrow
    · exact ⟨hrow, hid⟩
    · exact absurd (congrArg _ (List.mem_singleton.mp hrow)) hid

theorem Invariant.written (h : Invariant db)
    (hwr : Written accountId family revision db db') : Invariant db' where
  chained := h.chained.written hwr
  headed := by
    intro row hrow
    obtain rfl | ⟨hrow, -⟩ := (hwr.mem_families h.chained).mp hrow
    · exact Option.some_ne_none _
    · exact h.headed row hrow

theorem Invariant.same (h : Invariant db) (hsame : SamePolicies db db') : Invariant db' := by
  obtain ⟨hfam, hrev, -⟩ := hsame
  exact ⟨hfam ▸ hrev ▸ h.chained, hfam ▸ h.headed⟩

theorem Invariant.step (h : Invariant db) (tx : Transaction) : Invariant (step env db tx) := by
  obtain ⟨accountId, hsame | ⟨family, revision, hwr⟩⟩ :=
    step_mayWrite env db tx
  · exact h.same hsame
  · exact h.written hwr

theorem invariant_migrated (outside : PolicyDb) : Invariant (migrated outside) :=
  ⟨.nil, fun _ hmem => absurd hmem List.not_mem_nil⟩

theorem invariant_run : Invariant (run env outside txs) := by
  induction txs using List.reverseRecOn with
  | nil => exact invariant_migrated outside
  | append_singleton txs tx ih =>
    rw [run_snoc]
    exact ih.step tx

/-! ## What a write changes -/

theorem Written.families_other (h : Chained db.families db.revisions)
    (hwr : Written accountId family revision db db') {other : Nat} (hne : other ≠ accountId) :
    (db'.families.filter fun row => row.accountId = other) =
      db.families.filter fun row => row.accountId = other := by
  obtain ⟨families, hprov, hfam⟩ := hwr.families
  have hswi : (switched family revision.policyRevisionId families).filter
        (fun row => row.accountId = other) =
      families.filter fun row => row.accountId = other := by
    unfold switched updateWhere
    rw [List.filter_map]
    have hcond : ∀ row : FamilyRow, ((fun row : FamilyRow => decide (row.accountId = other)) ∘
        fun row => if row.isAt family.policyFamilyId family.generation then
          row.switch revision.policyRevisionId else row) row = decide (row.accountId = other) := by
      intro row
      rw [Function.comp_apply]
      split <;> rfl
    rw [funext hcond]
    refine (List.map_congr_left fun row hrow => ?_).trans (List.map_id _)
    obtain ⟨hrow, hacc⟩ := List.mem_filter.mp hrow
    refine if_neg fun hat => ?_
    simp only [FamilyRow.isAt, Bool.and_eq_true, decide_eq_true_eq] at hat hacc
    have hsame := eq_of_key_eq (h.provides hprov).keys hrow hprov.mem hat.1
    exact hne (hacc.symm.trans ((congrArg _ hsame).trans hprov.account))
  rw [hfam, hswi]
  obtain rfl | ⟨rfl, -⟩ := hprov.created
  · rfl
  · have hout : ¬ family.accountId = other := fun heq => hne (heq.symm.trans hprov.account)
    rw [List.filter_append, List.filter_cons_of_neg (by simpa using hout), List.filter_nil,
      List.append_nil]

end

/-! ## Scripted policies

The account `10001` with a run that the Owner's command has started. -/

namespace Scripted

open ActionStore (ActionRunRow)
open ActionStore.Scripted (account commandEvent runId token)

/-- The local time is UTC, and nothing is parsed. -/
def chrono : Chrono where
  Tz := Unit
  parseTz := fun _ => none
  parseTime := fun _ => none
  parseDate := fun _ => none
  localOf := fun _ secs => some (secs / 86400, (secs % 86400).toNat)
  isSingle := fun _ _ _ => true

def env : PolicyEnv where
  digest := String.intercalate "/"
  artifactJson := fun artifact => artifact.auditReference
  chrono := chrono

/-- The run of the command, leased to `lease` up to 100. -/
def actionRun : ActionRunRow where
  runId := runId
  accountId := 1
  commandSourceEventId := commandEvent
  commandText := "帮我看看"
  conversationId := "owner-1"
  occurredAtUnixSecs := 1700000000
  timezoneOffsetSecs := 28800
  timezoneName := "Asia/Shanghai"
  recentEvents := []
  status := .running
  leaseToken := some (token "lease")
  leaseExpiresAt := some 100
  createdAt := 0
  updatedAt := 0

def outside : PolicyDb where
  actions := { runs := [actionRun], directory := ActionStore.Scripted.directory }
  policyEpoch := fun _ => 1
  families := []
  revisions := []
  feedback := []
  candidates := []
  requests := []
  decisions := []
  outbox := []
  sources := ⟨[], [], [], []⟩

/-- An effect of the run. -/
def effect (id : String) (action : SecretaryAction) : NotificationPolicyEffectRequest where
  account := account
  commandSourceEventId := commandEvent
  runId := runId
  effectId := id
  proposalId := id
  proposalJson := ⟨id, action, "r", [], some id⟩
  leaseToken := token "lease"
  action := action
  proposalId_eq := rfl
  action_eq := rfl

def newIds (id : String) : NewIds := ⟨⟨"family-" ++ id⟩, ⟨"revision-" ++ id⟩⟩

/-- The effect is applied, and the identifiers that it generates are its own. -/
def applied (id : String) (action : SecretaryAction) : Transaction :=
  .applyEffect (effect id action) (newIds id) 10

def actorKey (actorId : String) : NotificationMatchKeyV1 where
  account := account
  conversation := .absent
  actorId := .known actorId
  category := .absent
  mentionedOwner := .absent
  structuredImportance := .absent
  eventKind := .absent

/-- Automatic replies to an actor are denied, under a scope. -/
def denial (canonicalScopeKey actorId : String) : SecretaryAction :=
  .setAutomaticReplyDeniedForContact canonicalScopeKey (actorKey actorId)

end Scripted

end ServerRS.NotificationPolicy

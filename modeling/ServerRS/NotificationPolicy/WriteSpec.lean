import ServerRS.Lib.Revisions
import ServerRS.NotificationPolicy.Writes

/-!
# What a write of a policy does

Whatever path it takes, a write that commits appends one revision to one family, which may have
been created for it, switches the head of the family to that revision and raises the epoch of the
account (`Written`), or it leaves these tables alone. `Chained` is what every such write keeps:
the revisions of each family are a chain whose last one is the head.
-/

namespace ServerRS.NotificationPolicy

open Lib Lib.Except
open ActionStore (ActionRunRow EffectReceiptRow Timestamp)

/-! ## The families and revisions after a write -/

/-- The family that a write goes to, found or created. -/
structure Provides (accountId : Nat) (family : FamilyRow) (old new : List FamilyRow) : Prop where
  mem : family ∈ new
  account : family.accountId = accountId
  created : new = old ∨
    (new = old ++ [family] ∧ family.generation = 1 ∧ family.currentRevisionId = none ∧
      (∀ other ∈ old, other.policyFamilyId ≠ family.policyFamilyId) ∧
      ∀ other ∈ old,
        other.isScope family.accountId family.canonicalScopeKey family.policyKind = false)

/-- The revision that a write appends to its family. -/
structure Extends (family : FamilyRow) (revisions : List RevisionRow) (revision : RevisionRow) :
    Prop where
  ofFamily : revision.policyFamilyId = family.policyFamilyId
  number : revision.revisionNumber = family.generation
  supersedes : revision.supersedesRevisionId = family.currentRevisionId
  shape : revision.validate = .ok ()
  fresh : revisions.any revision.conflicts = false

/-- The families once the head has been switched. -/
def switched (family : FamilyRow) (revisionId : PolicyRevisionId) (families : List FamilyRow) :
    List FamilyRow :=
  updateWhere (FamilyRow.isAt family.policyFamilyId family.generation)
    (FamilyRow.switch revisionId) families

/-- What a write does to the tables of the policies. -/
structure Written (accountId : Nat) (family : FamilyRow) (revision : RevisionRow)
    (db db' : PolicyDb) : Prop where
  families : ∃ families, Provides accountId family db.families families ∧
    db'.families = switched family revision.policyRevisionId families
  extend : Extends family db.revisions revision
  revisions : db'.revisions = db.revisions ++ [revision]
  epoch : db'.policyEpoch =
    Function.update db.policyEpoch accountId (db.policyEpoch accountId + 1)

/-- The tables of the policies are those of `db`. -/
structure SamePolicies (db db' : PolicyDb) : Prop where
  families : db'.families = db.families
  revisions : db'.revisions = db.revisions
  epoch : db'.policyEpoch = db.policyEpoch

theorem SamePolicies.refl (db : PolicyDb) : SamePolicies db db := ⟨rfl, rfl, rfl⟩

theorem SamePolicies.trans {db db₁ db' : PolicyDb} (h : SamePolicies db db₁)
    (h' : SamePolicies db₁ db') : SamePolicies db db' :=
  ⟨h'.families.trans h.families, h'.revisions.trans h.revisions, h'.epoch.trans h.epoch⟩

theorem Written.of_same {accountId : Nat} {family : FamilyRow} {revision : RevisionRow}
    {db db₁ db₂ db' : PolicyDb} (h : Written accountId family revision db₁ db₂)
    (hbef : SamePolicies db db₁) (haft : SamePolicies db₂ db') :
    Written accountId family revision db db' := by
  obtain ⟨hfamil, hextend, hrev, hep⟩ := h
  rw [hbef.families] at hfamil
  rw [hbef.revisions] at hextend hrev
  rw [hbef.epoch] at hep
  exact ⟨haft.families ▸ hfamil, hextend, haft.revisions ▸ hrev,
    haft.epoch ▸ hep⟩

/-! ## One spec for each statement -/

section

variable {accountId : Nat} {family updated : FamilyRow} {db db' : PolicyDb}
  {canonicalScopeKey : String} {policyKind : NotificationPolicyKind} {familyId : PolicyFamilyId}

theorem createPolicyFamily_ok {new : PolicyFamilyId}
    (h : createPolicyFamily accountId canonicalScopeKey policyKind new db = .ok (family, db')) :
    ∃ families, Provides accountId family db.families families ∧ db' = { db with families } ∧
      family.isScope accountId canonicalScopeKey policyKind = true := by
  unfold createPolicyFamily at h
  split at h
  · cases h
  split at h
  · cases h
  next hid hsc =>
    obtain ⟨rfl, rfl⟩ := Prod.mk.inj (Except.ok.inj h)
    refine ⟨_, ⟨List.mem_concat_self, rfl, .inr ⟨rfl, rfl, rfl, ?_, ?_⟩⟩, rfl, ?_⟩
    · intro other hoth heq
      exact hid (List.any_eq_true.mpr ⟨other, hoth, decide_eq_true heq⟩)
    · intro other hoth
      exact Bool.eq_false_iff.mpr fun htrue => hsc (List.any_eq_true.mpr ⟨other, hoth, htrue⟩)
    · simp [FamilyRow.isScope]

theorem findFamilyByScope_some
    (h : findFamilyByScopeForUpdate accountId canonicalScopeKey policyKind db = some family) :
    family ∈ db.families ∧ family.isScope accountId canonicalScopeKey policyKind = true :=
  ⟨List.mem_of_find?_eq_some h, List.find?_some h⟩

theorem FamilyRow.isScope_account (h : family.isScope accountId canonicalScopeKey policyKind = true) :
    family.accountId = accountId := by
  simp only [FamilyRow.isScope, Bool.and_eq_true, decide_eq_true_eq] at h
  exact h.1.1

theorem provides_found
    (h : findFamilyByScopeForUpdate accountId canonicalScopeKey policyKind db = some family) :
    ∃ families, Provides accountId family db.families families ∧ db = { db with families } ∧
      family.isScope accountId canonicalScopeKey policyKind = true := by
  obtain ⟨hmem, hsc⟩ := findFamilyByScope_some h
  exact ⟨db.families, ⟨hmem, FamilyRow.isScope_account hsc, .inl rfl⟩, rfl, hsc⟩

theorem findOrCreateFamily_ok {new : PolicyFamilyId}
    (h : findOrCreateFamily accountId canonicalScopeKey policyKind new db = .ok (family, db')) :
    ∃ families, Provides accountId family db.families families ∧ db' = { db with families } ∧
      family.isScope accountId canonicalScopeKey policyKind = true := by
  unfold findOrCreateFamily at h
  split at h
  next found hfnd =>
    obtain ⟨rfl, rfl⟩ := Prod.mk.inj (Except.ok.inj h)
    exact provides_found hfnd
  next => exact createPolicyFamily_ok (mapError_eq_ok.mp h)

theorem findOrCreateFamilyAgain_ok {new : PolicyFamilyId}
    (h : findOrCreateFamilyAgain accountId canonicalScopeKey policyKind new db = .ok (family, db')) :
    ∃ families, Provides accountId family db.families families ∧ db' = { db with families } ∧
      family.isScope accountId canonicalScopeKey policyKind = true := by
  unfold findOrCreateFamilyAgain at h
  split at h
  next found hfnd =>
    obtain ⟨rfl, rfl⟩ := Prod.mk.inj (Except.ok.inj h)
    exact provides_found hfnd
  split at h
  next created hcreated =>
    cases h
    exact createPolicyFamily_ok hcreated
  · split at h
    · contradiction
    · cases h
  · cases h

theorem loadFamilyForUpdate_ok (h : loadFamilyForUpdate accountId familyId db = .ok family) :
    Provides accountId family db.families db.families ∧ family.policyFamilyId = familyId := by
  unfold loadFamilyForUpdate at h
  split at h
  next found hfnd =>
    cases h
    have hcond := List.find?_some hfnd
    rw [Bool.and_eq_true, decide_eq_true_eq, decide_eq_true_eq] at hcond
    exact ⟨⟨List.mem_of_find?_eq_some hfnd, hcond.2, .inl rfl⟩, hcond.1⟩
  · cases h

theorem fencedFamily_ok {expectedGeneration : UInt64}
    (h : fencedFamily accountId familyId expectedGeneration db = .ok family) :
    Provides accountId family db.families db.families ∧ family.policyFamilyId = familyId ∧
      family.generation = expectedGeneration.toNat := by
  obtain ⟨found, hfnd, h⟩ := bind_ok h
  split at h
  · cases h
  next hgen =>
    cases h
    exact ⟨(loadFamilyForUpdate_ok hfnd).1, (loadFamilyForUpdate_ok hfnd).2,
      not_not.mp hgen⟩

theorem requestedFamily_ok {request : NotificationPolicyWriteRequest} {new : PolicyFamilyId}
    (h : requestedFamily accountId request new db = .ok (family, db')) :
    ∃ families, Provides accountId family db.families families ∧ db' = { db with families } := by
  unfold requestedFamily at h
  split at h
  next familyId _ =>
    obtain ⟨found, hfnd, h⟩ := bind_ok h
    obtain ⟨rfl, rfl⟩ := Prod.mk.inj (Except.ok.inj h)
    exact ⟨_, (loadFamilyForUpdate_ok hfnd).1, rfl⟩
  · obtain ⟨families, hprov, hdb, -⟩ := findOrCreateFamily_ok h
    exact ⟨families, hprov, hdb⟩

variable {revisionKind : RevisionKind} {rule : Option NotificationPolicyRule}
  {command : Option String} {auditSummary : String} {new : PolicyRevisionId}
  {revision : RevisionRow}

theorem appendRevision_ok
    (h : appendRevision family revisionKind rule command auditSummary new db = .ok (revision, db')) :
    Extends family db.revisions revision ∧ revision.policyRevisionId = new ∧
      revision.revisionKind = revisionKind ∧ revision.rule = rule ∧
      db' = { db with revisions := db.revisions ++ [revision] } := by
  unfold appendRevision at h
  obtain ⟨_, -, h⟩ := bind_ok h
  obtain ⟨_, -, h⟩ := bind_ok h
  obtain ⟨_, hshape, h⟩ := bind_ok h
  split at h
  · cases h
  next hfr =>
    obtain ⟨rfl, rfl⟩ := Prod.mk.inj (Except.ok.inj h)
    exact ⟨⟨rfl, rfl, rfl, hshape, Bool.eq_false_iff.mpr fun hany => hfr (.inl hany)⟩, rfl, rfl,
      rfl, rfl⟩

theorem updateFamilyHead_ok {expectedGeneration : Nat}
    (h : updateFamilyHead familyId expectedGeneration new db = .ok (updated, db')) :
    db' = { db with
      families := updateWhere (FamilyRow.isAt familyId expectedGeneration)
        (FamilyRow.switch new) db.families } := by
  unfold updateFamilyHead at h
  split at h
  · cases h
  · obtain ⟨row, -, h⟩ := bind_ok h
    exact (Prod.mk.inj (Except.ok.inj h)).2.symm

theorem incrementPolicyEpoch_ok (h : incrementPolicyEpoch accountId db = .ok db') :
    db' = { db with
      policyEpoch := Function.update db.policyEpoch accountId (db.policyEpoch accountId + 1) } := by
  unfold incrementPolicyEpoch at h
  split at h
  · exact (Except.ok.inj h).symm
  · cases h

/-- The head of a provided family is switched to a new revision, and nothing else is touched. -/
theorem switchHead_ok {families : List FamilyRow}
    (hprov : Provides accountId family db.families families)
    (h : switchHead accountId family revisionKind rule command auditSummary new
      { db with families } = .ok (updated, db')) :
    ∃ revision, Written accountId family revision db db' ∧
      revision.policyRevisionId = new ∧ revision.revisionKind = revisionKind ∧
      revision.rule = rule ∧
      db' = { db with
        families := db'.families
        revisions := db'.revisions
        policyEpoch := db'.policyEpoch } := by
  obtain ⟨⟨revision, db₁⟩, hrevis, h⟩ := bind_ok h
  obtain ⟨⟨row, db₂⟩, hhead, h⟩ := bind_ok h
  obtain ⟨db₃, hep, h⟩ := bind_ok h
  obtain ⟨rfl, rfl⟩ := Prod.mk.inj (Except.ok.inj h)
  obtain ⟨hextends, hid, hkind, hrule, rfl⟩ := appendRevision_ok hrevis
  obtain rfl := updateFamilyHead_ok hhead
  obtain rfl := incrementPolicyEpoch_ok hep
  exact ⟨revision, ⟨⟨families, hprov, rfl⟩, hextends, rfl, rfl⟩, hid, hkind, hrule, rfl⟩

end

/-! ## One spec for each transaction -/

section

variable {env : PolicyEnv} {accountId : Nat} {new : NewIds} {db db' : PolicyDb}

/-- Everything next to the policies is left alone, but that feedback is added. -/
structure Confined (db db' : PolicyDb) : Prop where
  actions : db'.actions = db.actions
  feedback : db.feedback <+: db'.feedback
  candidates : db'.candidates = db.candidates
  requests : db'.requests = db.requests
  decisions : db'.decisions = db.decisions
  outbox : db'.outbox = db.outbox
  sources : db'.sources = db.sources

theorem Confined.refl (db : PolicyDb) : Confined db db :=
  ⟨rfl, List.prefix_rfl, rfl, rfl, rfl, rfl, rfl⟩

theorem Confined.of_written (h : db' = { db with
    families := db'.families
    revisions := db'.revisions
    policyEpoch := db'.policyEpoch }) : Confined db db' := by
  rw [h]
  exact ⟨rfl, List.prefix_rfl, rfl, rfl, rfl, rfl, rfl⟩

/-- The same, when runs and receipts are written too. -/
structure Around (db db' : PolicyDb) : Prop where
  directory : db'.actions.directory = db.actions.directory
  feedback : db.feedback <+: db'.feedback
  candidates : db'.candidates = db.candidates
  requests : db'.requests = db.requests
  decisions : db'.decisions = db.decisions
  outbox : db'.outbox = db.outbox
  sources : db'.sources = db.sources

theorem Around.refl (db : PolicyDb) : Around db db :=
  ⟨rfl, List.prefix_rfl, rfl, rfl, rfl, rfl, rfl⟩

theorem Around.trans {db₁ : PolicyDb} (h : Around db db₁) (h' : Around db₁ db') : Around db db' :=
  ⟨h'.directory.trans h.directory, h.feedback.trans h'.feedback,
    h'.candidates.trans h.candidates, h'.requests.trans h.requests,
    h'.decisions.trans h.decisions, h'.outbox.trans h.outbox, h'.sources.trans h.sources⟩

theorem Confined.around (h : Confined db db') : Around db db' :=
  ⟨congrArg _ h.actions, h.feedback, h.candidates, h.requests, h.decisions, h.outbox, h.sources⟩

/-- What may be written: one revision for a family of the account, or nothing. -/
def MayWrite (accountId : Nat) (db db' : PolicyDb) : Prop :=
  SamePolicies db db' ∨ ∃ family revision, Written accountId family revision db db'

variable {result : NotificationPolicyFamily} {receipt : SecretaryActionReceipt} {now : Timestamp}

theorem unlessCommanded_ok {account : SourceAccountRef} {command : Option String}
    {write : Except NotificationPolicyStoreError (FamilyRow × PolicyDb)}
    (h : unlessCommanded account accountId command db write = .ok (result, db')) :
    db' = db ∨ ∃ updated, write = .ok (updated, db') := by
  unfold unlessCommanded at h
  split at h
  · obtain ⟨family, -, h⟩ := bind_ok h
    obtain ⟨-, rfl⟩ := Prod.mk.inj (Except.ok.inj h)
    exact .inl rfl
  · obtain ⟨⟨updated, db₁⟩, hwrt, h⟩ := bind_ok h
    obtain ⟨family, -, h⟩ := bind_ok h
    obtain ⟨-, rfl⟩ := Prod.mk.inj (Except.ok.inj h)
    exact .inr ⟨updated, hwrt⟩

theorem createOrReplace_ok {request : NotificationPolicyWriteRequest}
    (h : createOrReplace request new db = .ok (result, db')) :
    ∃ accountId, MayWrite accountId db db' ∧ Confined db db' := by
  obtain ⟨_, -, h⟩ := bind_ok h
  obtain ⟨_, -, h⟩ := bind_ok h
  obtain ⟨accountId, -, h⟩ := bind_ok h
  refine ⟨accountId, ?_⟩
  obtain rfl | ⟨updated, hwrt⟩ := unlessCommanded_ok h
  · exact ⟨.inl (.refl _), .refl _⟩
  · obtain ⟨⟨family, db₁⟩, hfam, hwrt⟩ := bind_ok hwrt
    obtain ⟨families, hprov, rfl⟩ := requestedFamily_ok hfam
    obtain ⟨revision, hwr, -, -, -, hdb⟩ := switchHead_ok hprov hwrt
    exact ⟨.inr ⟨family, revision, hwr⟩, .of_written hdb⟩

/-- A tombstone is written for the family that the request names, at the generation that it
expects. -/
theorem disable_ok {request : NotificationPolicyDisableRequest}
    (h : disable request new db = .ok (result, db')) :
    db' = db ∨ ∃ accountId family revision, Written accountId family revision db db' ∧
      family ∈ db.families ∧ family.policyFamilyId = request.policyFamilyId ∧
      family.generation = request.expectedGeneration.toNat ∧ Confined db db' := by
  obtain ⟨_, -, h⟩ := bind_ok h
  obtain ⟨accountId, -, h⟩ := bind_ok h
  obtain rfl | ⟨updated, hwrt⟩ := unlessCommanded_ok h
  · exact .inl rfl
  · obtain ⟨family, hfam, hwrt⟩ := bind_ok hwrt
    obtain ⟨hprov, hid, hgen⟩ := fencedFamily_ok hfam
    obtain ⟨revision, hwr, -, -, -, hdb⟩ := switchHead_ok hprov hwrt
    exact .inr ⟨accountId, family, revision, hwr, hprov.mem, hid, hgen,
      .of_written hdb⟩

theorem promoteFeedbackToRule_ok {request : NotificationFeedbackRequest}
    (h : promoteFeedbackToRule accountId request new db = .ok db') :
    ∃ canonicalScopeKey policyKind family revision,
      feedbackPolicyScope request = .ok (canonicalScopeKey, policyKind) ∧
      family.isScope accountId canonicalScopeKey policyKind = true ∧
      Written accountId family revision db db' ∧ revision.revisionKind = .rule ∧
      revision.rule = some (basicPolicyRule request.matchKey
        (if request.important then .remind else .suppress) false) ∧
      db' = { db with
        families := db'.families
        revisions := db'.revisions
        policyEpoch := db'.policyEpoch } := by
  obtain ⟨⟨canonicalScopeKey, policyKind⟩, hkey, h⟩ := bind_ok h
  obtain ⟨⟨family, db₁⟩, hfam, h⟩ := bind_ok h
  obtain ⟨⟨updated, db₂⟩, hwrt, h⟩ := bind_ok h
  obtain rfl := Except.ok.inj h
  obtain ⟨families, hprov, rfl, hsc⟩ := findOrCreateFamily_ok hfam
  obtain ⟨revision, hwr, -, hkind, hrule, hdb⟩ := switchHead_ok hprov hwrt
  exact ⟨canonicalScopeKey, policyKind, family, revision, hkey, hsc, hwr, hkind, hrule,
    hdb⟩

/-- The feedback is not stored, or it is, and perhaps promoted. -/
theorem storeFeedback_cases {request : NotificationFeedbackRequest}
    (h : storeFeedback env accountId request new db = .ok db') :
    ∃ candidate, candidateId accountId request.candidate db = .ok candidate ∧
      (((db.feedback.any (feedbackRow env accountId candidate request).conflicts = true ∨
          knowsCommand db request.commandSourceEventId = false) ∧ db' = db) ∨
        (db.feedback.any (feedbackRow env accountId candidate request).conflicts = false ∧
          knowsCommand db request.commandSourceEventId = true ∧
          (if request.promoteToRule then
            promoteFeedbackToRule accountId request new
              { db with feedback := db.feedback ++ [feedbackRow env accountId candidate request] }
          else .ok
            { db with feedback := db.feedback ++ [feedbackRow env accountId candidate request] }) =
              .ok db')) := by
  obtain ⟨candidate, hcand, h⟩ := bind_ok h
  refine ⟨candidate, hcand, ?_⟩
  dsimp only at h
  split at h
  next hskip => exact .inl ⟨hskip, (Except.ok.inj h).symm⟩
  next hsto =>
    obtain ⟨hfr, hkn⟩ := not_or.mp hsto
    exact .inr ⟨Bool.eq_false_iff.mpr hfr, Bool.eq_true_of_not_eq_false hkn, h⟩

theorem storeFeedback_written {request : NotificationFeedbackRequest}
    (h : storeFeedback env accountId request new db = .ok db') :
    (SamePolicies db db' ∨ ∃ canonicalScopeKey policyKind family revision,
      feedbackPolicyScope request = .ok (canonicalScopeKey, policyKind) ∧
        family.isScope accountId canonicalScopeKey policyKind = true ∧
        Written accountId family revision db db') ∧ Confined db db' := by
  obtain ⟨candidate, -, ⟨-, rfl⟩ | ⟨-, -, h⟩⟩ := storeFeedback_cases h
  · exact ⟨.inl (.refl _), .refl _⟩
  split at h
  · obtain ⟨key, kind, family, revision, hkey, hsc, hwr, -, -, hdb⟩ :=
      promoteFeedbackToRule_ok h
    refine ⟨.inr ⟨key, kind, family, revision, hkey, hsc,
      hwr.of_same ⟨rfl, rfl, rfl⟩ (.refl _)⟩, ?_⟩
    obtain ⟨h₁, h₂, h₃, h₄, h₅, h₆, h₇⟩ := Confined.of_written hdb
    exact ⟨h₁, (List.prefix_append _ _).trans h₂, h₃, h₄, h₅, h₆, h₇⟩
  · obtain rfl := Except.ok.inj h
    exact ⟨.inl ⟨rfl, rfl, rfl⟩, rfl, List.prefix_append _ _, rfl, rfl, rfl, rfl, rfl⟩

theorem storeFeedback_ok {request : NotificationFeedbackRequest}
    (h : storeFeedback env accountId request new db = .ok db') :
    MayWrite accountId db db' ∧ Confined db db' := by
  obtain ⟨hsame | ⟨-, -, family, revision, -, -, hwr⟩, hconf⟩ := storeFeedback_written h
  · exact ⟨.inl hsame, hconf⟩
  · exact ⟨.inr ⟨family, revision, hwr⟩, hconf⟩

theorem feedbackPolicyScope_kind {request : NotificationFeedbackRequest} {key : String}
    {kind : NotificationPolicyKind} (h : feedbackPolicyScope request = .ok (key, kind)) :
    kind ≠ .automaticReplyDenied := by
  unfold feedbackPolicyScope at h
  split at h
  case h_5 => cases h
  all_goals
    obtain ⟨-, rfl⟩ := Prod.mk.inj (Except.ok.inj h)
    intro hkind
    cases hkind

theorem recordFeedback_ok {request : NotificationFeedbackRequest}
    (h : recordFeedback env request new db = .ok db') :
    ∃ accountId, MayWrite accountId db db' ∧ Confined db db' := by
  obtain ⟨_, -, h⟩ := bind_ok h
  obtain ⟨accountId, -, h⟩ := bind_ok h
  exact ⟨accountId, storeFeedback_ok h⟩

variable {request : NotificationPolicyEffectRequest} {resultRef : String}

/-- A rule is written for the scope that the action names. -/
theorem applyPolicyWriteEffect_ok {write : PolicyWrite}
    (h : applyPolicyWriteEffect env request accountId write new db = .ok (resultRef, db')) :
    ∃ family revision, family.isScope accountId write.canonicalScopeKey write.policyKind = true ∧
      Written accountId family revision db db' ∧ revision.policyRevisionId = new.revision ∧
      revision.revisionKind = .rule ∧ revision.rule = some write.rule ∧
      db' = { db with
        families := db'.families
        revisions := db'.revisions
        policyEpoch := db'.policyEpoch } := by
  obtain ⟨_, -, h⟩ := bind_ok h
  obtain ⟨_, -, h⟩ := bind_ok h
  obtain ⟨⟨family, db₁⟩, hfam, h⟩ := bind_ok h
  obtain ⟨⟨updated, db₂⟩, hwrt, h⟩ := bind_ok h
  obtain ⟨_, -, h⟩ := bind_ok h
  obtain ⟨-, rfl⟩ := Prod.mk.inj (Except.ok.inj h)
  obtain ⟨families, hprov, rfl, hsc⟩ := findOrCreateFamilyAgain_ok hfam
  obtain ⟨revision, hwr, hid, hkind, hrule, hdb⟩ := switchHead_ok hprov hwrt
  exact ⟨family, revision, hsc, hwr, hid, hkind, hrule, hdb⟩

theorem disablePolicyEffect_ok {familyId : PolicyFamilyId} {expectedGeneration : UInt64}
    (h : disablePolicyEffect env request accountId familyId expectedGeneration new db =
      .ok (resultRef, db')) :
    ∃ family revision, family ∈ db.families ∧ family.policyFamilyId = familyId ∧
      family.generation = expectedGeneration.toNat ∧ Written accountId family revision db db' ∧
      revision.policyRevisionId = new.revision ∧ revision.revisionKind = .tombstone ∧
      db' = { db with
        families := db'.families
        revisions := db'.revisions
        policyEpoch := db'.policyEpoch } := by
  obtain ⟨family, hfam, h⟩ := bind_ok h
  obtain ⟨⟨updated, db₂⟩, hwrt, h⟩ := bind_ok h
  obtain ⟨_, -, h⟩ := bind_ok h
  obtain ⟨-, rfl⟩ := Prod.mk.inj (Except.ok.inj h)
  obtain ⟨hprov, hid, hgen⟩ := fencedFamily_ok hfam
  obtain ⟨revision, hwr, hnew, hkind, -, hdb⟩ := switchHead_ok hprov hwrt
  exact ⟨family, revision, hprov.mem, hid, hgen, hwr, hnew, hkind, hdb⟩

theorem recordFeedbackEffect_ok {feedback : NotificationFeedbackRequest}
    (h : recordFeedbackEffect env request accountId feedback new db = .ok (resultRef, db')) :
    storeFeedback env accountId feedback new db = .ok db' := by
  obtain ⟨_, -, h⟩ := bind_ok h
  obtain ⟨_, -, h⟩ := bind_ok h
  obtain ⟨db₁, hsto, h⟩ := bind_ok h
  obtain ⟨-, rfl⟩ := Prod.mk.inj (Except.ok.inj h)
  exact hsto

/-- What an action that is applied does, arm by arm. -/
inductive Applies (request : NotificationPolicyEffectRequest) (accountId : Nat)
    (db db' : PolicyDb) : Prop
  | wrote {write : PolicyWrite} {family : FamilyRow} {revision : RevisionRow}
      (action : policyWriteOf request.action = some write)
      (scope : family.isScope accountId write.canonicalScopeKey write.policyKind = true)
      (written : Written accountId family revision db db')
      (kind : revision.revisionKind = .rule) (rule : revision.rule = some write.rule)
  | disabled {familyId : PolicyFamilyId} {expectedGeneration : UInt64} {family : FamilyRow}
      {revision : RevisionRow}
      (action : request.action = .disableNotificationPolicy familyId expectedGeneration)
      (mem : family ∈ db.families) (id : family.policyFamilyId = familyId)
      (written : Written accountId family revision db db')
      (kind : revision.revisionKind = .tombstone)
  | recorded {candidate : NotificationCandidateRef} {matchKey : NotificationMatchKeyV1}
      {important promoteToRule : Bool}
      (action : request.action =
        .recordNotificationFeedback candidate matchKey important promoteToRule)
      (same : SamePolicies db db')
  | promoted {candidate : NotificationCandidateRef} {matchKey : NotificationMatchKeyV1}
      {important promoteToRule : Bool} {key : String} {kind : NotificationPolicyKind}
      {family : FamilyRow} {revision : RevisionRow}
      (action : request.action =
        .recordNotificationFeedback candidate matchKey important promoteToRule)
      (kind_ne : kind ≠ .automaticReplyDenied)
      (scope : family.isScope accountId key kind = true)
      (written : Written accountId family revision db db')

theorem Applies.of_same {db₁ db₂ : PolicyDb} (h : Applies request accountId db₁ db₂)
    (hbef : SamePolicies db db₁) (haft : SamePolicies db₂ db') :
    Applies request accountId db db' := by
  cases h with
  | wrote hact hsc hwr hkind hrule =>
    exact .wrote hact hsc (hwr.of_same hbef haft) hkind hrule
  | disabled hact hmem hid hwr hkind =>
    exact .disabled hact (hbef.families ▸ hmem) hid (hwr.of_same hbef haft) hkind
  | recorded hact hsame => exact .recorded hact (hbef.trans (hsame.trans haft))
  | promoted hact hne hsc hwr =>
    exact .promoted hact hne hsc (hwr.of_same hbef haft)

theorem applyPolicyEffectAction_applies
    (h : applyPolicyEffectAction env request accountId new db = .ok (resultRef, db')) :
    Applies request accountId db db' ∧ Confined db db' := by
  unfold applyPolicyEffectAction at h
  split at h
  next write hwrt =>
    obtain ⟨family, revision, hsc, hwr, -, hkind, hrule, hdb⟩ := applyPolicyWriteEffect_ok h
    exact ⟨.wrote hwrt hsc hwr hkind hrule, .of_written hdb⟩
  split at h
  next familyId expectedGeneration hact =>
    obtain ⟨family, revision, hmem, hid, -, hwr, -, hkind, hdb⟩ := disablePolicyEffect_ok h
    exact ⟨.disabled hact hmem hid hwr hkind, .of_written hdb⟩
  next candidate matchKey important promoteToRule hact =>
    obtain ⟨hsame | ⟨key, kind, family, revision, hkey, hsc, hwr⟩, hconf⟩ :=
      storeFeedback_written (recordFeedbackEffect_ok h)
    · exact ⟨.recorded hact hsame, hconf⟩
    · exact ⟨.promoted hact (feedbackPolicyScope_kind hkey) hsc hwr, hconf⟩
  · cases h

theorem Applies.mayWrite (h : Applies request accountId db db') : MayWrite accountId db db' := by
  cases h with
  | wrote _ _ hwr => exact .inr ⟨_, _, hwr⟩
  | disabled _ _ _ hwr => exact .inr ⟨_, _, hwr⟩
  | recorded _ hsame => exact .inl hsame
  | promoted _ _ _ hwr => exact .inr ⟨_, _, hwr⟩

theorem applyPolicyEffectAction_ok
    (h : applyPolicyEffectAction env request accountId new db = .ok (resultRef, db')) :
    MayWrite accountId db db' ∧ Confined db db' :=
  ⟨(applyPolicyEffectAction_applies h).1.mayWrite, (applyPolicyEffectAction_applies h).2⟩

theorem unlessReplayed_ok
    {apply : Except NotificationPolicyStoreError (SecretaryActionReceipt × PolicyDb)}
    (h : unlessReplayed request db apply = .ok (receipt, db')) :
    (loadPolicyEffectReceipt request db = .ok (some receipt) ∧ db' = db) ∨
      (loadPolicyEffectReceipt request db = .ok none ∧ apply = .ok (receipt, db')) := by
  unfold unlessReplayed at h
  split at h
  · cases h
  next hload =>
    obtain ⟨rfl, rfl⟩ := Prod.mk.inj (Except.ok.inj h)
    exact .inl ⟨hload, rfl⟩
  next hload => exact .inr ⟨hload, h⟩

def receiptRow (request : NotificationPolicyEffectRequest) (resultRef : String) (now : Timestamp) :
    EffectReceiptRow :=
  ⟨request.effectId, request.runId, request.proposalJson, resultRef, now⟩

theorem storeReceipt_ok (hnew : loadPolicyEffectReceipt request db = .ok none)
    (h : storeReceipt request resultRef now db = .ok (receipt, db')) :
    receipt = ⟨request.proposalId, resultRef, some request.action.kind⟩ ∧
      db' = { db with actions := { db.actions with
        receipts := db.actions.receipts ++ [receiptRow request resultRef now] } } := by
  unfold storeReceipt at h
  rw [hnew] at h
  split at h
  · cases h
  · obtain ⟨rfl, rfl⟩ := Prod.mk.inj (Except.ok.inj h)
    exact ⟨rfl, rfl⟩

/-- An effect is a replay, or its action is applied under the lease of the run. -/
theorem applyEffect_ok (h : applyEffect env request new now db = .ok (receipt, db')) :
    (loadPolicyEffectReceipt request db = .ok (some receipt) ∧ db' = db) ∨
    ∃ accountId db₁ db₂ resultRef,
      loadPolicyEffectReceipt request db = .ok none ∧
      lockAccount request.account db = .ok accountId ∧
      verifyActionLease request accountId now db = .ok db₁ ∧
      verifyEffectOwnerAuthorization request accountId db₁ = .ok () ∧
      applyPolicyEffectAction env request accountId new db₁ = .ok (resultRef, db₂) ∧
      receipt = ⟨request.proposalId, resultRef, some request.action.kind⟩ ∧
      db' = { db₂ with actions := { db₂.actions with
        receipts := db₂.actions.receipts ++ [receiptRow request resultRef now] } } := by
  obtain ⟨hload, rfl⟩ | ⟨hload, h⟩ := unlessReplayed_ok h
  · exact .inl ⟨hload, rfl⟩
  obtain ⟨accountId, hacc, h⟩ := bind_ok h
  obtain ⟨db₁, hls, h⟩ := bind_ok h
  obtain ⟨_, howner, h⟩ := bind_ok h
  have hrcps : db₁.actions.receipts = db.actions.receipts := by
    unfold verifyActionLease at hls
    split at hls
    · cases hls
    · rw [← Except.ok.inj hls]
  have hload₁ : loadPolicyEffectReceipt request db₁ = .ok none := by
    unfold loadPolicyEffectReceipt
    rw [hrcps]
    exact hload
  obtain ⟨hload₂, -⟩ | ⟨-, h⟩ := unlessReplayed_ok h
  · rw [hload₁] at hload₂
    cases hload₂
  obtain ⟨⟨resultRef, db₂⟩, hact, h⟩ := bind_ok h
  have hload₂ : loadPolicyEffectReceipt request db₂ = .ok none := by
    unfold loadPolicyEffectReceipt
    rw [(applyPolicyEffectAction_ok hact).2.actions]
    exact hload₁
  obtain ⟨hrcp, hdb⟩ := storeReceipt_ok hload₂ h
  exact .inr ⟨accountId, db₁, db₂, resultRef, hload, hacc, hls, howner, hact, hrcp,
    hdb⟩

theorem verifyActionLease_same (h : verifyActionLease request accountId now db = .ok db') :
    SamePolicies db db' ∧ db'.actions.receipts = db.actions.receipts ∧ Around db db' := by
  unfold verifyActionLease at h
  split at h
  · cases h
  · obtain rfl := Except.ok.inj h
    exact ⟨⟨rfl, rfl, rfl⟩, rfl, rfl, List.prefix_rfl, rfl, rfl, rfl, rfl, rfl⟩

end

end ServerRS.NotificationPolicy

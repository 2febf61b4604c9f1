import ServerRS.NotificationPolicy.Chain

/-!
# Denials of automatic replies

The gate looks up the family under the scope `contact:` of the actor, while the scope of a denial
is a text that the action carries. `latestDenial` follows the accepted actions about one actor;
where the two texts agree, the gate answers what the latest of them says.
-/

namespace ServerRS.NotificationPolicy

open Lib Lib.Except

/-! ## The latest denial -/

/-- The action that the transaction carries out. A replay carries out nothing. -/
def accepted (env : PolicyEnv) (db : PolicyDb) : Transaction → Option NotificationPolicyEffectRequest
  | .applyEffect request new now =>
    if loadPolicyEffectReceipt request db = .ok none ∧
        (applyEffect env request new now db).toOption.isSome then some request
    else none
  | _ => none

/-- The actions of the Owner, as the executor hands them over, and everything that is not about
policies. -/
def Transaction.IsPolicyAction : Transaction → Prop
  | .applyEffect request _ _ => validateActionProposal request.proposalJson = .ok ()
  | .elsewhere _ => True
  | _ => False

section

variable (env : PolicyEnv) (account : SourceAccountRef) (actorId : String)

def familyOfScope (canonicalScopeKey : String) (policyKind : NotificationPolicyKind)
    (db : PolicyDb) : Option FamilyRow :=
  (lockAccount account db).toOption.bind fun accountId =>
    findFamilyByScopeForUpdate accountId canonicalScopeKey policyKind db

/-- What an accepted action says about the actor: `db'` is what it leaves behind. -/
def afterAction (db' : PolicyDb) (latest : Option PolicyFamilyId) :
    SecretaryAction → Option PolicyFamilyId
  | .setAutomaticReplyDeniedForContact canonicalScopeKey matchKey =>
    if matchKey.actorId = .known actorId then
      (familyOfScope account canonicalScopeKey .automaticReplyDenied db').map
        FamilyRow.policyFamilyId
    else latest
  | .disableNotificationPolicy familyId _ => if latest = some familyId then none else latest
  | _ => latest

/-- The policies next to the family of the latest denial of the actor, unless it has been disabled
since. -/
structure Followed where
  db : PolicyDb
  latest : Option PolicyFamilyId

def follow (followed : Followed) (tx : Transaction) : Followed where
  db := step env followed.db tx
  latest :=
    match accepted env followed.db tx with
    | some request =>
      if request.account = account then
        afterAction account actorId (step env followed.db tx) followed.latest request.action
      else followed.latest
    | none => followed.latest

def followRun (outside : PolicyDb) (txs : List Transaction) : Followed :=
  txs.foldl (follow env account actorId) ⟨migrated outside, none⟩

def latestDenial (outside : PolicyDb) (txs : List Transaction) : Option PolicyFamilyId :=
  (followRun env account actorId outside txs).latest

/-- A denial for the account names the actor exactly when its scope is the one of the actor. -/
def KeepsScope (request : NotificationPolicyEffectRequest) : Prop :=
  request.account = account → ∀ canonicalScopeKey matchKey,
    request.action = .setAutomaticReplyDeniedForContact canonicalScopeKey matchKey →
      (matchKey.actorId = .known actorId ↔
        sameText canonicalScopeKey (automaticReplyScopeKey actorId) = true)

/-- Every action that the run carries out keeps the scope. -/
def KeepsScopes (outside : PolicyDb) (txs : List Transaction) : Prop :=
  ∀ before tx after, txs = before ++ tx :: after → ∀ request,
    accepted env (run env outside before) tx = some request → KeepsScope account actorId request

end

section

variable {env : PolicyEnv} {outside db db' : PolicyDb} {tx : Transaction} {txs : List Transaction}
  {account : SourceAccountRef} {actorId : String}

theorem followRun_snoc : followRun env account actorId outside (txs ++ [tx]) =
    follow env account actorId (followRun env account actorId outside txs) tx := by
  unfold followRun
  rw [List.foldl_append]
  rfl

theorem followRun_db : (followRun env account actorId outside txs).db = run env outside txs := by
  induction txs using List.reverseRecOn with
  | nil => rfl
  | append_singleton txs tx ih =>
    rw [followRun_snoc, run_snoc, ← ih]
    rfl

/-! ## Accounts -/

theorem lockAccount_ok {accountId : Nat} (h : lockAccount account db = .ok accountId) :
    (accountId, account.channel, account.accountId) ∈ accountKeys db := by
  unfold lockAccount at h
  split at h
  next row hfind =>
    obtain rfl := Except.ok.inj h
    have hrow := List.find?_some hfind
    rw [Bool.and_eq_true, decide_eq_true_eq, decide_eq_true_eq] at hrow
    refine List.mem_map.mpr ⟨row, List.mem_of_find?_eq_some hfind, ?_⟩
    rw [hrow.1, hrow.2]
  · cases h

theorem lockAccount_of_mem (hkeys : WellKeyed db) {accountId : Nat}
    (h : (accountId, account.channel, account.accountId) ∈ accountKeys db) :
    lockAccount account db = .ok accountId := by
  cases hlock : lockAccount account db with
  | ok found =>
    have hsame := eq_of_key_eq hkeys.refs (lockAccount_ok hlock) h rfl
    rw [(Prod.mk.inj hsame).1]
  | error error =>
    obtain ⟨row, hrow, heq⟩ := List.mem_map.mp h
    obtain ⟨-, heq⟩ := Prod.mk.inj heq
    obtain ⟨hchan, hplat⟩ := Prod.mk.inj heq
    unfold lockAccount at hlock
    split at hlock
    · cases hlock
    next hfind =>
      have hno := List.find?_eq_none.mp hfind row hrow
      rw [hchan, hplat] at hno
      simp at hno

/-- Two accounts have two identifiers. -/
theorem lockAccount_inj (hkeys : WellKeyed db) {other : SourceAccountRef} {accountId : Nat}
    (h : lockAccount account db = .ok accountId) (h' : lockAccount other db = .ok accountId) :
    account = other := by
  have hsame := eq_of_key_eq hkeys.ids (lockAccount_ok h) (lockAccount_ok h') rfl
  obtain ⟨-, heq⟩ := Prod.mk.inj hsame
  obtain ⟨hchan, hplat⟩ := Prod.mk.inj heq
  cases account
  cases other
  simp_all

/-! ## Families of a scope -/

variable {accountId writer : Nat} {key : String} {kind : NotificationPolicyKind}
  {family other : FamilyRow} {revision : RevisionRow}

theorem isScope_iff : family.isScope accountId key kind = true ↔
    family.accountId = accountId ∧ sameText family.canonicalScopeKey key = true ∧
      family.policyKind = kind := by
  unfold FamilyRow.isScope
  rw [Bool.and_eq_true, Bool.and_eq_true, decide_eq_true_eq, decide_eq_true_eq, and_assoc]

@[simp] theorem switch_isScope {revisionId : PolicyRevisionId} :
    (family.switch revisionId).isScope accountId key kind = family.isScope accountId key kind := rfl

section

variable (h : Chained db.families db.revisions)
include h

theorem Chained.scope_unique (hfam : family ∈ db.families)
    (hoth : other ∈ db.families) (hsc : family.isScope accountId key kind = true)
    (hsc' : other.isScope accountId key kind = true) : family = other := by
  refine eq_of_pairwise (p := fun row => row.isScope accountId key kind = true) h.scopes ?_
    hfam hoth hsc hsc'
  intro a b ha hb hno
  obtain ⟨ha₁, ha₂, ha₃⟩ := isScope_iff.mp ha
  obtain ⟨hb₁, hb₂, hb₃⟩ := isScope_iff.mp hb
  refine Bool.eq_false_iff.mp hno (isScope_iff.mpr ⟨hb₁.trans ha₁.symm, ?_, hb₃.trans ha₃.symm⟩)
  exact sameText_trans hb₂ (sameText_comm a.canonicalScopeKey key ▸ ha₂)

theorem Chained.find_scope (hfam : family ∈ db.families)
    (hsc : family.isScope accountId key kind = true) :
    findFamilyByScopeForUpdate accountId key kind db = some family := by
  cases hfind : findFamilyByScopeForUpdate accountId key kind db with
  | none => exact absurd hsc (List.find?_eq_none.mp hfind family hfam)
  | some found =>
    obtain ⟨hfnd, hfoundScope⟩ := findFamilyByScope_some hfind
    rw [h.scope_unique hfnd hfam hfoundScope hsc]

theorem Written.find_scope_self (hwr : Written writer family revision db db')
    (hsc : family.isScope accountId key kind = true) :
    findFamilyByScopeForUpdate accountId key kind db' =
      some (family.switch revision.policyRevisionId) :=
  (h.written hwr).find_scope ((hwr.mem_families h).mpr (.inl rfl))
    (switch_isScope.trans hsc)

theorem Written.find_scope_other (hwr : Written writer family revision db db')
    (hsc : family.isScope accountId key kind = false) :
    findFamilyByScopeForUpdate accountId key kind db' =
      findFamilyByScopeForUpdate accountId key kind db := by
  cases hfind : findFamilyByScopeForUpdate accountId key kind db with
  | none =>
    refine List.find?_eq_none.mpr fun row hrow hrowScope => ?_
    obtain rfl | ⟨hrow, -⟩ := (hwr.mem_families h).mp hrow
    · rw [switch_isScope, hsc] at hrowScope
      cases hrowScope
    · exact List.find?_eq_none.mp hfind row hrow hrowScope
  | some row =>
    obtain ⟨hrow, hrowScope⟩ := findFamilyByScope_some hfind
    refine (h.written hwr).find_scope ((hwr.mem_families h).mpr (.inr ⟨hrow, ?_⟩))
      hrowScope
    intro hid
    rw [hwr.family_before h hrow hid, hsc] at hrowScope
    cases hrowScope

end

/-! ## The rule at the head -/

theorem Written.headRule_self (hwr : Written writer family revision db db') :
    headRule db' (family.switch revision.policyRevisionId) =
      if revision.revisionKind = .rule then revision.rule else none := by
  have hold : (db.revisions.find? fun row =>
      row.policyFamilyId = (family.switch revision.policyRevisionId).policyFamilyId &&
        some row.policyRevisionId =
          (family.switch revision.policyRevisionId).currentRevisionId &&
        row.revisionKind = .rule) = none := by
    refine List.find?_eq_none.mpr fun row hrow hhead => ?_
    rw [Bool.and_eq_true, Bool.and_eq_true] at hhead
    exact hwr.extend.fresh_id row hrow (Option.some.inj (of_decide_eq_true hhead.1.2))
  unfold headRule
  rw [hwr.revisions, List.find?_append, hold]
  by_cases hkind : revision.revisionKind = .rule
  · simp [FamilyRow.switch, hwr.extend.ofFamily, hkind]
  · simp [hkind]

theorem Written.headRule_other (hwr : Written writer family revision db db')
    (hid : other.policyFamilyId ≠ family.policyFamilyId) : headRule db' other = headRule db other := by
  unfold headRule
  rw [hwr.revisions, List.find?_append]
  simp [hwr.extend.ofFamily, Ne.symm hid]

/-! ## What the gate reads -/

def denyingFamily (accountId : Nat) (actorId : String) (db : PolicyDb) : Option PolicyFamilyId :=
  (findFamilyByScopeForUpdate accountId (automaticReplyScopeKey actorId) .automaticReplyDenied
    db).bind fun family =>
      if (headRule db family).any fun rule => rule.matchKey.actorId = .known actorId then
        some family.policyFamilyId
      else none

theorem denyingFamily_isSome :
    (denyingFamily accountId actorId db).isSome =
      ((findFamilyByScopeForUpdate accountId (automaticReplyScopeKey actorId)
        .automaticReplyDenied db).bind (headRule db)).any fun rule =>
          rule.matchKey.actorId = .known actorId := by
  unfold denyingFamily
  cases findFamilyByScopeForUpdate accountId (automaticReplyScopeKey actorId)
      .automaticReplyDenied db with
  | none => rfl
  | some family =>
    rw [Option.bind_some, Option.bind_some]
    split
    next hany => rw [hany]; rfl
    next hany => rw [Bool.eq_false_iff.mpr hany]; rfl

theorem denyingFamily_same (hsame : SamePolicies db db') :
    denyingFamily accountId actorId db' = denyingFamily accountId actorId db := by
  unfold denyingFamily findFamilyByScopeForUpdate headRule
  rw [hsame.families, hsame.revisions]

/-- A write to a family of another scope. -/
theorem Written.denyingFamily_other (h : Chained db.families db.revisions)
    (hwr : Written writer family revision db db')
    (hsc : family.isScope accountId (automaticReplyScopeKey actorId) .automaticReplyDenied =
      false) : denyingFamily accountId actorId db' = denyingFamily accountId actorId db := by
  unfold denyingFamily
  rw [hwr.find_scope_other h hsc]
  cases hfind : findFamilyByScopeForUpdate accountId (automaticReplyScopeKey actorId)
      .automaticReplyDenied db with
  | none => rfl
  | some found =>
    obtain ⟨hfnd, hfoundScope⟩ := findFamilyByScope_some hfind
    have hid : found.policyFamilyId ≠ family.policyFamilyId := by
      intro hid
      rw [hwr.family_before h hfnd hid, hsc] at hfoundScope
      cases hfoundScope
    rw [Option.bind_some, Option.bind_some, hwr.headRule_other hid]

/-- A write to the family of the scope. -/
theorem Written.denyingFamily_self (h : Chained db.families db.revisions)
    (hwr : Written writer family revision db db')
    (hsc : family.isScope accountId (automaticReplyScopeKey actorId) .automaticReplyDenied =
      true) : denyingFamily accountId actorId db' =
        if (if revision.revisionKind = .rule then revision.rule else none).any fun rule =>
          rule.matchKey.actorId = .known actorId then some family.policyFamilyId else none := by
  unfold denyingFamily
  rw [hwr.find_scope_self h hsc, Option.bind_some, hwr.headRule_self]
  rfl

/-! ## Following a run -/

variable {latest : Option PolicyFamilyId} {request : NotificationPolicyEffectRequest}

/-- An action that is carried out has locked its account, and leaves the accounts alone. -/
theorem accepted_some (h : accepted env db tx = some request) :
    ∃ writer, lockAccount request.account db = .ok writer ∧
      Applies request writer db (step env db tx) ∧
      (step env db tx).actions.directory = db.actions.directory := by
  cases tx with
  | applyEffect request' new now =>
    simp only [accepted] at h
    split at h
    next hnew =>
      obtain rfl := Option.some.inj h
      cases happ : applyEffect env request' new now db with
      | error error => rw [happ] at hnew; cases hnew.2
      | ok result =>
        obtain ⟨hload, -⟩ | ⟨writer, db₁, db₂, resultRef, -, hacc, hls, -, hact, -, hdb⟩ :=
          applyEffect_ok happ
        · rw [hnew.1] at hload
          cases hload
        · obtain ⟨happl, hconf⟩ := applyPolicyEffectAction_applies hact
          have hstep : step env db (.applyEffect request' new now) = result.2 := by
            simp only [step, happ, committed]
          rw [hstep, hdb]
          refine ⟨writer, hacc,
            happl.of_same (verifyActionLease_same hls).1 ⟨rfl, rfl, rfl⟩, ?_⟩
          exact hconf.around.directory.trans (verifyActionLease_same hls).2.2.directory
    · cases h
  | _ => simp [accepted] at h

/-- Nothing is carried out. -/
theorem accepted_none (hact : tx.IsPolicyAction) (h : accepted env db tx = none) :
    step env db tx = db ∨ ∃ outside, tx = .elsewhere outside := by
  cases tx with
  | applyEffect request new now =>
    left
    show committed db (applyEffect env request new now db) = db
    cases happ : applyEffect env request new now db with
    | error error => rfl
    | ok result =>
      obtain ⟨-, hsame⟩ | ⟨writer, db₁, db₂, resultRef, hload, -⟩ := applyEffect_ok happ
      · exact hsame
      · simp [accepted, hload, happ, Except.toOption] at h
  | elsewhere outside => exact .inr ⟨outside, rfl⟩
  | _ => exact hact.elim

/-- What holds along a run that keeps the scopes. -/
structure Tracks (account : SourceAccountRef) (actorId : String) (db : PolicyDb)
    (latest : Option PolicyFamilyId) : Prop where
  inv : Invariant db
  keys : WellKeyed db
  owned : ∀ family ∈ db.families, ∃ key ∈ accountKeys db, key.1 = family.accountId
  latest_eq : latest =
    (lockAccount account db).toOption.bind fun accountId => denyingFamily accountId actorId db

theorem lockAccount_congr (h : db'.actions.directory = db.actions.directory) :
    lockAccount account db' = lockAccount account db := by
  unfold lockAccount
  rw [h]

theorem accountKeys_congr (h : db'.actions.directory = db.actions.directory) :
    accountKeys db' = accountKeys db := by
  unfold accountKeys
  rw [h]

/-- A family that is written to is one of the account that is locked. -/
theorem Written.scope_of_ne (hwr : Written writer family revision db db')
    (hne : accountId ≠ writer) : family.isScope accountId key kind = false := by
  obtain ⟨families, hprov, -⟩ := hwr.families
  refine Bool.eq_false_iff.mpr fun htrue => hne ?_
  exact (isScope_iff.mp htrue).1.symm.trans hprov.account

theorem scope_of_kind_ne {key' : String} {kind' : NotificationPolicyKind}
    (hsc : family.isScope accountId key' kind' = true) (hne : kind' ≠ kind) :
    family.isScope accountId key kind = false := by
  refine Bool.eq_false_iff.mpr fun htrue => hne ?_
  exact (isScope_iff.mp hsc).2.2.symm.trans (isScope_iff.mp htrue).2.2

/-- An action of another account. -/
theorem Applies.denyingFamily_other (h : Chained db.families db.revisions)
    (happl : Applies request writer db db') (hne : accountId ≠ writer) :
    denyingFamily accountId actorId db' = denyingFamily accountId actorId db := by
  obtain hsame | ⟨family, revision, hwr⟩ := happl.mayWrite
  · exact denyingFamily_same hsame
  · exact hwr.denyingFamily_other h (hwr.scope_of_ne hne)

/-- The actions that write a rule: the denials and the others. -/
theorem policyWriteOf_cases (account : SourceAccountRef) (actorId : String) (db' : PolicyDb)
    {action : SecretaryAction} {write : PolicyWrite} (h : policyWriteOf action = some write) :
    (∃ scope matchKey, action = .setAutomaticReplyDeniedForContact scope matchKey ∧
      write = ⟨scope, .automaticReplyDenied, basicPolicyRule matchKey .suppress false,
        "owner denied automatic reply for contact"⟩) ∨
    (write.policyKind ≠ .automaticReplyDenied ∧
      ∀ latest, afterAction account actorId db' latest action = latest) := by
  cases action
  case setAutomaticReplyDeniedForContact scope matchKey =>
    exact .inl ⟨scope, matchKey, rfl, (Option.some.inj h).symm⟩
  all_goals first
    | (obtain rfl := Option.some.inj h
       exact .inr ⟨by simp, fun _ => rfl⟩)
    | cases h

/-- An action of the account: the gate reads what the action says. -/
theorem Applies.denyingFamily_eq (h : Chained db.families db.revisions)
    (happl : Applies request accountId db db')
    (hkeeps : KeepsScope account actorId request) (hacc : request.account = account)
    (hlock : lockAccount account db' = .ok accountId) :
    afterAction account actorId db' (denyingFamily accountId actorId db) request.action =
      denyingFamily accountId actorId db' := by
  cases happl with
  | wrote hact hsc hwr hkind hrule =>
    obtain ⟨scope, matchKey, hdenial, rfl⟩ | ⟨hne, haft⟩ :=
      policyWriteOf_cases account actorId db' hact
    · have hiff := hkeeps hacc scope matchKey hdenial
      rw [hdenial, afterAction]
      by_cases hactor : matchKey.actorId = .known actorId
      · have hself := (isScope_iff.mp hsc).2.1
        rw [if_pos hactor, hwr.denyingFamily_self h (isScope_iff.mpr
          ⟨(isScope_iff.mp hsc).1, sameText_trans hself (hiff.mp hactor),
            (isScope_iff.mp hsc).2.2⟩), if_pos hkind,
          hrule, familyOfScope, hlock, Except.toOption, Option.bind_some,
          hwr.find_scope_self h hsc]
        simp [basicPolicyRule, hactor, FamilyRow.switch]
      · rw [if_neg hactor]
        refine (hwr.denyingFamily_other h (Bool.eq_false_iff.mpr fun htrue => ?_)).symm
        refine hactor (hiff.mpr (sameText_trans ?_ (isScope_iff.mp htrue).2.1))
        rw [sameText_comm]
        exact (isScope_iff.mp hsc).2.1
    · rw [haft, hwr.denyingFamily_other h (scope_of_kind_ne hsc hne)]
  | @disabled familyId _ family _ hact hmem hid hwr hkind =>
    rw [hact]
    show (if denyingFamily accountId actorId db = some familyId then none
      else denyingFamily accountId actorId db) = _
    cases hsc : family.isScope accountId (automaticReplyScopeKey actorId)
        .automaticReplyDenied with
    | true =>
      rw [hwr.denyingFamily_self h hsc, hkind]
      unfold denyingFamily
      rw [h.find_scope hmem hsc, Option.bind_some, hid]
      split <;> simp
    | false =>
      have hoth : denyingFamily accountId actorId db ≠ some familyId := by
        intro hdenies
        obtain ⟨found, hfind, hfnd⟩ := Option.bind_eq_some_iff.mp hdenies
        obtain ⟨hfoundMem, hfoundScope⟩ := findFamilyByScope_some hfind
        split at hfnd
        · have hsame := eq_of_key_eq h.keys hfoundMem hmem
            ((Option.some.inj hfnd).trans hid.symm)
          rw [hsame, hsc] at hfoundScope
          cases hfoundScope
        · cases hfnd
      rw [if_neg hoth, hwr.denyingFamily_other h hsc]
  | recorded hact hsame =>
    rw [hact]
    exact (denyingFamily_same hsame).symm
  | promoted hact hne hsc hwr =>
    rw [hact]
    exact (hwr.denyingFamily_other h (scope_of_kind_ne hsc hne)).symm

theorem Applies.owned (happl : Applies request writer db db')
    (hlock : lockAccount account db = .ok writer)
    (hown : ∀ family ∈ db.families, ∃ key ∈ accountKeys db, key.1 = family.accountId) :
    ∀ family ∈ db'.families, ∃ key ∈ accountKeys db, key.1 = family.accountId := by
  intro row hrow
  obtain hsame | ⟨family, revision, hwr⟩ := happl.mayWrite
  · exact hown row (hsame.families ▸ hrow)
  obtain ⟨families, hprov, hfamil⟩ := hwr.families
  have hacc : ∀ row ∈ families, ∃ key ∈ accountKeys db, key.1 = row.accountId := by
    obtain rfl | ⟨rfl, -⟩ := hprov.created
    · exact hown
    · intro row hrow
      rcases List.mem_append.mp hrow with hrow | hrow
      · exact hown row hrow
      · rw [List.mem_singleton.mp hrow, hprov.account]
        exact ⟨_, lockAccount_ok hlock, rfl⟩
  rw [hfamil] at hrow
  obtain ⟨old, hold, rfl⟩ := mem_updateWhere.mp hrow
  split
  · exact hacc old hold
  · exact hacc old hold

theorem Tracks.accepted (htrk : Tracks account actorId db latest)
    (hacpt : accepted env db tx = some request) (hkeeps : KeepsScope account actorId request) :
    Tracks account actorId (step env db tx)
      (if request.account = account then
        afterAction account actorId (step env db tx) latest request.action
      else latest) := by
  obtain ⟨writer, hwrit, happl, hdir⟩ := accepted_some hacpt
  have hcha := htrk.inv.chained
  have hkeys : accountKeys (step env db tx) = accountKeys db := accountKeys_congr hdir
  have hlock : lockAccount account (step env db tx) = lockAccount account db :=
    lockAccount_congr hdir
  refine ⟨htrk.inv.step tx, ⟨hkeys ▸ htrk.keys.ids, hkeys ▸ htrk.keys.refs⟩,
    hkeys ▸ happl.owned hwrit htrk.owned, ?_⟩
  rw [hlock, htrk.latest_eq]
  by_cases hacc : request.account = account
  · rw [if_pos hacc]
    rw [hacc] at hwrit
    rw [hwrit, Except.toOption, Option.bind_some, Option.bind_some]
    exact happl.denyingFamily_eq hcha hkeeps hacc (hlock.trans hwrit)
  · rw [if_neg hacc]
    cases hoth : lockAccount account db with
    | error error => rfl
    | ok accountId =>
      rw [Except.toOption, Option.bind_some, Option.bind_some]
      refine (happl.denyingFamily_other hcha ?_).symm
      rintro rfl
      exact hacc (lockAccount_inj htrk.keys hwrit hoth)

/-- An account that has just been added has no families. -/
theorem denyingFamily_of_unowned (h : ∀ family ∈ db.families, family.accountId ≠ accountId) :
    denyingFamily accountId actorId db = none := by
  unfold denyingFamily
  have hnone : findFamilyByScopeForUpdate accountId (automaticReplyScopeKey actorId)
      .automaticReplyDenied db = none :=
    List.find?_eq_none.mpr fun family hfam hsc =>
      h family hfam (isScope_iff.mp hsc).1
  rw [hnone, Option.bind_none]

theorem Tracks.elsewhere (htrk : Tracks account actorId db latest) :
    Tracks account actorId (elsewhere outside db) latest := by
  by_cases hkept : WellKeyed outside ∧ ∀ key ∈ accountKeys db, key ∈ accountKeys outside
  · obtain ⟨hkeys, hmem⟩ := hkept
    have hsame : SamePolicies db (NotificationPolicy.elsewhere outside db) := by
      unfold NotificationPolicy.elsewhere
      rw [if_pos ⟨hkeys, hmem⟩]
      exact ⟨rfl, rfl, rfl⟩
    have hdir : (NotificationPolicy.elsewhere outside db).actions.directory =
        outside.actions.directory := by
      unfold NotificationPolicy.elsewhere
      rw [if_pos ⟨hkeys, hmem⟩]
    have haft : accountKeys (NotificationPolicy.elsewhere outside db) = accountKeys outside :=
      accountKeys_congr hdir
    refine ⟨htrk.inv.same hsame, ⟨haft ▸ hkeys.ids, haft ▸ hkeys.refs⟩, ?_, ?_⟩
    · intro family hfam
      obtain ⟨key, hkey, hid⟩ := htrk.owned family (hsame.families ▸ hfam)
      exact ⟨key, haft ▸ hmem key hkey, hid⟩
    · rw [htrk.latest_eq, lockAccount_congr hdir]
      cases hlock : lockAccount account db with
      | ok accountId =>
        rw [lockAccount_of_mem hkeys (hmem _ (lockAccount_ok hlock))]
        exact (denyingFamily_same hsame).symm
      | error error =>
        cases hnew : lockAccount account outside with
        | error error => rfl
        | ok accountId =>
          rw [Except.toOption, Except.toOption, Option.bind_none, Option.bind_some,
            denyingFamily_of_unowned]
          intro family hfam hid
          -- the family's account was known before, so it is this one
          obtain ⟨key, hkey, howner⟩ := htrk.owned family (hsame.families ▸ hfam)
          have heq := eq_of_key_eq hkeys.ids (hmem key hkey) (lockAccount_ok hnew)
            (howner.trans hid)
          rw [heq] at hkey
          rw [lockAccount_of_mem htrk.keys hkey] at hlock
          cases hlock
  · unfold NotificationPolicy.elsewhere
    rw [if_neg hkept]
    exact htrk

theorem tracks_followRun (hkeys : WellKeyed outside)
    (hacti : ∀ tx ∈ txs, tx.IsPolicyAction) (hscs : KeepsScopes env account actorId outside txs) :
    Tracks account actorId (followRun env account actorId outside txs).db
      (followRun env account actorId outside txs).latest := by
  induction txs using List.reverseRecOn with
  | nil =>
    refine ⟨invariant_migrated outside, ⟨hkeys.ids, hkeys.refs⟩, fun _ hmem =>
        absurd hmem List.not_mem_nil, ?_⟩
    cases hlock : lockAccount account (migrated outside) with
    | error error => simp [followRun, hlock, Except.toOption]
    | ok accountId => simp [followRun, Except.toOption, denyingFamily,
        findFamilyByScopeForUpdate, migrated]
  | append_singleton txs tx ih =>
    have htrk := ih (fun tx htx => hacti tx (List.mem_append_left _ htx))
      fun before tx' after hspl => hscs before tx' (after ++ [tx]) (by simp [hspl])
    have hact := hacti tx (List.mem_append_right _ List.mem_cons_self)
    rw [followRun_snoc]
    unfold follow
    dsimp only
    cases hacpt : accepted env (followRun env account actorId outside txs).db tx with
    | some request =>
      refine htrk.accepted hacpt (hscs txs tx [] rfl request ?_)
      rw [← hacpt, followRun_db]
    | none =>
      obtain hsame | ⟨outside', rfl⟩ := accepted_none hact hacpt
      · rw [hsame]
        exact htrk
      · exact htrk.elsewhere

end

/-! ## The gate -/

/-- Where every denial that is carried out for the account names the actor exactly when its scope
is the one of the actor, the gate denies exactly while the latest denial stands. -/
theorem automaticReplyIsDenied_iff_latestDenial (env : PolicyEnv) (outside : PolicyDb)
    (hkeys : WellKeyed outside) (account : SourceAccountRef) (actorId : String)
    (hactor : isBlank actorId = false) (txs : List Transaction)
    (hactions : ∀ tx ∈ txs, tx.IsPolicyAction)
    (hscopes : KeepsScopes env account actorId outside txs) (accountId : Nat)
    (haccount : lockAccount account (run env outside txs) = .ok accountId) :
    automaticReplyIsDenied account actorId (run env outside txs) =
      .ok (latestDenial env account actorId outside txs).isSome := by
  have htrk := tracks_followRun hkeys hactions hscopes
  have hlat := htrk.latest_eq
  rw [followRun_db, haccount, Except.toOption, Option.bind_some] at hlat
  unfold automaticReplyIsDenied latestDenial
  rw [hactor, if_neg Bool.false_ne_true, loadAccountId, haccount, hlat, denyingFamily_isSome]
  rfl

namespace Scripted

open ActionStore.Scripted (account)

/-- The Owner denies automatic replies to `a` and to `b`. -/
def denials : List Transaction :=
  [applied "1" (denial "contact:a" "a"), applied "2" (denial "contact:b" "b")]

theorem keepsScopes_denials : KeepsScopes env account "a" outside denials := by
  intro before tx after hspl request hacpt hacc scope matchKey hact
  have hmem : tx ∈ denials := hspl ▸ List.mem_append_right _ List.mem_cons_self
  have hreq : ∀ tx ∈ denials, ∀ db, accepted env db tx = some request →
      request = effect "1" (denial "contact:a" "a") ∨
        request = effect "2" (denial "contact:b" "b") := by
    intro tx htx db h
    rcases List.mem_pair.mp htx with rfl | rfl
    · simp only [accepted, applied] at h
      split at h
      · exact .inl (Option.some.inj h).symm
      · cases h
    · simp only [accepted, applied] at h
      split at h
      · exact .inr (Option.some.inj h).symm
      · cases h
  rcases hreq tx hmem _ hacpt with rfl | rfl
  · obtain ⟨rfl, rfl⟩ := SecretaryAction.setAutomaticReplyDeniedForContact.inj hact
    decide
  · obtain ⟨rfl, rfl⟩ := SecretaryAction.setAutomaticReplyDeniedForContact.inj hact
    decide

theorem isPolicyAction_applied {id : String} {action : SecretaryAction}
    (h : validateActionProposal (effect id action).proposalJson = .ok ()) :
    (applied id action).IsPolicyAction := h

end Scripted

open Scripted in
open ActionStore.Scripted (account) in
theorem automaticReplyIsDenied_iff_latestDenial_scripted :
    automaticReplyIsDenied account "a" (run env outside denials) = .ok true ∧
      latestDenial env account "a" outside denials = some ⟨"family-1"⟩ := by
  have hlat : latestDenial env account "a" outside denials = some ⟨"family-1"⟩ := by
    decide +kernel
  refine ⟨?_, hlat⟩
  rw [automaticReplyIsDenied_iff_latestDenial env outside (by decide) account "a" (by decide)
    denials ?_ keepsScopes_denials 1 (by decide +kernel), hlat]
  · rfl
  · intro tx htx
    rcases List.mem_pair.mp htx with rfl | rfl
    · exact isPolicyAction_applied (by decide)
    · exact isPolicyAction_applied (by decide +kernel)

open Scripted in
open ActionStore.Scripted (account) in
/-- A denial that names `a` under any other text does not deny, and one that names `b` under the
scope of `a` takes away what was denied. -/
theorem denial_under_another_scope_is_lost :
    validateActionProposal (effect "1" (denial "no automatic replies to a" "a")).proposalJson =
        .ok () ∧
      latestDenial env account "a" outside
        [applied "1" (denial "no automatic replies to a" "a")] = some ⟨"family-1"⟩ ∧
      automaticReplyIsDenied account "a"
        (run env outside [applied "1" (denial "no automatic replies to a" "a")]) = .ok false ∧
      validateActionProposal (effect "2" (denial "contact:a" "b")).proposalJson = .ok () ∧
      latestDenial env account "a" outside
        [applied "1" (denial "contact:a" "a"), applied "2" (denial "contact:a" "b")] =
          some ⟨"family-1"⟩ ∧
      automaticReplyIsDenied account "a" (run env outside
        [applied "1" (denial "contact:a" "a"), applied "2" (denial "contact:a" "b")]) =
          .ok false := by
  decide

end ServerRS.NotificationPolicy

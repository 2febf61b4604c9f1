import Mathlib.Data.List.ReduceOption
import ServerRS.NotificationPolicy.Decisions
import ServerRS.NotificationPolicy.Denial

/-!
# Feedback takes effect

Models the sources of `mysql_notification_candidate_producer.rs` with the match keys that they give
their candidates. A feedback that is promoted becomes the rule of a category, which decides the
candidates with the same key: a rule matches a key in every field or not at all, and the kinds of
rules are asked in the order of `precedence`.
-/

namespace ServerRS.NotificationPolicy

open Lib Lib.Except

/-! ## Candidates -/

inductive LockedNotificationSource where
  | agenda (itemId : String) (version : UInt64) (account : SourceAccountRef)
  | followUp (followUpId : String) (sourceVersion : UInt64) (account : SourceAccountRef)
  | responseExpectation (expectationId : String) (sourceVersion : UInt64)
      (account : SourceAccountRef) (conversation : ConversationRef) (actorId : String)
  | projectBlocker (followUpId : String) (sourceVersion : UInt64) (account : SourceAccountRef)
deriving DecidableEq

namespace LockedNotificationSource

def account : LockedNotificationSource → SourceAccountRef
  | .agenda _ _ account => account
  | .followUp _ _ account => account
  | .responseExpectation _ _ account _ _ => account
  | .projectBlocker _ _ account => account

def category : LockedNotificationSource → NotificationCategory
  | .agenda .. => .agenda
  | _ => .followUp

def eventKind : LockedNotificationSource → EventKind
  | .agenda .. => .agendaDue
  | .followUp .. => .followUpDue
  | .responseExpectation .. => .responseOverdue
  | .projectBlocker .. => .projectBlocked

def conversation : LockedNotificationSource → MatchField ConversationRef
  | .responseExpectation _ _ _ conversation _ => .known conversation
  | _ => .absent

def actorId : LockedNotificationSource → MatchField String
  | .responseExpectation _ _ _ _ actorId => .known actorId
  | _ => .absent

def candidateRef : LockedNotificationSource → NotificationCandidateRef
  | .agenda itemId version account => ⟨"agenda", itemId, version, account⟩
  | .followUp followUpId version account => ⟨"follow_up", followUpId, version, account⟩
  | .responseExpectation expectationId version account _ _ =>
    ⟨"response_expectation", expectationId, version, account⟩
  | .projectBlocker followUpId version account => ⟨"follow_up", followUpId, version, account⟩

/-- The key that `produce_from_locked_source` gives the candidate. -/
def matchKey (source : LockedNotificationSource) : NotificationMatchKeyV1 where
  account := source.account
  conversation := source.conversation
  actorId := source.actorId
  category := .known source.category
  mentionedOwner := .known false
  structuredImportance := .known .normal
  eventKind := .known source.eventKind

/-- The candidate is about nobody in particular. -/
def isImpersonal : LockedNotificationSource → Bool
  | .responseExpectation .. => false
  | _ => true

end LockedNotificationSource

section

variable {env : PolicyEnv} {chrono : Chrono} {db db' : PolicyDb} {source : LockedNotificationSource}
  {snapshot : EvaluationSnapshot} {now : Int} {input : EvaluationInput}

/-- A key of a candidate matches itself: no field of it is unknown. -/
theorem matchKey_matches : notificationMatchKeyMatches source.matchKey source.matchKey = true := by
  cases source <;>
    simp [notificationMatchKeyMatches, LockedNotificationSource.matchKey, MatchField.«matches»,
      LockedNotificationSource.conversation, LockedNotificationSource.actorId]

theorem feedbackPolicyScope_impersonal (himp : source.isImpersonal = true)
    {request : NotificationFeedbackRequest} (hkey : request.matchKey = source.matchKey) :
    feedbackPolicyScope request =
      .ok ("category:" ++ NotificationCategory.asStr source.category, .category) := by
  unfold feedbackPolicyScope
  rw [hkey]
  cases source with
  | responseExpectation => cases himp
  | _ => rfl

/-! ## The order of the rules -/

def precedence : List NotificationPolicyKind := [.conversation, .contact, .category, .accountDefault]

/-- Nothing that comes before or after the rules gets in their way. -/
structure Ordinary (chrono : Chrono) (snapshot : EvaluationSnapshot) (now : Int) : Prop where
  current : snapshot.candidateIsCurrent = true
  unambiguous : ∃ input, snapshot.evaluationInput now = .ok input ∧ input.isSilenced = false ∧
    ∀ rule, input.quietHours = some rule → quietHoursResult chrono rule now = .ok false

theorem evaluationInput_ok (h : snapshot.evaluationInput now = .ok input) :
    input.candidateIsCurrent = snapshot.candidateIsCurrent ∧ input.nowUnixSecs = now ∧
      input.matchingRule = (snapshot.matchingRules .conversation).head?.map
        PolicyRuleSnapshot.rule ∧
      input.contactRule = (snapshot.matchingRules .contact).head?.map PolicyRuleSnapshot.rule ∧
      input.categoryRule = (snapshot.matchingRules .category).head?.map PolicyRuleSnapshot.rule ∧
      input.accountDefaultRule = (snapshot.matchingRules .accountDefault).head?.map
        PolicyRuleSnapshot.rule := by
  obtain ⟨conversation, hconv, h⟩ := bind_ok h
  obtain ⟨contactRule, hcont, h⟩ := bind_ok h
  obtain ⟨categoryRule, hcat, h⟩ := bind_ok h
  obtain ⟨defaultRule, hdef, h⟩ := bind_ok h
  obtain ⟨quietHours, -, h⟩ := bind_ok h
  obtain rfl := Except.ok.inj h
  exact ⟨rfl, rfl, ruleFor_ok hconv, ruleFor_ok hcont, ruleFor_ok hcat,
    ruleFor_ok hdef⟩

theorem Ordinary.plan_eq (h : Ordinary chrono snapshot now) :
    ∃ input, snapshot.evaluationInput now = .ok input ∧
      snapshot.plan chrono now = input.decideBySelected := by
  obtain ⟨hcur, input, hin, hsil, hquiet⟩ := h
  obtain ⟨hinputCurrent, hnow, -⟩ := evaluationInput_ok hin
  refine ⟨input, hin, ?_⟩
  unfold EvaluationSnapshot.plan evaluate
  rw [hin]
  dsimp only
  rw [hinputCurrent, hcur, hsil, hnow]
  cases hrule : input.quietHours with
  | none => rfl
  | some rule =>
    rw [Option.map_some, hquiet rule hrule]
    rfl

variable {winner : PolicyRuleSnapshot} {before after : List NotificationPolicyKind}
  {family : FamilyRow} {revision : RevisionRow} {effect : NotificationPolicyEffectRequest}

/-- A rule that is the only one is the first one. -/
theorem onlyRule_head {rules : List PolicyRuleSnapshot} {rule : Option PolicyRuleSnapshot}
    (h : onlyRule rules = .ok rule) (hmem : winner ∈ rules) : rules.head? = some winner := by
  unfold onlyRule at h
  split at h
  · exact absurd hmem List.not_mem_nil
  · rw [List.mem_singleton.mp hmem]
    rfl
  · cases h

theorem ruleFor_head {kind : NotificationPolicyKind} {rule : Option NotificationPolicyRule}
    (h : snapshot.ruleFor kind = .ok rule) (hmem : winner ∈ snapshot.matchingRules kind) :
    (snapshot.matchingRules kind).head? = some winner := by
  obtain ⟨found, hfnd, -⟩ := bind_ok h
  exact onlyRule_head hfnd hmem

theorem Ordinary.head (h : Ordinary chrono snapshot now) {kind : NotificationPolicyKind}
    (hkind : kind ∈ precedence) (hwin : winner ∈ snapshot.matchingRules kind) :
    (snapshot.matchingRules kind).head? = some winner := by
  obtain ⟨-, input, hin, -⟩ := h
  obtain ⟨conversation, hconv, h⟩ := bind_ok hin
  obtain ⟨contactRule, hcont, h⟩ := bind_ok h
  obtain ⟨categoryRule, hcat, h⟩ := bind_ok h
  obtain ⟨defaultRule, hdef, -⟩ := bind_ok h
  simp only [precedence, List.mem_cons, List.not_mem_nil, or_false] at hkind
  rcases hkind with rfl | rfl | rfl | rfl
  · exact ruleFor_head hconv hwin
  · exact ruleFor_head hcont hwin
  · exact ruleFor_head hcat hwin
  · exact ruleFor_head hdef hwin

/-- The rule that is found first when the kinds are asked one after the other. -/
def firstRule (snapshot : EvaluationSnapshot) (kinds : List NotificationPolicyKind) :
    Option NotificationPolicyRule :=
  kinds.findSome? fun kind => (snapshot.matchingRules kind).head?.map PolicyRuleSnapshot.rule

theorem decideBySelected_firstRule (hin : snapshot.evaluationInput now = .ok input) :
    input.decideBySelected.outcome =
      ((firstRule snapshot precedence).map NotificationPolicyRule.outcome).getD .remind := by
  obtain ⟨-, -, hconv, hcont, hcat, hdef⟩ := evaluationInput_ok hin
  unfold EvaluationInput.decideBySelected EvaluationInput.selectedRule firstRule precedence
  simp only [List.findSome?_cons, List.findSome?_nil]
  rw [hconv, hcont, hcat, hdef]
  cases (snapshot.matchingRules .conversation).head? with
  | some rule => rfl
  | none =>
    cases (snapshot.matchingRules .contact).head? with
    | some rule => rfl
    | none =>
      cases (snapshot.matchingRules .category).head? with
      | some rule => rfl
      | none =>
        cases (snapshot.matchingRules .accountDefault).head? with
        | some rule => rfl
        | none => rfl

/-- The first kind that has a rule for the candidate decides it. -/
theorem Ordinary.outcome_of_first (h : Ordinary chrono snapshot now) {kind : NotificationPolicyKind}
    (hkind : precedence = before ++ kind :: after) (hwin : winner ∈ snapshot.matchingRules kind)
    (hbef : ∀ earlier ∈ before, snapshot.matchingRules earlier = []) :
    (snapshot.plan chrono now).outcome = winner.rule.outcome := by
  obtain ⟨input, hin, hplan⟩ := h.plan_eq
  have hmem : kind ∈ precedence := hkind ▸ List.mem_append_right _ List.mem_cons_self
  have hnone : before.findSome? (fun kind =>
      (snapshot.matchingRules kind).head?.map PolicyRuleSnapshot.rule) = none := by
    refine List.findSome?_eq_none_iff.mpr fun earlier hear => ?_
    rw [hbef earlier hear]
    rfl
  have hfst : firstRule snapshot precedence = some winner.rule := by
    unfold firstRule
    rw [hkind, List.findSome?_append, hnone, Option.none_or, List.findSome?_cons,
      h.head hmem hwin]
    rfl
  rw [hplan, decideBySelected_firstRule hin, hfst]
  rfl

/-! ## Rules in force -/

/-- The head of a family of the account is the rule. -/
def InForce (accountId : Nat) (kind : NotificationPolicyKind) (rule : NotificationPolicyRule)
    (db : PolicyDb) : Prop :=
  ∃ family ∈ db.families, family.accountId = accountId ∧ family.policyKind = kind ∧
    ∃ revision ∈ db.revisions, revision.policyFamilyId = family.policyFamilyId ∧
      family.currentRevisionId = some revision.policyRevisionId ∧
      revision.revisionKind = .rule ∧ revision.rule = some rule

variable {accountId : Nat} {kind : NotificationPolicyKind} {rule : NotificationPolicyRule}

theorem InForce.same (h : InForce accountId kind rule db) (hsame : SamePolicies db db') :
    InForce accountId kind rule db' := by
  unfold InForce
  rw [hsame.families, hsame.revisions]
  exact h

/-- The families and the revisions are loaded with their heads. -/
theorem mem_policyHeads (hinv : Invariant db) (hfam : family ∈ db.families)
    (hacc : family.accountId = accountId) (hrev : revision ∈ db.revisions)
    (hown : revision.policyFamilyId = family.policyFamilyId)
    (hhead : family.currentRevisionId = some revision.policyRevisionId) :
    ⟨family, revision⟩ ∈ policyHeads accountId db := by
  unfold policyHeads
  rw [List.mem_insertionSort, List.mem_filterMap]
  refine ⟨family, List.mem_filter.mpr ⟨hfam, decide_eq_true hacc⟩, ?_⟩
  unfold headRow
  rw [hhead]
  cases hfind : db.revisions.find? fun row => row.policyFamilyId = family.policyFamilyId &&
      some row.policyRevisionId = some revision.policyRevisionId with
  | none =>
    have hnot := List.find?_eq_none.mp hfind revision hrev
    simp [hown] at hnot
  | some found =>
    have hfnd := List.find?_some hfind
    rw [Bool.and_eq_true, decide_eq_true_eq, decide_eq_true_eq] at hfnd
    rw [eq_of_key_eq hinv.chained.ids (List.mem_of_find?_eq_some hfind) hrev
      (Option.some.inj hfnd.2)]
    rfl

/-- A rule in force is one of the active rules of every snapshot of its account. -/
theorem InForce.mem_activeRules (h : InForce accountId kind rule db) (hinv : Invariant db)
    {row : EvaluationSnapshotRow} (hacc : row.managedAccountId = accountId)
    (hload : readHeads row db = .ok snapshot) :
    ∃ winner ∈ snapshot.activeRules, winner.policyKind = kind ∧ winner.rule = rule := by
  obtain ⟨family, hfam, hof, rfl, revision, hrev, hown, hhead, hrule, hsome⟩ := h
  have hmem := mem_policyHeads hinv hfam (hof.trans hacc.symm) hrev hown hhead
  obtain ⟨-, -, -, -, -, -, rules, hrules, hactv⟩ := snapshotOf_ok hload
  obtain ⟨found, hfnd, hread⟩ := mapM_ok_mem hrules hmem
  unfold ruleSnapshot at hread
  dsimp only at hread
  rw [hrule, hsome] at hread
  dsimp only at hread
  split at hread
  · cases hread
  · obtain rfl := Except.ok.inj hread
    refine ⟨⟨family.policyFamilyId, revision.policyRevisionId, family.generation,
      family.policyKind, rule⟩, ?_, rfl, rfl⟩
    rw [hactv]
    exact List.reduceOption_mem_iff.2 hfnd

/-! ## Accounts and loads -/

/-- `load_evaluation_snapshot`, when nothing happens between its two reads. -/
def loadEvaluationSnapshot (claim : ClaimedEvaluation) (now : Int) (db : PolicyDb) :
    Except NotificationPolicyStoreError EvaluationSnapshot := do
  let row ← readCandidate claim now db
  readHeads row db

variable {claim : ClaimedEvaluation} {readAt : Int}

/-- What is loaded is about the account that the candidate's key names. -/
theorem loadEvaluationSnapshot_ok (hkeys : WellKeyed db)
    (h : loadEvaluationSnapshot claim readAt db = .ok snapshot) :
    ∃ row, readHeads row db = .ok snapshot ∧
      lockAccount snapshot.candidateMatchKey.account db = .ok row.managedAccountId := by
  obtain ⟨row, hrow, h⟩ := bind_ok h
  obtain ⟨-, hacc, hkeyed, -⟩ := readCandidate_ok hrow
  obtain ⟨-, hkey, -⟩ := snapshotOf_ok h
  refine ⟨row, h, lockAccount_of_mem hkeys ?_⟩
  rw [hkey, hkeyed]
  exact hacc

variable {tx : Transaction} {txs : List Transaction} {account : SourceAccountRef}

theorem step_accounts (hkeys : WellKeyed db) :
    WellKeyed (step env db tx) ∧ ∀ key ∈ accountKeys db, key ∈ accountKeys (step env db tx) := by
  by_cases hwrt : ∀ outside, tx ≠ .elsewhere outside
  · have hsame : accountKeys (step env db tx) = accountKeys db :=
      accountKeys_congr (step_around env db hwrt).directory
    exact ⟨⟨hsame ▸ hkeys.ids, hsame ▸ hkeys.refs⟩, hsame ▸ fun _ hkey => hkey⟩
  · obtain ⟨outside, htx⟩ := not_forall.mp hwrt
    rw [not_not.mp htx]
    simp only [step, elsewhere]
    split
    next hkept => exact ⟨⟨hkept.1.ids, hkept.1.refs⟩, hkept.2⟩
    · exact ⟨hkeys, fun _ hkey => hkey⟩

theorem foldl_accounts (hkeys : WellKeyed db) :
    WellKeyed (txs.foldl (step env) db) ∧
      ∀ key ∈ accountKeys db, key ∈ accountKeys (txs.foldl (step env) db) := by
  induction txs generalizing db with
  | nil => exact ⟨hkeys, fun _ hkey => hkey⟩
  | cons tx txs ih =>
    have hnext : WellKeyed (step env db tx) := (step_accounts hkeys).1
    exact ⟨(ih hnext).1, fun key hkey => (ih hnext).2 key ((step_accounts hkeys).2 key hkey)⟩

theorem foldl_lockAccount (hkeys : WellKeyed db) (h : lockAccount account db = .ok accountId) :
    lockAccount account (txs.foldl (step env) db) = .ok accountId :=
  lockAccount_of_mem (foldl_accounts hkeys).1 ((foldl_accounts hkeys).2 _ (lockAccount_ok h))

/-! ## Feedback -/

variable {request : NotificationFeedbackRequest} {new : NewIds}

theorem Written.inForce (h : Written accountId family revision db db')
    (hkind : revision.revisionKind = .rule) (hrule : revision.rule = some rule) :
    InForce accountId family.policyKind rule db' := by
  obtain ⟨families, hprov, hswit⟩ := h.families
  refine ⟨family.switch revision.policyRevisionId, ?_, hprov.account, rfl, revision, ?_,
    h.extend.ofFamily, rfl, hkind, hrule⟩
  · rw [hswit]
    refine mem_updateWhere.mpr ⟨family, hprov.mem, if_pos ?_⟩
    simp [FamilyRow.isAt]
  · rw [h.revisions]
    exact List.mem_concat_self

def Transaction.feedback : Transaction → Option NotificationFeedbackRequest
  | .recordFeedback request _ => some request
  | .applyEffect request _ _ =>
    match request.action with
    | .recordNotificationFeedback candidate matchKey important promoteToRule =>
      some ⟨candidate, matchKey, important, promoteToRule, request.commandSourceEventId.asStr⟩
    | _ => none
  | _ => none

/-- The transaction commits and does not just answer a stored receipt. -/
def CarriedOut (env : PolicyEnv) (db : PolicyDb) : Transaction → Prop
  | .recordFeedback request new => ∃ db', recordFeedback env request new db = .ok db'
  | .applyEffect request new now =>
    loadPolicyEffectReceipt request db = .ok none ∧
      ∃ result, applyEffect env request new now db = .ok result
  | _ => False

/-- `INSERT IGNORE` makes a row: no row has one of its keys, and its command is stored. -/
def storesRow (db : PolicyDb) (row : FeedbackRow) : Bool :=
  !db.feedback.any row.conflicts && knowsCommand db row.commandSourceEventId

theorem storeFeedback_feedback (h : storeFeedback env accountId request new db = .ok db') :
    ∃ candidate, candidateId accountId request.candidate db = .ok candidate ∧
      db'.feedback = if storesRow db (feedbackRow env accountId candidate request) then
        db.feedback ++ [feedbackRow env accountId candidate request] else db.feedback := by
  obtain ⟨candidate, hcand, ⟨hskip, rfl⟩ | ⟨hfr, hkn, h⟩⟩ := storeFeedback_cases h
  · have hnot : storesRow db' (feedbackRow env accountId candidate request) = false := by
      unfold storesRow
      rcases hskip with hconf | hunk
      · rw [hconf, Bool.not_true, Bool.false_and]
      · rw [show (feedbackRow env accountId candidate request).commandSourceEventId =
          request.commandSourceEventId from rfl, hunk, Bool.and_false]
    exact ⟨candidate, hcand, by rw [hnot, if_neg Bool.false_ne_true]⟩
  · have hstores : storesRow db (feedbackRow env accountId candidate request) = true := by
      unfold storesRow
      rw [hfr, Bool.not_false, Bool.true_and]
      exact hkn
    refine ⟨candidate, hcand, ?_⟩
    rw [if_pos hstores]
    split at h
    · obtain ⟨-, -, -, -, -, -, -, -, -, hdb⟩ := promoteFeedbackToRule_ok h
      rw [hdb]
    · obtain rfl := Except.ok.inj h
      rfl

theorem verifyActionLease_actions {now : ActionStore.Timestamp}
    (h : verifyActionLease effect accountId now db = .ok db') :
    ∃ runs, db' = { db with actions := { db.actions with runs } } := by
  unfold verifyActionLease at h
  split at h
  · cases h
  · exact ⟨_, (Except.ok.inj h).symm⟩

theorem recordFeedbackEffect_account {resultRef : String}
    (h : recordFeedbackEffect env effect accountId request new db = .ok (resultRef, db')) :
    request.candidate.account = effect.account := by
  obtain ⟨_, hchk, -⟩ := bind_ok h
  unfold checkFeedbackAccounts at hchk
  split at hchk
  · cases hchk
  next hsame => exact not_not.mp (not_or.mp hsame).1

theorem Transaction.feedback_applyEffect {new : NewIds} {now : ActionStore.Timestamp}
    (hfeed : (Transaction.applyEffect effect new now).feedback = some request) :
    ∃ candidate matchKey important promoteToRule, effect.action =
      .recordNotificationFeedback candidate matchKey important promoteToRule ∧
        request = ⟨candidate, matchKey, important, promoteToRule,
          effect.commandSourceEventId.asStr⟩ := by
  unfold Transaction.feedback at hfeed
  dsimp only at hfeed
  split at hfeed
  next candidate matchKey important promoteToRule hact =>
    exact ⟨candidate, matchKey, important, promoteToRule, hact, (Option.some.inj hfeed).symm⟩
  · cases hfeed

/-- A transaction that carries its feedback out stores it in the tables that it found, except that
an effect touches its run before and leaves its receipt after it. -/
theorem step_carriedOut {tx : Transaction} (hfeed : tx.feedback = some request)
    (hout : CarriedOut env db tx) :
    ∃ accountId new runs db₂, lockAccount request.candidate.account db = .ok accountId ∧
      storeFeedback env accountId request new
        { db with actions := { db.actions with runs } } = .ok db₂ ∧
      (step env db tx).feedback = db₂.feedback ∧ SamePolicies db₂ (step env db tx) := by
  cases tx with
  | recordFeedback request' new =>
    obtain rfl := Option.some.inj hfeed
    obtain ⟨db', h⟩ := hout
    have hstep : step env db (.recordFeedback request' new) = db' := by
      simp only [step, h, Except.map, committed]
    obtain ⟨-, -, h⟩ := bind_ok h
    obtain ⟨accountId, hacc, h⟩ := bind_ok h
    exact ⟨accountId, new, db.actions.runs, db', hacc, h, by rw [hstep], hstep ▸ .refl _⟩
  | applyEffect effect new now =>
    obtain ⟨hnone, ⟨receipt, db'⟩, h⟩ := hout
    obtain ⟨candidate, matchKey, important, promoteToRule, hact, rfl⟩ :=
      Transaction.feedback_applyEffect hfeed
    have hstep : step env db (.applyEffect effect new now) = db' := by
      simp only [step, h, committed]
    obtain ⟨hsome, -⟩ | ⟨accountId, db₁, db₂, resultRef, -, hacc, hls, -, happ, -, hdb⟩ :=
      applyEffect_ok h
    · rw [hnone] at hsome
      cases hsome
    obtain ⟨runs, rfl⟩ := verifyActionLease_actions hls
    unfold applyPolicyEffectAction at happ
    rw [hact] at happ
    exact ⟨accountId, new, runs, db₂, recordFeedbackEffect_account happ ▸ hacc,
      recordFeedbackEffect_ok happ, by rw [hstep, hdb], hstep ▸ hdb ▸ ⟨rfl, rfl, rfl⟩⟩
  | createOrReplace request' new => cases hfeed
  | disable request' new => cases hfeed
  | elsewhere outside => cases hfeed

theorem step_not_carriedOut {tx : Transaction} (hfeed : tx.feedback = some request)
    (hnot : ¬CarriedOut env db tx) : (step env db tx).feedback = db.feedback := by
  cases tx with
  | recordFeedback request' new =>
    cases h : recordFeedback env request' new db with
    | error error => simp only [step, h, Except.map, committed]
    | ok db' => exact absurd ⟨db', h⟩ hnot
  | applyEffect effect new now =>
    cases h : applyEffect env effect new now db with
    | error error => simp only [step, h, committed]
    | ok result =>
      obtain ⟨-, hsame⟩ | ⟨-, -, -, -, hnone, -⟩ := applyEffect_ok h
      · simp only [step, h, committed, hsame]
      · exact absurd ⟨hnone, result, h⟩ hnot
  | createOrReplace request' new => cases hfeed
  | disable request' new => cases hfeed
  | elsewhere outside => cases hfeed

/-- When the table of the feedback grows, the promotion of the feedback is in force. -/
theorem step_promoted {tx : Transaction} (hfeed : tx.feedback = some request)
    (hstd : (step env db tx).feedback ≠ db.feedback) (hprom : request.promoteToRule = true) :
    ∃ accountId, lockAccount request.candidate.account db = .ok accountId ∧
      ∃ scope, feedbackPolicyScope request = .ok scope ∧
        InForce accountId scope.2 (basicPolicyRule request.matchKey
          (if request.important then .remind else .suppress) false) (step env db tx) := by
  have hout : CarriedOut env db tx := by
    by_contra hnot
    exact hstd (step_not_carriedOut hfeed hnot)
  obtain ⟨accountId, new, runs, db₂, hacc, hsto, hsame, hpol⟩ := step_carriedOut hfeed hout
  obtain ⟨candidate, hcand, ⟨-, rfl⟩ | ⟨-, -, h⟩⟩ := storeFeedback_cases hsto
  · exact absurd hsame hstd
  rw [if_pos hprom] at h
  obtain ⟨key, kind, family, revision, hkey, hsc, hwr, hkind, hrule, -⟩ :=
    promoteFeedbackToRule_ok h
  have hof : family.policyKind = kind := by
    simp only [FamilyRow.isScope, Bool.and_eq_true, decide_eq_true_eq] at hsc
    exact hsc.2
  exact ⟨accountId, hacc, (key, kind), hkey, (hof ▸ hwr.inForce hkind hrule).same hpol⟩

/-- A rule in force decides the candidates with its key, when no rule that goes before it does. -/
theorem InForce.decides (h : InForce accountId kind rule db) (hinv : Invariant db)
    (hkeys : WellKeyed db)
    (hacc : lockAccount snapshot.candidateMatchKey.account db = .ok accountId)
    (hload : loadEvaluationSnapshot claim readAt db = .ok snapshot)
    (hord : Ordinary chrono snapshot now) (hkind : precedence = before ++ kind :: after)
    (hmatc : notificationMatchKeyMatches rule.matchKey snapshot.candidateMatchKey = true)
    (hbef : ∀ earlier ∈ before, snapshot.matchingRules earlier = []) :
    (snapshot.plan chrono now).outcome = rule.outcome := by
  obtain ⟨row, hread, hmanaged⟩ := loadEvaluationSnapshot_ok hkeys hload
  have hof : row.managedAccountId = accountId := Except.ok.inj (hmanaged.symm.trans hacc)
  obtain ⟨winner, hwin, hkindOf, rfl⟩ := h.mem_activeRules hinv hof hread
  refine hord.outcome_of_first hkind (List.mem_filter.mpr ⟨hwin, ?_⟩) hbef
  rw [hkindOf, hmatc, Bool.and_true]
  exact decide_eq_true rfl

end

/-- A promoted feedback on an agenda item, a follow-up or a blocked project decides all candidates
with the same key, as long as no policy is written, and so does any other rule that is in force,
in the order of `precedence`, when nothing before it silences or decides the candidate. A feedback
that is carried out has a row of its own for good, unless a row has one of its keys. -/
theorem feedback_takes_effect (env : PolicyEnv) (outside : PolicyDb) (hkeys : WellKeyed outside)
    (txs : List Transaction) :
    (∀ (source : LockedNotificationSource) (tx : Transaction) request,
      source.isImpersonal = true → tx.feedback = some request →
      request.candidate = source.candidateRef → request.matchKey = source.matchKey →
      request.promoteToRule = true →
      (step env (run env outside txs) tx).feedback ≠ (run env outside txs).feedback →
      ∀ later : List Transaction,
        SamePolicies (run env outside (txs ++ [tx])) (run env outside (txs ++ [tx] ++ later)) →
      ∀ claim readAt snapshot now,
        loadEvaluationSnapshot claim readAt (run env outside (txs ++ [tx] ++ later)) =
          .ok snapshot →
        snapshot.candidateMatchKey = source.matchKey → Ordinary env.chrono snapshot now →
        snapshot.matchingRules .conversation = [] → snapshot.matchingRules .contact = [] →
          (snapshot.plan env.chrono now).outcome =
            if request.important then .remind else .suppress) ∧
    (∀ accountId kind rule, InForce accountId kind rule (run env outside txs) →
      ∀ claim readAt snapshot now,
        loadEvaluationSnapshot claim readAt (run env outside txs) = .ok snapshot →
        lockAccount snapshot.candidateMatchKey.account (run env outside txs) = .ok accountId →
        Ordinary env.chrono snapshot now →
        notificationMatchKeyMatches rule.matchKey snapshot.candidateMatchKey = true →
        ∀ before after, precedence = before ++ kind :: after →
          (∀ earlier ∈ before, snapshot.matchingRules earlier = []) →
            (snapshot.plan env.chrono now).outcome = rule.outcome) ∧
    ∀ (tx : Transaction) request, tx.feedback = some request →
      (CarriedOut env (run env outside txs) tx →
        ∃ accountId candidate,
          lockAccount request.candidate.account (run env outside txs) = .ok accountId ∧
          candidateId accountId request.candidate (run env outside txs) = .ok candidate ∧
          (run env outside (txs ++ [tx])).feedback =
            if storesRow (run env outside txs) (feedbackRow env accountId candidate request) then
              (run env outside txs).feedback ++ [feedbackRow env accountId candidate request]
            else (run env outside txs).feedback) ∧
      (¬CarriedOut env (run env outside txs) tx →
        (run env outside (txs ++ [tx])).feedback = (run env outside txs).feedback) ∧
      ∀ later : List Transaction, (run env outside (txs ++ [tx])).feedback <+:
        (run env outside (txs ++ [tx] ++ later)).feedback := by
  have hmigr : WellKeyed (migrated outside) := ⟨hkeys.ids, hkeys.refs⟩
  have hall : ∀ txs, Invariant (run env outside txs) ∧ WellKeyed (run env outside txs) :=
    fun txs => ⟨invariant_run, (foldl_accounts hmigr).1⟩
  have hlater : ∀ txs later, run env outside (txs ++ later) =
      later.foldl (step env) (run env outside txs) := fun _ _ => List.foldl_append
  refine ⟨?_, ?_, ?_⟩
  · intro source tx request himp hfeed hcand hkey hprom hstd later hsame
      claim readAt snapshot now hload hmatch hord hconv hcont
    obtain ⟨accountId, hacc, scope, hsc, hforce⟩ := step_promoted hfeed hstd hprom
    obtain rfl := Except.ok.inj ((feedbackPolicyScope_impersonal himp hkey).symm.trans hsc)
    have hlock : lockAccount snapshot.candidateMatchKey.account
        (run env outside (txs ++ [tx] ++ later)) = .ok accountId := by
      have hof : snapshot.candidateMatchKey.account = request.candidate.account := by
        rw [hmatch, hcand]
        cases source <;> rfl
      rw [hof, List.append_assoc, hlater]
      exact foldl_lockAccount (hall txs).2 hacc
    rw [← run_snoc] at hforce
    have hkind : precedence = [.conversation, .contact] ++ .category :: [.accountDefault] := rfl
    refine (hforce.same hsame).decides (hall _).1 (hall _).2 hlock hload hord hkind ?_ ?_
    · rw [hmatch, hkey, basicPolicyRule, matchKey_matches]
    · intro earlier hear
      rcases List.mem_pair.mp hear with rfl | rfl
      · exact hconv
      · exact hcont
  · intro accountId kind rule hforce claim readAt snapshot now hload hacc hord hmatc
      before after hkind hbef
    exact hforce.decides (hall _).1 (hall _).2 hacc hload hord hkind hmatc hbef
  · intro tx request hfeed
    refine ⟨fun hout => ?_, fun hnot => ?_, fun later => ?_⟩
    · obtain ⟨accountId, new, runs, db₂, hacc, hsto, hsame, -⟩ := step_carriedOut hfeed hout
      obtain ⟨candidate, hcand, hrows⟩ := storeFeedback_feedback hsto
      exact ⟨accountId, candidate, hacc, hcand, by rw [run_snoc, hsame, hrows]; rfl⟩
    · rw [run_snoc]
      exact step_not_carriedOut hfeed hnot
    · rw [hlater (txs ++ [tx])]
      exact foldl_feedback

namespace Scripted

open ActionStore.Scripted (account commandEvent)

def agenda (itemId : String) : LockedNotificationSource := .agenda itemId 1 account

def expectation : LockedNotificationSource := .responseExpectation "x" 1 account ⟨.group, "g"⟩ "a"

def candidateOf (source : LockedNotificationSource) : CandidateRow :=
  ⟨source.candidateRef.sourceId, 1, source.candidateRef.sourceKind, source.candidateRef.sourceId,
    source.candidateRef.sourceVersion, source.matchKey, .pending⟩

/-- The agenda items `d` and `e` and the expectation `x` have candidates, and `d` is claimed. -/
def withCandidates : PolicyDb :=
  { outside with
    candidates := [candidateOf (agenda "d"), candidateOf (agenda "e"), candidateOf expectation]
    requests := [⟨"request", "d", .claimed, some "lease-1", some 100, 1, none, 0⟩] }

def feedbackOn (source : LockedNotificationSource) (important : Bool) : SecretaryAction :=
  .recordNotificationFeedback source.candidateRef source.matchKey important true

def loadedAfter (txs : List Transaction) : Except NotificationPolicyStoreError EvaluationSnapshot :=
  loadEvaluationSnapshot evaluationClaim 11 (run env withCandidates txs)

def promotedRule : PolicyRuleSnapshot where
  policyFamilyId := ⟨"family-1"⟩
  policyRevisionId := ⟨"revision-1"⟩
  generation := 2
  policyKind := .category
  rule := ⟨(agenda "d").matchKey, .suppress, false, none, none⟩

def promotedSnapshot : EvaluationSnapshot where
  candidate := (agenda "d").candidateRef
  candidateMatchKey := (agenda "d").matchKey
  candidateIsCurrent := true
  accountPolicyEpoch := 2
  familyGenerations := [⟨⟨"family-1"⟩, ⟨"revision-1"⟩, 2⟩]
  activeRules := [promotedRule]
  ownerBinding := ⟨account, ⟨.qqOpenPlatform, "app-1"⟩, "owner-openid"⟩

theorem ordinary_promotedSnapshot : Ordinary env.chrono promotedSnapshot 12 where
  current := rfl
  unambiguous := by
    refine ⟨⟨true, none, none, none, some promotedRule.rule, none, none, 12⟩, by decide, rfl,
      ?_⟩
    intro rule hrule
    cases hrule

end Scripted

open Scripted in
theorem feedback_takes_effect_scripted :
    (promotedSnapshot.plan env.chrono 12).outcome = .suppress ∧
      ∃ accountId candidate,
        let row := feedbackRow env accountId candidate ⟨(agenda "d").candidateRef,
          (agenda "d").matchKey, false, true, ActionStore.Scripted.commandEvent.asStr⟩
        (run env withCandidates [applied "1" (feedbackOn (agenda "d") false)]).feedback =
          if storesRow withCandidates row then [row] else [] := by
  have hkeys : WellKeyed withCandidates := by decide
  have hstd : (step env (run env withCandidates [])
      (applied "1" (feedbackOn (agenda "d") false))).feedback ≠
        (run env withCandidates []).feedback := by decide
  have hout : CarriedOut env (run env withCandidates [])
      (applied "1" (feedbackOn (agenda "d") false)) :=
    ⟨by decide, eq_ok_of_isOk (by decide)⟩
  refine ⟨(feedback_takes_effect env withCandidates hkeys []).1 (agenda "d")
      (applied "1" (feedbackOn (agenda "d") false)) _ rfl rfl rfl rfl rfl hstd [] ⟨rfl, rfl, rfl⟩
      evaluationClaim 11 promotedSnapshot 12 (by decide) rfl ordinary_promotedSnapshot
      (by decide) (by decide), ?_⟩
  obtain ⟨accountId, candidate, -, -, hrow⟩ :=
    ((feedback_takes_effect env withCandidates hkeys []).2.2
      (applied "1" (feedbackOn (agenda "d") false)) _ rfl).1 hout
  exact ⟨accountId, candidate, hrow⟩

open Scripted in
open ActionStore.Scripted (account commandEvent) in
/-- A feedback on an expectation is not promoted. A rule for the whole account that leaves all other
fields out is passed over, and so is a promoted one when a rule with its key has the kind of
conversations. Of two feedbacks with one command, one row is left. -/
theorem feedback_without_effect :
    ((recordFeedback env ⟨expectation.candidateRef, expectation.matchKey, false, true,
        commandEvent.asStr⟩ (newIds "1") (run env withCandidates [])).toOption.isNone = true) ∧
      (loadedAfter [applied "1" (.setAccountDefaultNotificationMode "account:default"
          { actorKey "a" with actorId := .absent } .suppress false)]).toOption.map
        (fun snapshot => (snapshot.activeRules.map PolicyRuleSnapshot.policyKind,
          (snapshot.plan env.chrono 12).outcome)) = some ([.accountDefault], .remind) ∧
      (loadedAfter [applied "1" (feedbackOn (agenda "d") false),
          applied "2" (.setConversationNotificationMode "conversation" (agenda "d").matchKey .remind
            false false false)]).toOption.map
        (fun snapshot => (snapshot.plan env.chrono 12).outcome) = some .remind ∧
      ((run env withCandidates [applied "1" (feedbackOn (agenda "d") false),
          applied "2" (feedbackOn (agenda "e") false)]).feedback.map
        FeedbackRow.notificationCandidateId,
        (run env withCandidates [applied "1" (feedbackOn (agenda "d") false),
          applied "2" (feedbackOn (agenda "e") false)]).actions.receipts.length) = (["d"], 2) := by
  decide

end ServerRS.NotificationPolicy

import ServerRS.NotificationPolicy.InForce

/-!
# A decision reflects the policy in force

A commit that passes the fences has evaluated the heads, the candidate and a binding of that
moment. The revision that it records is the one of the rule that decided, unless a rule silenced
the conversation or its quiet hours suppressed the candidate: then none is recorded.
-/

namespace ServerRS.NotificationPolicy

open Lib Lib.Except

section

variable {env : PolicyEnv} {snapshot : EvaluationSnapshot}

/-! ## What is in force -/

/-- The rule that has decided, for the reasons that are rules. -/
def decidingRule (snapshot : EvaluationSnapshot) (plan : EvaluationPlan) :
    Option PolicyRuleSnapshot :=
  (reasonKind plan.reason).bind fun kind => (snapshot.matchingRules kind).head?

theorem onlyRule_ok {rules : List PolicyRuleSnapshot} {rule : Option PolicyRuleSnapshot}
    (h : onlyRule rules = .ok rule) : rules.head? = rule := by
  unfold onlyRule at h
  split at h
  · exact Except.ok.inj h
  · exact Except.ok.inj h
  · cases h

theorem winningRevisionId_ok {plan : EvaluationPlan} {revisionId : Option PolicyRevisionId}
    (h : winningRevisionId snapshot plan = .ok revisionId) :
    revisionId = (decidingRule snapshot plan).map PolicyRuleSnapshot.policyRevisionId := by
  unfold winningRevisionId at h
  unfold decidingRule
  cases hkind : reasonKind plan.reason with
  | none =>
    rw [hkind] at h
    exact (Except.ok.inj h).symm
  | some kind =>
    rw [hkind] at h
    dsimp only at h
    cases hrule : snapshot.matchingRuleSnapshot kind with
    | error error =>
      rw [hrule] at h
      cases h
    | ok rule =>
      rw [hrule] at h
      rw [Option.bind_some, onlyRule_ok hrule]
      exact (Except.ok.inj h).symm

theorem ruleFor_ok {kind : NotificationPolicyKind} {rule : Option NotificationPolicyRule}
    (h : snapshot.ruleFor kind = .ok rule) :
    rule = (snapshot.matchingRules kind).head?.map PolicyRuleSnapshot.rule := by
  obtain ⟨found, hfnd, h⟩ := bind_ok h
  rw [onlyRule_ok hfnd]
  exact (Except.ok.inj h).symm

variable {winner : PolicyRuleSnapshot}

/-- The rule of the kind that the reason names has the outcome of the decision. -/
theorem decideBySelected_rule {input : EvaluationInput} {now : Int}
    (hin : snapshot.evaluationInput now = .ok input)
    (hwin : decidingRule snapshot input.decideBySelected = some winner) :
    winner.rule.outcome = input.decideBySelected.outcome := by
  obtain ⟨conversation, hconv, h⟩ := bind_ok hin
  obtain ⟨contactRule, hcontact, h⟩ := bind_ok h
  obtain ⟨categoryRule, hcat, h⟩ := bind_ok h
  obtain ⟨defaultRule, hdef, h⟩ := bind_ok h
  obtain ⟨quietHours, -, h⟩ := bind_ok h
  obtain rfl := Except.ok.inj h
  have hrule : ∀ {kind rule}, rule = (snapshot.matchingRules kind).head?.map
      PolicyRuleSnapshot.rule → (snapshot.matchingRules kind).head? = some winner →
        rule = some winner.rule := by
    intro kind rule hrule hhead
    rw [hrule, hhead, Option.map_some]
  unfold EvaluationInput.decideBySelected EvaluationInput.selectedRule at hwin ⊢
  cases conversation with
  | some rule =>
    obtain rfl := Option.some.inj (hrule (ruleFor_ok hconv) hwin)
    rfl
  | none =>
    cases contactRule with
    | some rule =>
      obtain rfl := Option.some.inj (hrule (ruleFor_ok hcontact) hwin)
      rfl
    | none =>
      cases categoryRule with
      | some rule =>
        obtain rfl := Option.some.inj (hrule (ruleFor_ok hcat) hwin)
        rfl
      | none =>
        cases defaultRule with
        | some rule =>
          obtain rfl := Option.some.inj (hrule (ruleFor_ok hdef) hwin)
          rfl
        | none => cases hrule (ruleFor_ok hdef) hwin

theorem decidingRule_outcome {chrono : Chrono} {evaluatedAt : Int}
    (hwin : decidingRule snapshot (snapshot.plan chrono evaluatedAt) = some winner) :
    winner ∈ snapshot.activeRules ∧
      winner.rule.outcome = (snapshot.plan chrono evaluatedAt).outcome := by
  refine ⟨?_, ?_⟩
  · obtain ⟨kind, -, hhead⟩ := Option.bind_eq_some_iff.mp hwin
    exact (List.mem_filter.mp (List.mem_of_mem_head? hhead)).1
  · unfold EvaluationSnapshot.plan at hwin ⊢
    cases hin : snapshot.evaluationInput evaluatedAt with
    | error error =>
      rw [hin] at hwin
      cases hwin
    | ok input =>
      rw [hin] at hwin
      dsimp only at hwin ⊢
      unfold evaluate at hwin ⊢
      split at hwin
      · cases hwin
      split at hwin
      · cases hwin
      next hcur hsil =>
        rw [if_neg hcur, if_neg hsil]
        split at hwin
        · split at hwin
          next hbypass =>
            rw [if_pos hbypass]
            exact decideBySelected_rule hin hwin
          · cases hwin
        · cases hwin
        · cases hwin
        · exact decideBySelected_rule hin hwin
        · exact decideBySelected_rule hin hwin

/-! ## An applied commit -/

variable {db db' : PolicyDb} {claim : ClaimedEvaluation} {now : Int} {ids : CommitIds}
  {held : HeldRequest} {commit : EvaluationCommit} {world : Evaluating}

theorem isStale_false (h : isStale snapshot held db = false) :
    db.policyEpoch held.candidate.accountId = snapshot.accountPolicyEpoch := by
  simp only [isStale, Bool.or_eq_false_iff] at h
  simpa using h.1.1.2

/-- Behind the fences, the snapshot is what would be loaded now. -/
theorem snapshot_in_force (hinv : world.Inv) (hread : (claim, snapshot) ∈ world.snapshots)
    (hheld : heldRequest claim now world.db = some held) (hcl : commit.snapshot = snapshot)
    (hfenc : Fenced commit held world.db) :
    ∃ found ∈ activeBindings held.candidate.accountId world.db,
      snapshotOf (snapshotRow held found.1 found.2 world.db)
        (policyHeads held.candidate.accountId world.db) = .ok snapshot := by
  subst hcl
  obtain ⟨row, heads, htracked, hsnap, hcur⟩ := (hinv.snapshots _ hread).read
  obtain ⟨⟨request, hreq, candidate, hcan, hid, hcand, hacco, href, hkey, hopen⟩, hacc,
    -, -⟩ := htracked
  obtain ⟨hheldRequest, hisHeld, hheldCandidate, hheldId, hheldAccount⟩ := heldRequest_some hheld
  obtain rfl := eq_of_key_eq hinv.requestIds hheldRequest hreq
    ((isHeld_id hisHeld).1.trans hid.symm)
  obtain rfl := eq_of_key_eq hinv.candidateIds hheldCandidate hcan
    (hheldId.trans hcand.symm)
  obtain ⟨-, -, -, hep, hbinding, -⟩ := snapshotOf_ok hsnap
  obtain ⟨found, hfnd, howner, hcmd⟩ := hfenc.binding
  refine ⟨found, hfnd, ?_⟩
  have hmanaged : accountRef held.account = row.ownerBinding.managedAccount := by
    rw [hacco] at hacc
    have heq := eq_of_key_eq hinv.keys.ids hheldAccount hacc rfl
    obtain ⟨-, heq⟩ := Prod.mk.inj heq
    obtain ⟨hchan, hplat⟩ := Prod.mk.inj heq
    cases href' : row.ownerBinding.managedAccount
    rw [href'] at hchan hplat
    cases hchan
    cases hplat
    rfl
  have hstamp : world.db.policyEpoch row.managedAccountId = row.policyEpoch := by
    rw [hacco, isStale_false hfenc.fresh, hep]
  have hrow : snapshotRow held found.1 found.2 world.db = row := by
    rw [hbinding] at howner hcmd
    unfold snapshotRow
    rw [hmanaged, hcmd, howner, ← hacco, ← href, ← hkey, hstamp, hfenc.isOpen,
      ← hopen hfenc.isOpen]
  rw [hrow, ← hacco, hcur.eq hstamp]
  exact hsnap

end

/-- Whatever the workers, the Owner and the rest of the program do in between: a commit that is
applied stores the outcome that the evaluator has for the heads, the candidate and a binding of
that moment, with the revision of the rule that decided, for a source that is current; any other
one stores nothing. No claim is applied twice, and there are no other decisions. -/
theorem applied_decision_reflects_policy_in_force (env : PolicyEnv) (epoch : Nat → Nat)
    (events : List Event) (claim : ClaimedEvaluation) (snapshot : EvaluationSnapshot)
    (hread : (claim, snapshot) ∈ (Evaluating.run env epoch events).snapshots)
    (evaluatedAt now : Int) (ids : CommitIds) (result : EvaluationCommitResult) (db' : PolicyDb)
    (hcommit : commitEvaluation env (evaluated env claim snapshot evaluatedAt) now ids
      (Evaluating.run env epoch events).db = .ok (result, db')) :
    (result = .applied → ∃ held current decision,
      heldRequest claim now (Evaluating.run env epoch events).db = some held ∧
      (∃ found ∈ activeBindings held.candidate.accountId (Evaluating.run env epoch events).db,
        snapshotOf (snapshotRow held found.1 found.2 (Evaluating.run env epoch events).db)
          (policyHeads held.candidate.accountId (Evaluating.run env epoch events).db) =
            .ok current) ∧
      db'.decisions = (Evaluating.run env epoch events).db.decisions ++ [decision] ∧
      decision.evaluationRequestId = claim.evaluationRequestId ∧
      decision.outcome = (current.plan env.chrono evaluatedAt).outcome ∧
      decision.policyRevisionId = (decidingRule current (current.plan env.chrono evaluatedAt)).map
        PolicyRuleSnapshot.policyRevisionId ∧
      (∀ winner, decidingRule current (current.plan env.chrono evaluatedAt) = some winner →
        winner ∈ current.activeRules ∧ winner.rule.outcome = decision.outcome) ∧
      sourceIsCurrent held.candidate.accountId held.candidate.sourceKind held.candidate.sourceId
        held.candidate.sourceVersion (Evaluating.run env epoch events).db.sources = true ∧
      (db'.outbox = (Evaluating.run env epoch events).db.outbox ∨
        ∃ reminder, db'.outbox = (Evaluating.run env epoch events).db.outbox ++ [reminder])) ∧
    (result ≠ .applied →
      db'.decisions = (Evaluating.run env epoch events).db.decisions ∧
        db'.outbox = (Evaluating.run env epoch events).db.outbox) ∧
    ((Evaluating.run env epoch events).applied.map ClaimedEvaluation.leaseToken).Nodup ∧
    (Evaluating.run env epoch events).db.decisions.length =
      (Evaluating.run env epoch events).applied.length := by
  have hinv : (Evaluating.run env epoch events).Inv := inv_run
  refine ⟨?_, ?_, hinv.once, hinv.counted⟩
  · rintro rfl
    obtain ⟨hres, -⟩ | ⟨hres, -⟩ | ⟨-, held, hheld, hfenc, hstd⟩ :=
      commitEvaluation_ok hcommit
    · cases hres
    · cases hres
    obtain ⟨decision, hdecs, hout, hrsn, hwinning, hreq⟩ := hstd.winning
    obtain ⟨found, hfnd, hcur⟩ := snapshot_in_force hinv hread hheld rfl hfenc
    have hid := (isHeld_id (heldRequest_some hheld).2.1).1
    refine ⟨held, snapshot, decision, hheld, ⟨found, hfnd, hcur⟩, hdecs,
      hreq.trans hid, hout, winningRevisionId_ok hwinning, ?_, hfenc.source,
      hstd.outbox⟩
    intro winner hwin
    obtain ⟨hmem, hsame⟩ := decidingRule_outcome hwin
    exact ⟨hmem, hsame.trans hout.symm⟩
  · intro hne
    obtain ⟨-, rfl⟩ | ⟨-, rfl⟩ | ⟨hres, -⟩ := commitEvaluation_ok hcommit
    · exact ⟨rfl, rfl⟩
    · exact ⟨rfl, rfl⟩
    · exact absurd hres hne

namespace Scripted

open ActionStore.Scripted (account)

/-- The key of a candidate about an answer that `a` owes in a group. -/
def overdueKey : NotificationMatchKeyV1 where
  account := account
  conversation := .known ⟨.group, "g"⟩
  actorId := .known "a"
  category := .known .followUp
  mentionedOwner := .known false
  structuredImportance := .known .normal
  eventKind := .known .responseOverdue

/-- The producer has stored a candidate about an expectation that is active, and its request. -/
def produced : PolicyDb :=
  { outside with
    candidates := [⟨"candidate", 1, "response_expectation", "x", 1, overdueKey, .pending⟩]
    requests := [⟨"request", "candidate", .pending, none, none, 0, none, 0⟩]
    sources := ⟨[], [], [], [⟨"x", 1, 1, .active⟩]⟩ }

def evaluationClaim : ClaimedEvaluation := ⟨"request", "lease-1"⟩

/-- The candidate is claimed, and its first read is `row`. -/
def evaluationOf (row : EvaluationSnapshotRow) : List Event :=
  [.claim "worker" 10 60 "lease-1", .readCandidate evaluationClaim 11,
    .readHeads evaluationClaim row]

/-- The Owner has silenced the group. -/
def silencedRun : List Event :=
  [.policy (.elsewhere produced),
    .policy (applied "1" (.setConversationNotificationMode "conversation:group:g" overdueKey
      .remind false true false))] ++
  evaluationOf {
    managedAccountId := 1
    candidate := ⟨"response_expectation", "x", 1, account⟩
    matchKey := overdueKey
    isCurrent := true
    policyEpoch := 2
    ownerBinding := ⟨account, ⟨.qqOpenPlatform, "app-1"⟩, "owner-openid"⟩ }

def silencedRule : PolicyRuleSnapshot where
  policyFamilyId := ⟨"family-1"⟩
  policyRevisionId := ⟨"revision-1"⟩
  generation := 2
  policyKind := .conversation
  rule := ⟨overdueKey, .remind, false, some ⟨.fullySilent, false⟩, none⟩

def silencedSnapshot : EvaluationSnapshot where
  candidate := ⟨"response_expectation", "x", 1, account⟩
  candidateMatchKey := overdueKey
  candidateIsCurrent := true
  accountPolicyEpoch := 2
  familyGenerations := [⟨⟨"family-1"⟩, ⟨"revision-1"⟩, 2⟩]
  activeRules := [silencedRule]
  ownerBinding := ⟨account, ⟨.qqOpenPlatform, "app-1"⟩, "owner-openid"⟩

/-- What a commit at 12 makes of a snapshot. -/
def committedAt (events : List Event) (snapshot : EvaluationSnapshot) :
    Except NotificationPolicyStoreError (EvaluationCommitResult × PolicyDb) :=
  commitEvaluation env (evaluated env evaluationClaim snapshot 12) 12 ⟨"decision", "notification"⟩
    (Evaluating.run env (fun _ => 1) events).db

theorem silencedSnapshot_read : (evaluationClaim, silencedSnapshot) ∈
    (Evaluating.run env (fun _ => 1) silencedRun).snapshots := by
  decide

end Scripted

open Scripted in
theorem applied_decision_reflects_policy_in_force_scripted :
    ∃ db', committedAt silencedRun silencedSnapshot = .ok (.applied, db') ∧
      ∃ decision, db'.decisions =
          (Evaluating.run env (fun _ => 1) silencedRun).db.decisions ++ [decision] ∧
        decision.evaluationRequestId = "request" := by
  have happd : (committedAt silencedRun silencedSnapshot).toOption.map Prod.fst =
      some .applied := by decide
  cases hcom : committedAt silencedRun silencedSnapshot with
  | error error => rw [hcom] at happd; cases happd
  | ok result =>
    rw [hcom] at happd
    obtain ⟨result, db'⟩ := result
    obtain rfl := Option.some.inj happd
    obtain ⟨-, -, decision, -, -, hdecs, hreq, -⟩ :=
      (applied_decision_reflects_policy_in_force env (fun _ => 1) silencedRun evaluationClaim
        silencedSnapshot silencedSnapshot_read 12 12 _ _ db' hcom).1 rfl
    exact ⟨db', rfl, decision, hdecs, hreq⟩

open Scripted in
/-- The rule of a fully silent conversation decides, and no revision is recorded. -/
theorem silencing_revision_is_not_recorded :
    (evaluationClaim, silencedSnapshot) ∈
        (Evaluating.run env (fun _ => 1) silencedRun).snapshots ∧
      silencedSnapshot.matchingRules .conversation = [silencedRule] ∧
      ((committedAt silencedRun silencedSnapshot).toOption.map fun committed =>
        (committed.1, committed.2.decisions.map fun decision =>
          (decision.outcome, decision.reasonCode, decision.policyRevisionId))) =
        some (.applied, [(.suppress, .conversationFullySilent, none)]) := by
  decide +kernel

end ServerRS.NotificationPolicy

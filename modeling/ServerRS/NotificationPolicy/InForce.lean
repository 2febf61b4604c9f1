import ServerRS.NotificationPolicy.Chain
import ServerRS.NotificationPolicy.Evaluation

/-!
# Evaluations next to each other

`Evaluating` is the database next to what the workers hold: the rows of their first reads, the
snapshots of their second ones, and the claims that have been committed. In every run the epoch of
a snapshot is a stamp of its heads (`Lib.Current`), and a lease token is used up by at most one
applied commit.
-/

namespace ServerRS.NotificationPolicy

open Lib Lib.Except

/-! ## Runs -/

structure Evaluating where
  db : PolicyDb
  /-- The lease tokens that have been handed out. -/
  tokens : List String
  rows : List (ClaimedEvaluation × EvaluationSnapshotRow)
  snapshots : List (ClaimedEvaluation × EvaluationSnapshot)
  applied : List ClaimedEvaluation

inductive Event where
  | claim (workerId : String) (now leaseSecs : Int) (token : String)
  | recover (now : Int) (limit : ℕ)
  | readCandidate (claim : ClaimedEvaluation) (now : Int)
  | readHeads (claim : ClaimedEvaluation) (row : EvaluationSnapshotRow)
  | commit (claim : ClaimedEvaluation) (snapshot : EvaluationSnapshot) (evaluatedAt now : Int)
      (ids : CommitIds)
  | policy (tx : Transaction)

/-- Outside of the evaluation, candidates and requests are inserted only, and decisions are not
written. -/
structure Admits (db outside : PolicyDb) : Prop where
  candidates : db.candidates <+: outside.candidates
  candidateIds : (outside.candidates.map CandidateRow.notificationCandidateId).Nodup
  requests : db.requests <+: outside.requests
  requestIds : (outside.requests.map EvaluationRequestRow.evaluationRequestId).Nodup
  unleased : ∀ request ∈ outside.requests, request ∈ db.requests ∨ request.leaseToken = none
  decisions : outside.decisions = db.decisions

instance (db outside : PolicyDb) : Decidable (Admits db outside) :=
  decidable_of_iff (db.candidates <+: outside.candidates ∧
      (outside.candidates.map CandidateRow.notificationCandidateId).Nodup ∧
      db.requests <+: outside.requests ∧
      (outside.requests.map EvaluationRequestRow.evaluationRequestId).Nodup ∧
      (∀ request ∈ outside.requests, request ∈ db.requests ∨ request.leaseToken = none) ∧
      outside.decisions = db.decisions)
    ⟨fun ⟨h₁, h₂, h₃, h₄, h₅, h₆⟩ => ⟨h₁, h₂, h₃, h₄, h₅, h₆⟩,
      fun ⟨h₁, h₂, h₃, h₄, h₅, h₆⟩ => ⟨h₁, h₂, h₃, h₄, h₅, h₆⟩⟩

def policyStep (env : PolicyEnv) (db : PolicyDb) : Transaction → PolicyDb
  | .elsewhere outside => if Admits db outside then elsewhere outside db else db
  | tx => step env db tx

/-- The evaluator of the worker. -/
def evaluated (env : PolicyEnv) (claim : ClaimedEvaluation) (snapshot : EvaluationSnapshot)
    (evaluatedAt : Int) : EvaluationCommit :=
  ⟨claim, snapshot, snapshot.plan env.chrono evaluatedAt⟩

namespace Evaluating

def claimed (world : Evaluating) (token : String) :
    Except NotificationPolicyStoreError (Option ClaimedEvaluation × PolicyDb) → Evaluating
  | .ok (some _, db) => { world with db, tokens := token :: world.tokens }
  | _ => world

def committed (world : Evaluating) (claim : ClaimedEvaluation) :
    Except NotificationPolicyStoreError (EvaluationCommitResult × PolicyDb) → Evaluating
  | .ok (.applied, db) => { world with db, applied := claim :: world.applied }
  | .ok (_, db) => { world with db }
  | .error _ => world

/-- A token is generated for one claim only, and a worker goes on from what it has read. -/
def step (env : PolicyEnv) (world : Evaluating) : Event → Evaluating
  | .claim workerId now leaseSecs token =>
    if token ∈ world.tokens then world
    else world.claimed token (claimEvaluation workerId now leaseSecs token world.db)
  | .recover now limit => { world with db := recoverExpiredEvaluations now limit world.db }
  | .readCandidate claim now =>
    { world with
      rows := (NotificationPolicy.readCandidate claim now world.db).toOption.elim world.rows
        fun row => (claim, row) :: world.rows }
  | .readHeads claim row =>
    if (claim, row) ∈ world.rows then
      { world with
        snapshots := (NotificationPolicy.readHeads row world.db).toOption.elim world.snapshots
          fun snapshot => (claim, snapshot) :: world.snapshots }
    else world
  | .commit claim snapshot evaluatedAt now ids =>
    if (claim, snapshot) ∈ world.snapshots then
      world.committed claim
        (commitEvaluation env (evaluated env claim snapshot evaluatedAt) now ids world.db)
    else world
  | .policy tx => { world with db := policyStep env world.db tx }

/-- The tables are empty, whatever epoch an account is created with. -/
def start (epoch : Nat → Nat) : Evaluating where
  db := {
    actions := { directory := ⟨[], [], [], []⟩ }
    policyEpoch := epoch
    families := []
    revisions := []
    feedback := []
    candidates := []
    requests := []
    decisions := []
    outbox := []
    sources := ⟨[], [], [], []⟩ }
  tokens := []
  rows := []
  snapshots := []
  applied := []

def run (env : PolicyEnv) (epoch : Nat → Nat) (events : List Event) : Evaluating :=
  events.foldl (step env) (start epoch)

theorem run_snoc {env : PolicyEnv} {epoch : Nat → Nat} {events : List Event} {event : Event} :
    run env epoch (events ++ [event]) = step env (run env epoch events) event := by
  unfold run
  rw [List.foldl_append]
  rfl

end Evaluating

/-! ## What a write changes in the heads -/

section

variable {db db' : PolicyDb} {family : FamilyRow} {revision : RevisionRow} {accountId writer : Nat}

theorem policyHeads_same (hsame : SamePolicies db db') :
    policyHeads accountId db' = policyHeads accountId db := by
  unfold policyHeads
  rw [hsame.families, hsame.revisions]

theorem Written.policyHeads_other (h : Chained db.families db.revisions)
    (hwr : Written writer family revision db db') (hne : accountId ≠ writer) :
    policyHeads accountId db' = policyHeads accountId db := by
  obtain ⟨families, hprov, -⟩ := hwr.families
  unfold policyHeads
  rw [hwr.families_other h hne, hwr.revisions]
  have hrows : ∀ row ∈ db.families.filter (fun row => row.accountId = accountId),
      headRow (db.revisions ++ [revision]) row = headRow db.revisions row := by
    intro row hrow
    obtain ⟨hrow, hacco⟩ := List.mem_filter.mp hrow
    have hid : row.policyFamilyId ≠ family.policyFamilyId := by
      intro hid
      rw [hwr.family_before h hrow hid, decide_eq_true_eq] at hacco
      exact hne (hacco.symm.trans hprov.account)
    unfold headRow
    rw [List.find?_append]
    simp [hwr.extend.ofFamily, Ne.symm hid]
  rw [List.filterMap_congr hrows]

/-- The epoch of an account stamps its heads. -/
theorem MayWrite.stamps (h : Chained db.families db.revisions) (hwrt : MayWrite writer db db') :
    db.policyEpoch accountId ≤ db'.policyEpoch accountId ∧
      (db'.policyEpoch accountId = db.policyEpoch accountId →
        policyHeads accountId db' = policyHeads accountId db) := by
  obtain hsame | ⟨family, revision, hwr⟩ := hwrt
  · rw [hsame.epoch]
    exact ⟨Nat.le_refl _, fun _ => policyHeads_same hsame⟩
  · rw [hwr.epoch]
    by_cases hacco : accountId = writer
    · subst hacco
      rw [Function.update_self]
      exact ⟨Nat.le_succ _, fun heq => absurd heq (Nat.succ_ne_self _)⟩
    · rw [Function.update_of_ne hacco]
      exact ⟨Nat.le_refl _, fun _ => hwr.policyHeads_other h hacco⟩

end

/-! ## What stays true of what has been read -/

section

variable {env : PolicyEnv} {db db' : PolicyDb}

/-- Requests and candidates stay, a candidate that is closed stays closed, accounts keep their
keys, and the epochs stamp the heads. -/
structure Persists (db db' : PolicyDb) : Prop where
  requests : ∀ request ∈ db.requests, ∃ later ∈ db'.requests,
    later.evaluationRequestId = request.evaluationRequestId ∧
      later.notificationCandidateId = request.notificationCandidateId
  candidates : ∀ candidate ∈ db.candidates, ∃ later ∈ db'.candidates,
    { later with candidateStatus := candidate.candidateStatus } = candidate ∧
      (later.candidateStatus.isOpen = true → candidate.candidateStatus.isOpen = true)
  accounts : ∀ key ∈ accountKeys db, key ∈ accountKeys db'
  stamps : ∀ accountId, db.policyEpoch accountId ≤ db'.policyEpoch accountId ∧
    (db'.policyEpoch accountId = db.policyEpoch accountId →
      policyHeads accountId db' = policyHeads accountId db)

/-- The same requests, up to their leases. -/
def SameRequests (db db' : PolicyDb) : Prop :=
  db'.requests.map (fun request => (request.evaluationRequestId, request.notificationCandidateId)) =
    db.requests.map fun request => (request.evaluationRequestId, request.notificationCandidateId)

variable {request : EvaluationRequestRow} {outbox : List PolicyReminderRow} {tokens : List String}
  {cond : EvaluationRequestRow → Bool}

theorem SameRequests.mem (h : SameRequests db db') (hreq : request ∈ db.requests) :
    ∃ later ∈ db'.requests,
      later.evaluationRequestId = request.evaluationRequestId ∧
        later.notificationCandidateId = request.notificationCandidateId := by
  have hmem : (request.evaluationRequestId, request.notificationCandidateId) ∈
      db'.requests.map fun request =>
        (request.evaluationRequestId, request.notificationCandidateId) := by
    rw [h]
    exact List.mem_map.mpr ⟨request, hreq, rfl⟩
  obtain ⟨later, hlater, heq⟩ := List.mem_map.mp hmem
  exact ⟨later, hlater, (Prod.mk.inj heq).1, (Prod.mk.inj heq).2⟩

theorem SameRequests.nodup (h : SameRequests db db')
    (hids : (db.requests.map EvaluationRequestRow.evaluationRequestId).Nodup) :
    (db'.requests.map EvaluationRequestRow.evaluationRequestId).Nodup := by
  have heq := congrArg (List.map Prod.fst) h
  rw [List.map_map, List.map_map] at heq
  exact (congrArg List.Nodup heq).mpr hids

/-- What does not touch policies, candidates and accounts. -/
theorem Persists.of_requests (hpol : SamePolicies db db')
    (hdir : db'.actions.directory = db.actions.directory)
    (hcands : db'.candidates = db.candidates) (hreqs : SameRequests db db') :
    Persists db db' where
  requests := fun _ => hreqs.mem
  candidates := fun candidate hcan =>
    ⟨candidate, hcands ▸ hcan, rfl, fun hopen => hopen⟩
  accounts := by
    unfold accountKeys
    rw [hdir]
    exact fun _ h => h
  stamps := by
    intro accountId
    rw [hpol.epoch]
    exact ⟨Nat.le_refl _, fun _ => policyHeads_same hpol⟩

theorem Persists.refl (db : PolicyDb) : Persists db db := .of_requests (.refl db) rfl rfl rfl

theorem persists_step (h : Invariant db) {tx : Transaction}
    (hwrt : ∀ outside, tx ≠ .elsewhere outside) : Persists db (step env db tx) := by
  have haro := step_around env db hwrt
  obtain ⟨writer, hmay⟩ := step_mayWrite env db tx
  exact {
    requests := fun request hreq => ⟨request, haro.requests ▸ hreq, rfl, rfl⟩
    candidates := fun candidate hcan =>
      ⟨candidate, haro.candidates ▸ hcan, rfl, fun hopen => hopen⟩
    accounts := by
      unfold accountKeys
      rw [haro.directory]
      exact fun _ h => h
    stamps := fun _ => hmay.stamps h.chained }

theorem persists_elsewhere {outside : PolicyDb} (hadm : Admits db outside) :
    Persists db (elsewhere outside db) := by
  unfold elsewhere
  split
  next hkept =>
    exact {
      requests := fun request hreq =>
        ⟨request, hadm.requests.subset hreq, rfl, rfl⟩
      candidates := fun candidate hcan =>
        ⟨candidate, hadm.candidates.subset hcan, rfl, fun hopen => hopen⟩
      accounts := hkept.2
      stamps := fun _ => ⟨Nat.le_refl _, fun _ => rfl⟩ }
  · exact .refl db

/-- What a first read has found stays so, but for the candidate being closed and the epoch. -/
structure Tracked (db : PolicyDb) (requestId : String) (row : EvaluationSnapshotRow) : Prop where
  found : ∃ request ∈ db.requests, ∃ candidate ∈ db.candidates,
    request.evaluationRequestId = requestId ∧
      candidate.notificationCandidateId = request.notificationCandidateId ∧
      row.managedAccountId = candidate.accountId ∧
      row.candidate = ⟨candidate.sourceKind, candidate.sourceId, candidate.sourceVersion,
        row.ownerBinding.managedAccount⟩ ∧
      row.matchKey = candidate.matchKey ∧
      (candidate.candidateStatus.isOpen = true → row.isCurrent = true)
  account : (row.managedAccountId, row.ownerBinding.managedAccount.channel,
    row.ownerBinding.managedAccount.accountId) ∈ accountKeys db
  keyed : row.matchKey.account = row.ownerBinding.managedAccount
  epoch : row.policyEpoch ≤ db.policyEpoch row.managedAccountId

/-- The heads of a second read are stamped by the epoch of the first one. -/
structure Loaded (db : PolicyDb) (requestId : String) (snapshot : EvaluationSnapshot) : Prop where
  read : ∃ row heads, Tracked db requestId row ∧ snapshotOf row heads = .ok snapshot ∧
    Current (fun db : PolicyDb => db.policyEpoch row.managedAccountId)
      (policyHeads row.managedAccountId) db row.policyEpoch heads

variable {requestId : String} {row : EvaluationSnapshotRow} {snapshot : EvaluationSnapshot}

theorem Tracked.persists (h : Tracked db requestId row) (hpers : Persists db db') :
    Tracked db' requestId row := by
  obtain ⟨⟨request, hreq, candidate, hcan, hid, hcand, hacco, href, hkey, hopen⟩,
    hacc, hkeyed, hep⟩ := h
  obtain ⟨request', hreq', hid', hcand'⟩ := hpers.requests request hreq
  obtain ⟨candidate', hcan', hsame, hopen'⟩ := hpers.candidates candidate hcan
  obtain ⟨_, _, _, _, _, _, _⟩ := candidate'
  obtain ⟨_, _, _, _, _, _, _⟩ := candidate
  obtain ⟨rfl, rfl, rfl, rfl, rfl, rfl, -⟩ := CandidateRow.mk.inj hsame
  exact ⟨⟨request', hreq', _, hcan', hid'.trans hid, hcand.trans hcand'.symm, hacco,
    href, hkey, fun hstill => hopen (hopen' hstill)⟩, hpers.accounts _ hacc, hkeyed,
    hep.trans (hpers.stamps _).1⟩

theorem Loaded.persists (h : Loaded db requestId snapshot) (hpers : Persists db db') :
    Loaded db' requestId snapshot := by
  obtain ⟨row, heads, htrac, hsnap, hcur⟩ := h.read
  exact ⟨row, heads, htrac.persists hpers, hsnap,
    hcur.step (hpers.stamps _).1 (hpers.stamps _).2⟩

/-! ## The two reads -/

variable {claim : ClaimedEvaluation} {now : Int} {held : HeldRequest}

theorem heldRequest_some (h : heldRequest claim now db = some held) :
    held.request ∈ db.requests ∧ held.request.isHeld claim now = true ∧
      held.candidate ∈ db.candidates ∧
      held.candidate.notificationCandidateId = held.request.notificationCandidateId ∧
      (held.candidate.accountId, (accountRef held.account).channel,
        (accountRef held.account).accountId) ∈ accountKeys db := by
  obtain ⟨request, hreq, h⟩ := Option.bind_eq_some_iff.mp h
  obtain ⟨candidate, hcan, h⟩ := Option.bind_eq_some_iff.mp h
  obtain ⟨account, hacco, h⟩ := Option.bind_eq_some_iff.mp h
  obtain rfl := Option.some.inj h
  have hid := List.find?_some hcan
  have hacc := List.find?_some hacco
  rw [decide_eq_true_eq] at hid hacc
  refine ⟨List.mem_of_find?_eq_some hreq, List.find?_some hreq,
    List.mem_of_find?_eq_some hcan, hid, ?_⟩
  exact List.mem_map.mpr ⟨account, List.mem_of_find?_eq_some hacco, by rw [hacc]; rfl⟩

theorem isHeld_id (h : request.isHeld claim now = true) :
    request.evaluationRequestId = claim.evaluationRequestId ∧
      request.leaseToken = some claim.leaseToken := by
  simp only [EvaluationRequestRow.isHeld, Bool.and_eq_true, decide_eq_true_eq] at h
  exact ⟨h.1.1.1, h.1.2⟩

theorem readCandidate_ok (h : readCandidate claim now db = .ok row) :
    Tracked db claim.evaluationRequestId row := by
  unfold readCandidate at h
  split at h
  · cases h
  next held hheld =>
    split at h
    next binding commandAccount hbindings =>
      dsimp only at h
      split at h
      · cases h
      next hkeyed =>
        obtain rfl := Except.ok.inj h
        obtain ⟨hreq, hisHeld, hcan, hid, hacco⟩ := heldRequest_some hheld
        exact ⟨⟨held.request, hreq, held.candidate, hcan, (isHeld_id hisHeld).1, hid, rfl,
          rfl, rfl, fun hopen => hopen⟩, hacco, not_not.mp hkeyed, Nat.le_refl _⟩
    · cases h

theorem readHeads_ok (htrac : Tracked db requestId row)
    (h : readHeads row db = .ok snapshot) : Loaded db requestId snapshot :=
  ⟨row, _, htrac, h, .read htrac.epoch⟩

theorem snapshotOf_ok {heads : List PolicyHeadRow} (h : snapshotOf row heads = .ok snapshot) :
    snapshot.candidate = row.candidate ∧ snapshot.candidateMatchKey = row.matchKey ∧
      snapshot.candidateIsCurrent = row.isCurrent ∧
      snapshot.accountPolicyEpoch = row.policyEpoch ∧ snapshot.ownerBinding = row.ownerBinding ∧
      snapshot.familyGenerations = heads.map familyGeneration ∧
      ∃ rules, heads.mapM (ruleSnapshot row.ownerBinding.managedAccount) = .ok rules ∧
        snapshot.activeRules = rules.reduceOption := by
  unfold snapshotOf at h
  split at h
  · cases h
  · obtain ⟨rules, hrules, h⟩ := bind_ok h
    obtain rfl := Except.ok.inj h
    exact ⟨rfl, rfl, rfl, rfl, rfl, rfl, rules, hrules, rfl⟩

/-! ## The commit -/

variable {commit : EvaluationCommit} {ids : CommitIds} {commandAccountId : Nat}

/-- What is stored together with a decision. -/
structure Stored (env : PolicyEnv) (commit : EvaluationCommit) (held : HeldRequest) (now : Int)
    (ids : CommitIds) (db db' : PolicyDb) : Prop where
  winning : ∃ decision, db'.decisions = db.decisions ++ [decision] ∧
    decision.outcome = commit.plan.outcome ∧ decision.reasonCode = commit.plan.reason ∧
    winningRevisionId commit.snapshot commit.plan = .ok decision.policyRevisionId ∧
    decision.evaluationRequestId = held.request.evaluationRequestId
  outbox : db'.outbox = db.outbox ∨ ∃ reminder, db'.outbox = db.outbox ++ [reminder]
  completed : ∃ outbox decisions next, db' =
    completeRequestAndCandidate held commit.plan.outcome next { db with decisions, outbox }

theorem insertReminder_ok {reminder : PolicyReminderRow} {outbox' : List PolicyReminderRow}
    (h : insertReminder reminder outbox = .ok outbox') :
    outbox' = outbox ∨ outbox' = outbox ++ [reminder] := by
  unfold insertReminder at h
  split at h
  · exact .inl (Except.ok.inj h).symm
  split at h
  · cases h
  · exact .inr (Except.ok.inj h).symm

theorem storeDecision_ok (h : storeDecision env commit held commandAccountId now ids db = .ok db') :
    Stored env commit held now ids db db' := by
  obtain ⟨revisionId, hwinning, h⟩ := bind_ok h
  obtain ⟨next, -, h⟩ := bind_ok h
  dsimp only at h
  split at h
  · cases h
  obtain ⟨outbox, houtb, h⟩ := bind_ok h
  obtain rfl := Except.ok.inj h
  refine ⟨⟨_, rfl, rfl, rfl, hwinning, rfl⟩, ?_, _, _, _, rfl⟩
  unfold outboxAfter at houtb
  split at houtb
  · obtain hsame | hnew := insertReminder_ok houtb
    · exact .inl hsame
    · exact .inr ⟨_, hnew⟩
  · exact .inl (Except.ok.inj houtb).symm

/-- The fences that an applied commit has passed. -/
structure Fenced (commit : EvaluationCommit) (held : HeldRequest) (db : PolicyDb) : Prop where
  fresh : isStale commit.snapshot held db = false
  source : sourceIsCurrent held.candidate.accountId held.candidate.sourceKind
    held.candidate.sourceId held.candidate.sourceVersion db.sources = true
  binding : ∃ found ∈ activeBindings held.candidate.accountId db,
    found.1.ownerActorId = commit.snapshot.ownerBinding.ownerActorId ∧
      accountRef found.2 = commit.snapshot.ownerBinding.commandAccount

theorem lockedBindingCommandAccount_some {accountId : Nat} {binding : OwnerBindingSnapshot}
    (h : lockedBindingCommandAccount accountId binding db = .ok (some commandAccountId)) :
    ∃ found ∈ activeBindings accountId db,
      found.1.ownerActorId = binding.ownerActorId ∧
        accountRef found.2 = binding.commandAccount := by
  unfold lockedBindingCommandAccount at h
  split at h
  next found hfnd =>
    have hmem : found ∈ (activeBindings accountId db).filter fun found =>
        found.1.ownerActorId = binding.ownerActorId &&
          accountRef found.2 = binding.commandAccount := by
      rw [hfnd]
      exact List.mem_cons_self
    obtain ⟨hmem, hcond⟩ := List.mem_filter.mp hmem
    rw [Bool.and_eq_true, decide_eq_true_eq, decide_eq_true_eq] at hcond
    exact ⟨found, hmem, hcond⟩
  · cases h
  · cases h

/-- A commit is applied behind its fences, or the request is released, or nothing happens. -/
theorem commitEvaluation_ok {result : EvaluationCommitResult}
    (h : commitEvaluation env commit now ids db = .ok (result, db')) :
    (result = .leaseLost ∧ db' = db) ∨
    (result = .snapshotStale ∧ db' = requeueStaleRequest commit.claim db) ∨
    (result = .applied ∧ ∃ held, heldRequest commit.claim now db = some held ∧
      Fenced commit held db ∧ Stored env commit held now ids db db') := by
  unfold commitEvaluation at h
  split at h
  · obtain ⟨rfl, rfl⟩ := Prod.mk.inj (Except.ok.inj h)
    exact .inl ⟨rfl, rfl⟩
  next held hheld =>
    unfold commitHeld at h
    split at h
    · obtain ⟨rfl, rfl⟩ := Prod.mk.inj (Except.ok.inj h)
      exact .inr (.inl ⟨rfl, rfl⟩)
    next hfr =>
      obtain ⟨hstale, hsrc⟩ := not_or.mp hfr
      obtain ⟨command, hbinding, h⟩ := bind_ok h
      split at h
      · obtain ⟨rfl, rfl⟩ := Prod.mk.inj (Except.ok.inj h)
        exact .inr (.inl ⟨rfl, rfl⟩)
      · split at h
        · cases hsto : storeDecision env commit held _ now ids db with
          | error error =>
            rw [hsto] at h
            cases h
          | ok stored =>
            rw [hsto] at h
            obtain ⟨rfl, rfl⟩ := Prod.mk.inj (Except.ok.inj h)
            refine .inr (.inr ⟨rfl, held, hheld, ⟨Bool.eq_false_iff.mpr hstale, ?_,
              lockedBindingCommandAccount_some hbinding⟩, storeDecision_ok hsto⟩)
            simpa using hsrc
        · obtain ⟨rfl, rfl⟩ := Prod.mk.inj (Except.ok.inj h)
          exact .inr (.inl ⟨rfl, rfl⟩)

/-! ## Every run -/

variable {world : Evaluating} {event : Event} {epoch : Nat → Nat} {events : List Event}

structure Evaluating.Inv (world : Evaluating) : Prop where
  policies : Invariant world.db
  keys : WellKeyed world.db
  requestIds : (world.db.requests.map EvaluationRequestRow.evaluationRequestId).Nodup
  candidateIds : (world.db.candidates.map CandidateRow.notificationCandidateId).Nodup
  rows : ∀ read ∈ world.rows, Tracked world.db read.1.evaluationRequestId read.2
  snapshots : ∀ read ∈ world.snapshots, Loaded world.db read.1.evaluationRequestId read.2
  /-- A lease is under a token that has been handed out, and not one that has been used up. -/
  leased : ∀ request ∈ world.db.requests, ∀ token, request.leaseToken = some token →
    token ∈ world.tokens ∧ token ∉ world.applied.map ClaimedEvaluation.leaseToken
  sole : ∀ request ∈ world.db.requests, ∀ other ∈ world.db.requests, ∀ token,
    request.leaseToken = some token → other.leaseToken = some token →
      request.evaluationRequestId = other.evaluationRequestId
  issued : ∀ claim ∈ world.applied, claim.leaseToken ∈ world.tokens
  once : (world.applied.map ClaimedEvaluation.leaseToken).Nodup
  counted : world.db.decisions.length = world.applied.length

/-- What a step of the database has to keep for the invariant. -/
structure Keeps (world : Evaluating) (db' : PolicyDb) (tokens : List String)
    (applied : List ClaimedEvaluation) : Prop where
  persists : Persists world.db db'
  policies : Invariant db'
  keys : WellKeyed db'
  requestIds : (db'.requests.map EvaluationRequestRow.evaluationRequestId).Nodup
  candidateIds : (db'.candidates.map CandidateRow.notificationCandidateId).Nodup
  leased : ∀ request ∈ db'.requests, ∀ token, request.leaseToken = some token →
    token ∈ tokens ∧ token ∉ applied.map ClaimedEvaluation.leaseToken
  sole : ∀ request ∈ db'.requests, ∀ other ∈ db'.requests, ∀ token,
    request.leaseToken = some token → other.leaseToken = some token →
      request.evaluationRequestId = other.evaluationRequestId
  issued : ∀ claim ∈ applied, claim.leaseToken ∈ tokens
  once : (applied.map ClaimedEvaluation.leaseToken).Nodup
  counted : db'.decisions.length = applied.length

theorem Evaluating.Inv.keeps (h : world.Inv) {applied : List ClaimedEvaluation}
    (hkeeps : Keeps world db' tokens applied) :
    Evaluating.Inv { world with db := db', tokens, applied } where
  policies := hkeeps.policies
  keys := hkeeps.keys
  requestIds := hkeeps.requestIds
  candidateIds := hkeeps.candidateIds
  rows := fun read hread => (h.rows read hread).persists hkeeps.persists
  snapshots := fun read hread => (h.snapshots read hread).persists hkeeps.persists
  leased := hkeeps.leased
  sole := hkeeps.sole
  issued := hkeeps.issued
  once := hkeeps.once
  counted := hkeeps.counted

/-- A statement that only updates leases: the token it gives is a new one, and it gives it to one
request. -/
theorem Evaluating.Inv.leases (h : world.Inv) {set : EvaluationRequestRow → EvaluationRequestRow}
    (hset : ∀ request, (set request).evaluationRequestId = request.evaluationRequestId ∧
      (set request).notificationCandidateId = request.notificationCandidateId)
    (hsub : ∀ token ∈ world.tokens, token ∈ tokens)
    (htok : ∀ request ∈ world.db.requests, cond request = true → ∀ token,
      (set request).leaseToken = some token → token ∈ tokens ∧ token ∉ world.tokens ∧
        ∀ other ∈ world.db.requests, cond other = true →
          request.evaluationRequestId = other.evaluationRequestId) :
    Keeps world { world.db with requests := updateWhere cond set world.db.requests } tokens
      world.applied := by
  have hsame : SameRequests world.db
      { world.db with requests := updateWhere cond set world.db.requests } := by
    have hkey : ∀ request, ((set request).evaluationRequestId,
        (set request).notificationCandidateId) =
          (request.evaluationRequestId, request.notificationCandidateId) := fun request => by
      rw [(hset request).1, (hset request).2]
    exact map_updateWhere hkey
  exact {
    persists := .of_requests ⟨rfl, rfl, rfl⟩ rfl rfl hsame
    policies := h.policies.same ⟨rfl, rfl, rfl⟩
    keys := ⟨h.keys.ids, h.keys.refs⟩
    requestIds := hsame.nodup h.requestIds
    candidateIds := h.candidateIds
    leased := by
      intro request hreq token hls
      obtain ⟨old, hold, rfl⟩ := mem_updateWhere.mp hreq
      split at hls
      next hcond =>
        obtain ⟨hmem, hnew, -⟩ := htok old hold hcond token hls
        refine ⟨hmem, fun hspent => hnew ?_⟩
        obtain ⟨claim, hcl, rfl⟩ := List.mem_map.mp hspent
        exact h.issued claim hcl
      · exact ⟨hsub token (h.leased old hold token hls).1, (h.leased old hold token hls).2⟩
    sole := by
      intro request hreq other hoth token hls hls'
      obtain ⟨old, hold, rfl⟩ := mem_updateWhere.mp hreq
      obtain ⟨old', hold', rfl⟩ := mem_updateWhere.mp hoth
      by_cases hcond : cond old = true
      · rw [if_pos hcond] at hls ⊢
        obtain ⟨-, hnew, hone⟩ := htok old hold hcond token hls
        by_cases hcond' : cond old' = true
        · rw [if_pos hcond', (hset old).1, (hset old').1]
          exact hone old' hold' hcond'
        · rw [if_neg hcond'] at hls'
          exact absurd (h.leased old' hold' token hls').1 hnew
      · rw [if_neg hcond] at hls ⊢
        by_cases hcond' : cond old' = true
        · rw [if_pos hcond'] at hls'
          obtain ⟨-, hnew, -⟩ := htok old' hold' hcond' token hls'
          exact absurd (h.leased old hold token hls).1 hnew
        · rw [if_neg hcond'] at hls' ⊢
          exact h.sole old hold old' hold' token hls hls'
    issued := fun claim hcl => hsub _ (h.issued claim hcl)
    once := h.once
    counted := h.counted }

theorem Evaluating.Inv.release (h : world.Inv) :
    Keeps world
      { world.db with requests := updateWhere cond EvaluationRequestRow.release world.db.requests }
      world.tokens world.applied := by
  refine h.leases (fun _ => ⟨rfl, rfl⟩) (fun _ hmem => hmem) ?_
  intro request _ _ token hls
  cases hls

theorem Evaluating.Inv.claimed (h : world.Inv) {workerId token : String} {leaseSecs : Int}
    {claimed : ClaimedEvaluation} (hnew : token ∉ world.tokens)
    (hcl : claimEvaluation workerId now leaseSecs token world.db = .ok (some claimed, db')) :
    Keeps world db' (token :: world.tokens) world.applied := by
  unfold claimEvaluation at hcl
  split at hcl
  · cases hcl
  split at hcl
  · cases hcl
  next row hrow =>
    obtain ⟨-, rfl⟩ := Prod.mk.inj (Except.ok.inj hcl)
    refine h.leases (fun _ => ⟨rfl, rfl⟩) (fun _ hmem => List.mem_cons_of_mem _ hmem) ?_
    intro request hreq hcond token' hls
    obtain rfl := Option.some.inj hls
    rw [Bool.and_eq_true, decide_eq_true_eq] at hcond
    refine ⟨List.mem_cons_self, hnew, fun other hoth hcond' => ?_⟩
    rw [Bool.and_eq_true, decide_eq_true_eq] at hcond'
    exact hcond.1.trans hcond'.1.symm

/-- A policy is written, or the rest of the program goes on. -/
theorem Evaluating.Inv.policy (h : world.Inv) {tx : Transaction} :
    Keeps world (policyStep env world.db tx) world.tokens world.applied := by
  have hsame : ∀ {db'}, Persists world.db db' → Invariant db' → WellKeyed db' →
      db'.requests = world.db.requests → db'.candidates = world.db.candidates →
        db'.decisions = world.db.decisions → Keeps world db' world.tokens world.applied := by
    intro db' hpers hpol hkeys hreqs hcands hdecs
    exact ⟨hpers, hpol, hkeys, hreqs ▸ h.requestIds, hcands ▸ h.candidateIds,
      hreqs ▸ h.leased, hreqs ▸ h.sole, h.issued, h.once, hdecs ▸ h.counted⟩
  have hstep : ∀ tx : Transaction, (∀ outside, tx ≠ .elsewhere outside) →
      Keeps world (NotificationPolicy.step env world.db tx) world.tokens world.applied := by
    intro tx hwrt
    have haro := step_around env world.db hwrt
    have hkeys : accountKeys (NotificationPolicy.step env world.db tx) = accountKeys world.db := by
      unfold accountKeys
      rw [haro.directory]
    exact hsame (persists_step h.policies hwrt) (h.policies.step _)
      ⟨hkeys ▸ h.keys.ids, hkeys ▸ h.keys.refs⟩ haro.requests haro.candidates
      haro.decisions
  have hrefl : Keeps world world.db world.tokens world.applied :=
    hsame (.refl _) h.policies h.keys rfl rfl rfl
  cases tx with
  | elsewhere outside =>
    show Keeps world (if Admits world.db outside then elsewhere outside world.db else world.db) _ _
    split
    next hadm =>
      have hpers := persists_elsewhere hadm
      by_cases hkept : WellKeyed outside ∧ ∀ key ∈ accountKeys world.db, key ∈ accountKeys outside
      · have haft : Invariant (elsewhere outside world.db) :=
          h.policies.same (by rw [elsewhere, if_pos hkept]; exact ⟨rfl, rfl, rfl⟩)
        simp only [elsewhere, if_pos hkept] at haft hpers ⊢
        refine ⟨hpers, haft, ⟨hkept.1.ids, hkept.1.refs⟩, hadm.requestIds,
          hadm.candidateIds, ?_, ?_, h.issued, h.once,
          hadm.decisions ▸ h.counted⟩
        · intro request hreq token hls
          obtain hold | hnone := hadm.unleased request hreq
          · exact h.leased request hold token hls
          · rw [hnone] at hls
            cases hls
        · intro request hreq other hoth token hls hls'
          obtain hold | hnone := hadm.unleased request hreq
          · obtain hold' | hnone' := hadm.unleased other hoth
            · exact h.sole request hold other hold' token hls hls'
            · rw [hnone'] at hls'
              cases hls'
          · rw [hnone] at hls
            cases hls
      · unfold elsewhere
        rw [if_neg hkept]
        exact hrefl
    · exact hrefl
  | createOrReplace request new => exact hstep (.createOrReplace request new) fun _ heq => by cases heq
  | disable request new => exact hstep (.disable request new) fun _ heq => by cases heq
  | recordFeedback request new => exact hstep (.recordFeedback request new) fun _ heq => by cases heq
  | applyEffect request new now => exact hstep (.applyEffect request new now) fun _ heq => by cases heq

/-- The claim of an applied commit is used up, and its candidate was open. -/
theorem Evaluating.Inv.stored (h : world.Inv) (hheld : heldRequest claim now world.db = some held)
    (hopen : held.candidate.candidateStatus.isOpen = true) {outcome : NotificationOutcome}
    {next : Option Int} {decisions : List DecisionRow}
    (hcnt : decisions.length = world.db.decisions.length + 1) :
    Keeps world
      (completeRequestAndCandidate held outcome next { world.db with decisions, outbox })
      world.tokens (claim :: world.applied) := by
  obtain ⟨hreq, hisHeld, hcan, -, -⟩ := heldRequest_some hheld
  obtain ⟨-, hls⟩ := isHeld_id hisHeld
  have hsame : SameRequests world.db
      (completeRequestAndCandidate held outcome next { world.db with decisions, outbox }) := by
    unfold SameRequests completeRequestAndCandidate
    exact map_updateWhere fun _ => rfl
  exact {
    persists := {
      requests := fun _ => hsame.mem
      candidates := by
        intro candidate hmem
        refine ⟨_, mem_updateWhere.mpr ⟨candidate, hmem, rfl⟩, ?_, ?_⟩
        · split <;> rfl
        · split
          next hid =>
            intro
            rw [eq_of_key_eq h.candidateIds hmem hcan (of_decide_eq_true hid)]
            exact hopen
          · exact fun hstill => hstill
      accounts := fun _ hkey => hkey
      stamps := fun _ => ⟨Nat.le_refl _, fun _ => rfl⟩ }
    policies := h.policies.same ⟨rfl, rfl, rfl⟩
    keys := ⟨h.keys.ids, h.keys.refs⟩
    requestIds := hsame.nodup h.requestIds
    candidateIds := by
      have hids : (completeRequestAndCandidate held outcome next
          { world.db with decisions, outbox }).candidates.map
            CandidateRow.notificationCandidateId =
          world.db.candidates.map CandidateRow.notificationCandidateId :=
        map_updateWhere fun _ => rfl
      rw [hids]
      exact h.candidateIds
    leased := by
      intro request hmem token htok
      obtain ⟨old, hold, rfl⟩ := mem_updateWhere.mp hmem
      split at htok
      · cases htok
      next hid =>
        obtain ⟨hissued, hspent⟩ := h.leased old hold token htok
        refine ⟨hissued, ?_⟩
        rw [List.map_cons, List.mem_cons, not_or]
        refine ⟨?_, hspent⟩
        rintro rfl
        exact hid (decide_eq_true (h.sole old hold held.request hreq _ htok hls))
    sole := by
      intro request hmem other hmem' token htok htok'
      obtain ⟨old, hold, rfl⟩ := mem_updateWhere.mp hmem
      obtain ⟨old', hold', rfl⟩ := mem_updateWhere.mp hmem'
      split at htok
      · cases htok
      next hid =>
        split at htok'
        · cases htok'
        next hid' =>
          rw [if_neg hid, if_neg hid']
          exact h.sole old hold old' hold' token htok htok'
    issued := by
      intro spent hspent
      rcases List.mem_cons.mp hspent with rfl | hspent
      · exact (h.leased held.request hreq _ hls).1
      · exact h.issued spent hspent
    once := by
      rw [List.map_cons, List.nodup_cons]
      exact ⟨(h.leased held.request hreq _ hls).2, h.once⟩
    counted := by
      rw [List.length_cons, ← h.counted]
      exact hcnt }

theorem Fenced.isOpen (h : Fenced commit held db) :
    held.candidate.candidateStatus.isOpen = true := by
  have hfr := h.fresh
  simp only [isStale, Bool.or_eq_false_iff] at hfr
  simpa using hfr.1.2

theorem Evaluating.Inv.step (h : world.Inv) : (Evaluating.step env world event).Inv := by
  cases event with
  | claim workerId now leaseSecs token =>
    show (if token ∈ world.tokens then world
      else world.claimed token (claimEvaluation workerId now leaseSecs token world.db)).Inv
    split
    · exact h
    next hnew =>
      cases hcl : claimEvaluation workerId now leaseSecs token world.db with
      | error error => exact h
      | ok result =>
        obtain ⟨_ | claimed, db'⟩ := result
        · exact h
        · exact h.keeps (h.claimed hnew hcl)
  | recover now limit => exact h.keeps h.release
  | readCandidate claim now =>
    refine { h with rows := ?_ }
    intro read hread
    cases hrow : readCandidate claim now world.db with
    | error error =>
      rw [Evaluating.step, hrow] at hread
      exact h.rows read hread
    | ok row =>
      rw [Evaluating.step, hrow] at hread
      rcases List.mem_cons.mp hread with rfl | hread
      · exact readCandidate_ok hrow
      · exact h.rows read hread
  | readHeads claim row =>
    show (if (claim, row) ∈ world.rows then _ else world).Inv
    split
    next hrow =>
      refine { h with snapshots := ?_ }
      intro read hread
      cases hsnap : readHeads row world.db with
      | error error =>
        rw [hsnap] at hread
        exact h.snapshots read hread
      | ok snapshot =>
        rw [hsnap] at hread
        rcases List.mem_cons.mp hread with rfl | hread
        · exact readHeads_ok (h.rows _ hrow) hsnap
        · exact h.snapshots read hread
    · exact h
  | commit claim snapshot evaluatedAt now ids =>
    show (if (claim, snapshot) ∈ world.snapshots then _ else world).Inv
    split
    · cases hcommit : commitEvaluation env (evaluated env claim snapshot evaluatedAt) now ids
          world.db with
      | error error => exact h
      | ok result =>
        obtain ⟨result, db'⟩ := result
        obtain ⟨rfl, rfl⟩ | ⟨rfl, rfl⟩ | ⟨rfl, held, hheld, hfenced, hstd⟩ :=
          commitEvaluation_ok hcommit
        · exact h
        · exact h.keeps h.release
        · obtain ⟨decision, hdecs, -⟩ := hstd.winning
          obtain ⟨outbox, decisions, next, rfl⟩ := hstd.completed
          refine h.keeps (h.stored hheld hfenced.isOpen ?_)
          exact (congrArg List.length hdecs).trans List.length_append
    · exact h
  | policy tx => exact h.keeps h.policy

theorem inv_run : (Evaluating.run env epoch events).Inv := by
  induction events using List.reverseRecOn with
  | nil =>
    refine ⟨⟨.nil, fun _ hmem => absurd hmem List.not_mem_nil⟩, ⟨List.nodup_nil, List.nodup_nil⟩,
      List.nodup_nil, List.nodup_nil, ?_, ?_, ?_, ?_, ?_, List.nodup_nil, rfl⟩
    all_goals
      intro _ hmem
      cases hmem
  | append_singleton events event ih =>
    rw [Evaluating.run_snoc]
    exact ih.step

end

end ServerRS.NotificationPolicy

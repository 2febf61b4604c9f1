import ServerRS.ThreadSemantics.Accepted
import ServerRS.ThreadSemantics.Runs

/-!
# A round of the use case

Models `ThreadSemanticUseCase::run_once` with the conservative extractor. Between the claim and the
commit other transactions may run; `processBatch` starts from the tables that it finds. A batch whose
events fit commits, and its cursor moves; any other batch fails, its lease is released, and the next
claim of the thread hands out the same events (`failed_rounds_claim_again`).
-/

namespace ServerRS.ThreadSemantics

open Lib Lib.Except

inductive ThreadSemanticUseCaseError where
  | semantic (error : ThreadSemanticError)
  | store (error : InboundEventStoreError)
deriving DecidableEq

structure ThreadSemanticRun where
  eventsRead : ℕ
  claimsCreated : ℕ
  decisionsCreated : ℕ
  questionsCreated : ℕ
  lifecycleChanged : Bool
deriving DecidableEq

/-- `run_once` after the claim. -/
def processBatch (ids : CandidateIds) (maxEventChars : ℕ) (now : Int)
    (batch : ClaimedThreadSemanticBatch) (db : SemanticDb) :
    SemanticDb × Except ThreadSemanticUseCaseError ThreadSemanticRun :=
  let patch := extractedPatch ids maxEventChars batch
  match validateSemanticPatch batch patch with
  | .error error =>
    (releaseSemanticClaim batch.leaseToken (ThreadSemanticError.text error) now db,
      .error (.semantic error))
  | .ok _ =>
    match commitSemanticPatch now batch patch db with
    | .error error =>
      (releaseSemanticClaim batch.leaseToken error.toText now db,
        .error (.store error))
    | .ok db => (db, .ok {
        eventsRead := batch.events.length
        claimsCreated := patch.claims.length
        decisionsCreated := patch.decisions.length
        questionsCreated := patch.questions.length
        lifecycleChanged := patch.lifecycleChange.isSome })

def SemanticDb.cursorOf (db : SemanticDb) (threadId : EventThreadId) :
    Option ThreadSemanticCursor :=
  (db.stateOf threadId).bind SemanticStateRow.cursor

/-! ## Inserts that cannot fail -/

section

variable {now : Int} {db after : SemanticDb}

theorem insertRow_of_free {α : Type} {conflicts : α → α → Bool} {rows : List α} {row : α}
    (h : rows.any (conflicts row) = false) : insertRow conflicts rows row = .ok (rows ++ [row]) := by
  rw [insertRow, h]
  rfl

variable {source : SourceEventId}

/-- One source of an id that has none. -/
theorem insertSources_singleton {ι : Type} [DecidableEq ι] {id : ι}
    {rows : List (ι × SourceEventId)} (h : ∀ row ∈ rows, row.1 ≠ id) :
    insertSources id [source] rows = .ok (rows ++ [(id, source)]) := by
  have hfree : rows.any ((· == ·) (id, source)) = false := by
    rw [List.any_eq_false]
    intro row hrow hsame
    exact h row hrow (congrArg Prod.fst (eq_of_beq hsame)).symm
  rw [insertSources, List.foldlM_cons, insertRow_of_free hfree]
  rfl

/-- The ids that a table and the table of its sources hold. -/
def SemanticDb.claimIds (db : SemanticDb) : List ThreadClaimId :=
  db.claims.map ThreadClaimRow.claimId ++ db.claimSources.map Prod.fst

def SemanticDb.decisionIds (db : SemanticDb) : List ThreadDecisionId :=
  db.decisions.map ThreadDecisionRow.decisionId ++ db.decisionSources.map Prod.fst

def SemanticDb.questionIds (db : SemanticDb) : List OpenQuestionId :=
  db.questions.map ThreadQuestionRow.questionId ++ db.questionSources.map Prod.fst

def SemanticDb.changeIds (db : SemanticDb) : List ThreadStatusChangeId :=
  db.history.map StatusHistoryRow.changeId ++ db.statusSources.map Prod.fst

/-- Neither table knows the id. -/
theorem not_mem_ids {α ι : Type} {id : ι} {rows : List α} {key : α → ι}
    {sources : List (ι × SourceEventId)} (h : id ∉ rows.map key ++ sources.map Prod.fst) :
    (∀ row ∈ rows, key row ≠ id) ∧ ∀ row ∈ sources, row.1 ≠ id := by
  constructor
  · intro row hrow hid
    exact h (List.mem_append_left _ (List.mem_map.mpr ⟨row, hrow, hid⟩))
  · intro row hrow hid
    exact h (List.mem_append_right _ (List.mem_map.mpr ⟨row, hrow, hid⟩))

theorem mem_ids_concat {α ι : Type} {id : ι} {rows : List α} {row : α} {key : α → ι}
    {sources : List (ι × SourceEventId)} (hrow : key row = id) :
    ∀ other ∈ (rows ++ [row]).map key ++ (sources ++ [(id, source)]).map Prod.fst,
      other ∈ rows.map key ++ sources.map Prod.fst ∨ other = id := by
  intro other hoth
  simp only [List.map_append, List.map_singleton, List.mem_append, List.mem_singleton, hrow] at hoth ⊢
  tauto

def ThreadClaimCandidate.row (claim : ThreadClaimCandidate) (now : Int) : ThreadClaimRow where
  claimId := claim.claimId
  threadId := claim.threadId
  claimKind := claim.kind
  claimantAccount := claim.claimant.account
  claimantActorId := claim.claimant.actorId
  statement := claim.statement
  status := .proposed
  confidenceBps := claim.confidenceBps
  createdAt := now
  updatedAt := now

theorem insertClaim_of_new {claim : ThreadClaimCandidate}
    (hsrc : claim.sourceEventIds = [source]) (h : claim.claimId ∉ db.claimIds) :
    insertClaim now db claim = .ok { db with
      claims := db.claims ++ [claim.row now]
      claimSources := db.claimSources ++ [(claim.claimId, source)] } := by
  obtain ⟨hrows, hcited⟩ := not_mem_ids h
  have hfree : db.claims.any ((fun a b => a.claimId == b.claimId) (claim.row now)) = false := by
    rw [List.any_eq_false]
    intro row hrow hsame
    exact hrows row hrow (eq_of_beq hsame).symm
  unfold insertClaim
  refine bind_eq_of_ok (insertRow_of_free hfree) ?_
  rw [hsrc]
  exact bind_eq_of_ok (insertSources_singleton hcited) rfl

theorem insertClaims_total {claims : List ThreadClaimCandidate}
    (hsrcs : ∀ claim ∈ claims, ∃ source, claim.sourceEventIds = [source])
    (hnd : (claims.map ThreadClaimCandidate.claimId).Nodup)
    (hfr : ∀ claim ∈ claims, claim.claimId ∉ db.claimIds) :
    ∃ after, claims.foldlM (insertClaim now) db = .ok after := by
  refine foldlM_fresh (fun claim hcl db hnew => ?_) hnd hfr
  obtain ⟨source, hsrc⟩ := hsrcs claim hcl
  refine ⟨_, insertClaim_of_new hsrc hnew, ?_⟩
  have hrow : (claim.row now).claimId = claim.claimId := rfl
  exact mem_ids_concat hrow

def ThreadDecisionCandidate.row (decision : ThreadDecisionCandidate) (now : Int) :
    ThreadDecisionRow where
  decisionId := decision.decisionId
  threadId := decision.threadId
  statement := decision.statement
  status := .proposed
  confidenceBps := decision.confidenceBps
  supersedesId := decision.supersedes
  createdAt := now
  updatedAt := now

theorem insertDecision_of_new {decision : ThreadDecisionCandidate}
    (hsrc : decision.sourceEventIds = [source]) (hsup : decision.supersedes = none)
    (h : decision.decisionId ∉ db.decisionIds) :
    insertDecision now db decision = .ok { db with
      decisions := db.decisions ++ [decision.row now]
      decisionSources := db.decisionSources ++ [(decision.decisionId, source)] } := by
  obtain ⟨hrows, hcited⟩ := not_mem_ids h
  have hfree : db.decisions.any (ThreadDecisionRow.conflicts (decision.row now)) = false := by
    rw [List.any_eq_false]
    intro row hrow hsame
    simp only [ThreadDecisionRow.conflicts, ThreadDecisionCandidate.row, hsup,
      Option.isSome_none, Bool.false_and, Bool.or_false] at hsame
    exact hrows row hrow (eq_of_beq hsame).symm
  unfold insertDecision
  refine bind_eq_of_ok (insertRow_of_free hfree) ?_
  rw [hsrc]
  exact bind_eq_of_ok (insertSources_singleton hcited) rfl

theorem insertDecisions_total {decisions : List ThreadDecisionCandidate}
    (hsrcs : ∀ decision ∈ decisions, ∃ source, decision.sourceEventIds = [source])
    (hsup : ∀ decision ∈ decisions, decision.supersedes = none)
    (hnd : (decisions.map ThreadDecisionCandidate.decisionId).Nodup)
    (hfr : ∀ decision ∈ decisions, decision.decisionId ∉ db.decisionIds) :
    ∃ after, decisions.foldlM (insertDecision now) db = .ok after := by
  refine foldlM_fresh (fun decision hdec db hnew => ?_) hnd hfr
  obtain ⟨source, hsrc⟩ := hsrcs decision hdec
  refine ⟨_, insertDecision_of_new hsrc (hsup decision hdec) hnew, ?_⟩
  have hrow : (decision.row now).decisionId = decision.decisionId := rfl
  exact mem_ids_concat hrow

theorem insertQuestion_of_new {question : OpenQuestionCandidate}
    (hsrc : question.sourceEventIds = [source]) (h : question.questionId ∉ db.questionIds) :
    insertQuestion now db question = .ok { db with
      questions := db.questions ++ [question.row now]
      questionSources := db.questionSources ++ [(question.questionId, source)] } := by
  obtain ⟨hrows, hcited⟩ := not_mem_ids h
  have hfree : db.questions.any ((fun a b => a.questionId == b.questionId) (question.row now)) =
      false := by
    rw [List.any_eq_false]
    intro row hrow hsame
    exact hrows row hrow (eq_of_beq hsame).symm
  unfold insertQuestion
  refine bind_eq_of_ok (insertRow_of_free hfree) ?_
  rw [hsrc]
  exact bind_eq_of_ok (insertSources_singleton hcited) rfl

theorem insertQuestions_total {questions : List OpenQuestionCandidate}
    (hsrcs : ∀ question ∈ questions, ∃ source, question.sourceEventIds = [source])
    (hnd : (questions.map OpenQuestionCandidate.questionId).Nodup)
    (hfr : ∀ question ∈ questions, question.questionId ∉ db.questionIds) :
    ∃ after, questions.foldlM (insertQuestion now) db = .ok after := by
  refine foldlM_fresh (fun question hqn db hnew => ?_) hnd hfr
  obtain ⟨source, hsrc⟩ := hsrcs question hqn
  refine ⟨_, insertQuestion_of_new hsrc hnew, ?_⟩
  have hrow : (question.row now).questionId = question.questionId := rfl
  exact mem_ids_concat hrow

def ThreadLifecycleChange.row (change : ThreadLifecycleChange) (now : Int) : StatusHistoryRow where
  changeId := change.changeId
  threadId := change.threadId
  fromStatus := change.fromStatus
  toStatus := change.toStatus
  authority := change.authority
  reason := change.reason
  createdAt := now

theorem applyChange_of_new {change : ThreadLifecycleChange}
    (hsrc : change.sourceEventIds = [source]) (hnew : change.changeId ∉ db.changeIds)
    (htgt : db.threads.countP change.isTarget = 1) :
    ∃ after, applyChange now db change = .ok after := by
  obtain ⟨hrows, hcited⟩ := not_mem_ids hnew
  have hfree : db.history.any ((fun a b => a.changeId == b.changeId) (change.row now)) = false := by
    rw [List.any_eq_false]
    intro row hrow hsame
    exact hrows row hrow (eq_of_beq hsame).symm
  unfold applyChange
  rw [hsrc]
  exact ⟨_, (if_neg (not_not.mpr htgt)).trans (bind_eq_of_ok (insertRow_of_free hfree)
    (bind_eq_of_ok (insertSources_singleton hcited) rfl))⟩

end

/-! ## The commit of an extracted patch -/

/-- The lease stands, no one moved the thread since the claim, and the ids are new. -/
structure Ready (ids : CandidateIds) (now : Int) (batch : ClaimedThreadSemanticBatch)
    (db : SemanticDb) : Prop where
  threads : (db.threads.map ThreadRow.threadId).Nodup
  states : (db.states.map SemanticStateRow.threadId).Nodup
  owned : ∃ row ∈ db.states, row.isHeld batch = true ∧ row.leaseExpiresAt.any (now ≤ ·) = true
  status : ∃ row ∈ db.threads, row.threadId = batch.threadId ∧ row.status = batch.currentStatus
  claimIds : ∀ n, ids.claimId n ∉ db.claimIds
  decisionIds : ∀ n, ids.decisionId n ∉ db.decisionIds
  questionIds : ∀ n, ids.questionId n ∉ db.questionIds
  changeId : ids.changeId ∉ db.changeIds

section

variable {ids : CandidateIds} {maxEventChars : ℕ} {now : Int} {batch : ClaimedThreadSemanticBatch}
  {db after : SemanticDb}

theorem extract_claimIds (hids : ids.Distinct) :
    ((extract ids maxEventChars batch).claims.map ThreadClaimCandidate.claimId).Nodup := by
  rw [extract_holds.claimRows]
  exact nodup_mapIdx_key hids.claims fun n draft => rfl

theorem extract_decisionIds (hids : ids.Distinct) :
    ((extract ids maxEventChars batch).decisions.map ThreadDecisionCandidate.decisionId).Nodup := by
  rw [extract_holds.decisionRows]
  exact nodup_mapIdx_key hids.decisions fun n draft => rfl

theorem extract_questionIds (hids : ids.Distinct) :
    ((extract ids maxEventChars batch).questions.map OpenQuestionCandidate.questionId).Nodup := by
  rw [extract_holds.questionRows]
  exact nodup_mapIdx_key hids.questions fun n event => rfl

theorem derived_change {change : ThreadLifecycleChange}
    (h : deriveEvidenceBasedResolution ids batch = some change) :
    change.changeId = ids.changeId ∧ change.threadId = batch.threadId ∧
      change.fromStatus = batch.currentStatus ∧ ∃ source, change.sourceEventIds = [source] := by
  unfold deriveEvidenceBasedResolution at h
  split at h
  · cases h
  obtain ⟨event, -, h⟩ := Option.bind_eq_some_iff.mp h
  split at h
  · cases h
  obtain ⟨evidence, -, rfl⟩ := Option.map_eq_some_iff.mp h
  exact ⟨rfl, rfl, rfl, event.sourceEventId, rfl⟩

theorem Ready.commits (hrdy : Ready ids now batch db) (hids : ids.Distinct)
    (hval : validateSemanticPatch batch (extractedPatch ids maxEventChars batch) = .ok ()) :
    ∃ after, commitSemanticPatch now batch (extractedPatch ids maxEventChars batch) db =
      .ok after := by
  obtain ⟨row, hrow, hheld, hunex⟩ := hrdy.owned
  have hthr : ∀ other ∈ db.states, other.isHeld batch = true → other.threadId = row.threadId :=
    fun other _ hoth => (isHeld_iff.mp hoth).1.trans (isHeld_iff.mp hheld).1.symm
  have hown : db.states.countP (fun row => row.isHeld batch &&
      row.leaseExpiresAt.any (now ≤ ·)) = 1 :=
    countP_eq_one hrdy.states hrow (Bool.and_eq_true_iff.mpr ⟨hheld, hunex⟩)
      fun other hoth h => hthr other hoth (Bool.and_eq_true_iff.mp h).1
  have hheldOnce : db.states.countP (SemanticStateRow.isHeld batch) = 1 :=
    countP_eq_one hrdy.states hrow hheld hthr
  obtain ⟨hclaimEq, hdecisionEq, hquestionEq⟩ :
      (extractedPatch ids maxEventChars batch).claims = (extract ids maxEventChars batch).claims ∧
      (extractedPatch ids maxEventChars batch).decisions =
        (extract ids maxEventChars batch).decisions ∧
      (extractedPatch ids maxEventChars batch).questions =
        (extract ids maxEventChars batch).questions := by
    rw [extractedPatch_eq]
    exact ⟨rfl, rfl, rfl⟩
  obtain ⟨claimed, hclaims⟩ :
      ∃ after, (extract ids maxEventChars batch).claims.foldlM (insertClaim now) db = .ok after := by
    refine insertClaims_total (fun claim hcl => ?_) (extract_claimIds hids) fun claim hcl => ?_
    all_goals
      rw [extract_holds.claimRows] at hcl
      obtain ⟨n, hn, rfl⟩ := List.mem_mapIdx.mp hcl
    · exact ⟨_, rfl⟩
    · exact hrdy.claimIds n
  obtain ⟨hcld, -, -⟩ := insertClaims_ok hclaims
  obtain ⟨decided, hdecs⟩ : ∃ after,
      (extract ids maxEventChars batch).decisions.foldlM (insertDecision now) claimed = .ok after := by
    refine insertDecisions_total (fun decision hdec => ?_) (fun decision hdec => ?_)
      (extract_decisionIds hids) fun decision hdec => ?_
    all_goals
      rw [extract_holds.decisionRows] at hdec
      obtain ⟨n, hn, rfl⟩ := List.mem_mapIdx.mp hdec
    · exact ⟨_, rfl⟩
    · rfl
    · rw [hcld]
      exact hrdy.decisionIds n
  obtain ⟨hdecid, -, -, -⟩ := insertDecisions_ok hdecs
  obtain ⟨asked, hqns⟩ : ∃ after,
      (extract ids maxEventChars batch).questions.foldlM (insertQuestion now) decided = .ok after := by
    refine insertQuestions_total (fun question hqn => ?_) (extract_questionIds hids)
      fun question hqn => ?_
    all_goals
      rw [extract_holds.questionRows] at hqn
      obtain ⟨n, hn, rfl⟩ := List.mem_mapIdx.mp hqn
    · exact ⟨_, rfl⟩
    · rw [hdecid, hcld]
      exact hrdy.questionIds n
  obtain ⟨hasked, -, -⟩ := insertQuestions_ok hqns
  obtain ⟨changed, hchg, hstat⟩ : ∃ after, applyLifecycle now asked
      (extractedPatch ids maxEventChars batch).lifecycleChange = .ok after ∧
        after.states = db.states := by
    cases hlif : (extractedPatch ids maxEventChars batch).lifecycleChange with
    | none => exact ⟨asked, rfl, by rw [hasked, hdecid, hcld]⟩
    | some change =>
      obtain ⟨hid, hthreadId, hsta, source, hsrc⟩ :=
        derived_change (extractedPatch_change hlif).2
      obtain ⟨thread, hmem, hsame, hcur⟩ := hrdy.status
      have htgt : db.threads.countP change.isTarget = 1 := by
        refine countP_eq_one hrdy.threads hmem ?_ fun other _ hoth => ?_
        · simp [ThreadLifecycleChange.isTarget, hthreadId, hsta, hsame, hcur]
        · simp only [ThreadLifecycleChange.isTarget, Bool.and_eq_true, decide_eq_true_iff] at hoth
          exact (hoth.1.trans hthreadId).trans hsame.symm
      have hnew : change.changeId ∉ asked.changeIds := by
        rw [hid, hasked, hdecid, hcld]
        exact hrdy.changeId
      have hthrs : asked.threads = db.threads := by rw [hasked, hdecid, hcld]
      rw [← hthrs] at htgt
      obtain ⟨after, haft⟩ := @applyChange_of_new now _ _ _ hsrc hnew htgt
      refine ⟨after, haft, ?_⟩
      rw [(applyChange_ok haft).1, hasked, hdecid, hcld]
  rw [← hstat] at hheldOnce
  unfold commitSemanticPatch
  rw [hclaimEq, hdecisionEq, hquestionEq]
  exact ⟨_, bind_eq_of_ok (mapError_eq_ok.mpr hval) ((if_neg (not_not.mpr hown)).trans
    (bind_eq_of_ok hclaims (bind_eq_of_ok hdecs (bind_eq_of_ok hqns
      (bind_eq_of_ok hchg (if_neg (not_not.mpr hheldOnce)))))))⟩

theorem Committed.cursorOf {patch : ThreadSemanticPatch} (h : Committed now batch patch db after)
    (hstat : (db.states.map SemanticStateRow.threadId).Nodup) :
    after.cursorOf batch.threadId = some batch.nextCursor := by
  obtain ⟨row, hrow, hheld⟩ := h.held
  have hmem : batch.advance now row ∈ after.states := by
    rw [h.states]
    exact mem_updateWhere.mpr ⟨row, hrow, if_pos hheld⟩
  have hkey : (after.states.map SemanticStateRow.threadId).Nodup := by
    rw [h.states, map_updateWhere]
    · exact hstat
    · exact fun row => rfl
  have hthr : (batch.advance now row).threadId = batch.threadId := (isHeld_iff.mp hheld).1
  have hfind := find?_key hkey hmem
  rw [hthr] at hfind
  rw [SemanticDb.cursorOf, SemanticDb.stateOf, hfind]
  rfl

/-! ## The claimed batch -/

variable {maxEvents maxTotalChars : ℕ} {leaseMicros claimedAt : Int} {token : String}
  {isLocked : EventThreadId → Bool} {before claimed : SemanticDb}

/-- The events of a batch are the first ones after the cursor of its thread. -/
theorem claim_events (h : claimSemanticBatch maxEvents maxTotalChars leaseMicros claimedAt token
    isLocked before = .ok (claimed, some batch)) :
    batch.events = boundedEvents maxTotalChars (firstRows ThreadEventRow.order maxEvents
      (before.pendingEvents batch.threadId (before.cursorOf batch.threadId))) ∧
      claimed = { before with
        states := takeLease batch.threadId token claimedAt (claimedAt + leaseMicros)
          before.states } := by
  rw [claimSemanticBatch] at h
  split at h
  · cases h
  dsimp only at h
  split at h
  · cases h
  cases h
  exact ⟨rfl, rfl⟩

theorem claimed_batch (hkey : (before.events.map ThreadEventRow.sourceEventId).Nodup)
    (h : claimSemanticBatch maxEvents maxTotalChars leaseMicros claimedAt token isLocked before =
      .ok (claimed, some batch)) :
    batch.eventIds.Nodup ∧ batch.events.length ≤ maxEvents := by
  have hevs := (claim_events h).1
  have hids : batch.eventIds = (firstRows ThreadEventRow.order maxEvents
      (before.pendingEvents batch.threadId (before.cursorOf batch.threadId))).map
        ThreadEventRow.sourceEventId := by
    rw [ClaimedThreadSemanticBatch.eventIds, hevs, boundedEvents_ids]
  constructor
  · have hpend := hkey.sublist ((List.filter_sublist (p := fun row =>
      row.threadId = batch.threadId && row.isAfter (before.cursorOf batch.threadId))).map
        ThreadEventRow.sourceEventId)
    rw [hids]
    refine List.Nodup.sublist ((List.take_sublist _ _).map _) ?_
    exact ((List.perm_insertionSort _ _).map _).nodup_iff.mpr hpend
  · have hlen := congrArg List.length hids
    rw [ClaimedThreadSemanticBatch.eventIds, List.length_map, List.length_map] at hlen
    rw [hlen]
    exact List.length_take_le _ _

/-! ## A failing batch comes back -/

/-- An update that changes neither the thread nor the cursor of a row. -/
theorem find_cursor {rows : List SemanticStateRow} {cond : SemanticStateRow → Bool}
    {set : SemanticStateRow → SemanticStateRow} (threadId : EventThreadId)
    (hthr : ∀ row, (set row).threadId = row.threadId)
    (hcurs : ∀ row, (set row).cursor = row.cursor) :
    ((updateWhere cond set rows).find? fun row => row.threadId = threadId).bind
        SemanticStateRow.cursor =
      (rows.find? fun row => row.threadId = threadId).bind SemanticStateRow.cursor := by
  rw [find?_updateWhere]
  · cases rows.find? fun row => row.threadId = threadId with
    | none => rfl
    | some row =>
      rw [Option.map_some, Option.bind_some, Option.bind_some]
      split
      · exact hcurs row
      · rfl
  · intro row
    rw [hthr]

theorem takeLease_cursorOf (threadId other : EventThreadId) (now expiresAt : Int) :
    SemanticDb.cursorOf { db with states := takeLease threadId token now expiresAt db.states }
      other = db.cursorOf other := by
  unfold SemanticDb.cursorOf SemanticDb.stateOf takeLease
  dsimp only
  split
  · exact find_cursor other (fun _ => rfl) fun _ => rfl
  · rw [List.find?_append]
    cases db.states.find? fun row => row.threadId = other with
    | some row => rfl
    | none =>
      rw [Option.none_or, List.find?_singleton]
      split <;> rfl

theorem release_cursorOf (token error : String) (now : Int) (threadId : EventThreadId) :
    (releaseSemanticClaim token error now db).cursorOf threadId = db.cursorOf threadId :=
  find_cursor threadId (fun _ => rfl) fun _ => rfl

def FailedRound (before after : SemanticDb) : Prop :=
  ∃ maxEvents maxTotalChars leaseMicros claimedAt token isLocked claimed batch ids maxEventChars now
      error,
    claimSemanticBatch maxEvents maxTotalChars leaseMicros claimedAt token isLocked before =
      .ok (claimed, some batch) ∧
    processBatch ids maxEventChars now batch claimed = (after, .error error)

/-- A failed round leaves the events and the cursors. -/
theorem FailedRound.keeps (h : FailedRound before after) :
    after.events = before.events ∧ ∀ threadId, after.cursorOf threadId = before.cursorOf threadId := by
  obtain ⟨_, _, _, _, _, _, claimed, batch, _, _, now, _, hcl, hfails⟩ := h
  have haft : ∃ text, after = releaseSemanticClaim batch.leaseToken text now claimed := by
    unfold processBatch at hfails
    dsimp only at hfails
    split at hfails
    · exact ⟨_, (Prod.mk.inj hfails).1.symm⟩
    · split at hfails
      · exact ⟨_, (Prod.mk.inj hfails).1.symm⟩
      · cases (Prod.mk.inj hfails).2
  obtain ⟨text, rfl⟩ := haft
  rw [(claim_events hcl).2]
  exact ⟨rfl, fun threadId => (release_cursorOf ..).trans (takeLease_cursorOf ..)⟩

theorem failed_rounds_keep (hrun : Relation.ReflTransGen FailedRound before after) :
    after.events = before.events ∧ ∀ threadId, after.cursorOf threadId = before.cursorOf threadId := by
  induction hrun with
  | refl => exact ⟨rfl, fun _ => rfl⟩
  | tail _ hround ih =>
    exact ⟨hround.keeps.1.trans ih.1, fun id => (hround.keeps.2 id).trans (ih.2 id)⟩

/-- After any number of failed rounds the next claim of a thread gets the events of the first. -/
theorem failed_rounds_claim_again (hrun : Relation.ReflTransGen FailedRound before after)
    (hcl : claimSemanticBatch maxEvents maxTotalChars leaseMicros claimedAt token isLocked before =
      .ok (claimed, some batch))
    {claimedAgainAt : Int} {tokenAgain : String} {isLockedAgain : EventThreadId → Bool}
    {claimedAgain : SemanticDb} {again : ClaimedThreadSemanticBatch}
    (hagain : claimSemanticBatch maxEvents maxTotalChars leaseMicros claimedAgainAt tokenAgain
      isLockedAgain after = .ok (claimedAgain, some again))
    (hthr : again.threadId = batch.threadId) : again.events = batch.events := by
  obtain ⟨hevs, hcurs⟩ := failed_rounds_keep hrun
  rw [(claim_events hagain).1, (claim_events hcl).1, hthr, hcurs]
  unfold SemanticDb.pendingEvents
  rw [hevs]

/-! ## When a batch commits -/

/-- Validation accepts the patch of the batch, the batch commits, and the cursor passes it. -/
def Commits (ids : CandidateIds) (maxEventChars : ℕ) (now : Int)
    (batch : ClaimedThreadSemanticBatch) (db : SemanticDb) : Prop :=
  validateSemanticPatch batch (extractedPatch ids maxEventChars batch) = .ok () ∧
    ∃ after run, processBatch ids maxEventChars now batch db = (after, .ok run) ∧
      after.cursorOf batch.threadId = some batch.nextCursor

/-- `max_events` is at most 500 (`ThreadSemanticUseCase::new`). -/
theorem extracted_batch_commits_iff (hids : ids.Distinct)
    (hkey : (before.events.map ThreadEventRow.sourceEventId).Nodup) (hmax : maxEvents ≤ 500)
    (hclaim : claimSemanticBatch maxEvents maxTotalChars leaseMicros claimedAt token isLocked before =
      .ok (claimed, some batch))
    (hready : Ready ids now batch db) :
    Commits ids maxEventChars now batch db ↔
      ∀ event ∈ batch.events, event.Fits maxEventChars := by
  obtain ⟨hnd, hlen⟩ := claimed_batch hkey hclaim
  have hfew : batch.events.length ≤ maxItemsPerKind :=
    (hlen.trans hmax).trans (by decide)
  have hval := @validate_extracted_iff ids maxEventChars batch hids hnd hfew
  constructor
  · rintro ⟨hacpt, -⟩
    exact hval.mp hacpt
  · intro hfits
    have hacpt := hval.mpr hfits
    obtain ⟨after, hcommit⟩ := hready.commits hids hacpt
    refine ⟨hacpt, after, ?_⟩
    unfold processBatch
    dsimp only
    rw [hacpt]
    dsimp only
    rw [hcommit]
    exact ⟨_, rfl, (commit_committed hcommit).cursorOf hready.states⟩

end

namespace LongQuestion

def threadId : EventThreadId := ⟨"thread-1"⟩

theorem eventId_not_blank : isBlank "event-1" = false := by decide

def eventId : SourceEventId := ⟨"event-1", eventId_not_blank⟩

def account : SourceAccountRef := ⟨.napCat, "10001"⟩

def row (text : String) : ThreadEventRow :=
  ⟨threadId, eventId, 2, account, "20002", .externalObservation, 2, text⟩

/-- An open thread with one event. -/
def before (text : String) : SemanticDb :=
  { SemanticDb.empty with threads := [⟨threadId, .«open», 0⟩], events := [row text] }

def batch (text : String) : ClaimedThreadSemanticBatch where
  leaseToken := "token-1"
  threadId := threadId
  currentStatus := .«open»
  confirmedDecisionIds := []
  openQuestionIds := []
  events := boundedEvents 50000 [row text]
  nextCursor := ⟨2, eventId⟩

def claimed (text : String) : SemanticDb :=
  { before text with states := [⟨threadId, none, some "token-1", some 63, 1, none, 3⟩] }

/-- A claim with the default limits. -/
theorem claim_ok (text : String) :
    claimSemanticBatch 50 50000 60 3 "token-1" (fun _ => false) (before text) =
      .ok (claimed text, some (batch text)) := rfl

def ids : CandidateIds where
  claimId n := ⟨String.ofList (List.replicate n 'c')⟩
  decisionId n := ⟨String.ofList (List.replicate n 'd')⟩
  questionId n := ⟨String.ofList (List.replicate n 'q')⟩
  changeId := ⟨"change-1"⟩

theorem ids_distinct : ids.Distinct := by
  have hinj : ∀ (c : Char) (n m : ℕ),
      String.ofList (List.replicate n c) = String.ofList (List.replicate m c) → n = m := by
    intro c n m h
    have hlen := congrArg String.length h
    rwa [String.length_ofList, String.length_ofList, List.length_replicate,
      List.length_replicate] at hlen
  constructor
  · exact fun n m h => hinj 'c' n m (congrArg ThreadClaimId.asStr h)
  · exact fun n m h => hinj 'd' n m (congrArg ThreadDecisionId.asStr h)
  · exact fun n m h => hinj 'q' n m (congrArg OpenQuestionId.asStr h)

theorem events_nodup (text : String) :
    ((before text).events.map ThreadEventRow.sourceEventId).Nodup :=
  List.nodup_singleton _

theorem ready (text : String) : Ready ids 4 (batch text) (claimed text) where
  threads := List.nodup_singleton _
  states := List.nodup_singleton _
  owned := ⟨_, List.mem_singleton_self _, rfl, rfl⟩
  status := ⟨_, List.mem_singleton_self _, rfl, rfl⟩
  claimIds _ := List.not_mem_nil
  decisionIds _ := List.not_mem_nil
  questionIds _ := List.not_mem_nil
  changeId := List.not_mem_nil

/-- A text that asks and fits. -/
def short : String := "什么时候？"

/-- A question mark too many. -/
def long : String := String.ofList (List.replicate 4001 '？')

theorem short_fits : ∀ event ∈ (batch short).events, event.Fits 10000 := by decide

theorem extracted_batch_commits_scripted : Commits ids 10000 4 (batch short) (claimed short) :=
  (extracted_batch_commits_iff ids_distinct (events_nodup short) (by decide) (claim_ok short)
    (ready short)).mpr short_fits

/-- The tables after a round whose lease expired before the commit. -/
def expired : SemanticDb :=
  releaseSemanticClaim "token-1" (InboundEventStoreError.toText .leaseLost) 100 (claimed short)

theorem expired_round : FailedRound (before short) expired :=
  ⟨_, _, _, _, _, _, _, _, ids, 10000, 100, .store .leaseLost, claim_ok short, rfl⟩

theorem failed_rounds_claim_again_scripted : ∃ claimedAgain again,
    claimSemanticBatch 50 50000 60 101 "token-2" (fun _ => false) expired =
      .ok (claimedAgain, some again) ∧ again.events = (batch short).events := by
  obtain ⟨claimedAgain, again, hagain, hthr⟩ : ∃ claimedAgain again,
      claimSemanticBatch 50 50000 60 101 "token-2" (fun _ => false) expired =
        .ok (claimedAgain, some again) ∧ again.threadId = threadId := ⟨_, _, rfl, rfl⟩
  exact ⟨claimedAgain, again, hagain,
    failed_rounds_claim_again (.single expired_round) (claim_ok short) hagain hthr⟩

theorem trim_long : trim long = long := by
  have hmark : Spool.isWhitespace '？' = false := by decide
  have hdrop : ∀ n, (List.replicate (n + 1) '？').dropWhile Spool.isWhitespace =
      List.replicate (n + 1) '？' := by
    intro n
    rw [List.replicate_succ, List.dropWhile_cons, hmark]
    rfl
  unfold trim long
  rw [String.toList_ofList, hdrop, List.reverse_replicate, hdrop, List.reverse_replicate]

theorem length_marks (n : ℕ) : (String.ofList (List.replicate n '？')).length = n := by
  rw [String.length_ofList, List.length_replicate]

theorem length_long : long.length = 4001 := length_marks 4001

theorem last_mark {n : ℕ} (hn : 0 < n) :
    (String.ofList (List.replicate n '？')).toList.getLast? = some '？' := by
  rw [String.toList_ofList, List.getLast?_replicate, if_neg (Nat.ne_of_gt hn)]

theorem asks_long : raisesQuestion long = true := by
  have hlast : long.toList.getLast? = some '？' := last_mark (by omega)
  rw [raisesQuestion, hlast]
  rfl

/-- With the default limits an event of 4001 question marks is read, and its batch does not
commit. -/
theorem long_question_never_commits :
    ¬∀ (ids : CandidateIds) (maxEventChars maxEvents maxTotalChars : ℕ)
      (leaseMicros claimedAt now : Int) (token : String) (before claimed : SemanticDb)
      (batch : ClaimedThreadSemanticBatch), ids.Distinct → 1 ≤ maxEventChars →
      maxEventChars ≤ 100000 → (before.events.map ThreadEventRow.sourceEventId).Nodup →
      1 ≤ maxEvents → maxEvents ≤ 500 → claimSemanticBatch maxEvents maxTotalChars leaseMicros
        claimedAt token (fun _ => false) before = .ok (claimed, some batch) →
      Ready ids now batch claimed → Commits ids maxEventChars now batch claimed := by
  intro h
  obtain ⟨hacpt, -⟩ := h ids 10000 50 50000 60 3 4 "token-1" (before long) (claimed long)
    (batch long) ids_distinct (by decide) (by decide) (events_nodup long) (by decide) (by decide)
    (claim_ok long) (ready long)
  have hevs : (batch long).events =
      [⟨eventId, ⟨account, "20002", none⟩, .externalObservation, 2, long, false⟩] := by
    have hroom : ¬50000 < long.length := by
      rw [length_long]
      decide
    unfold batch boundedEvents
    simp [row, hroom, boundedEvents]
  obtain ⟨hnd, hlen⟩ := claimed_batch (events_nodup long) (claim_ok long)
  have hfew : 50 ≤ maxItemsPerKind := by
    unfold maxItemsPerKind
    omega
  have hfits := (validate_extracted_iff ids_distinct hnd (hlen.trans hfew)).mp hacpt
  rw [hevs] at hfits
  have hshort := (hfits _ (List.mem_singleton_self _) ?_).2 ?_
  · rw [trim_long, length_long] at hshort
    omega
  · have hnemp : long.isEmpty = false := by
      rw [Bool.eq_false_iff, ne_eq, String.isEmpty_iff]
      intro hemp
      have := length_long
      rw [hemp] at this
      cases this
    unfold ThreadSemanticEvent.isRead
    simp [trim_long, length_long, hnemp]
  · dsimp only
    rw [trim_long]
    exact asks_long

end LongQuestion

end ServerRS.ThreadSemantics

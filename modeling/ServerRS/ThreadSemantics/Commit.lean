import ServerRS.ThreadSemantics.Checked

/-!
# What a commit writes

`Committed` says all that a successful commit does to the tables: it appends the candidates of
the patch with their sources, moves the status of the thread by the change of the patch, and
moves the cursor of the lease that the batch was claimed under.
-/

namespace ServerRS.ThreadSemantics

open Lib Lib.Except

variable {now : Int} {db after : SemanticDb}

theorem insertRow_ok {α : Type} {conflicts : α → α → Bool} {rows rows' : List α} {row : α}
    (h : insertRow conflicts rows row = .ok rows') :
    rows.any (conflicts row) = false ∧ rows' = rows ++ [row] := by
  rw [insertRow] at h
  split at h
  · cases h
  · next hfree =>
    cases h
    exact ⟨Bool.eq_false_iff.mpr hfree, rfl⟩

theorem insertSources_ok {ι : Type} [DecidableEq ι] {id : ι} {sources : List SourceEventId}
    {rows rows' : List (ι × SourceEventId)} (h : insertSources id sources rows = .ok rows') :
    ∀ row ∈ rows', row ∈ rows ∨ row.2 ∈ sources := by
  refine foldlM_keeps (P := fun rows' => ∀ row ∈ rows', row ∈ rows ∨ row.2 ∈ sources)
    (fun source hsrc before after hbef hstep => ?_) (fun row hrow => .inl hrow) h
  rw [(insertRow_ok hstep).2]
  intro row hrow
  rcases List.mem_append.mp hrow with hrow | hrow
  · exact hbef row hrow
  · rw [List.mem_singleton.mp hrow]
    exact .inr hsrc

/-! ## Candidates -/

theorem insertClaims_ok {claims : List ThreadClaimCandidate}
    (h : claims.foldlM (insertClaim now) db = .ok after) :
    after = { db with claims := after.claims, claimSources := after.claimSources } ∧
      (∀ row ∈ after.claims, row ∈ db.claims ∨ ∃ claim ∈ claims, row.threadId = claim.threadId) ∧
      ∀ row ∈ after.claimSources, row ∈ db.claimSources ∨
        ∃ claim ∈ claims, row.2 ∈ claim.sourceEventIds := by
  refine foldlM_keeps (P := fun after =>
    after = { db with claims := after.claims, claimSources := after.claimSources } ∧
      (∀ row ∈ after.claims, row ∈ db.claims ∨ ∃ claim ∈ claims, row.threadId = claim.threadId) ∧
      ∀ row ∈ after.claimSources, row ∈ db.claimSources ∨
        ∃ claim ∈ claims, row.2 ∈ claim.sourceEventIds)
    (fun claim hcl before after hbef hstep => ?_)
    ⟨rfl, fun row hrow => .inl hrow, fun row hrow => .inl hrow⟩ h
  obtain ⟨hsame, hrows, hsrcs⟩ := hbef
  rw [insertClaim] at hstep
  obtain ⟨rows, hins, hstep⟩ := bind_ok hstep
  obtain ⟨sources, hinsertSources, hstep⟩ := bind_ok hstep
  cases hstep
  refine ⟨by rw [hsame], fun row hrow => ?_, fun row hrow => ?_⟩
  · change row ∈ rows at hrow
    rw [(insertRow_ok hins).2, List.mem_append, List.mem_singleton] at hrow
    rcases hrow with hrow | rfl
    · exact hrows row hrow
    · exact .inr ⟨claim, hcl, rfl⟩
  · rcases insertSources_ok hinsertSources row hrow with hrow | hrow
    · exact hsrcs row hrow
    · exact .inr ⟨claim, hcl, hrow⟩

theorem insertDecisions_ok {decisions : List ThreadDecisionCandidate}
    (h : decisions.foldlM (insertDecision now) db = .ok after) :
    after = { db with decisions := after.decisions, decisionSources := after.decisionSources } ∧
      (∀ row ∈ db.decisions, row ∈ after.decisions) ∧
      (∀ row ∈ after.decisions, row ∈ db.decisions ∨ ∃ decision ∈ decisions,
        row.threadId = decision.threadId ∧ row.supersedesId = decision.supersedes) ∧
      ∀ row ∈ after.decisionSources, row ∈ db.decisionSources ∨
        ∃ decision ∈ decisions, row.2 ∈ decision.sourceEventIds := by
  refine foldlM_keeps (P := fun after =>
    after = { db with decisions := after.decisions, decisionSources := after.decisionSources } ∧
      (∀ row ∈ db.decisions, row ∈ after.decisions) ∧
      (∀ row ∈ after.decisions, row ∈ db.decisions ∨ ∃ decision ∈ decisions,
        row.threadId = decision.threadId ∧ row.supersedesId = decision.supersedes) ∧
      ∀ row ∈ after.decisionSources, row ∈ db.decisionSources ∨
        ∃ decision ∈ decisions, row.2 ∈ decision.sourceEventIds)
    (fun decision hdecis before after hbef hstep => ?_)
    ⟨rfl, fun row hrow => hrow, fun row hrow => .inl hrow, fun row hrow => .inl hrow⟩ h
  obtain ⟨hsame, hkept, hrows, hsrcs⟩ := hbef
  rw [insertDecision] at hstep
  obtain ⟨rows, hins, hstep⟩ := bind_ok hstep
  obtain ⟨sources, hinsertSources, hstep⟩ := bind_ok hstep
  cases hstep
  refine ⟨by rw [hsame], fun row hrow => ?_, fun row hrow => ?_, fun row hrow => ?_⟩
  · show row ∈ rows
    rw [(insertRow_ok hins).2]
    exact List.mem_append_left _ (hkept row hrow)
  · change row ∈ rows at hrow
    rw [(insertRow_ok hins).2, List.mem_append, List.mem_singleton] at hrow
    rcases hrow with hrow | rfl
    · exact hrows row hrow
    · exact .inr ⟨decision, hdecis, rfl, rfl⟩
  · rcases insertSources_ok hinsertSources row hrow with hrow | hrow
    · exact hsrcs row hrow
    · exact .inr ⟨decision, hdecis, hrow⟩

theorem insertQuestions_ok {questions : List OpenQuestionCandidate}
    (h : questions.foldlM (insertQuestion now) db = .ok after) :
    after = { db with questions := after.questions, questionSources := after.questionSources } ∧
      after.questions = db.questions ++ questions.map (OpenQuestionCandidate.row · now) ∧
      ∀ row ∈ after.questionSources, row ∈ db.questionSources ∨
        ∃ question ∈ questions, row.2 ∈ question.sourceEventIds := by
  induction questions generalizing db with
  | nil =>
    cases h
    exact ⟨rfl, (List.append_nil _).symm, fun row hrow => .inl hrow⟩
  | cons question questions ih =>
    rw [List.foldlM_cons] at h
    obtain ⟨next, hnext, h⟩ := bind_ok h
    obtain ⟨hsame, hrows, hsrcs⟩ := ih h
    rw [insertQuestion] at hnext
    obtain ⟨rows, hins, hnext⟩ := bind_ok hnext
    obtain ⟨sources, hinsertSources, hnext⟩ := bind_ok hnext
    cases hnext
    refine ⟨hsame, ?_, fun row hrow => ?_⟩
    · rw [hrows, (insertRow_ok hins).2, List.map_cons, List.append_assoc, List.singleton_append]
    · rcases hsrcs row hrow with hrow | ⟨other, hoth, hrow⟩
      · rcases insertSources_ok hinsertSources row hrow with hrow | hrow
        · exact .inl hrow
        · exact .inr ⟨question, List.mem_cons_self, hrow⟩
      · exact .inr ⟨other, List.mem_cons_of_mem _ hoth, hrow⟩

/-! ## The change of the status -/

def ThreadLifecycleChange.isTarget (change : ThreadLifecycleChange) (row : ThreadRow) : Bool :=
  row.threadId = change.threadId && row.status = change.fromStatus

def ThreadLifecycleChange.set (change : ThreadLifecycleChange) (now : Int) (row : ThreadRow) :
    ThreadRow :=
  { row with status := change.toStatus, updatedAt := now }

theorem applyChange_ok {change : ThreadLifecycleChange} (h : applyChange now db change = .ok after) :
    after = { db with
      threads := after.threads, history := after.history, statusSources := after.statusSources } ∧
      db.threads.countP change.isTarget = 1 ∧
      after.threads = updateWhere change.isTarget (change.set now) db.threads ∧
      ∀ row ∈ after.statusSources, row ∈ db.statusSources ∨ row.2 ∈ change.sourceEventIds := by
  rw [applyChange] at h
  split at h
  · cases h
  next hcnt =>
  obtain ⟨history, -, h⟩ := bind_ok h
  obtain ⟨sources, hsrcs, h⟩ := bind_ok h
  cases h
  exact ⟨rfl, not_not.mp hcnt, rfl, insertSources_ok hsrcs⟩

/-! ## The commit -/

def ClaimedThreadSemanticBatch.advance (batch : ClaimedThreadSemanticBatch) (now : Int)
    (row : SemanticStateRow) : SemanticStateRow :=
  { row with
    cursor := some batch.nextCursor
    leaseToken := none
    leaseExpiresAt := none
    lastError := none
    updatedAt := now }

structure Committed (now : Int) (batch : ClaimedThreadSemanticBatch) (patch : ThreadSemanticPatch)
    (db after : SemanticDb) : Prop where
  checked : Checked batch patch
  held : ∃ row ∈ db.states, row.isHeld batch = true
  states : after.states = updateWhere (SemanticStateRow.isHeld batch) (batch.advance now) db.states
  events : after.events = db.events
  invalidations : after.invalidations = db.invalidations
  reconfirmations : after.reconfirmations = db.reconfirmations
  questions : after.questions = db.questions ++ patch.questions.map (OpenQuestionCandidate.row · now)
  unchanged : patch.lifecycleChange = none → after.threads = db.threads
  changed : ∀ change, patch.lifecycleChange = some change →
    db.threads.countP change.isTarget = 1 ∧
      after.threads = updateWhere change.isTarget (change.set now) db.threads
  claimRows : ∀ row ∈ after.claims, row ∈ db.claims ∨ row.threadId = batch.threadId
  decisionsKept : ∀ row ∈ db.decisions, row ∈ after.decisions
  decisionRows : ∀ row ∈ after.decisions, row ∈ db.decisions ∨ row.threadId = batch.threadId ∧
    ∀ old, row.supersedesId = some old → old ∈ batch.confirmedDecisionIds
  claimSources : ∀ row ∈ after.claimSources, row ∈ db.claimSources ∨ row.2 ∈ batch.eventIds
  decisionSources : ∀ row ∈ after.decisionSources, row ∈ db.decisionSources ∨ row.2 ∈ batch.eventIds
  questionSources : ∀ row ∈ after.questionSources, row ∈ db.questionSources ∨ row.2 ∈ batch.eventIds
  statusSources : ∀ row ∈ after.statusSources, row ∈ db.statusSources ∨ row.2 ∈ batch.eventIds

variable {batch : ClaimedThreadSemanticBatch} {patch : ThreadSemanticPatch}

theorem commit_committed (h : commitSemanticPatch now batch patch db = .ok after) :
    Committed now batch patch db after := by
  rw [commitSemanticPatch] at h
  obtain ⟨_, hval, h⟩ := bind_ok h
  have hchk := validateSemanticPatch_checked (mapError_eq_ok.mp hval)
  split at h
  · cases h
  next hown =>
  obtain ⟨row, hrow, hheld⟩ := List.countP_pos_iff.mp
    (lt_of_lt_of_eq Nat.zero_lt_one (not_not.mp hown).symm)
  obtain ⟨claimed, hclaims, h⟩ := bind_ok h
  obtain ⟨decided, hdecs, h⟩ := bind_ok h
  obtain ⟨asked, hqns, h⟩ := bind_ok h
  obtain ⟨changed, hchg, h⟩ := bind_ok h
  obtain ⟨hcld, hclaimRows, hclaimSources⟩ := insertClaims_ok hclaims
  obtain ⟨hdec, hkept, hdecisionRows, hdecisionSources⟩ := insertDecisions_ok hdecs
  obtain ⟨hasked, hquestionRows, hquestionSources⟩ := insertQuestions_ok hqns
  have hmoved : changed = { asked with
      threads := changed.threads, history := changed.history,
      statusSources := changed.statusSources } ∧
      (patch.lifecycleChange = none → changed.threads = asked.threads) ∧
      (∀ change, patch.lifecycleChange = some change → asked.threads.countP change.isTarget = 1 ∧
        changed.threads = updateWhere change.isTarget (change.set now) asked.threads) ∧
      ∀ row ∈ changed.statusSources, row ∈ asked.statusSources ∨ row.2 ∈ batch.eventIds := by
    rw [applyLifecycle.eq_def] at hchg
    split at hchg
    · next change hsome =>
      obtain ⟨hsame, hcnt, hthrs, hsrcs⟩ := applyChange_ok hchg
      refine ⟨hsame, fun hnone => ?_, fun other hoth => ?_, fun row hrow => ?_⟩
      · rw [hnone] at hsome
        cases hsome
      · rw [hoth] at hsome
        cases hsome
        exact ⟨hcnt, hthrs⟩
      · exact (hsrcs row hrow).imp_right ((hchk.change change hsome).cites.allowed row.2)
    · next hnone =>
      cases hchg
      refine ⟨rfl, fun _ => rfl, fun other hoth => ?_, fun row hrow => .inl hrow⟩
      rw [hoth] at hnone
      cases hnone
  obtain ⟨hmovedSame, hunch, hchanged, hstatusSources⟩ := hmoved
  rw [advanceCursor] at h
  split at h
  · cases h
  cases h
  -- the tables before the last steps, in terms of the tables at the start
  have hthrs : asked.threads = db.threads := by rw [hasked, hdec, hcld]
  have hstates : changed.states = db.states := by rw [hmovedSame, hasked, hdec, hcld]
  constructor
  case checked => exact hchk
  case held => exact ⟨row, hrow, (Bool.and_eq_true_iff.mp hheld).1⟩
  case states => exact congrArg (updateWhere _ _) hstates
  case events =>
    show changed.events = db.events
    rw [hmovedSame, hasked, hdec, hcld]
  case invalidations =>
    show changed.invalidations = db.invalidations
    rw [hmovedSame, hasked, hdec, hcld]
  case reconfirmations =>
    show changed.reconfirmations = db.reconfirmations
    rw [hmovedSame, hasked, hdec, hcld]
  case questions =>
    show changed.questions = _
    rw [hmovedSame]
    show asked.questions = _
    rw [hquestionRows, hdec, hcld]
  case unchanged => exact fun hnone => (hunch hnone).trans hthrs
  case changed =>
    intro change hchg
    rw [← hthrs]
    exact hchanged change hchg
  case claimRows =>
    intro row hrow
    change row ∈ changed.claims at hrow
    rw [hmovedSame, hasked, hdec] at hrow
    rcases hclaimRows row hrow with hrow | ⟨claim, hcl, hthr⟩
    · exact .inl hrow
    · exact .inr (hthr.trans (hchk.claims claim hcl).thread)
  case decisionsKept =>
    intro row hrow
    show row ∈ changed.decisions
    rw [hmovedSame, hasked]
    exact hkept row (by rw [hcld]; exact hrow)
  case decisionRows =>
    intro row hrow
    change row ∈ changed.decisions at hrow
    rw [hmovedSame, hasked] at hrow
    rcases hdecisionRows row hrow with hrow | ⟨decision, hdecis, hthr, hsup⟩
    · rw [hcld] at hrow
      exact .inl hrow
    · obtain ⟨hcites, hconf⟩ := hchk.decisions decision hdecis
      exact .inr ⟨hthr.trans hcites.thread, fun old hold => hconf old
        (hsup.symm.trans hold)⟩
  case claimSources =>
    intro row hrow
    change row ∈ changed.claimSources at hrow
    rw [hmovedSame, hasked, hdec] at hrow
    rcases hclaimSources row hrow with hrow | ⟨claim, hcl, hcited⟩
    · exact .inl hrow
    · exact .inr ((hchk.claims claim hcl).allowed row.2 hcited)
  case decisionSources =>
    intro row hrow
    change row ∈ changed.decisionSources at hrow
    rw [hmovedSame, hasked] at hrow
    rcases hdecisionSources row hrow with hrow | ⟨decision, hdecis, hcited⟩
    · rw [hcld] at hrow
      exact .inl hrow
    · exact .inr ((hchk.decisions decision hdecis).1.allowed row.2 hcited)
  case questionSources =>
    intro row hrow
    change row ∈ changed.questionSources at hrow
    rw [hmovedSame] at hrow
    rcases hquestionSources row hrow with hrow | ⟨question, hqn, hcited⟩
    · rw [hdec, hcld] at hrow
      exact .inl hrow
    · exact .inr ((hchk.questions question hqn).allowed row.2 hcited)
  case statusSources =>
    intro row hrow
    rcases hstatusSources row hrow with hrow | hcited
    · rw [hasked, hdec, hcld] at hrow
      exact .inl hrow
    · exact .inr hcited

end ServerRS.ThreadSemantics

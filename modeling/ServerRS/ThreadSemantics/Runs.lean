import ServerRS.ThreadSemantics.Commit

/-!
# Runs

Workers claim batches and commit patches; in between, the Owner, ingestion and thread mutations
write the same tables (`mysql_thread_control.rs`, `mysql_inbound.rs`, `mysql_memory.rs`,
`mysql_thread_mutations.rs`). While the lease of a batch stands, no question of its thread
becomes open (`Sane.covered`): questions are inserted under the lease, and a reconfirmation, which
brings void questions back, deletes the row of the lease.
-/

namespace ServerRS.ThreadSemantics

open Lib

/-- The tables, and the batches that were handed out. -/
structure World where
  db : SemanticDb
  batches : List ClaimedThreadSemanticBatch

inductive Action where
  | claim (maxEvents maxTotalChars : ℕ) (leaseMicros now : Int) (token : String)
      (locked : List EventThreadId)
  | commit (now : Int) (batch : ClaimedThreadSemanticBatch) (patch : ThreadSemanticPatch)
  | release (token error : String) (now : Int)
  | addThread (threadId : EventThreadId) (now : Int)
  | setThreadStatus (threadId : EventThreadId) (status : ThreadStatus) (now : Int)
  | setEvents (events : List ThreadEventRow)
  | setDecisionStatus (ids : List ThreadDecisionId) (status : DecisionStatus) (now : Int)
  | dismissQuestions (ids : List OpenQuestionId) (now : Int)
  | invalidate (mark : SemanticMark)
  | reconfirm (mark : SemanticMark)
  | dropStates (threadIds : List EventThreadId)

/-! ## What others write -/

namespace SemanticDb

variable (db : SemanticDb)

def addThread (threadId : EventThreadId) (now : Int) : SemanticDb :=
  { db with
    threads := insertIgnore (fun a b => a.threadId == b.threadId) db.threads
      [⟨threadId, .«open», now⟩] }

def setThreadStatus (threadId : EventThreadId) (status : ThreadStatus) (now : Int) : SemanticDb :=
  { db with
    threads := updateWhere (fun row => row.threadId = threadId)
      (fun row => { row with status, updatedAt := now }) db.threads }

def setDecisionStatus (ids : List ThreadDecisionId) (status : DecisionStatus) (now : Int) :
    SemanticDb :=
  { db with
    decisions := updateWhere (fun row => row.decisionId ∈ ids)
      (fun row => { row with status, updatedAt := now }) db.decisions }

/-- Every writer of the column sets it from `open` to `dismissed`. -/
def dismissQuestions (ids : List OpenQuestionId) (now : Int) : SemanticDb :=
  { db with
    questions := updateWhere (fun row => row.status = .«open» && row.questionId ∈ ids)
      (fun row => { row with status := .dismissed, updatedAt := now }) db.questions }

def invalidate (mark : SemanticMark) : SemanticDb :=
  { db with invalidations := db.invalidations ++ [mark] }

/-- `ReconfirmThreadSemantics`, for a thread with a pending invalidation. -/
def reconfirm (mark : SemanticMark) : SemanticDb :=
  if db.invalidations.any fun invalidation =>
      invalidation.threadId = mark.threadId && !db.isReconfirmed invalidation then
    { db with
      reconfirmations := db.reconfirmations ++ [mark]
      states := db.states.filter fun row => row.threadId ≠ mark.threadId }
  else db

/-- Thread mutations, emptied threads and content rules delete the rows of the leases. -/
def dropStates (threadIds : List EventThreadId) : SemanticDb :=
  { db with states := db.states.filter fun row => row.threadId ∉ threadIds }

end SemanticDb

namespace World

/-- `Uuid::new_v4` does not draw the token of a batch that was handed out. -/
def claim (w : World) (maxEvents maxTotalChars : ℕ) (leaseMicros now : Int) (token : String)
    (locked : List EventThreadId) : World :=
  if w.batches.any fun batch => batch.leaseToken = token then w
  else
    match claimSemanticBatch maxEvents maxTotalChars leaseMicros now token (· ∈ locked) w.db with
    | .ok (db, batch) => ⟨db, w.batches ++ batch.toList⟩
    | .error _ => w

def commit (w : World) (now : Int) (batch : ClaimedThreadSemanticBatch)
    (patch : ThreadSemanticPatch) : World :=
  if batch ∈ w.batches then
    match commitSemanticPatch now batch patch w.db with
    | .ok db => { w with db }
    | .error _ => w
  else w

def step (w : World) : Action → World
  | .claim maxEvents maxTotalChars leaseMicros now token locked =>
    w.claim maxEvents maxTotalChars leaseMicros now token locked
  | .commit now batch patch => w.commit now batch patch
  | .release token error now => { w with db := releaseSemanticClaim token error now w.db }
  | .addThread threadId now => { w with db := w.db.addThread threadId now }
  | .setThreadStatus threadId status now => { w with db := w.db.setThreadStatus threadId status now }
  | .setEvents events => { w with db := { w.db with events } }
  | .setDecisionStatus ids status now => { w with db := w.db.setDecisionStatus ids status now }
  | .dismissQuestions ids now => { w with db := w.db.dismissQuestions ids now }
  | .invalidate mark => { w with db := w.db.invalidate mark }
  | .reconfirm mark => { w with db := w.db.reconfirm mark }
  | .dropStates threadIds => { w with db := w.db.dropStates threadIds }

end World

def run (log : List Action) : World := log.foldl World.step ⟨.empty, []⟩

theorem run_snoc (log : List Action) (action : Action) :
    run (log ++ [action]) = (run log).step action := by
  rw [run, List.foldl_append]
  rfl

/-! ## What a batch still knows -/

/-- The batch and the tables agree on what the batch was given, as far as it matters. -/
structure Matches (db : SemanticDb) (batch : ClaimedThreadSemanticBatch) : Prop where
  cursor : batch.nextCursor.sourceEventId ∈ batch.eventIds
  confirmed : ∀ id ∈ batch.confirmedDecisionIds, ∃ row ∈ db.decisions,
    row.decisionId = id ∧ row.threadId = batch.threadId
  covered : (∃ row ∈ db.states, row.isHeld batch = true) →
    ∀ question ∈ db.openQuestions batch.threadId, question.questionId ∈ batch.openQuestionIds

structure Sane (w : World) : Prop where
  threads : (w.db.threads.map ThreadRow.threadId).Nodup
  states : (w.db.states.map SemanticStateRow.threadId).Nodup
  batches : ∀ batch ∈ w.batches, Matches w.db batch

section

variable {db after : SemanticDb} {batch : ClaimedThreadSemanticBatch} {w : World}
  {row : SemanticStateRow} {threadId : EventThreadId} {question : ThreadQuestionRow}
  {token : String} {rows : List SemanticStateRow}

theorem isHeld_iff : row.isHeld batch = true ↔
    row.threadId = batch.threadId ∧ row.leaseToken = some batch.leaseToken := by
  simp [SemanticStateRow.isHeld]

theorem mem_openQuestions :
    question ∈ db.openQuestions threadId ↔ question ∈ db.questions ∧
      question.threadId = threadId ∧ question.status = .«open» ∧
      db.isVoid threadId question.updatedAt = false := by
  simp [SemanticDb.openQuestions, SemanticDb.isOpen, and_assoc]

/-- Decisions stay, held rows were held, and open questions were open. -/
theorem Matches.of_step (h : Matches db batch)
    (hdecs : ∀ row ∈ db.decisions, ∃ row' ∈ after.decisions,
      row'.decisionId = row.decisionId ∧ row'.threadId = row.threadId)
    (hheld : (∃ row ∈ after.states, row.isHeld batch = true) →
      (∃ row ∈ db.states, row.isHeld batch = true) ∧
        ∀ question ∈ after.openQuestions batch.threadId, ∃ old ∈ db.openQuestions batch.threadId,
          question.questionId = old.questionId) : Matches after batch where
  cursor := h.cursor
  confirmed id hid := by
    obtain ⟨row, hrow, hrowId, hthr⟩ := h.confirmed id hid
    obtain ⟨row', hrow', hid', hthr'⟩ := hdecs row hrow
    exact ⟨row', hrow', hid'.trans hrowId, hthr'.trans hthr⟩
  covered hrow question hqn := by
    obtain ⟨hbef, hopen⟩ := hheld hrow
    obtain ⟨old, hold, hid⟩ := hopen question hqn
    rw [hid]
    exact h.covered hbef old hold

/-- The tables that the match reads did not change. -/
theorem Matches.of_tables (h : Matches db batch) (hdecs : after.decisions = db.decisions)
    (hsta : after.states = db.states)
    (hopen : after.openQuestions batch.threadId = db.openQuestions batch.threadId) :
    Matches after batch :=
  h.of_step (fun row hrow => ⟨row, hdecs ▸ hrow, rfl, rfl⟩) fun hheld =>
    ⟨hsta ▸ hheld, fun question hqn => ⟨question, hopen ▸ hqn, rfl⟩⟩

/-! ## A claim -/

theorem mem_takeLease {now expiresAt : Int} (h : row ∈ takeLease threadId token now expiresAt rows) :
    row ∈ rows ∧ row.threadId ≠ threadId ∨
      row.threadId = threadId ∧ row.leaseToken = some token := by
  rw [takeLease] at h
  split at h
  · obtain ⟨old, hold, rfl⟩ := mem_updateWhere.mp h
    split
    · next hthr => exact .inr ⟨of_decide_eq_true hthr, rfl⟩
    · next hthr => exact .inl ⟨hold, by simpa using hthr⟩
  · next hnone =>
    rcases List.mem_append.mp h with h | h
    · refine .inl ⟨h, fun hthr => ?_⟩
      exact hnone (List.any_eq_true.mpr ⟨row, h, decide_eq_true hthr⟩)
    · rw [List.mem_singleton.mp h]
      exact .inr ⟨rfl, rfl⟩

theorem takeLease_nodup {now expiresAt : Int} (h : (rows.map SemanticStateRow.threadId).Nodup) :
    ((takeLease threadId token now expiresAt rows).map SemanticStateRow.threadId).Nodup := by
  rw [takeLease]
  split
  · rw [map_updateWhere]
    · exact h
    · exact fun row => rfl
  · next hnone =>
    refine nodup_map_concat h fun other hoth hthr => ?_
    exact hnone (List.any_eq_true.mpr ⟨other, hoth, decide_eq_true hthr⟩)

theorem boundedEvents_ids (remainingChars : ℕ) (rows : List ThreadEventRow) :
    (boundedEvents remainingChars rows).map ThreadSemanticEvent.sourceEventId =
      rows.map ThreadEventRow.sourceEventId := by
  induction rows generalizing remainingChars with
  | nil => rfl
  | cons row rows ih => rw [boundedEvents, List.map_cons, List.map_cons, ih]

/-- What a claim leaves, and what it hands out. -/
theorem claimSemanticBatch_ok {maxEvents maxTotalChars : ℕ} {leaseMicros now : Int}
    {isLocked : EventThreadId → Bool} {claimed : Option ClaimedThreadSemanticBatch}
    (h : claimSemanticBatch maxEvents maxTotalChars leaseMicros now token isLocked db =
      .ok (after, claimed)) :
    claimed = none ∧ after = db ∨ ∃ batch, claimed = some batch ∧ batch.leaseToken = token ∧
      after = { db with
        states := takeLease batch.threadId token now (now + leaseMicros) db.states } ∧
      Matches after batch := by
  rw [claimSemanticBatch] at h
  split at h
  · cases h
    exact .inl ⟨rfl, rfl⟩
  next thread _ _ =>
  dsimp only at h
  split at h
  · cases h
  next last hlast =>
  cases h
  refine .inr ⟨_, rfl, rfl, rfl, ?_⟩
  constructor
  case cursor =>
    show last.sourceEventId ∈ List.map _ _
    rw [boundedEvents_ids]
    exact List.mem_map_of_mem (List.mem_of_getLast? hlast)
  case confirmed =>
    intro id hid
    obtain ⟨row, hrow, rfl⟩ := List.mem_map.mp hid
    rw [(List.perm_insertionSort _ _).mem_iff, SemanticDb.confirmedDecisions, List.mem_filter] at hrow
    obtain ⟨hrow, hconf⟩ := hrow
    simp only [SemanticDb.isConfirmed, Bool.and_eq_true, decide_eq_true_eq] at hconf
    exact ⟨row, hrow, rfl, hconf.1.1⟩
  case covered =>
    intro _ question hqn
    exact List.mem_map_of_mem ((List.perm_insertionSort _ _).mem_iff.mpr hqn)

theorem Sane.claim (h : Sane w) (maxEvents maxTotalChars : ℕ) (leaseMicros now : Int)
    (token : String) (locked : List EventThreadId) :
    Sane (w.claim maxEvents maxTotalChars leaseMicros now token locked) := by
  rw [World.claim]
  split
  · exact h
  next hfr =>
  split
  · next db claimed hok =>
    rcases claimSemanticBatch_ok hok with ⟨rfl, rfl⟩ | ⟨batch, rfl, htok, rfl, hmatches⟩
    · exact ⟨h.threads, h.states, by simpa using h.batches⟩
    refine ⟨h.threads, takeLease_nodup h.states, fun other hoth => ?_⟩
    rcases List.mem_append.mp hoth with hoth | hoth
    · refine (h.batches other hoth).of_step (fun row hrow => ⟨row, hrow, rfl, rfl⟩) ?_
      rintro ⟨row, hrow, hheld⟩
      rcases mem_takeLease hrow with ⟨hrow, -⟩ | ⟨-, hnew⟩
      · exact ⟨⟨row, hrow, hheld⟩, fun question hqn => ⟨question, hqn, rfl⟩⟩
      · -- the token is new, and no batch was handed out under it
        have hsame := (isHeld_iff.mp hheld).2.symm.trans hnew
        exact absurd (List.any_eq_true.mpr ⟨other, hoth,
          decide_eq_true (Option.some.inj hsame)⟩) hfr
    · rw [Option.toList_some, List.mem_singleton] at hoth
      rw [hoth]
      exact hmatches
  · exact h

/-! ## A commit -/

theorem isVoid_congr (hinv : after.invalidations = db.invalidations)
    (hrec : after.reconfirmations = db.reconfirmations) (threadId : EventThreadId)
    (updatedAt : Int) : after.isVoid threadId updatedAt = db.isVoid threadId updatedAt := by
  simp only [SemanticDb.isVoid, SemanticDb.isReconfirmed, hinv, hrec]

variable {now : Int} {patch : ThreadSemanticPatch}

/-- The open questions after a commit: those before, and the new ones unless they are void. -/
theorem Committed.mem_openQuestions (h : Committed now batch patch db after) :
    question ∈ after.openQuestions threadId ↔ question ∈ db.openQuestions threadId ∨
      threadId = batch.threadId ∧ db.isVoid threadId now = false ∧
        ∃ candidate ∈ patch.questions, question = candidate.row now := by
  rw [ThreadSemantics.mem_openQuestions, ThreadSemantics.mem_openQuestions,
    isVoid_congr h.invalidations h.reconfirmations, h.questions, List.mem_append, List.mem_map]
  constructor
  · rintro ⟨hold | ⟨candidate, hcand, rfl⟩, hthr, hstat, hvoid⟩
    · exact .inl ⟨hold, hthr, hstat, hvoid⟩
    · exact .inr ⟨hthr.symm.trans (h.checked.questions candidate hcand).thread, hvoid,
        candidate, hcand, rfl⟩
  · rintro (⟨hold, hrest⟩ | ⟨rfl, hvoid, candidate, hcand, rfl⟩)
    · exact ⟨.inl hold, hrest⟩
    · exact ⟨.inr ⟨candidate, hcand, rfl⟩, (h.checked.questions candidate hcand).thread,
        rfl, hvoid⟩

/-- Under the keys of the tables, a batch that is still held after the commit of another one is
about another thread. -/
theorem Committed.otherHeld (h : Committed now batch patch db after)
    (hsta : (db.states.map SemanticStateRow.threadId).Nodup) {other : ClaimedThreadSemanticBatch}
    (hrow : row ∈ after.states) (hheld : row.isHeld other = true) :
    row ∈ db.states ∧ other.threadId ≠ batch.threadId := by
  obtain ⟨mine, hmine, hmineHeld⟩ := h.held
  rw [h.states] at hrow
  obtain ⟨old, hold, rfl⟩ := mem_updateWhere.mp hrow
  split at hheld
  · cases (isHeld_iff.mp hheld).2
  next hnotMine =>
  rw [if_neg hnotMine]
  refine ⟨hold, fun hthr => hnotMine ?_⟩
  have hsame : old = mine := eq_of_key_eq hsta hold hmine
    ((isHeld_iff.mp hheld).1.trans (hthr.trans (isHeld_iff.mp hmineHeld).1.symm))
  rw [hsame]
  exact hmineHeld

theorem Committed.threadIds (h : Committed now batch patch db after) :
    after.threads.map ThreadRow.threadId = db.threads.map ThreadRow.threadId := by
  cases hchg : patch.lifecycleChange with
  | none => rw [h.unchanged hchg]
  | some change =>
    rw [(h.changed change hchg).2, map_updateWhere]
    exact fun row => rfl

theorem Sane.committed (h : Sane w) (hcomm : Committed now batch patch w.db after) :
    Sane { w with db := after } where
  threads := by
    show (after.threads.map _).Nodup
    rw [hcomm.threadIds]
    exact h.threads
  states := by
    show (after.states.map _).Nodup
    rw [hcomm.states, map_updateWhere]
    · exact h.states
    · exact fun row => rfl
  batches other hoth := by
    refine (h.batches other hoth).of_step
      (fun row hrow => ⟨row, hcomm.decisionsKept row hrow, rfl, rfl⟩) ?_
    rintro ⟨row, hrow, hheld⟩
    obtain ⟨hbef, hthr⟩ := hcomm.otherHeld h.states hrow hheld
    refine ⟨⟨row, hbef, hheld⟩, fun question hqn => ?_⟩
    rcases hcomm.mem_openQuestions.mp hqn with hold | ⟨hsame, -⟩
    · exact ⟨question, hold, rfl⟩
    · exact absurd hsame hthr

theorem Sane.commit (h : Sane w) (now : Int) (batch : ClaimedThreadSemanticBatch)
    (patch : ThreadSemanticPatch) : Sane (w.commit now batch patch) := by
  rw [World.commit]
  split
  · split
    · next hok => exact h.committed (commit_committed hok)
    · exact h
  · exact h

/-! ## The others -/

theorem Sane.of_tables (h : Sane w) (hthrs : after.threads.map ThreadRow.threadId =
      w.db.threads.map ThreadRow.threadId)
    (hdecs : after.decisions = w.db.decisions) (hsta : after.states = w.db.states)
    (hopen : ∀ threadId, ∀ question ∈ after.openQuestions threadId,
      question ∈ w.db.openQuestions threadId) : Sane { w with db := after } where
  threads := by
    show (after.threads.map _).Nodup
    rw [hthrs]
    exact h.threads
  states := by
    show (after.states.map _).Nodup
    rw [hsta]
    exact h.states
  batches batch hbat := by
    refine (h.batches batch hbat).of_step (fun row hrow => ⟨row, hdecs ▸ hrow, rfl, rfl⟩)
      fun hheld => ⟨hsta ▸ hheld, fun question hqn => ?_⟩
    exact ⟨question, hopen _ question hqn, rfl⟩

theorem Sane.release (h : Sane w) (token error : String) (now : Int) :
    Sane { w with db := releaseSemanticClaim token error now w.db } where
  threads := h.threads
  states := by
    show (updateWhere _ _ _ |>.map _).Nodup
    rw [map_updateWhere]
    · exact h.states
    · exact fun row => rfl
  batches batch hbat := by
    refine (h.batches batch hbat).of_step (fun row hrow => ⟨row, hrow, rfl, rfl⟩) ?_
    rintro ⟨row, hrow, hheld⟩
    obtain ⟨old, hold, rfl⟩ := mem_updateWhere.mp hrow
    split at hheld
    · cases (isHeld_iff.mp hheld).2
    · exact ⟨⟨old, hold, hheld⟩, fun question hqn => ⟨question, hqn, rfl⟩⟩

theorem Sane.addThread (h : Sane w) (threadId : EventThreadId) (now : Int) :
    Sane { w with db := w.db.addThread threadId now } where
  threads := by
    show (insertIgnore _ w.db.threads _ |>.map _).Nodup
    cases hany : w.db.threads.any fun row => threadId == row.threadId with
    | true =>
      rw [insertIgnore_of_forall (by simpa using hany)]
      exact h.threads
    | false =>
      rw [insertIgnore_singleton hany]
      refine nodup_map_concat h.threads fun other hoth hthr => ?_
      rw [Bool.eq_false_iff] at hany
      exact hany (List.any_eq_true.mpr ⟨other, hoth, beq_iff_eq.mpr hthr.symm⟩)
  states := h.states
  batches batch hbat := (h.batches batch hbat).of_tables rfl rfl rfl

theorem Sane.setDecisionStatus (h : Sane w) (ids : List ThreadDecisionId) (status : DecisionStatus)
    (now : Int) : Sane { w with db := w.db.setDecisionStatus ids status now } where
  threads := h.threads
  states := h.states
  batches batch hbat := by
    refine (h.batches batch hbat).of_step (fun row hrow => ?_) fun hheld =>
      ⟨hheld, fun question hqn => ⟨question, hqn, rfl⟩⟩
    refine ⟨_, mem_updateWhere.mpr ⟨row, hrow, rfl⟩, ?_⟩
    split
    · exact ⟨rfl, rfl⟩
    · exact ⟨rfl, rfl⟩

theorem dismissQuestions_open (ids : List OpenQuestionId)
    (h : question ∈ (db.dismissQuestions ids now).openQuestions threadId) :
    question ∈ db.openQuestions threadId := by
  obtain ⟨hmem, hthr, hstat, hvoid⟩ := mem_openQuestions.mp h
  obtain ⟨old, hold, rfl⟩ := mem_updateWhere.mp hmem
  split at hstat
  · cases hstat
  · next hkept =>
    rw [if_neg hkept] at hthr hvoid ⊢
    exact mem_openQuestions.mpr ⟨hold, hthr, hstat, hvoid⟩

theorem invalidate_open (mark : SemanticMark)
    (h : question ∈ (db.invalidate mark).openQuestions threadId) :
    question ∈ db.openQuestions threadId := by
  obtain ⟨hmem, hthr, hstat, hvoid⟩ := mem_openQuestions.mp h
  refine mem_openQuestions.mpr ⟨hmem, hthr, hstat, ?_⟩
  rw [SemanticDb.isVoid, SemanticDb.invalidate, List.any_append, Bool.or_eq_false_iff] at hvoid
  exact hvoid.1

/-- A reconfirmation says nothing about the rows of another thread. -/
theorem reconfirm_isVoid (mark : SemanticMark) (hoth : threadId ≠ mark.threadId) (updatedAt : Int)
    (states : List SemanticStateRow) :
    SemanticDb.isVoid { db with reconfirmations := db.reconfirmations ++ [mark], states } threadId
      updatedAt = db.isVoid threadId updatedAt := by
  refine congrArg db.invalidations.any (funext fun invalidation => ?_)
  by_cases hthr : invalidation.threadId = threadId
  · have hmark : mark.threadId ≠ invalidation.threadId := fun heq =>
      hoth (hthr.symm.trans heq.symm)
    simp [SemanticDb.isReconfirmed, hmark]
  · simp [hthr]

theorem Sane.reconfirm (h : Sane w) (mark : SemanticMark) :
    Sane { w with db := w.db.reconfirm mark } := by
  rw [SemanticDb.reconfirm]
  split
  · refine ⟨h.threads, h.states.sublist (List.filter_sublist.map _), fun batch hbat => ?_⟩
    refine (h.batches batch hbat).of_step (fun row hrow => ⟨row, hrow, rfl, rfl⟩) ?_
    rintro ⟨row, hrow, hheld⟩
    obtain ⟨hrow, hthr⟩ := List.mem_filter.mp hrow
    have hoth : batch.threadId ≠ mark.threadId := by
      rw [← (isHeld_iff.mp hheld).1]
      exact of_decide_eq_true hthr
    refine ⟨⟨row, hrow, hheld⟩, fun question hqn => ⟨question, ?_, rfl⟩⟩
    obtain ⟨hmem, hmine, hstat, hvoid⟩ := mem_openQuestions.mp hqn
    rw [reconfirm_isVoid mark hoth] at hvoid
    exact mem_openQuestions.mpr ⟨hmem, hmine, hstat, hvoid⟩
  · exact h

theorem Sane.dropStates (h : Sane w) (threadIds : List EventThreadId) :
    Sane { w with db := w.db.dropStates threadIds } where
  threads := h.threads
  states := h.states.sublist (List.filter_sublist.map _)
  batches batch hbat := by
    refine (h.batches batch hbat).of_step (fun row hrow => ⟨row, hrow, rfl, rfl⟩) ?_
    rintro ⟨row, hrow, hheld⟩
    exact ⟨⟨row, (List.mem_filter.mp hrow).1, hheld⟩, fun question hqn => ⟨question, hqn, rfl⟩⟩

theorem Sane.step (h : Sane w) (action : Action) : Sane (w.step action) := by
  cases action with
  | claim maxEvents maxTotalChars leaseMicros now token locked =>
    exact h.claim maxEvents maxTotalChars leaseMicros now token locked
  | commit now batch patch => exact h.commit now batch patch
  | release token error now => exact h.release token error now
  | addThread threadId now => exact h.addThread threadId now
  | setThreadStatus threadId status now =>
    exact h.of_tables (map_updateWhere fun row => rfl) rfl rfl fun _ _ hqn => hqn
  | setEvents events => exact h.of_tables rfl rfl rfl fun _ _ hqn => hqn
  | setDecisionStatus ids status now => exact h.setDecisionStatus ids status now
  | dismissQuestions ids now =>
    exact h.of_tables rfl rfl rfl fun _ _ hqn => dismissQuestions_open ids hqn
  | invalidate mark =>
    exact h.of_tables rfl rfl rfl fun _ _ hqn => invalidate_open mark hqn
  | reconfirm mark => exact h.reconfirm mark
  | dropStates threadIds => exact h.dropStates threadIds

theorem sane_run (log : List Action) : Sane (run log) := by
  induction log using List.reverseRecOn with
  | nil => exact ⟨List.nodup_nil, List.nodup_nil, by simp [run]⟩
  | append_singleton log action ih =>
    rw [run_snoc]
    exact ih.step action

end

end ServerRS.ThreadSemantics

import ServerRS.ThreadSemantics.Runs

/-!
# Resolving and closing threads

A commit is lawful when the status moves along the table, the thread is resolved only with
evidence and closed only on a command of the Owner, neither with an open question left, and all
that is written cites the batch or what was there. Every commit of every run is lawful, but for
one kind: a patch that closes the thread and asks a question at once (`lawful_iff`). Validation
looks at the new questions when a thread is resolved, and forgets them when it is closed.
-/

namespace ServerRS.ThreadSemantics

open Lib

def Becomes (before after : SemanticDb) (threadId : EventThreadId) (status : ThreadStatus) : Prop :=
  after.statusOf threadId = some status ∧ before.statusOf threadId ≠ some status

structure Lawful (batch : ClaimedThreadSemanticBatch) (patch : ThreadSemanticPatch)
    (before after : SemanticDb) : Prop where
  others : ∀ row ∈ after.threads, row.threadId ≠ batch.threadId → row ∈ before.threads
  transition : ∀ fromStatus toStatus, before.statusOf batch.threadId = some fromStatus →
    after.statusOf batch.threadId = some toStatus → fromStatus ≠ toStatus →
      (fromStatus, toStatus) ∈ transitions
  settled : Becomes before after batch.threadId .resolved ∨
    Becomes before after batch.threadId .closed → after.openQuestions batch.threadId = []
  resolved : Becomes before after batch.threadId .resolved →
    ∃ change, patch.lifecycleChange = some change ∧ Evidenced batch change
  closed : Becomes before after batch.threadId .closed →
    ∃ change, patch.lifecycleChange = some change ∧ Commanded batch change
  claimRows : ∀ row ∈ after.claims, row ∈ before.claims ∨ row.threadId = batch.threadId
  questionRows : ∀ row ∈ after.questions, row ∈ before.questions ∨ row.threadId = batch.threadId
  decisionRows : ∀ row ∈ after.decisions, row ∈ before.decisions ∨ row.threadId = batch.threadId ∧
    ∀ id, row.supersedesId = some id → ∃ old ∈ before.decisions,
      old.decisionId = id ∧ old.threadId = batch.threadId
  claimSources : ∀ row ∈ after.claimSources, row ∈ before.claimSources ∨ row.2 ∈ batch.eventIds
  decisionSources : ∀ row ∈ after.decisionSources,
    row ∈ before.decisionSources ∨ row.2 ∈ batch.eventIds
  questionSources : ∀ row ∈ after.questionSources,
    row ∈ before.questionSources ∨ row.2 ∈ batch.eventIds
  statusSources : ∀ row ∈ after.statusSources, row ∈ before.statusSources ∨ row.2 ∈ batch.eventIds
  cursor : ∀ row ∈ after.states, row ∈ before.states ∨ row.threadId = batch.threadId ∧
    ∃ cursor, row.cursor = some cursor ∧ cursor.sourceEventId ∈ batch.eventIds

/-- The patch closes the thread and asks a question that is not void at once. -/
def ClosesOverQuestion (now : Int) (batch : ClaimedThreadSemanticBatch)
    (patch : ThreadSemanticPatch) (before : SemanticDb) : Prop :=
  patch.questions ≠ [] ∧ before.isVoid batch.threadId now = false ∧
    ∃ change, patch.lifecycleChange = some change ∧ change.toStatus = .closed ∧
      change.fromStatus ≠ .closed

section

variable {now : Int} {batch : ClaimedThreadSemanticBatch} {patch : ThreadSemanticPatch}
  {db after : SemanticDb} {w : World}

theorem statusOf_of_mem (hthrs : (db.threads.map ThreadRow.threadId).Nodup) {row : ThreadRow}
    (hrow : row ∈ db.threads) : db.statusOf row.threadId = some row.status := by
  rw [SemanticDb.statusOf]
  cases hfind : db.threads.find? fun other => other.threadId = row.threadId with
  | none => exact absurd (decide_eq_true rfl) (List.find?_eq_none.mp hfind row hrow)
  | some other =>
    have hsame : other = row := eq_of_key_eq hthrs (List.mem_of_find?_eq_some hfind) hrow
      (by simpa using List.find?_some hfind)
    rw [hsame]
    rfl

/-- The status before and after a commit with a lifecycle change. -/
theorem Committed.statusOf (h : Committed now batch patch db after)
    (hthrs : (db.threads.map ThreadRow.threadId).Nodup) {change : ThreadLifecycleChange}
    (hchg : patch.lifecycleChange = some change) :
    db.statusOf batch.threadId = some change.fromStatus ∧
      after.statusOf batch.threadId = some change.toStatus := by
  obtain ⟨hcnt, hset⟩ := h.changed change hchg
  obtain ⟨row, hrow, htgt⟩ := List.countP_pos_iff.mp
    (lt_of_lt_of_eq Nat.zero_lt_one hcnt.symm)
  have hmoved : change.set now row ∈ after.threads := by
    rw [hset]
    exact mem_updateWhere.mpr ⟨row, hrow, if_pos htgt⟩
  simp only [ThreadLifecycleChange.isTarget, Bool.and_eq_true, decide_eq_true_eq] at htgt
  have hthr : row.threadId = batch.threadId :=
    htgt.1.trans (h.checked.change change hchg).cites.thread
  constructor
  · rw [← hthr, statusOf_of_mem hthrs hrow, htgt.2]
  · have haft : (after.threads.map ThreadRow.threadId).Nodup := h.threadIds ▸ hthrs
    rw [← hthr]
    exact statusOf_of_mem haft hmoved

/-- A status that is new comes from the lifecycle change. -/
theorem Committed.becomes (h : Committed now batch patch db after)
    (hthrs : (db.threads.map ThreadRow.threadId).Nodup) {status : ThreadStatus}
    (hbec : Becomes db after batch.threadId status) :
    ∃ change, patch.lifecycleChange = some change ∧ change.toStatus = status ∧
      change.fromStatus ≠ status := by
  cases hchg : patch.lifecycleChange with
  | none =>
    have hsame : after.statusOf batch.threadId = db.statusOf batch.threadId := by
      rw [SemanticDb.statusOf, h.unchanged hchg, SemanticDb.statusOf]
    exact absurd (hsame.symm.trans hbec.1) hbec.2
  | some change =>
    obtain ⟨hfrom, hto⟩ := h.statusOf hthrs hchg
    refine ⟨change, rfl, Option.some.inj (hto.symm.trans hbec.1), fun hsame => ?_⟩
    exact hbec.2 (hfrom.trans (congrArg some hsame))

theorem Committed.others (h : Committed now batch patch db after) {row : ThreadRow}
    (hrow : row ∈ after.threads) (hoth : row.threadId ≠ batch.threadId) : row ∈ db.threads := by
  cases hchg : patch.lifecycleChange with
  | none => exact h.unchanged hchg ▸ hrow
  | some change =>
    rw [(h.changed change hchg).2] at hrow
    obtain ⟨old, hold, rfl⟩ := mem_updateWhere.mp hrow
    split at hoth
    · next htgt =>
      simp only [ThreadLifecycleChange.isTarget, Bool.and_eq_true, decide_eq_true_eq] at htgt
      exact absurd (htgt.1.trans (h.checked.change change hchg).cites.thread) hoth
    · next htgt =>
      rw [if_neg htgt]
      exact hold

/-- The questions that were open are the ones the batch was given, so none of them when the
change passed. -/
theorem Committed.noneOpen (h : Committed now batch patch w.db after) (hsane : Sane w)
    (hbat : batch ∈ w.batches) (hnone : batch.openQuestionIds = []) :
    w.db.openQuestions batch.threadId = [] := by
  rw [List.eq_nil_iff_forall_not_mem]
  intro question hqn
  have hkn := (hsane.batches batch hbat).covered h.held question hqn
  rw [hnone] at hkn
  cases hkn

theorem Committed.settled (h : Committed now batch patch w.db after) (hsane : Sane w)
    (hbat : batch ∈ w.batches) (hclos : ¬ClosesOverQuestion now batch patch w.db)
    (hbec : Becomes w.db after batch.threadId .resolved ∨
      Becomes w.db after batch.threadId .closed) : after.openQuestions batch.threadId = [] := by
  rw [List.eq_nil_iff_forall_not_mem]
  intro question hqn
  rcases hbec with hbec | hbec
  · obtain ⟨change, hchg, hto, -⟩ := h.becomes hsane.threads hbec
    obtain ⟨hnone, hqns, -⟩ := (h.checked.change change hchg).resolved hto
    rcases h.mem_openQuestions.mp hqn with hold | ⟨-, -, candidate, hcand, -⟩
    · rw [h.noneOpen hsane hbat hnone] at hold
      cases hold
    · rw [hqns] at hcand
      cases hcand
  · obtain ⟨change, hchg, hto, hfrom⟩ := h.becomes hsane.threads hbec
    obtain ⟨hnone, -⟩ := (h.checked.change change hchg).closed hto
    rcases h.mem_openQuestions.mp hqn with hold | ⟨-, hvoid, candidate, hcand, -⟩
    · rw [h.noneOpen hsane hbat hnone] at hold
      cases hold
    · exact hclos ⟨List.ne_nil_of_mem hcand, hvoid, change, hchg, hto, hfrom⟩

theorem Committed.lawful (h : Committed now batch patch w.db after) (hsane : Sane w)
    (hbat : batch ∈ w.batches) (hclos : ¬ClosesOverQuestion now batch patch w.db) :
    Lawful batch patch w.db after where
  others row hrow hoth := h.others hrow hoth
  transition fromStatus toStatus hfrom hto hne := by
    have hbec : Becomes w.db after batch.threadId toStatus :=
      ⟨hto, fun hsame => hne (Option.some.inj (hfrom.symm.trans hsame))⟩
    obtain ⟨change, hchg, rfl, -⟩ := h.becomes hsane.threads hbec
    have hsame := Option.some.inj (hfrom.symm.trans (h.statusOf hsane.threads hchg).1)
    rw [hsame] at hne ⊢
    exact (h.checked.change change hchg).transition hne
  settled := h.settled hsane hbat hclos
  resolved hbec := by
    obtain ⟨change, hchg, hto, -⟩ := h.becomes hsane.threads hbec
    exact ⟨change, hchg, ((h.checked.change change hchg).resolved hto).2.2⟩
  closed hbec := by
    obtain ⟨change, hchg, hto, -⟩ := h.becomes hsane.threads hbec
    exact ⟨change, hchg, ((h.checked.change change hchg).closed hto).2⟩
  claimRows := h.claimRows
  questionRows row hrow := by
    rw [h.questions, List.mem_append, List.mem_map] at hrow
    rcases hrow with hrow | ⟨candidate, hcand, rfl⟩
    · exact .inl hrow
    · exact .inr (h.checked.questions candidate hcand).thread
  decisionRows row hrow := by
    rcases h.decisionRows row hrow with hrow | ⟨hthr, hsup⟩
    · exact .inl hrow
    · exact .inr ⟨hthr, fun id hid =>
        (hsane.batches batch hbat).confirmed id (hsup id hid)⟩
  claimSources := h.claimSources
  decisionSources := h.decisionSources
  questionSources := h.questionSources
  statusSources := h.statusSources
  cursor row hrow := by
    rw [h.states] at hrow
    obtain ⟨old, hold, rfl⟩ := mem_updateWhere.mp hrow
    split
    · next hheld =>
      exact .inr ⟨(isHeld_iff.mp hheld).1, batch.nextCursor, rfl, (hsane.batches batch hbat).cursor⟩
    · exact .inl hold

/-- A thread that is closed over a new question keeps the question open. -/
theorem Committed.not_lawful (h : Committed now batch patch db after)
    (hthrs : (db.threads.map ThreadRow.threadId).Nodup)
    (hclos : ClosesOverQuestion now batch patch db) : ¬Lawful batch patch db after := by
  intro hlawf
  obtain ⟨hqns, hvoid, change, hchg, hto, hfrom⟩ := hclos
  obtain ⟨hstat, hstatusAfter⟩ := h.statusOf hthrs hchg
  have hbec : Becomes db after batch.threadId .closed :=
    ⟨hto ▸ hstatusAfter, fun hsame => hfrom (Option.some.inj (hstat.symm.trans hsame))⟩
  obtain ⟨candidate, hcand⟩ := List.exists_mem_of_ne_nil _ hqns
  have hopen : candidate.row now ∈ after.openQuestions batch.threadId :=
    h.mem_openQuestions.mpr (.inr ⟨rfl, hvoid, candidate, hcand, rfl⟩)
  rw [hlawf.settled (.inr hbec)] at hopen
  cases hopen

end

/-- In every run, a batch that was handed out commits lawfully, whatever the patch, exactly when
the patch does not close the thread while it asks a question. -/
theorem lawful_iff (log : List Action) {now : Int} {batch : ClaimedThreadSemanticBatch}
    {patch : ThreadSemanticPatch} {after : SemanticDb} (hbatch : batch ∈ (run log).batches)
    (hok : commitSemanticPatch now batch patch (run log).db = .ok after) :
    Lawful batch patch (run log).db after ↔ ¬ClosesOverQuestion now batch patch (run log).db := by
  have hcomm := commit_committed hok
  constructor
  · intro hlawf hclos
    exact hcomm.not_lawful (sane_run log).threads hclos hlawf
  · exact hcomm.lawful (sane_run log) hbatch

/-! ## The Owner closes a thread with a question -/

namespace Scripted

def threadId : EventThreadId := ⟨"thread-1"⟩

def commandId : SourceEventId := ⟨"event-1", by decide⟩

def account : SourceAccountRef := ⟨.napCat, "10001"⟩

/-- A resolved thread, in which the Owner says to close it and asks something. -/
def log : List Action :=
  [.addThread threadId 0, .setThreadStatus threadId .resolved 1,
    .setEvents [⟨threadId, commandId, 2, account, "10001", .ownerCommand, 2, "close it, or not?"⟩],
    .claim 10 1000 60 3 "token-1" []]

def batch : ClaimedThreadSemanticBatch where
  leaseToken := "token-1"
  threadId := threadId
  currentStatus := .resolved
  confirmedDecisionIds := []
  openQuestionIds := []
  events := [⟨commandId, ⟨account, "10001", none⟩, .ownerCommand, 2, "close it, or not?", false⟩]
  nextCursor := ⟨2, commandId⟩

def patch : ThreadSemanticPatch where
  claims := []
  decisions := []
  questions := [⟨⟨"question-1"⟩, threadId, "close it, or not?", ⟨account, "10001", none⟩, 9000,
    [commandId]⟩]
  lifecycleChange := some ⟨⟨"change-1"⟩, threadId, .resolved, .closed, .ownerConfirmed, none,
    "the Owner says so", [commandId]⟩

/-- The tables after the commit. -/
def after : SemanticDb := ((run log).commit 4 batch patch).db

theorem batch_mem : batch ∈ (run log).batches := by decide

theorem commit_ok : commitSemanticPatch 4 batch patch (run log).db = .ok after := by
  have hok : (commitSemanticPatch 4 batch patch (run log).db).isOk = true := by decide
  rw [after, World.commit, if_pos batch_mem]
  cases h : commitSemanticPatch 4 batch patch (run log).db with
  | error e =>
    rw [h] at hok
    cases hok
  | ok db => rfl

theorem closed_over_question :
    ¬∀ log now batch patch after, batch ∈ (run log).batches →
      commitSemanticPatch now batch patch (run log).db = .ok after →
        Lawful batch patch (run log).db after := by
  intro h
  have hlawf := h log 4 batch patch after batch_mem commit_ok
  have hopen : after.openQuestions threadId ≠ [] := by decide
  have hcls : after.statusOf threadId = some .closed ∧
      (run log).db.statusOf threadId ≠ some .closed := by decide
  exact hopen (hlawf.settled (.inr hcls))

theorem lawful_iff_scripted : Lawful batch patch (run log).db after ↔
    ¬ClosesOverQuestion 4 batch patch (run log).db :=
  lawful_iff log batch_mem commit_ok

end Scripted

end ServerRS.ThreadSemantics
